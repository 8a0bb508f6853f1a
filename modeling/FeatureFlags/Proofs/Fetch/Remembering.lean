import FeatureFlags.Fetch.Features
import FeatureFlags.Proofs.Fetch.Recency

/-!
# What a cache of tags remembers

`TagCache.tag?` is what a cache remembers of a URL.  Reading a tag leaves it as it is,
and so does making a request.  Putting a tag sets the memory of its URL and may clear
that of one other URL, the one `TagCache.displaced?` names: the URL used least recently,
if there is no room for one more.
-/

namespace FeatureFlags

/-- The tag that a request offers to the server. -/
def Request.validator (request : Request) : Option String :=
  Dictionary.get? request.headers "If-None-Match"

namespace TagCache

/-- The URL whose tag has to go when a tag is put. -/
def displaced? (cache : TagCache) (url : String) (tag : Option String) : Option String :=
  if tag.isNone || cache.maxSize = 0 || cache.contains url || cache.size < cache.maxSize then none
  else (oldest? cache.entries).map (·.1)

section Memory

variable (cache : TagCache) (url other tag : String)

theorem tag?_store :
    (cache.store url tag).tag? other = if url = other then some tag else cache.tag? other := by
  rw [TagCache.tag?, store, Dictionary.get?_insert]
  split <;> rfl

theorem tag?_remove :
    (cache.remove url).2.tag? other = if url = other then none else cache.tag? other := by
  rw [TagCache.tag?, remove, Dictionary.get?_erase]
  split <;> rfl

/-- Reading a tag refreshes its entry and leaves the memory as it is. -/
theorem tag?_get : (cache.get url).2.tag? other = cache.tag? other := by
  unfold get
  split
  · rename_i tag htag
    rw [tag?_store]
    split
    · rename_i heq
      rw [← heq, htag]
    · rfl
  · rfl

theorem get_fst : (cache.get url).1 = cache.tag? url := by
  unfold get
  split
  · rename_i tag htag
    exact htag.symm
  · rename_i htag
    exact htag.symm

theorem tag?_makeRoom :
    cache.makeRoom.tag? other =
      if cache.maxSize ≤ cache.size ∧ (oldest? cache.entries).map (·.1) = some other then none
      else cache.tag? other := by
  unfold makeRoom
  by_cases hfull : cache.maxSize ≤ cache.size
  · rw [if_pos hfull]
    cases oldest? cache.entries with
    | none => simp
    | some entry =>
        simp only [TagCache.tag?, Dictionary.get?_erase, Option.map_some, Option.some.injEq,
          hfull, true_and]
        split <;> rfl
  · simp only [hfull, false_and, if_false]

end Memory

/-- **What putting a tag does to the memory.**  The tag is remembered for its URL, and at
most one other tag is forgotten. -/
theorem tag?_put {cache : TagCache} (hmaxSize : cache.maxSize ≠ 0) (url : String)
    (tag : Option String) (other : String) :
    (cache.put url tag).tag? other =
      if url = other then tag
      else if cache.displaced? url tag = some other then none
      else cache.tag? other := by
  unfold displaced?
  cases tag with
  | none =>
      rw [put, tag?_remove]
      simp
  | some tag =>
      rw [put, if_neg hmaxSize]
      cases hthere : cache.contains url with
      | true =>
          rw [if_pos rfl, tag?_store]
          simp
      | false =>
          simp only [Bool.false_eq_true, if_false, tag?_store, tag?_makeRoom, Option.isNone_some,
            Bool.false_or, Bool.or_false, decide_eq_false hmaxSize]
          split
          · rfl
          · -- a new URL displaces the oldest entry only if there was no room left
            by_cases hfull : cache.maxSize ≤ cache.size
            · simp only [hfull, Nat.not_lt_of_le hfull, true_and, decide_false,
                Bool.false_eq_true, if_false]
            · simp only [hfull, Nat.lt_of_not_le hfull, false_and, decide_true, if_true, if_false,
                reduceCtorEq]

/-- Without capacity nothing comes to be remembered. -/
theorem tag?_put_of_maxSize_eq_zero {cache : TagCache} (hmaxSize : cache.maxSize = 0)
    (hnothing : ∀ other, cache.tag? other = none) (url : String) (tag : Option String)
    (other : String) : (cache.put url tag).tag? other = none := by
  cases tag with
  | none =>
      rw [put, tag?_remove, hnothing, ite_self]
  | some tag =>
      rw [put, if_pos hmaxSize, hnothing]

theorem maxSize_remember (cache : TagCache) (url : Url) (tag : Option String) :
    (cache.remember url tag).maxSize = cache.maxSize := by
  unfold remember
  split
  · exact (cache.perform_frame (.put url.text tag)).1
  · rfl

/-! ## Requests -/

theorem requestFor_of_cacheable {cache : TagCache} {url : Url}
    (hcacheable : FetchOutcome.isCacheable url.write = true) :
    (cache.requestFor url).1.validator = cache.tag? url.text ∧
      (cache.requestFor url).2 = (cache.get url.text).2 := by
  have htag := cache.get_fst url.text
  unfold requestFor
  rw [if_pos hcacheable]
  split
  · rename_i tag next hget
    rw [hget] at htag ⊢
    refine ⟨?_, rfl⟩
    rw [Request.validator, Dictionary.get?_insert, if_pos rfl]
    exact htag
  · rename_i next hget
    rw [hget] at htag ⊢
    exact ⟨htag, rfl⟩

/-- A request offers the tag that is remembered for its URL, if any tags of the URL are. -/
theorem validator_requestFor (cache : TagCache) (url : Url) :
    (cache.requestFor url).1.validator =
      if FetchOutcome.isCacheable url.write then cache.tag? url.text else none := by
  split
  · rename_i hcacheable
    exact (requestFor_of_cacheable hcacheable).1
  · rename_i hcacheable
    rw [requestFor, if_neg hcacheable]
    rfl

theorem tag?_requestFor (cache : TagCache) (url : Url) (other : String) :
    (cache.requestFor url).2.tag? other = cache.tag? other := by
  by_cases hcacheable : FetchOutcome.isCacheable url.write = true
  · rw [(requestFor_of_cacheable hcacheable).2, tag?_get]
  · rw [requestFor, if_neg hcacheable]

theorem maxSize_requestFor (cache : TagCache) (url : Url) :
    (cache.requestFor url).2.maxSize = cache.maxSize := by
  by_cases hcacheable : FetchOutcome.isCacheable url.write = true
  · rw [(requestFor_of_cacheable hcacheable).2]
    exact (cache.perform_frame (.get url.text)).1
  · rw [requestFor, if_neg hcacheable]

end TagCache

end FeatureFlags
