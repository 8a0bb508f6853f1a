import FeatureFlags.Fetch.TagCache
import FeatureFlags.Proofs.Dictionary.Sorted

/-!
# A cache of tags is a list in the order of use

The cache finds the entry to drop by comparing counts of accesses.  What that means is
said here by a second, plainer implementation without counts: a `RecencyList` keeps its
tags in the order of their last use, moves a tag that is used to the front, and drops
the last one when there is no room.

The two are tied together by a *ranking* of the cache: its entries, arranged by falling
counts (`TagCache.IsRanking`).  An access gives its entry a count above all others and
thereby puts it first, and the least count is that of the last entry
(`IsRanking.oldest?_eq`).  So every operation on the cache has the effect on a ranking
that it has on a list (`IsRanking.perform`), and no sequence of operations can tell the
cache from the list (`answers_eq_of_recency`).
-/

namespace FeatureFlags

open Dictionary (Sorted erase get? keys mapValues)

/-! ## Operations -/

/-- What can be asked of remembered tags. -/
inductive TagOperation
  | get (url : String)
  | put (url : String) (tag : Option String)
  | remove (url : String)
  | contains (url : String)
  | clear
  | size
deriving DecidableEq, Repr

/-- What such an operation returns. -/
inductive TagAnswer
  | nothing
  | tag (found : Option String)
  | isThere (answer : Bool)
  | count (number : Nat)
deriving DecidableEq, Repr

/-- Performs operations in order and collects what they return. -/
def TagOperation.runAll {State : Type} (perform : State → TagOperation → TagAnswer × State)
    (state : State) : List TagOperation → List TagAnswer × State
  | [] => ([], state)
  | operation :: rest =>
    let (answer, next) := perform state operation
    let (answers, last) := runAll perform next rest
    (answer :: answers, last)

def TagCache.perform (cache : TagCache) : TagOperation → TagAnswer × TagCache
  | .get url => (.tag (cache.get url).1, (cache.get url).2)
  | .put url tag => (.nothing, cache.put url tag)
  | .remove url => (.tag (cache.remove url).1, (cache.remove url).2)
  | .contains url => (.isThere (cache.contains url), cache)
  | .clear => (.nothing, cache.clear)
  | .size => (.count cache.size, cache)

/-! ## The list -/

/-- Tags under their URLs, the one that was used last at the front. -/
structure RecencyList where
  maxSize : Nat
  tags : Dictionary String := []
deriving DecidableEq, Repr

namespace RecencyList

def tag? (list : RecencyList) (url : String) : Option String := Dictionary.get? list.tags url

/-- Puts a tag at the front, in place of an earlier one of its URL. -/
def moveToFront (list : RecencyList) (url tag : String) : RecencyList :=
  { list with tags := (url, tag) :: erase url list.tags }

def get (list : RecencyList) (url : String) : Option String × RecencyList :=
  match list.tag? url with
  | some tag => (some tag, list.moveToFront url tag)
  | none => (none, list)

def remove (list : RecencyList) (url : String) : Option String × RecencyList :=
  (list.tag? url, { list with tags := erase url list.tags })

/-- Drops the last tag if the list is full. -/
def makeRoom (list : RecencyList) : RecencyList :=
  if list.tags.length < list.maxSize then list else { list with tags := list.tags.dropLast }

def put (list : RecencyList) (url : String) : Option String → RecencyList
  | none => (list.remove url).2
  | some tag =>
    if list.maxSize = 0 then list
    else if (list.tag? url).isSome then list.moveToFront url tag
    else list.makeRoom.moveToFront url tag

def perform (list : RecencyList) : TagOperation → TagAnswer × RecencyList
  | .get url => (.tag (list.get url).1, (list.get url).2)
  | .put url tag => (.nothing, list.put url tag)
  | .remove url => (.tag (list.remove url).1, (list.remove url).2)
  | .contains url => (.isThere (list.tag? url).isSome, list)
  | .clear => (.nothing, { list with tags := [] })
  | .size => (.count list.tags.length, list)

end RecencyList

/-! ## Rankings -/

namespace TagCache

/-- The entries of a cache in the order of their last use, the last one used first. -/
structure IsRanking (cache : TagCache) (ranked : Dictionary TagEntry) : Prop where
  sorted : Sorted cache.entries
  perm : ranked.Perm cache.entries
  recency : ranked.Pairwise fun newer older => older.2.lastUsed < newer.2.lastUsed
  lastUsed_le : ∀ entry ∈ ranked, entry.2.lastUsed ≤ cache.accesses
  length_le : ranked.length ≤ cache.maxSize

/-- The list that a ranking amounts to. -/
def listOf (cache : TagCache) (ranked : Dictionary TagEntry) : RecencyList :=
  ⟨cache.maxSize, mapValues (·.tag) ranked⟩

theorem contains_eq (cache : TagCache) (url : String) :
    cache.contains url = (cache.tag? url).isSome := by
  rw [contains, Dictionary.contains, tag?, Option.isSome_map]

theorem isRanking_nil {cache : TagCache} (hempty : cache.entries = []) : cache.IsRanking [] where
  sorted := hempty ▸ Dictionary.sorted_nil
  perm := hempty ▸ List.Perm.refl _
  recency := List.Pairwise.nil
  lastUsed_le := nofun
  length_le := Nat.zero_le _

/-- Of the first two entries, the one of lesser count stays in the search. -/
theorem oldest?_cons_cons (first second : String × TagEntry) (rest : Dictionary TagEntry) :
    ∃ lesser, (lesser = first ∨ lesser = second) ∧
      lesser.2.lastUsed ≤ first.2.lastUsed ∧ lesser.2.lastUsed ≤ second.2.lastUsed ∧
      oldest? (first :: second :: rest) = oldest? (lesser :: rest) := by
  unfold oldest?
  simp only [List.foldl_cons]
  by_cases hless : second.2.lastUsed < first.2.lastUsed
  · rw [if_pos hless]
    exact ⟨second, Or.inr rfl, Nat.le_of_lt hless, Nat.le_refl _, rfl⟩
  · rw [if_neg hless]
    exact ⟨first, Or.inl rfl, Nat.le_refl _, Nat.le_of_not_lt hless, rfl⟩

/-- The entry to drop is one of least count. -/
theorem oldest?_spec (first : String × TagEntry) (rest : Dictionary TagEntry) :
    ∃ oldest, oldest? (first :: rest) = some oldest ∧ oldest ∈ first :: rest ∧
      ∀ entry ∈ first :: rest, oldest.2.lastUsed ≤ entry.2.lastUsed := by
  induction rest generalizing first with
  | nil =>
      refine ⟨first, rfl, List.mem_singleton_self first, fun entry hentry => ?_⟩
      obtain rfl := List.mem_singleton.mp hentry
      exact Nat.le_refl _
  | cons second rest ih =>
      -- the search goes on with the earlier of the first two, so the rest has one entry less
      obtain ⟨lesser, hlesser, hfirst, hsecond, hsearch⟩ := oldest?_cons_cons first second rest
      obtain ⟨oldest, hfound, hmem, hleast⟩ := ih lesser
      have hhead := hleast lesser (List.mem_cons_self ..)
      refine ⟨oldest, hsearch.trans hfound, ?_, fun entry hentry => ?_⟩
      · rcases List.mem_cons.mp hmem with rfl | hmem
        · rcases hlesser with rfl | rfl
          · exact List.mem_cons_self ..
          · exact List.mem_cons_of_mem _ (List.mem_cons_self ..)
        · exact List.mem_cons_of_mem _ (List.mem_cons_of_mem _ hmem)
      · simp only [List.mem_cons] at hentry
        rcases hentry with rfl | rfl | hentry
        · exact Nat.le_trans hhead hfirst
        · exact Nat.le_trans hhead hsecond
        · exact hleast entry (List.mem_cons_of_mem _ hentry)

namespace IsRanking

variable {cache : TagCache} {ranked : Dictionary TagEntry}

theorem nodup_keys (h : cache.IsRanking ranked) : (keys ranked).Nodup :=
  (h.perm.map Prod.fst).nodup_iff.mpr h.sorted.nodup_keys

theorem size_eq (h : cache.IsRanking ranked) : cache.size = ranked.length :=
  h.perm.length_eq.symm

theorem get?_eq (h : cache.IsRanking ranked) (url : String) :
    Dictionary.get? ranked url = Dictionary.get? cache.entries url :=
  Dictionary.get?_perm h.nodup_keys h.perm url

theorem tag?_eq (h : cache.IsRanking ranked) (url : String) :
    (cache.listOf ranked).tag? url = cache.tag? url := by
  rw [RecencyList.tag?, listOf, Dictionary.get?_mapValues, tag?, h.get?_eq]

/-- The entry to drop is the last one of a ranking. -/
theorem oldest?_eq {front : Dictionary TagEntry} {last : String × TagEntry}
    (h : cache.IsRanking (front ++ [last])) : oldest? cache.entries = some last := by
  have hlast : last ∈ front ++ [last] := List.mem_append_right _ (List.mem_singleton_self last)
  obtain ⟨first, rest, hentries⟩ :=
    List.exists_cons_of_ne_nil (List.ne_nil_of_mem (h.perm.mem_iff.mp hlast))
  obtain ⟨oldest, hfound, hmem, hleast⟩ := oldest?_spec first rest
  rw [← hentries] at hfound hmem hleast
  rw [hfound]
  rcases List.mem_append.mp (h.perm.mem_iff.mpr hmem) with hfront | hsame
  · -- every entry in front of the last one has a greater count
    have hless := (List.pairwise_append.mp h.recency).2.2 oldest hfront last
      (List.mem_singleton_self last)
    exact absurd (hleast last (h.perm.mem_iff.mp hlast)) (Nat.not_le_of_lt hless)
  · rw [List.mem_singleton.mp hsame]

/-! ### What the operations do to a ranking -/

theorem access (h : cache.IsRanking ranked) :
    IsRanking { cache with accesses := cache.accesses + 1 } ranked where
  sorted := h.sorted
  perm := h.perm
  recency := h.recency
  lastUsed_le := fun entry hentry => Nat.le_succ_of_le (h.lastUsed_le entry hentry)
  length_le := h.length_le

theorem erase (h : cache.IsRanking ranked) (url : String) :
    IsRanking { cache with entries := Dictionary.erase url cache.entries }
      (Dictionary.erase url ranked) where
  sorted := h.sorted.erase url
  perm := h.perm.filter _
  recency := h.recency.filter _
  lastUsed_le := fun entry hentry => h.lastUsed_le entry (List.mem_filter.mp hentry).1
  length_le := Nat.le_trans (List.length_filter_le ..) h.length_le

/-- An entry that is used just now comes first, if there is room for it. -/
theorem store (h : cache.IsRanking ranked) (url tag : String)
    (hroom : (Dictionary.erase url ranked).length < cache.maxSize) :
    (cache.store url tag).IsRanking
      ((url, ⟨tag, cache.accesses + 1⟩) :: Dictionary.erase url ranked) where
  sorted := h.sorted.insert url _
  perm := ((h.erase url).perm.cons _).trans (Dictionary.insert_perm h.sorted url _).symm
  recency := List.pairwise_cons.mpr
    ⟨fun entry hentry => Nat.lt_succ_of_le ((h.erase url).lastUsed_le entry hentry),
      (h.erase url).recency⟩
  lastUsed_le := by
    intro entry hentry
    rcases List.mem_cons.mp hentry with rfl | hentry
    · exact Nat.le_refl _
    · exact Nat.le_succ_of_le ((h.erase url).lastUsed_le entry hentry)
  length_le := hroom

theorem listOf_store (url tag : String) :
    (cache.store url tag).listOf
        ((url, ⟨tag, cache.accesses + 1⟩) :: Dictionary.erase url ranked) =
      (cache.listOf ranked).moveToFront url tag := by
  rw [RecencyList.moveToFront, listOf, listOf, Dictionary.erase_mapValues]
  rfl

/-- An entry that is there makes room for itself. -/
theorem length_erase_lt (h : cache.IsRanking ranked) {url : String}
    (hthere : cache.contains url = true) :
    (Dictionary.erase url ranked).length < cache.maxSize := by
  rw [contains, Dictionary.contains, ← h.get?_eq] at hthere
  obtain ⟨entry, hentry, hkey⟩ := Dictionary.isSome_get?_iff.mp hthere
  refine Nat.lt_of_lt_of_le ?_ h.length_le
  exact List.length_filter_lt_length_iff_exists.mpr ⟨entry, hentry, by simpa using hkey⟩

/-- Making room drops the last entry of a full ranking. -/
theorem makeRoom (h : cache.IsRanking ranked) (hmaxSize : cache.maxSize ≠ 0) :
    ∃ shorter, cache.makeRoom.IsRanking shorter ∧ shorter.length < cache.makeRoom.maxSize ∧
      cache.makeRoom.listOf shorter = (cache.listOf ranked).makeRoom := by
  have hlength : (cache.listOf ranked).tags.length = ranked.length := List.length_map ..
  have hmaxSizes : (cache.listOf ranked).maxSize = cache.maxSize := rfl
  unfold TagCache.makeRoom RecencyList.makeRoom
  rw [h.size_eq, hlength, hmaxSizes]
  by_cases hroom : ranked.length < cache.maxSize
  · rw [if_neg (Nat.not_le_of_lt hroom), if_pos hroom]
    exact ⟨ranked, h, hroom, rfl⟩
  · rw [if_pos (Nat.le_of_not_lt hroom), if_neg hroom]
    -- a full cache: its oldest entry is the last one of the ranking
    rcases List.eq_nil_or_concat ranked with rfl | ⟨front, last, hranked⟩
    · exact absurd (Nat.pos_of_ne_zero hmaxSize) hroom
    rw [List.concat_eq_append] at hranked
    subst hranked
    have hshorter := h.erase last.1
    rw [Dictionary.erase_concat h.nodup_keys] at hshorter
    have hfits := h.length_le
    rw [List.length_append, List.length_singleton] at hfits
    rw [h.oldest?_eq]
    refine ⟨front, hshorter, hfits, ?_⟩
    simp only [listOf, mapValues, List.map_append, List.map_singleton, List.dropLast_concat]

end IsRanking

/-! ## The simulation -/

/-- A list holds the tags of a cache in the order of their last use. -/
def Mirrors (cache : TagCache) (list : RecencyList) : Prop :=
  ∃ ranked, cache.IsRanking ranked ∧ list = cache.listOf ranked

namespace Mirrors

variable {cache : TagCache} {list : RecencyList}

theorem empty (maxSize : Nat) : Mirrors { maxSize } { maxSize } :=
  ⟨[], isRanking_nil rfl, rfl⟩

theorem tag?_eq (h : cache.Mirrors list) (url : String) : list.tag? url = cache.tag? url := by
  obtain ⟨ranked, hranked, rfl⟩ := h
  exact hranked.tag?_eq url

theorem maxSize_eq (h : cache.Mirrors list) : list.maxSize = cache.maxSize := by
  obtain ⟨ranked, -, rfl⟩ := h
  rfl

theorem length_eq (h : cache.Mirrors list) : list.tags.length = cache.size := by
  obtain ⟨ranked, hranked, rfl⟩ := h
  exact (List.length_map ..).trans hranked.size_eq.symm

/-- A tag that is used moves to the front. -/
theorem store_there (h : cache.Mirrors list) {url : String} (hthere : cache.contains url = true)
    (tag : String) : (cache.store url tag).Mirrors (list.moveToFront url tag) := by
  obtain ⟨ranked, hranked, rfl⟩ := h
  exact ⟨_, hranked.store url tag (hranked.length_erase_lt hthere),
    (IsRanking.listOf_store url tag).symm⟩

/-- A new tag is put in front of those for which there is room beside it. -/
theorem store_new (h : cache.Mirrors list) (hmaxSize : cache.maxSize ≠ 0) (url tag : String) :
    (cache.makeRoom.store url tag).Mirrors (list.makeRoom.moveToFront url tag) := by
  obtain ⟨ranked, hranked, rfl⟩ := h
  obtain ⟨shorter, hshorter, hroom, hlist⟩ := hranked.makeRoom hmaxSize
  have hfits : (Dictionary.erase url shorter).length < cache.makeRoom.maxSize :=
    Nat.lt_of_le_of_lt (List.length_filter_le ..) hroom
  rw [← hlist]
  exact ⟨_, hshorter.store url tag hfits, (IsRanking.listOf_store url tag).symm⟩

theorem remove (h : cache.Mirrors list) (url : String) :
    (cache.remove url).2.Mirrors (list.remove url).2 := by
  obtain ⟨ranked, hranked, rfl⟩ := h
  refine ⟨_, hranked.erase url, ?_⟩
  rw [RecencyList.remove, listOf, listOf, Dictionary.erase_mapValues]
  rfl

/-- Both return the same tag, and go on mirroring each other. -/
theorem get (h : cache.Mirrors list) (url : String) :
    (cache.get url).1 = (list.get url).1 ∧ (cache.get url).2.Mirrors (list.get url).2 := by
  unfold TagCache.get RecencyList.get
  rw [h.tag?_eq]
  cases htag : cache.tag? url with
  | none =>
      obtain ⟨ranked, hranked, rfl⟩ := h
      exact ⟨rfl, ranked, hranked.access, rfl⟩
  | some tag =>
      have hthere : cache.contains url = true := by
        rw [contains_eq, htag]
        rfl
      exact ⟨rfl, h.store_there hthere tag⟩

theorem put (h : cache.Mirrors list) (url : String) (tag : Option String) :
    (cache.put url tag).Mirrors (list.put url tag) := by
  cases tag with
  | none => exact h.remove url
  | some tag =>
      unfold TagCache.put RecencyList.put
      dsimp only
      rw [h.tag?_eq, ← contains_eq, h.maxSize_eq]
      split
      · exact h
      · rename_i hmaxSize
        split
        · rename_i hthere
          exact h.store_there hthere tag
        · exact h.store_new hmaxSize url tag

/-- **One operation.**  It returns the same on either side and keeps the mirror. -/
theorem perform (h : cache.Mirrors list) (operation : TagOperation) :
    (cache.perform operation).1 = (list.perform operation).1 ∧
      (cache.perform operation).2.Mirrors (list.perform operation).2 := by
  cases operation with
  | get url => exact (h.get url).imp_left (congrArg TagAnswer.tag)
  | put url tag => exact ⟨rfl, h.put url tag⟩
  | remove url => exact ⟨congrArg TagAnswer.tag (h.tag?_eq url).symm, h.remove url⟩
  | contains url =>
      refine ⟨congrArg TagAnswer.isThere ?_, h⟩
      rw [h.tag?_eq, ← contains_eq]
  | clear =>
      obtain ⟨ranked, hranked, rfl⟩ := h
      exact ⟨rfl, [], isRanking_nil rfl, rfl⟩
  | size => exact ⟨congrArg TagAnswer.count h.length_eq.symm, h⟩

/-- **A run of operations.** -/
theorem runAll (h : cache.Mirrors list) (operations : List TagOperation) :
    (TagOperation.runAll TagCache.perform cache operations).1 =
        (TagOperation.runAll RecencyList.perform list operations).1 ∧
      (TagOperation.runAll TagCache.perform cache operations).2.Mirrors
        (TagOperation.runAll RecencyList.perform list operations).2 := by
  induction operations generalizing cache list with
  | nil => exact ⟨rfl, h⟩
  | cons operation rest ih =>
      obtain ⟨hanswer, hnext⟩ := h.perform operation
      obtain ⟨hanswers, hlast⟩ := ih hnext
      refine ⟨?_, hlast⟩
      simp only [TagOperation.runAll]
      rw [hanswer, hanswers]

theorem pairwise_lastUsed_ne (h : cache.Mirrors list) :
    cache.entries.Pairwise fun entry other => entry.2.lastUsed ≠ other.2.lastUsed := by
  obtain ⟨ranked, hranked, -⟩ := h
  exact (hranked.perm.pairwise_iff Ne.symm).mp (hranked.recency.imp Nat.ne_of_gt)

theorem size_le (h : cache.Mirrors list) : cache.size ≤ cache.maxSize := by
  obtain ⟨ranked, hranked, -⟩ := h
  rw [hranked.size_eq]
  exact hranked.length_le

end Mirrors

/-! ## Capacity and counter -/

/-- Making room changes nothing but the entries. -/
theorem makeRoom_frame (cache : TagCache) :
    cache.makeRoom.maxSize = cache.maxSize ∧ cache.makeRoom.accesses = cache.accesses := by
  unfold makeRoom
  split
  · split <;> exact ⟨rfl, rfl⟩
  · exact ⟨rfl, rfl⟩

/-- No operation changes the capacity, and each of them counts as one access at most. -/
theorem perform_frame (cache : TagCache) (operation : TagOperation) :
    (cache.perform operation).2.maxSize = cache.maxSize ∧
      (cache.perform operation).2.accesses ≤ cache.accesses + 1 := by
  cases operation with
  | get url =>
      simp only [perform, get]
      split <;> exact ⟨rfl, Nat.le_refl _⟩
  | put url tag =>
      cases tag with
      | none => exact ⟨rfl, Nat.le_succ _⟩
      | some tag =>
          simp only [perform, put]
          split
          · exact ⟨rfl, Nat.le_succ _⟩
          · split
            · exact ⟨rfl, Nat.le_refl _⟩
            · obtain ⟨hmaxSize, haccesses⟩ := cache.makeRoom_frame
              exact ⟨hmaxSize, Nat.le_of_eq (congrArg (· + 1) haccesses)⟩
  | remove url => exact ⟨rfl, Nat.le_succ _⟩
  | contains url => exact ⟨rfl, Nat.le_succ _⟩
  | clear => exact ⟨rfl, Nat.le_succ _⟩
  | size => exact ⟨rfl, Nat.le_succ _⟩

theorem runAll_frame (cache : TagCache) (operations : List TagOperation) :
    (TagOperation.runAll perform cache operations).2.maxSize = cache.maxSize ∧
      (TagOperation.runAll perform cache operations).2.accesses ≤
        cache.accesses + operations.length := by
  induction operations generalizing cache with
  | nil => exact ⟨rfl, Nat.le_refl _⟩
  | cons operation rest ih =>
      obtain ⟨hmaxSize, haccesses⟩ := cache.perform_frame operation
      obtain ⟨hlater, hcount⟩ := ih (cache.perform operation).2
      refine ⟨hlater.trans hmaxSize, ?_⟩
      calc (TagOperation.runAll perform (cache.perform operation).2 rest).2.accesses
          ≤ (cache.perform operation).2.accesses + rest.length := hcount
        _ ≤ cache.accesses + 1 + rest.length := Nat.add_le_add_right haccesses _
        _ = cache.accesses + (operation :: rest).length := by
            rw [List.length_cons, Nat.add_assoc, Nat.add_comm 1]

/-- **A cache of tags answers like a list in the order of use.**  This holds of every
capacity and of every sequence of operations.  After any of them the counts of the
entries differ from each other, there are no more entries than there may be, and the
counter of accesses has not gone beyond the number of operations. -/
theorem answers_eq_of_recency (maxSize : Nat) (operations : List TagOperation) :
    let cache := TagOperation.runAll perform { maxSize } operations
    let list := TagOperation.runAll RecencyList.perform { maxSize } operations
    cache.1 = list.1 ∧
      cache.2.entries.Pairwise (fun entry other => entry.2.lastUsed ≠ other.2.lastUsed) ∧
      cache.2.size ≤ maxSize ∧
      cache.2.accesses ≤ operations.length := by
  intro cache list
  obtain ⟨hanswers, hmirrors⟩ := (Mirrors.empty maxSize).runAll operations
  obtain ⟨hmaxSize, haccesses⟩ := runAll_frame { maxSize } operations
  refine ⟨hanswers, hmirrors.pairwise_lastUsed_ne, ?_, ?_⟩
  · exact Nat.le_trans hmirrors.size_le (Nat.le_of_eq hmaxSize)
  · exact Nat.le_trans haccesses (Nat.le_of_eq (Nat.zero_add operations.length))

end TagCache

end FeatureFlags
