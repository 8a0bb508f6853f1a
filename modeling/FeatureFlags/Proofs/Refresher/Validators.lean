import FeatureFlags.Proofs.Fetch.Remembering
import FeatureFlags.Proofs.Refresher.Frame

/-!
# Tags are those of applied responses

A server answers that nothing has changed if a request offers the tag of what it would
send.  So a client must only offer the tag of definitions that it has put into effect:
with any other tag it would never get to see them.

The tags of a client are compared with its *history*: which responses have been applied,
and which URLs have lost their tag to another one in a full cache.  Nothing else bears
on the tags.  While a client acts, what its cache remembers of a URL is what can be read
off the history (`Client.recalls_step`, `Client.recalls_after`), whatever requests are in
flight at the same time and in whatever order they are answered.  What a request offers
is therefore the tag of the response that was applied last for its URL, or nothing
(`Client.validator_of_last_applied`).
-/

namespace FeatureFlags

/-! ## Histories -/

/-- Something that bears on which tags are remembered. -/
inductive TagIncident
  /-- A response for a URL has been applied; it came with a tag or with none. -/
  | applied (url : String) (tag : Option String)
  /-- The tag of a URL, used least recently, has made room for that of another one. -/
  | displaced (url : String)
deriving DecidableEq, Repr

namespace TagIncident

/-- The tag of the response that was applied last for a URL, if one was.  The newest incident
comes first. -/
def lastApplied? (url : String) : List TagIncident → Option (Option String)
  | [] => none
  | .applied other tag :: earlier => if other = url then some tag else lastApplied? url earlier
  | .displaced _ :: earlier => lastApplied? url earlier

/-- Whether a URL has lost its tag since a response was last applied for it. -/
def isDisplaced (url : String) : List TagIncident → Bool
  | [] => false
  | .applied other _ :: earlier => if other = url then false else isDisplaced url earlier
  | .displaced other :: earlier => other = url || isDisplaced url earlier

/-- The tag of a URL that can be read off a history. -/
def recalled? (maxSize : Nat) (url : String) (history : List TagIncident) : Option String :=
  if maxSize = 0 || !FetchOutcome.isCacheable url.toList || isDisplaced url history then none
  else (lastApplied? url history).join

section Recalled

variable {maxSize : Nat} {url other : String} {tag : Option String} {history : List TagIncident}

theorem recalled?_of_maxSize_eq_zero (hmaxSize : maxSize = 0) :
    recalled? maxSize url history = none := by
  simp only [recalled?, hmaxSize, decide_true, Bool.true_or, if_true]

theorem recalled?_of_not_cacheable (hcacheable : FetchOutcome.isCacheable url.toList = false) :
    recalled? maxSize url history = none := by
  simp only [recalled?, hcacheable, Bool.not_false, Bool.or_true, Bool.true_or, if_true]

theorem recalled?_applied_self (hmaxSize : maxSize ≠ 0)
    (hcacheable : FetchOutcome.isCacheable url.toList = true) :
    recalled? maxSize url (.applied url tag :: history) = tag := by
  simp [recalled?, isDisplaced, lastApplied?, hmaxSize, hcacheable]

/-- An incident with another URL does not change what is read off about a URL. -/
theorem recalled?_applied_of_ne (hne : other ≠ url) :
    recalled? maxSize url (.applied other tag :: history) = recalled? maxSize url history := by
  simp only [recalled?, isDisplaced, lastApplied?, if_neg hne]

theorem recalled?_displaced (displaced : Option String) :
    recalled? maxSize url (displaced.toList.map .displaced ++ history) =
      if displaced = some url then none else recalled? maxSize url history := by
  cases displaced with
  | none => rfl
  | some other =>
      by_cases heq : other = url
      · simp [recalled?, isDisplaced, heq]
      · simp [recalled?, isDisplaced, lastApplied?, heq]

theorem lastApplied?_of_recalled? {found : String}
    (hrecalled : recalled? maxSize url history = some found) :
    lastApplied? url history = some (some found) := by
  unfold recalled? at hrecalled
  split at hrecalled
  · cases hrecalled
  · exact Option.join_eq_some_iff.mp hrecalled

theorem recalled?_eq_none_iff :
    recalled? maxSize url history = none ↔
      lastApplied? url history = none ∨ lastApplied? url history = some none ∨
        isDisplaced url history = true ∨ maxSize = 0 ∨
        FetchOutcome.isCacheable url.toList = false := by
  unfold recalled?
  rcases lastApplied? url history with _ | _ | found
  · simp
  · simp
  · by_cases hmaxSize : maxSize = 0 <;> cases FetchOutcome.isCacheable url.toList <;>
      cases isDisplaced url history <;> simp [hmaxSize]

end Recalled

end TagIncident

open TagIncident (lastApplied? isDisplaced recalled?)

/-- What comes with remembering the tag of a response that has been applied, the newest
incident first. -/
def TagCache.incidents (cache : TagCache) (url : Url) (tag : Option String) : List TagIncident :=
  .applied url.text tag ::
    (if FetchOutcome.isCacheable url.write then cache.displaced? url.text tag
      else none).toList.map .displaced

/-- The incidents of an action. -/
def Client.incidents (client : Client) : ClientAction → List TagIncident
  | .endFetch request answer =>
    match client.requests.lookup request, client.refresher.applied? answer with
    | some url, some response => client.refresher.tags.incidents url (response.header "etag")
    | _, _ => []
  | _ => []

/-- The incidents of several actions. -/
def Client.history (client : Client) : List ClientAction → List TagIncident
  | [] => []
  | action :: rest => (client.step action).1.history rest ++ client.incidents action

/-! ## Caches that recall a history -/

/-- What a cache remembers is what can be read off the history. -/
def TagCache.Recalls (cache : TagCache) (history : List TagIncident) : Prop :=
  ∀ url, cache.tag? url = recalled? cache.maxSize url history

namespace TagCache.Recalls

variable {cache : TagCache} {history : List TagIncident}

theorem of_nothing (hempty : cache.entries = []) : cache.Recalls [] := by
  intro url
  rw [TagCache.tag?, hempty, recalled?]
  split <;> rfl

/-- Remembering the tag of a response is what the history says of it. -/
theorem remember (h : cache.Recalls history) (url : Url) (tag : Option String) :
    (cache.remember url tag).Recalls (cache.incidents url tag ++ history) := by
  intro other
  have hwritten : url.text.toList = url.write := String.toList_ofList
  unfold TagCache.remember TagCache.incidents
  cases hcacheable : FetchOutcome.isCacheable url.write with
  | false =>
      rw [if_neg Bool.false_ne_true, if_neg Bool.false_ne_true, h other]
      -- neither the cache nor the history remembers a tag of this URL
      by_cases hurl : url.text = other
      · subst hurl
        rw [← hwritten] at hcacheable
        rw [TagIncident.recalled?_of_not_cacheable hcacheable,
          TagIncident.recalled?_of_not_cacheable hcacheable]
      · exact (TagIncident.recalled?_applied_of_ne hurl).symm
  | true =>
      have hcapacity : (cache.put url.text tag).maxSize = cache.maxSize :=
        (cache.perform_frame (.put url.text tag)).1
      rw [if_pos rfl, if_pos rfl, hcapacity]
      -- a cache without room remembers nothing, whatever has been displaced
      by_cases hmaxSize : cache.maxSize = 0
      · have hnothing (url : String) : cache.tag? url = none :=
          (h url).trans (TagIncident.recalled?_of_maxSize_eq_zero hmaxSize)
        rw [tag?_put_of_maxSize_eq_zero hmaxSize hnothing,
          TagIncident.recalled?_of_maxSize_eq_zero hmaxSize]
      · rw [tag?_put hmaxSize, h other, List.cons_append]
        by_cases hurl : url.text = other
        · subst hurl
          rw [← hwritten] at hcacheable
          rw [if_pos rfl, TagIncident.recalled?_applied_self hmaxSize hcacheable]
        · rw [if_neg hurl, TagIncident.recalled?_applied_of_ne hurl,
            TagIncident.recalled?_displaced]

theorem requestFor (h : cache.Recalls history) (url : Url) :
    (cache.requestFor url).2.Recalls history := by
  intro other
  rw [tag?_requestFor, maxSize_requestFor]
  exact h other

end TagCache.Recalls

/-! ## Clients -/

namespace Client

variable {client : Client} {history : List TagIncident}

theorem refresher_beginFetch (client : Client) :
    client.beginFetch.1.refresher = client.refresher.beginRefresh.refresher := by
  unfold beginFetch
  dsimp only
  split <;> rfl

/-- All that an action can do to the tags: nothing, reading them for a request, or remembering
the tag of the response that it applies. -/
theorem tags_step_cases (client : Client) (action : ClientAction) :
    ((client.step action).1.refresher.tags = client.refresher.tags ∧
        client.incidents action = []) ∨
      (∃ url, (client.step action).1.refresher.tags = (client.refresher.tags.requestFor url).2 ∧
        client.incidents action = []) ∨
      ∃ url tag, (client.step action).1.refresher.tags = client.refresher.tags.remember url tag ∧
        client.incidents action = client.refresher.tags.incidents url tag := by
  cases action with
  | beginFetch =>
      dsimp only [step, incidents]
      rw [refresher_beginFetch, Refresher.beginRefresh]
      split
      · exact Or.inl ⟨rfl, rfl⟩
      · exact Or.inr (Or.inl ⟨_, rfl, rfl⟩)
  | endFetch request answer =>
      dsimp only [step, endFetch, incidents]
      cases client.requests.lookup request with
      | none => exact Or.inl ⟨rfl, rfl⟩
      | some url =>
          -- the tag is kept exactly if the answer was applied
          have htags := client.refresher.tags_endRefresh url answer
          cases happlied : client.refresher.applied? answer with
          | none =>
              rw [happlied] at htags
              exact Or.inl ⟨htags, rfl⟩
          | some response =>
              rw [happlied] at htags
              exact Or.inr (Or.inr ⟨url, response.header "etag", htags, rfl⟩)
  | loadCached => exact Or.inl ⟨client.refresher.tags_loadCached, rfl⟩
  | updateContext change => exact Or.inl ⟨rfl, rfl⟩
  | move move => exact Or.inl ⟨client.supervisor.tags_step move, rfl⟩

/-- **One action.**  The tags go on being those of the history, and the capacity stays. -/
theorem recalls_step (h : client.refresher.tags.Recalls history) (action : ClientAction) :
    (client.step action).1.refresher.tags.Recalls (client.incidents action ++ history) ∧
      (client.step action).1.refresher.tags.maxSize = client.refresher.tags.maxSize := by
  obtain ⟨htags, hincidents⟩ | ⟨url, htags, hincidents⟩ | ⟨url, tag, htags, hincidents⟩ :=
    client.tags_step_cases action
  · rw [htags, hincidents]
    exact ⟨h, rfl⟩
  · rw [htags, hincidents]
    exact ⟨h.requestFor url, TagCache.maxSize_requestFor _ url⟩
  · rw [htags, hincidents]
    exact ⟨h.remember url tag, TagCache.maxSize_remember _ url tag⟩

/-- **A run of actions.** -/
theorem recalls_after (h : client.refresher.tags.Recalls history) (actions : List ClientAction) :
    (client.after actions).refresher.tags.Recalls (client.history actions ++ history) ∧
      (client.after actions).refresher.tags.maxSize = client.refresher.tags.maxSize := by
  induction actions generalizing client history with
  | nil => exact ⟨h, rfl⟩
  | cons action rest ih =>
      obtain ⟨hrecalls, hmaxSize⟩ := recalls_step h action
      obtain ⟨hlater, hcapacity⟩ := ih hrecalls
      rw [← List.append_assoc] at hlater
      exact ⟨hlater, hcapacity.trans hmaxSize⟩

/-- The request that a client makes next offers what is remembered for its URL. -/
theorem validator_beginRefresh {refresher : Refresher} {url : Url} {request : Request}
    (hrequest : refresher.beginRefresh.result = .ok (url, request)) :
    request.validator =
      if FetchOutcome.isCacheable url.write then refresher.tags.tag? url.text else none := by
  unfold Refresher.beginRefresh at hrequest
  split at hrequest
  · cases hrequest
  · cases hrequest
    exact refresher.tags.validator_requestFor _

/-- Definitions that cannot be decoded or decrypted leave the tags alone. -/
theorem tags_endFetch_of_error {request : Nat} {response : Response} {error : Error}
    (herror : client.refresher.definitionsOf response.body = .error error) :
    (client.step (.endFetch request (.ok response))).1.refresher.tags = client.refresher.tags := by
  have happlied : client.refresher.applied? (.ok response) = none := by
    simp [Refresher.applied?, herror, Except.isOk, Except.toBool]
  dsimp only [step, endFetch]
  cases client.requests.lookup request with
  | none => rfl
  | some url =>
      have htags := client.refresher.tags_endRefresh url (.ok response)
      rw [happlied] at htags
      exact htags

/-- **A request offers the tag of the response applied last.**  Whatever a client that remembers
no tags has done, and whatever requests are still in flight: if the request that it makes next
offers a tag, that is the tag of the response applied last for the URL.  It offers none
exactly if no response has been applied, if the last one came without a tag, if its tag
has been displaced since, if there is no capacity, or if tags of the URL are not
remembered.  A response that is not applied for want of definitions changes no tag. -/
theorem validator_of_last_applied (hnew : client.refresher.tags.entries = [])
    (actions : List ClientAction) :
    let last := client.after actions
    let history := client.history actions
    (∀ url request, last.refresher.beginRefresh.result = .ok (url, request) →
      (∀ tag, request.validator = some tag →
        lastApplied? url.text history = some (some tag)) ∧
      (request.validator = none ↔
        lastApplied? url.text history = none ∨ lastApplied? url.text history = some none ∨
          isDisplaced url.text history = true ∨ client.refresher.tags.maxSize = 0 ∨
          FetchOutcome.isCacheable url.write = false)) ∧
    ∀ request response error, last.refresher.definitionsOf response.body = .error error →
      (last.step (.endFetch request (.ok response))).1.refresher.tags = last.refresher.tags := by
  intro last history
  obtain ⟨hrecalls, hmaxSize⟩ := recalls_after (TagCache.Recalls.of_nothing hnew) actions
  rw [List.append_nil] at hrecalls
  refine ⟨fun url request hrequest => ?_, fun request response error => tags_endFetch_of_error⟩
  have hwritten : url.text.toList = url.write := String.toList_ofList
  have hvalidator : request.validator =
      recalled? client.refresher.tags.maxSize url.text history := by
    rw [validator_beginRefresh hrequest, hrecalls url.text, hmaxSize]
    split
    · rfl
    · rename_i hcacheable
      rw [← hwritten] at hcacheable
      exact (TagIncident.recalled?_of_not_cacheable (Bool.eq_false_iff.mpr hcacheable)).symm
  rw [hvalidator, ← hwritten]
  exact ⟨fun tag => TagIncident.lastApplied?_of_recalled?, TagIncident.recalled?_eq_none_iff⟩

/-- Of two requests in flight, the second one is answered first, with definitions and the tag
`v1`; the answer to the first one has a body that cannot be decoded, and the tag `v2`.  The
next request offers `v1`. -/
theorem validator_of_overlapping_fetches :
    let client : Client :=
      { supervisor :=
          { refresher := { contexts := ⟨{ apiKey := "k", hostUrl := "http://[::1]" }⟩ } } }
    let actions : List ClientAction :=
      [.beginFetch, .beginFetch, .endFetch 1 (.ok ⟨200, [("etag", "v1")], [123, 125]⟩),
        .endFetch 0 (.ok ⟨200, [("etag", "v2")], [91, 49, 93]⟩)]
    let url : Url :=
      { scheme := "http".toList, host := some (.ipv6 [0, 0, 0, 0, 0, 0, 0, 1])
        path := .segments ["api".toList, "features".toList, "k".toList] }
    let request : Request :=
      ⟨"http://[::1]/api/features/k",
        [("Cache-Control", "max-age=3600"), ("If-None-Match", "v1")]⟩
    client.refresher.tags.entries = [] ∧
      (client.after actions).refresher.beginRefresh.result = .ok (url, request) ∧
      request.validator = some "v1" ∧
      lastApplied? url.text (client.history actions) = some (some "v1") := by
  intro client actions url request
  -- the run is computed, and the law then says whose tag the request offers
  have hmade : (client.after actions).refresher.beginRefresh.result.toOption =
      some (url, request) := by
    decide +kernel +revert
  have hrequest : (client.after actions).refresher.beginRefresh.result = .ok (url, request) := by
    cases hresult : (client.after actions).refresher.beginRefresh.result with
    | ok made =>
        rw [hresult] at hmade
        exact congrArg Except.ok (Option.some.inj hmade)
    | error error =>
        rw [hresult] at hmade
        cases hmade
  have hvalidator : request.validator = some "v1" := rfl
  exact ⟨rfl, hrequest, hvalidator,
    ((validator_of_last_applied rfl actions).1 url request hrequest).1 "v1" hvalidator⟩

end Client

end FeatureFlags
