import FeatureFlags.Proofs.Fetch.Remembering
import FeatureFlags.Proofs.Refresher.Outcome
import Mathlib.Control.Monad.Basic

/-!
# An update happens as a whole or not at all

Definitions arrive in three ways: a refresh fetches them, a stream pushes them, and a
snapshot brings them back.  All three apply a payload, and only a payload that has
definitions gets any further: publishing them, keeping the payload and remembering its
tag come afterwards and cannot fail.  So an update that fails leaves no trace in what
others can see (`Refresher.Untouched`), and one that succeeds changes nothing of the
context but its definitions (`Refresher.Redefined`).

A failed refresh has read the cache of tags, which counts as a use.  That is the one
difference it makes, and no tag is another one for it.
-/

namespace FeatureFlags.Refresher

/-- The published context, what is kept, and the tag of every URL are as they were. -/
structure Untouched (before after : Refresher) : Prop where
  contexts : after.contexts = before.contexts
  persistence : after.persistence = before.persistence
  tag? : ∀ url, after.tags.tag? url = before.tags.tag? url

/-- Of the published context, nothing but features and saved groups has changed. -/
def Redefined (before after : Refresher) : Prop :=
  ∃ features savedGroups,
    after.contexts.current = before.contexts.current.withDefinitions features savedGroups

theorem Untouched.refl (refresher : Refresher) : refresher.Untouched refresher :=
  ⟨rfl, rfl, fun _ => rfl⟩

/-- The definitions of a context that has not changed are its own. -/
theorem Redefined.of_contexts_eq {before after : Refresher}
    (h : after.contexts = before.contexts) : before.Redefined after :=
  ⟨before.contexts.current.features, before.contexts.current.savedGroups,
    congrArg ContextStore.current h⟩

variable (refresher : Refresher)

/-- Asking for features reads the cache of tags and leaves every tag as it is. -/
theorem untouched_asking (url : Url) : refresher.Untouched (refresher.asking url) :=
  ⟨rfl, rfl, refresher.tags.tag?_requestFor url⟩

/-- Applying a payload fails without a trace, or redefines the context. -/
theorem apply_atomic (body : Text.Utf8.Bytes) (isRemote : Bool) :
    (∀ error, (refresher.apply body isRemote).result = .error error →
      (refresher.apply body isRemote).refresher = refresher) ∧
    refresher.Redefined (refresher.apply body isRemote).refresher := by
  cases hbody : refresher.definitionsOf body with
  | error error =>
      rw [apply_of_error isRemote hbody]
      exact ⟨fun _ _ => rfl, .of_contexts_eq rfl⟩
  | ok definitions =>
      -- whether the body is kept as well makes no difference to the context
      rw [apply_of_ok isRemote hbody]
      refine ⟨nofun, definitions.features, definitions.savedGroups, ?_⟩
      cases isRemote with
      | false => rfl
      | true => exact congrArg ContextStore.current (contexts_keepSnapshot _ body)

/-! ## The three kinds of updates -/

theorem untouched_refresh {server : Request → Except Error Response} {error : Error}
    (herror : (refresher.refresh server).result = .error error) :
    refresher.Untouched (refresher.refresh server).refresher := by
  have hdone := refresher.refreshed server
  generalize refresher.refresh server = done at hdone herror
  cases hdone with
  | nowhere => exact .refl refresher
  | refused => exact refresher.untouched_asking _
  | unmodified => cases herror
  | rejected => exact refresher.untouched_asking _
  | applied => cases herror

theorem redefined_refresh (server : Request → Except Error Response) :
    refresher.Redefined (refresher.refresh server).refresher := by
  have hdone := refresher.refreshed server
  generalize refresher.refresh server = done at hdone
  cases hdone with
  | @applied url response definitions hurl hanswer hsuccess hbody =>
      exact ⟨definitions.features, definitions.savedGroups, current_taking ..⟩
  | _ => exact .of_contexts_eq rfl

theorem loadCached_atomic :
    (∀ error, refresher.loadCached.result = .error error →
      refresher.Untouched refresher.loadCached.refresher) ∧
    refresher.Redefined refresher.loadCached.refresher := by
  unfold loadCached
  split
  · exact ⟨nofun, .of_contexts_eq rfl⟩
  · rename_i json hsnapshot
    obtain ⟨hfailed, hredefined⟩ := refresher.apply_atomic (Text.Utf8.encode json.text.toList) false
    refine ⟨?_, hredefined⟩
    intro error herror
    dsimp only at herror ⊢
    cases hresult : (refresher.apply (Text.Utf8.encode json.text.toList) false).result with
    | ok =>
        rw [hresult] at herror
        cases herror
    | error cause =>
        rw [hfailed cause hresult]
        exact .refl refresher

theorem receive_atomic (event : StreamEvent) :
    (∀ error, (.error error, true) ∈ reports (refresher.receive event).activities →
      refresher.Untouched (refresher.receive event).refresher) ∧
    refresher.Redefined (refresher.receive event).refresher := by
  unfold receive
  split
  · cases hbody : refresher.definitionsOf (Text.Utf8.encode event.data.toList) with
    | error error =>
        rw [apply_of_error true hbody]
        exact ⟨fun _ _ => .refl refresher, .of_contexts_eq rfl⟩
    | ok definitions =>
        refine ⟨?_, (refresher.apply_atomic _ true).2⟩
        rw [apply_of_ok true hbody]
        intro error herror
        cases List.mem_singleton.mp herror
  · exact ⟨nofun, .of_contexts_eq rfl⟩

/-- **Updates are atomic.**  Whatever the state of a refresher and the answer of the server, the
snapshot or the event: an update that fails leaves the published context, what is kept, and the
tag of every URL as they were; and no update changes anything of the context but its features and
saved groups. -/
theorem updates_atomic :
    (∀ server error, (refresher.refresh server).result = .error error →
      refresher.Untouched (refresher.refresh server).refresher) ∧
    (∀ error, refresher.loadCached.result = .error error →
      refresher.Untouched refresher.loadCached.refresher) ∧
    (∀ event error, (.error error, true) ∈ reports (refresher.receive event).activities →
      refresher.Untouched (refresher.receive event).refresher) ∧
    (∀ server, refresher.Redefined (refresher.refresh server).refresher) ∧
    refresher.Redefined refresher.loadCached.refresher ∧
    ∀ event, refresher.Redefined (refresher.receive event).refresher :=
  ⟨fun _ _ => refresher.untouched_refresh, refresher.loadCached_atomic.1,
    fun event => (refresher.receive_atomic event).1, refresher.redefined_refresh,
    refresher.loadCached_atomic.2, fun event => (refresher.receive_atomic event).2⟩

/-- A body, a snapshot and an event that hold a number where a payload should be, on a refresher
that remembers a tag. -/
theorem updates_atomic_of_number :
    let refresher : Refresher :=
      { contexts := ⟨{ apiKey := "k", hostUrl := "http://[::1]" }⟩
        tags := { entries := [("http://[::1]/api/features/k", ⟨"v1", 1⟩)], accesses := 1 }
        persistence := some { documents := [(snapshotKey, .integer 1)] } }
    let server : Request → Except Error Response := fun _ => .ok ⟨200, [("etag", "v2")], [49]⟩
    let event : StreamEvent := { name := none, data := "1" }
    ((refresher.refresh server).result = .error .decode ∧
      refresher.Untouched (refresher.refresh server).refresher) ∧
    (refresher.loadCached.result = .error .decode ∧
      refresher.Untouched refresher.loadCached.refresher) ∧
    ((.error .decode, true) ∈ reports (refresher.receive event).activities ∧
      refresher.Untouched (refresher.receive event).refresher) := by
  intro refresher server event
  have hrefresh : (refresher.refresh server).result = .error .decode := by decide +kernel
  have hload : refresher.loadCached.result = .error .decode := by decide +kernel
  have hevent : (.error .decode, true) ∈ reports (refresher.receive event).activities := by
    decide +kernel
  obtain ⟨hrefreshed, hloaded, hreceived, -⟩ := updates_atomic refresher
  exact ⟨⟨hrefresh, hrefreshed server _ hrefresh⟩, ⟨hload, hloaded _ hload⟩,
    ⟨hevent, hreceived event _ hevent⟩⟩

end FeatureFlags.Refresher
