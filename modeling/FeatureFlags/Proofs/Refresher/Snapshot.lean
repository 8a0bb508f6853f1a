import FeatureFlags.Proofs.Payload.Order
import FeatureFlags.Proofs.Refresher.Validators
import FeatureFlags.Proofs.Stream.Receiving

/-!
# Does the snapshot bring the definitions back?

A payload is applied as it is read, but kept as the tree it settles into.  The two need
not define the same: of two members of one name the tree has one only, where a record
with both is refused; a payload with a malformed part that nobody looks at has no tree at
all, so that an earlier snapshot stays; and a float need not be read back from its text.

What is kept is the tree of the last applied body that has one
(`Client.keeping_after`).  So a refresher that starts from the snapshot has the
definitions of the body applied last exactly if that tree defines the same, which it does
whenever the body is plain (`Client.restores_last_applied_iff`).
-/

namespace FeatureFlags

open Text.Utf8 (Bytes)

/-- A payload of which nothing is lost when it is kept as a tree: no part of it is malformed, no
object has two members of one name, and every float is read back from its text. -/
def Payload.IsPlain (body : Bytes) : Prop :=
  ∃ draft, Json.Draft.ofBytes? body = some draft ∧ draft.Plain

namespace Refresher

/-! ## Bodies that are applied -/

/-- The payload that an event puts into effect, if it does. -/
def received? (refresher : Refresher) (event : StreamEvent) : Option Bytes :=
  let body := Text.Utf8.encode event.data.toList
  if bringsFeatures event && (refresher.definitionsOf body).isOk then some body else none

/-- What a body defines depends on the decryptor only. -/
theorem definitionsOf_congr {first second : Refresher}
    (hdecryptor : first.decryptor = second.decryptor) (body : Bytes) :
    first.definitionsOf body = second.definitionsOf body := by
  rw [definitionsOf, definitionsOf, hdecryptor]

theorem received?_congr {first second : Refresher}
    (hdecryptor : first.decryptor = second.decryptor) : first.received? = second.received? := by
  funext event
  simp only [received?, definitionsOf_congr hdecryptor]

section Receive

variable (refresher : Refresher)

/-- Receiving an event changes the refresher only if the payload of the event is applied. -/
theorem refresher_receive (event : StreamEvent) :
    (refresher.received? event = none ∧ (refresher.receive event).refresher = refresher) ∨
    ∃ body definitions, refresher.received? event = some body ∧
      refresher.definitionsOf body = .ok definitions ∧
      (refresher.receive event).refresher = (refresher.publish definitions).keepSnapshot body := by
  unfold receive received?
  cases bringsFeatures event with
  | false => exact Or.inl ⟨rfl, rfl⟩
  | true =>
      dsimp only
      cases hbody : refresher.definitionsOf (Text.Utf8.encode event.data.toList) with
      | error error =>
          rw [if_pos rfl, apply_of_error true hbody]
          exact Or.inl ⟨rfl, rfl⟩
      | ok definitions =>
          rw [if_pos rfl, apply_of_ok true hbody]
          exact Or.inr ⟨_, definitions, rfl, hbody, rfl⟩

theorem decryptor_receive (event : StreamEvent) :
    (refresher.receive event).refresher.decryptor = refresher.decryptor := by
  obtain ⟨-, hsame⟩ | ⟨body, definitions, -, -, hreceived⟩ := refresher.refresher_receive event
  · rw [hsame]
  · rw [hreceived, decryptor_keepSnapshot]
    rfl

/-- The definitions in effect after some events are those of the last one that is applied. -/
theorem inEffect_receiveAll (events : List StreamEvent) :
    (events.filterMap refresher.received? = [] →
      (refresher.receiveAll events).refresher.contexts = refresher.contexts) ∧
    ∀ body, (events.filterMap refresher.received?).getLast? = some body →
      ∃ definitions, refresher.definitionsOf body = .ok definitions ∧
        definitions.InEffect (refresher.receiveAll events).refresher.contexts.current := by
  induction events generalizing refresher with
  | nil => exact ⟨fun _ => rfl, nofun⟩
  | cons event rest ih =>
      have hrest := ih (refresher.receive event).refresher
      rw [received?_congr (refresher.decryptor_receive event)] at hrest
      obtain ⟨hnone, hsame⟩ | ⟨body, definitions, hsome, hbody, hreceived⟩ :=
        refresher.refresher_receive event
      · rw [List.filterMap_cons, hnone]
        dsimp only [receiveAll]
        rw [hsame] at hrest ⊢
        exact hrest
      · rw [List.filterMap_cons, hsome]
        dsimp only [receiveAll]
        refine ⟨nofun, fun last hlast => ?_⟩
        -- is this event the last one that is applied?
        cases hlater : rest.filterMap refresher.received? with
        | nil =>
            rw [hlater] at hlast
            cases hlast
            refine ⟨definitions, hbody, ?_⟩
            rw [hrest.1 hlater, hreceived, contexts_keepSnapshot]
            exact ⟨rfl, rfl⟩
        | cons other later =>
            rw [hlater, List.getLast?_cons_cons, ← hlater] at hlast
            obtain ⟨defined, hdefined, heffect⟩ := hrest.2 last hlast
            refine ⟨defined, ?_, heffect⟩
            rw [← hdefined]
            exact (definitionsOf_congr (refresher.decryptor_receive event) last).symm

end Receive

/-! ## What is kept -/

/-- A refresher keeps a snapshot in a persistence that can be written to. -/
structure Keeping (decryptor : Option Decryptor) (snapshot : Option Json) (refresher : Refresher) :
    Prop where
  decryptor : refresher.decryptor = decryptor
  persistence : ∃ persistence, refresher.persistence = some persistence ∧
    persistence.saveFailure = none ∧ persistence.load snapshotKey = snapshot

/-- The tree of the last body that has one; before the first such body, the snapshot. -/
def lastTree (snapshot : Option Json) (bodies : List Bytes) : Option Json :=
  bodies.foldl (fun kept body => (Json.ofBytes? body).or kept) snapshot

theorem lastTree_append (snapshot : Option Json) (bodies later : List Bytes) :
    lastTree snapshot (bodies ++ later) = lastTree (lastTree snapshot bodies) later :=
  List.foldl_append ..

namespace Keeping

variable {decryptor : Option Decryptor} {snapshot : Option Json} {refresher : Refresher}

/-- Nothing else of a refresher bears on the snapshot. -/
theorem congr {other : Refresher} (h : Keeping decryptor snapshot refresher)
    (hdecryptor : other.decryptor = refresher.decryptor)
    (hpersistence : other.persistence = refresher.persistence) :
    Keeping decryptor snapshot other :=
  ⟨hdecryptor.trans h.decryptor, hpersistence ▸ h.persistence⟩

theorem of_content_eq {other : Refresher} (h : Keeping decryptor snapshot refresher)
    (hcontent : other.content = refresher.content) : Keeping decryptor snapshot other :=
  h.congr (congrArg (·.decryptor) hcontent) (congrArg (·.persistence) hcontent)

/-- A body with a tree takes the place of the snapshot, and one without leaves it there. -/
theorem keepSnapshot (h : Keeping decryptor snapshot refresher) (body : Bytes) :
    Keeping decryptor ((Json.ofBytes? body).or snapshot) (refresher.keepSnapshot body) := by
  obtain ⟨persistence, hpersistence, hsaves, hload⟩ := h.persistence
  unfold Refresher.keepSnapshot
  rw [hpersistence]
  cases Json.ofBytes? body with
  | none => exact h
  | some json =>
      simp only [Persistence.save, hsaves, Option.some_or]
      refine ⟨h.decryptor, _, rfl, rfl, ?_⟩
      rw [Persistence.load, Dictionary.get?_insert, if_pos rfl]

theorem publish_keepSnapshot (h : Keeping decryptor snapshot refresher)
    (definitions : Definitions) (body : Bytes) :
    Keeping decryptor (lastTree snapshot [body])
      ((refresher.publish definitions).keepSnapshot body) := by
  have hpublished : Keeping decryptor snapshot (refresher.publish definitions) := h.congr rfl rfl
  exact hpublished.keepSnapshot body

theorem receive (h : Keeping decryptor snapshot refresher) (event : StreamEvent) :
    Keeping decryptor (lastTree snapshot (refresher.received? event).toList)
      (refresher.receive event).refresher := by
  obtain ⟨hnone, hsame⟩ | ⟨body, definitions, hsome, hbody, hreceived⟩ :=
    refresher.refresher_receive event
  · rw [hnone, hsame]
    exact h
  · rw [hsome, hreceived]
    exact h.publish_keepSnapshot definitions body

theorem receiveAll (h : Keeping decryptor snapshot refresher) (events : List StreamEvent) :
    Keeping decryptor (lastTree snapshot (events.filterMap refresher.received?))
      (refresher.receiveAll events).refresher := by
  induction events generalizing refresher snapshot with
  | nil => exact h
  | cons event rest ih =>
      have hreceived := h.receive event
      have hrest := ih hreceived
      rw [received?_congr (refresher.decryptor_receive event)] at hrest
      have hbodies : (event :: rest).filterMap refresher.received? =
          (refresher.received? event).toList ++ rest.filterMap refresher.received? := by
        rw [List.filterMap_cons]
        cases refresher.received? event <;> rfl
      rw [hbodies, lastTree_append]
      exact hrest

theorem endRefresh (h : Keeping decryptor snapshot refresher) (url : Url)
    (answer : Except Error Response) :
    Keeping decryptor
      (lastTree snapshot ((refresher.applied? answer).map Response.body).toList)
      (refresher.endRefresh url answer).refresher := by
  obtain ⟨hnone, hsame⟩ | ⟨response, definitions, hsome, hbody, htaken⟩ :=
    refresher.refresher_endRefresh url answer
  · rw [hnone, hsame]
    exact h
  · rw [hsome, htaken]
    exact (h.publish_keepSnapshot definitions response.body).congr rfl rfl

theorem loadCached (h : Keeping decryptor snapshot refresher) :
    Keeping decryptor snapshot refresher.loadCached.refresher := by
  unfold Refresher.loadCached
  split
  · exact h
  · rename_i json hload
    dsimp only
    cases hbody : refresher.definitionsOf (Text.Utf8.encode json.text.toList) with
    | error error =>
        rw [apply_of_error false hbody]
        exact h
    | ok definitions =>
        rw [apply_of_ok false hbody]
        exact h.congr rfl rfl

end Keeping

/-! ## Starting from the snapshot -/

/-- Loading the snapshot succeeds and puts some definitions into effect. -/
def Restores (refresher : Refresher) (definitions : Definitions) : Prop :=
  refresher.loadCached.result = .ok true ∧
    definitions.InEffect refresher.loadCached.refresher.contexts.current

/-- The snapshot is applied like a body from the server. -/
theorem restores_iff {refresher : Refresher} {definitions : Definitions} :
    refresher.Restores definitions ↔
      ∃ json kept, refresher.persistence.bind (·.load snapshotKey) = some json ∧
        refresher.definitionsOf json.bytes = .ok kept ∧ kept.Agree definitions := by
  unfold Restores loadCached
  cases refresher.persistence.bind (·.load snapshotKey) with
  | none => exact iff_of_false nofun nofun
  | some json =>
      -- the snapshot is read from its text as a body is
      have hbytes : Text.Utf8.encode json.text.toList = json.bytes := by
        rw [Json.text, String.toList_ofList]
        rfl
      dsimp only
      rw [hbytes]
      cases hkept : refresher.definitionsOf json.bytes with
      | error error =>
          rw [apply_of_error false hkept]
          refine iff_of_false nofun ?_
          rintro ⟨_, kept, hjson, hbody, -⟩
          cases hjson
          cases hkept.symm.trans hbody
      | ok kept =>
          rw [apply_of_ok false hkept]
          have hin : kept.InEffect (refresher.publish kept).contexts.current := ⟨rfl, rfl⟩
          constructor
          · rintro ⟨-, hdefinitions⟩
            exact ⟨json, kept, rfl, hkept, hin.agree_iff.mp hdefinitions⟩
          · rintro ⟨_, other, hjson, hbody, hagree⟩
            cases hjson
            cases hkept.symm.trans hbody
            exact ⟨rfl, hin.agree_iff.mpr hagree⟩

end Refresher

/-! ## Runs -/

namespace Client

/-- The bodies from the server whose definitions an action puts into effect, in order. -/
def bodies (client : Client) : ClientAction → List Bytes
  | .endFetch request answer =>
    if (client.requests.lookup request).isSome then
      ((client.refresher.applied? answer).map Response.body).toList
    else []
  | .move move => (client.supervisor.events move).filterMap client.refresher.received?
  | _ => []

/-- The bodies of several actions, in order. -/
def appliedBodies (client : Client) : List ClientAction → List Bytes
  | [] => []
  | action :: rest => client.bodies action ++ (client.step action).1.appliedBodies rest

open Refresher (Keeping lastTree snapshotKey)

variable {decryptor : Option Decryptor} {snapshot : Option Json} {client : Client}

/-- **One action.**  What is kept is the tree of the last body that has one. -/
theorem keeping_step (h : client.refresher.Keeping decryptor snapshot) (action : ClientAction) :
    (client.step action).1.refresher.Keeping decryptor
      (lastTree snapshot (client.bodies action)) := by
  cases action with
  | beginFetch =>
      dsimp only [step]
      rw [refresher_beginFetch, Refresher.beginRefresh]
      split
      · exact h
      · exact h.congr rfl rfl
  | endFetch request answer =>
      dsimp only [step, endFetch, bodies]
      cases client.requests.lookup request with
      | none => exact h
      | some url => exact h.endRefresh url answer
  | loadCached => exact h.loadCached
  | updateContext change => exact h.congr rfl rfl
  | move move => exact (h.receiveAll _).of_content_eq (client.supervisor.content_step move)

/-- The definitions of the last body of an action are in effect after it. -/
theorem inEffect_step {action : ClientAction} {body : Bytes}
    (hlast : (client.bodies action).getLast? = some body) :
    ∃ definitions, client.refresher.definitionsOf body = .ok definitions ∧
      definitions.InEffect (client.step action).1.refresher.contexts.current := by
  cases action with
  | endFetch request answer =>
      dsimp only [step, endFetch, bodies] at hlast ⊢
      cases hrequest : client.requests.lookup request with
      | none =>
          rw [hrequest] at hlast
          cases hlast
      | some url =>
          rw [hrequest] at hlast
          -- the answer has been refused, or its definitions have been taken up
          obtain ⟨hnone, -⟩ | ⟨response, definitions, hsome, hbody, htaken⟩ :=
            client.refresher.refresher_endRefresh url answer
          · rw [hnone] at hlast
            cases hlast
          · rw [hsome] at hlast
            cases hlast
            refine ⟨definitions, hbody, ?_⟩
            change definitions.InEffect
              (client.refresher.endRefresh url answer).refresher.contexts.current
            rw [htaken, Refresher.current_taking]
            exact ⟨rfl, rfl⟩
  | move move =>
      -- the move publishes what the refresher receives on the stream
      obtain ⟨definitions, hbody, heffect⟩ :=
        (client.refresher.inEffect_receiveAll _).2 body hlast
      have hcontexts : (client.supervisor.step move).1.refresher.contexts = _ :=
        congrArg (·.contexts) (client.supervisor.content_step move)
      refine ⟨definitions, hbody, ?_⟩
      change definitions.InEffect (client.supervisor.step move).1.refresher.contexts.current
      rw [hcontexts]
      exact heffect
  | _ => cases hlast

/-- **A run of actions.** -/
theorem keeping_after (h : client.refresher.Keeping decryptor snapshot)
    (actions : List ClientAction) :
    (client.after actions).refresher.Keeping decryptor
      (lastTree snapshot (client.appliedBodies actions)) := by
  induction actions generalizing client snapshot with
  | nil => exact h
  | cons action rest ih =>
      rw [appliedBodies, Refresher.lastTree_append]
      exact ih (keeping_step h action)

/-- When a body from the server was applied last, it put these definitions into effect. -/
def AppliedLast (client : Client) (actions : List ClientAction) (definitions : Definitions) :
    Prop :=
  ∃ before action later, actions = before ++ action :: later ∧
    (client.after before).bodies action ≠ [] ∧
    (client.after (before ++ [action])).appliedBodies later = [] ∧
    definitions.InEffect (client.after (before ++ [action])).refresher.contexts.current

theorem exists_appliedLast (h : client.refresher.Keeping decryptor snapshot)
    {actions : List ClientAction} {body : Bytes}
    (hlast : (client.appliedBodies actions).getLast? = some body) {fresh : Refresher}
    (hdecryptor : fresh.decryptor = decryptor) :
    ∃ definitions, fresh.definitionsOf body = .ok definitions ∧
      client.AppliedLast actions definitions := by
  induction actions generalizing client snapshot with
  | nil => cases hlast
  | cons action rest ih =>
      have hnext := keeping_step h action
      rw [appliedBodies] at hlast
      cases hrest : (client.step action).1.appliedBodies rest with
      | nil =>
          -- the body comes with this action
          rw [hrest, List.append_nil] at hlast
          obtain ⟨definitions, hbody, heffect⟩ := inEffect_step hlast
          have hne : client.bodies action ≠ [] := by
            intro hnil
            rw [hnil] at hlast
            cases hlast
          rw [Refresher.definitionsOf_congr (h.decryptor.trans hdecryptor.symm)] at hbody
          exact ⟨definitions, hbody, [], action, rest, rfl, hne, hrest, heffect⟩
      | cons first others =>
          -- it comes with a later one
          rw [List.getLast?_append_of_ne_nil _ (by rw [hrest]; exact nofun)] at hlast
          obtain ⟨definitions, hbody, before, last, later, rfl, hne, hnone, heffect⟩ :=
            ih hnext hlast
          exact ⟨definitions, hbody, action :: before, last, later, rfl, hne, hnone, heffect⟩

/-- **When the snapshot brings the definitions back.**  Take any run of a client that can keep its
snapshots, and the body of the server that is applied last in it.  A new refresher with what has
been kept and with the same decryptor gets the definitions of that body by loading the snapshot
exactly if the tree of the last body that has one defines the same.  That is so whenever the body
applied last is plain. -/
theorem restores_last_applied_iff {persistence : Persistence}
    (hpersistence : client.refresher.persistence = some persistence)
    (hsaves : persistence.saveFailure = none) {actions : List ClientAction} {body : Bytes}
    (hlast : (client.appliedBodies actions).getLast? = some body) {fresh : Refresher}
    (hkept : fresh.persistence = (client.after actions).refresher.persistence)
    (hdecryptor : fresh.decryptor = client.refresher.decryptor) :
    ∃ definitions, client.AppliedLast actions definitions ∧
      (fresh.Restores definitions ↔
        ∃ json kept,
          lastTree (persistence.load snapshotKey) (client.appliedBodies actions) = some json ∧
          fresh.definitionsOf json.bytes = .ok kept ∧ kept.Agree definitions) ∧
      (Payload.IsPlain body → fresh.Restores definitions) := by
  have hkeeping : client.refresher.Keeping client.refresher.decryptor
      (persistence.load snapshotKey) := ⟨rfl, persistence, hpersistence, hsaves, rfl⟩
  obtain ⟨definitions, hbody, happlied⟩ := exists_appliedLast hkeeping hlast hdecryptor
  obtain ⟨final, hfinal, -, hload⟩ := (keeping_after hkeeping actions).persistence
  have hsnapshot : fresh.persistence.bind (·.load snapshotKey) =
      lastTree (persistence.load snapshotKey) (client.appliedBodies actions) := by
    rw [hkept, hfinal]
    exact hload
  have hiff : fresh.Restores definitions ↔ _ := Refresher.restores_iff
  rw [hsnapshot] at hiff
  refine ⟨definitions, happlied, hiff, ?_⟩
  rintro ⟨draft, hdraft, hplain⟩
  -- a plain body has a tree, so it is this tree that is kept
  obtain ⟨json, hjson, hsame⟩ := Payload.ofBytes_bytes hdraft hplain
  have hlatest : lastTree (persistence.load snapshotKey) (client.appliedBodies actions) =
      some json := by
    obtain ⟨earlier, hearlier⟩ := List.getLast?_eq_some_iff.mp hlast
    rw [hearlier, Refresher.lastTree_append, lastTree, List.foldl_cons, hjson]
    rfl
  have hdefinitions : fresh.definitionsOf json.bytes = .ok definitions := by
    rw [← hbody, Refresher.definitionsOf, hsame]
    rfl
  exact hiff.mpr ⟨json, definitions, hlatest, hdefinitions, rfl, rfl⟩

/-- A client that can keep a snapshot. -/
def keeper : Client where
  supervisor :=
    { refresher :=
        { contexts := ⟨{ apiKey := "k", hostUrl := "http://[::1]" }⟩
          persistence := some {} } }

/-- One fetch that is answered with a text. -/
def fetching (text : String) : List ClientAction :=
  [.beginFetch, .endFetch 0 (.ok ⟨200, [], Text.Utf8.encode text.toList⟩)]

/-- A new refresher that finds the snapshot of such a fetch. -/
def restarted (text : String) : Refresher :=
  { keeper.refresher with persistence := (keeper.after (fetching text)).refresher.persistence }

theorem keeper_keeping : keeper.refresher.Keeping none none := ⟨rfl, {}, rfl, rfl, rfl⟩

/-- A feature whose default value is given twice is left out when it is fetched, and there when it
comes back from the snapshot. -/
theorem unrestored_repetition :
    let text := "\x7b\"features\":\x7b\"f\":\x7b\"defaultValue\":1,\"defaultValue\":2\x7d\x7d\x7d"
    (keeper.appliedBodies (fetching text)).getLast? = some (Text.Utf8.encode text.toList) ∧
      ∃ definitions, keeper.AppliedLast (fetching text) definitions ∧
        ¬(restarted text).Restores definitions := by
  intro text
  have hlast : (keeper.appliedBodies (fetching text)).getLast? =
      some (Text.Utf8.encode text.toList) := by
    decide +kernel
  obtain ⟨definitions, hbody, happlied⟩ :=
    exists_appliedLast keeper_keeping hlast (rfl : (restarted text).decryptor = none)
  have hkeys : ((restarted text).definitionsOf
      (Text.Utf8.encode text.toList)).toOption.map (·.features.keys) = some [] := by
    decide +kernel
  have hloaded : (restarted text).loadCached.refresher.contexts.current.features.keys = ["f"] := by
    decide +kernel
  refine ⟨hlast, definitions, happlied, ?_⟩
  rintro ⟨-, hfeatures, -⟩
  rw [hbody] at hkeys
  rw [hfeatures] at hloaded
  cases (Option.some.inj hkeys).symm.trans hloaded

/-- A feature with a default value is there again. -/
theorem restored_feature :
    let text := "\x7b\"features\":\x7b\"f\":\x7b\"defaultValue\":1\x7d\x7d\x7d"
    (keeper.appliedBodies (fetching text)).getLast? = some (Text.Utf8.encode text.toList) ∧
      Payload.IsPlain (Text.Utf8.encode text.toList) ∧
      ∃ definitions, keeper.AppliedLast (fetching text) definitions ∧
        (restarted text).Restores definitions := by
  intro text
  have hlast : (keeper.appliedBodies (fetching text)).getLast? =
      some (Text.Utf8.encode text.toList) := by
    decide +kernel
  have hplain : Payload.IsPlain (Text.Utf8.encode text.toList) := by
    let json : Json :=
      .object [("features", .object [("f", .object [("defaultValue", .integer 1)])])]
    have hlegible : json.Legible 0 := by
      simp [json, Json.Legible, Json.LegibleMembers, Json.IsWord64, Json.depthLimit]
    have hbytes : Text.Utf8.encode text.toList = json.bytes := by decide +kernel
    refine ⟨.ofJson json, hbytes ▸ Json.ofBytes?_bytes hlegible, ?_⟩
    simp [json, Json.Draft.ofJson, Json.Draft.ofMembers, Json.Draft.Plain, Json.Draft.MembersPlain]
  obtain ⟨definitions, happlied, -, hrestores⟩ :=
    restores_last_applied_iff (rfl : keeper.refresher.persistence = some {}) rfl hlast
      (rfl : (restarted text).persistence = _) rfl
  exact ⟨hlast, hplain, definitions, happlied, hrestores hplain⟩

end Client

end FeatureFlags
