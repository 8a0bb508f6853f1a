import FeatureFlags.Proofs.Sticky.Store

/-!
# Saving documents again and again

Take any content of the persistence and any calls that save documents, each of which the
persistence accepts or refuses.  What the service then has for an identity is what it had
before, overlaid with the documents that were accepted for the same document key, later
ones counting first (`assignments_after_saves`).  Content that cannot be read counts as
nothing, both at the start and whenever a save finds it.

All of this follows from what one call does to the documents that can be read
(`read_afterSave`): it puts the merged document in the place of the stored one, or it
changes nothing.

Two identities may have one document key, and then they share a document, which has the
names of the identity that was saved first.  Its key is theirs nonetheless
(`KeysMatch`), and this is why the documents of several identities can be collected by
their own keys.
-/

namespace FeatureFlags

open Dictionary (Sorted)

/-- A call that saves a document, and the failure with which the persistence refuses it, if it
does. -/
structure SaveCall where
  document : StickyDocument
  failure : Option String

namespace SaveCall

/-- The persistence accepts the document. -/
def IsAccepted (call : SaveCall) : Prop := call.failure = none

instance (call : SaveCall) : Decidable call.IsAccepted := inferInstanceAs (Decidable (_ = none))

/-- The assignments of the documents that are accepted for a document key, in order. -/
def acceptedFor (key : String) (calls : List SaveCall) : List (Dictionary String) :=
  (calls.filter fun call => call.IsAccepted ∧ call.document.key = key).map
    (·.document.assignments)

end SaveCall

namespace Dictionary

variable {α : Type}

/-- What the last of several dictionaries that knows a key has under it. -/
def lastValue? (dictionaries : List (Dictionary α)) (key : String) : Option α :=
  dictionaries.reverse.findSome? (get? · key)

theorem lastValue?_cons (first : Dictionary α) (rest : List (Dictionary α)) (key : String) :
    lastValue? (first :: rest) key = (lastValue? rest key).or (get? first key) := by
  unfold lastValue?
  rw [List.reverse_cons, List.findSome?_append]
  cases hfirst : get? first key <;> simp [hfirst]

/-- Overlays what is there, if anything is, with one more dictionary. -/
def overlay (stored : Option (Dictionary α)) (added : Dictionary α) : Option (Dictionary α) :=
  some (extend (stored.getD []) added)

theorem foldl_overlay_eq_none_iff {stored : Option (Dictionary α)}
    {added : List (Dictionary α)} :
    added.foldl overlay stored = none ↔ stored = none ∧ added = [] := by
  have hsome (added : List (Dictionary α)) (start : Dictionary α) :
      added.foldl overlay (some start) ≠ none := by
    induction added generalizing start with
    | nil => exact nofun
    | cons first rest ih => exact ih _
  cases added with
  | nil => simp
  | cons first rest => exact iff_of_false (hsome rest _) fun h => List.cons_ne_nil _ _ h.2

/-- **Of several overlays the last one that knows a key counts.** -/
theorem get?_of_foldl_overlay {stored : Option (Dictionary α)} {added : List (Dictionary α)}
    (hstored : ∀ start, stored = some start → Sorted start)
    (hadded : ∀ dictionary ∈ added, Sorted dictionary) {result : Dictionary α}
    (hresult : added.foldl overlay stored = some result) :
    Sorted result ∧ ∀ key, get? result key =
      (lastValue? added key).or (stored.bind (get? · key)) := by
  induction added generalizing stored with
  | nil =>
      have hsame : stored = some result := hresult
      refine ⟨hstored result hsame, fun key => ?_⟩
      rw [hsame]
      rfl
  | cons first rest ih =>
      obtain ⟨hfirst, hrest⟩ := List.forall_mem_cons.mp hadded
      have hstart : Sorted (stored.getD []) := by
        cases stored with
        | none => exact sorted_nil
        | some start => exact hstored start rfl
      have hnext : ∀ start, overlay stored first = some start → Sorted start := by
        intro start heq
        cases heq
        exact hstart.extend first
      obtain ⟨hsorted, hvalues⟩ := ih hnext hrest hresult
      refine ⟨hsorted, fun key => ?_⟩
      -- an absent document counts as an empty one, so later values come before `stored`
      have hbase : get? (stored.getD []) key = stored.bind (get? · key) := by
        cases stored <;> rfl
      rw [hvalues, lastValue?_cons, overlay, Option.bind_some, get?_extend _ hfirst, hbase,
        Option.or_assoc]

end Dictionary

namespace StickyService

variable (service : StickyService) (store : Persistence)

/-- The store after a call. A call that fails leaves the store as it is. -/
def afterSave (call : SaveCall) : Persistence :=
  match service.save { store with saveFailure := call.failure } call.document with
  | .ok saved => saved
  | .error _ => store

/-- The store after several calls, one after another. -/
def afterSaves (calls : List SaveCall) : Persistence := calls.foldl service.afterSave store

/-! ## One call -/

theorem afterSave_of_refused {call : SaveCall} (hrefused : ¬call.IsAccepted) :
    service.afterSave store call = store := by
  obtain ⟨detail, hdetail⟩ := Option.ne_none_iff_exists'.mp hrefused
  simp only [afterSave, save, Persistence.save, hdetail]

theorem load_afterSave_of_accepted {call : SaveCall} (haccepted : call.IsAccepted)
    (storageKey : String) :
    (service.afterSave store call).load storageKey =
      if service.keyPrefix ++ call.document.key = storageKey then
        some (service.merged store call.document).toJson
      else store.load storageKey := by
  have hnone : call.failure = none := haccepted
  simp only [afterSave, save, Persistence.save, hnone]
  exact Persistence.load_insert store _ storageKey _

/-- **What a call does to the documents that can be read.** -/
theorem read_afterSave (call : SaveCall) (key : String) :
    read (service.afterSave store call) (service.keyPrefix ++ key) =
      if call.IsAccepted ∧ call.document.key = key then
        some (service.merged store call.document)
      else read store (service.keyPrefix ++ key) := by
  by_cases haccepted : call.IsAccepted
  · unfold read
    rw [service.load_afterSave_of_accepted store haccepted]
    by_cases hkey : call.document.key = key
    · subst hkey
      rw [if_pos rfl, if_pos ⟨haccepted, rfl⟩, Option.bind_some]
      exact StickyDocument.decode_toJson (service.sorted_merged store call.document)
    · have hstorage : service.keyPrefix ++ call.document.key ≠ service.keyPrefix ++ key :=
        fun heq => hkey (String.append_right_inj _ |>.mp heq)
      rw [if_neg hstorage, if_neg fun h => hkey h.2]
  · rw [service.afterSave_of_refused store haccepted, if_neg fun h => haccepted h.1]

/-- The assignments of the merged document are those of the stored one, if it can be read,
overlaid with the new ones. -/
theorem assignments_merged_eq (document : StickyDocument) :
    (service.merged store document).assignments =
      Dictionary.extend (((read store (service.keyPrefix ++ document.key)).map
        (·.assignments)).getD []) document.assignments := by
  unfold merged get
  change Dictionary.extend ((read store (service.keyPrefix ++ document.key)).getD _).assignments _
    = _
  cases read store (service.keyPrefix ++ document.key) <;> rfl

/-! ## Several calls -/

theorem acceptedFor_cons (key : String) (call : SaveCall) (rest : List SaveCall) :
    SaveCall.acceptedFor key (call :: rest) =
      if call.IsAccepted ∧ call.document.key = key then
        call.document.assignments :: SaveCall.acceptedFor key rest
      else SaveCall.acceptedFor key rest := by
  unfold SaveCall.acceptedFor
  rw [List.filter_cons]
  by_cases hcounts : call.IsAccepted ∧ call.document.key = key
  · simp only [decide_eq_true_eq, if_pos hcounts, List.map_cons]
  · simp only [decide_eq_true_eq, if_neg hcounts]

/-- The documents that are accepted overlay what can be read at the start. -/
theorem read_afterSaves (calls : List SaveCall) (key : String) :
    (read (service.afterSaves store calls) (service.keyPrefix ++ key)).map (·.assignments) =
      (SaveCall.acceptedFor key calls).foldl Dictionary.overlay
        ((read store (service.keyPrefix ++ key)).map (·.assignments)) := by
  induction calls generalizing store with
  | nil => rfl
  | cons call rest ih =>
      have hstep := ih (service.afterSave store call)
      rw [service.read_afterSave store] at hstep
      rw [acceptedFor_cons]
      by_cases hcounts : call.IsAccepted ∧ call.document.key = key
      · rw [if_pos hcounts, Option.map_some, assignments_merged_eq, hcounts.2] at hstep
        rw [if_pos hcounts, List.foldl_cons]
        exact hstep
      · rw [if_neg hcounts] at hstep
        rw [if_neg hcounts]
        exact hstep

theorem sorted_acceptedFor {calls : List SaveCall}
    (hsorted : ∀ call ∈ calls, Sorted call.document.assignments) (key : String) :
    ∀ assignments ∈ SaveCall.acceptedFor key calls, Sorted assignments := by
  intro assignments hmem
  obtain ⟨call, hcall, rfl⟩ := List.mem_map.mp hmem
  exact hsorted call (List.mem_filter.mp hcall).1

/-! ## The keys of stored documents -/

/-- The documents that can be read have the keys they are stored under. -/
def KeysMatch : Prop :=
  ∀ key document, read store (service.keyPrefix ++ key) = some document → document.key = key

theorem keysMatch_of_empty (hempty : store.documents = []) : service.KeysMatch store := by
  intro key document hread
  simp [read, Persistence.load, hempty] at hread

theorem KeysMatch.afterSave {service : StickyService} {store : Persistence}
    (hkeys : service.KeysMatch store) (call : SaveCall) :
    service.KeysMatch (service.afterSave store call) := by
  intro key document hread
  rw [service.read_afterSave store] at hread
  split at hread
  · rename_i hcounts
    cases hread
    -- the merged document has the names of the stored one, or those of the new one
    have hnames : (service.merged store call.document).key = call.document.key := by
      unfold merged get
      change StickyDocument.key
        { (read store (service.keyPrefix ++ call.document.key)).getD _ with assignments := _ } = _
      cases hstored : read store (service.keyPrefix ++ call.document.key) with
      | none => rfl
      | some stored => exact hkeys call.document.key stored hstored
    rw [hnames, hcounts.2]
  · exact hkeys key document hread

theorem KeysMatch.afterSaves {service : StickyService} {store : Persistence}
    (hkeys : service.KeysMatch store) (calls : List SaveCall) :
    service.KeysMatch (service.afterSaves store calls) := by
  induction calls generalizing store with
  | nil => exact hkeys
  | cons call rest ih => exact ih (hkeys.afterSave call)

/-- **Collecting by the documents' own keys** is collecting by the keys of the identities. -/
theorem get?_getAll {service : StickyService} {store : Persistence}
    (hkeys : service.KeysMatch store) (attributes : Dictionary String) (key : String)
    (document : StickyDocument) :
    Dictionary.get? (service.getAll store attributes) key = some document ↔
      ∃ identity ∈ attributes, StickyDocument.keyOf identity.1 identity.2 = key ∧
        service.get store identity.1 identity.2 = some document := by
  have hmem (entry : String × StickyDocument) :
      entry ∈ attributes.filterMap (fun identity =>
        (service.get store identity.1 identity.2).map fun document => (document.key, document)) ↔
      ∃ identity ∈ attributes, StickyDocument.keyOf identity.1 identity.2 = entry.1 ∧
        service.get store identity.1 identity.2 = some entry.2 := by
    rw [List.mem_filterMap]
    refine exists_congr fun identity => and_congr_right fun _ => ?_
    rw [Option.map_eq_some_iff]
    constructor
    · rintro ⟨found, hfound, rfl⟩
      exact ⟨(hkeys _ _ hfound).symm, hfound⟩
    · rintro ⟨hkey, hfound⟩
      exact ⟨entry.2, hfound, Prod.ext ((hkeys _ _ hfound).trans hkey) rfl⟩
  have hfunctional {first second : StickyDocument} {identity other : String × String}
      (hsame : StickyDocument.keyOf identity.1 identity.2 =
        StickyDocument.keyOf other.1 other.2)
      (hfirst : service.get store identity.1 identity.2 = some first)
      (hsecond : service.get store other.1 other.2 = some second) : first = second := by
    simp only [get, storageKey, hsame] at hfirst hsecond
    exact Option.some.inj (hfirst.symm.trans hsecond)
  rw [getAll, Dictionary.get?_ofList]
  constructor
  · intro hget
    exact (hmem (key, document)).mp (List.mem_reverse.mp (Dictionary.mem_of_get? hget))
  · rintro ⟨identity, hidentity, hkey, hfound⟩
    have hentry := List.mem_reverse.mpr
      ((hmem (key, document)).mpr ⟨identity, hidentity, hkey, hfound⟩)
    obtain ⟨other, hother⟩ := Option.isSome_iff_exists.mp
      (Dictionary.isSome_get?_iff.mpr ⟨_, hentry, rfl⟩)
    -- whichever identity the entry comes from, it has the same document
    obtain ⟨_, -, hkey', hfound'⟩ :=
      (hmem (key, other)).mp (List.mem_reverse.mp (Dictionary.mem_of_get? hother))
    rw [← hfunctional (hkey'.trans hkey.symm) hfound' hfound]
    exact hother

/-! ## The service as a map -/

/-- **The service is a map in which later assignments win.**  Take any content of the persistence
and any calls that save documents, accepted or refused.  An identity has a document afterwards
exactly if it had one that can be read or one was accepted for its document key; an entry is that
of the last accepted document that has it, and else that of the document at the start.  A call that
is refused changes nothing, and no call changes anything but the document of its key.  If the
persistence was empty at the start, collecting the documents of identities gives for each document
key what the service has for the identities with this key. -/
theorem assignments_after_saves {calls : List SaveCall}
    (hsorted : ∀ call ∈ calls, Sorted call.document.assignments) :
    (∀ name value,
      let saved := SaveCall.acceptedFor (StickyDocument.keyOf name value) calls
      (service.get (service.afterSaves store calls) name value = none ↔
        service.get store name value = none ∧ saved = []) ∧
      ∀ document, service.get (service.afterSaves store calls) name value = some document →
        Sorted document.assignments ∧
        ∀ entry, Dictionary.get? document.assignments entry =
          (Dictionary.lastValue? saved entry).or
            ((service.get store name value).bind fun stored =>
              Dictionary.get? stored.assignments entry)) ∧
    (∀ (current : Persistence) (call : SaveCall), call.failure ≠ none →
      service.afterSave current call = current) ∧
    (∀ (current : Persistence) (call : SaveCall) (key : String), key ≠ call.document.key →
      (service.afterSave current call).load (service.keyPrefix ++ key) =
        current.load (service.keyPrefix ++ key)) ∧
    (store.documents = [] → ∀ attributes key document,
      Dictionary.get? (service.getAll (service.afterSaves store calls) attributes) key =
          some document ↔
        ∃ identity ∈ attributes, StickyDocument.keyOf identity.1 identity.2 = key ∧
          service.get (service.afterSaves store calls) identity.1 identity.2 =
            some document) := by
  refine ⟨fun name value => ?_, fun current call => service.afterSave_of_refused current,
    fun current call key hne => ?_, fun hempty attributes key document => ?_⟩
  · -- what the identity's key holds: the accepted documents laid over what was there
    have hread := service.read_afterSaves store calls (StickyDocument.keyOf name value)
    have hstored : ∀ start, (service.get store name value).map (·.assignments) = some start →
        Sorted start := by
      intro start hstart
      obtain ⟨document, hdocument, rfl⟩ := Option.map_eq_some_iff.mp hstart
      exact sorted_of_read hdocument
    refine ⟨?_, fun document hdocument => ?_⟩
    · rw [← Option.map_eq_none_iff (f := (·.assignments))]
      refine (iff_of_eq (congrArg (· = none) hread)).trans ?_
      rw [Dictionary.foldl_overlay_eq_none_iff, Option.map_eq_none_iff]
      rfl
    · -- read a document; its key's last accepted value, else the one stored before
      have hresult : (SaveCall.acceptedFor (StickyDocument.keyOf name value) calls).foldl
          Dictionary.overlay ((service.get store name value).map (·.assignments)) =
            some document.assignments := by
        rw [← Option.map_some, ← hdocument]
        exact hread.symm
      obtain ⟨hassignments, hvalues⟩ := Dictionary.get?_of_foldl_overlay hstored
        (sorted_acceptedFor hsorted _) hresult
      refine ⟨hassignments, fun entry => ?_⟩
      rw [hvalues, Option.bind_map]
      rfl
  · by_cases haccepted : call.IsAccepted
    · -- an accepted save writes under its own storage key only
      have hstorage : service.keyPrefix ++ call.document.key ≠ service.keyPrefix ++ key :=
        fun heq => hne (String.append_right_inj _ |>.mp heq).symm
      rw [service.load_afterSave_of_accepted current haccepted, if_neg hstorage]
    · rw [service.afterSave_of_refused current haccepted]
  · -- an empty store holds no document under a foreign key, and saves add none
    exact get?_getAll ((service.keysMatch_of_empty store hempty).afterSaves calls) ..

/-- Three documents of one user, of which the second is refused. -/
def savesOfUser : List SaveCall :=
  [⟨⟨"id", "u1", [("a__0", "0"), ("b__0", "1")]⟩, none⟩,
   ⟨⟨"id", "u1", [("a__0", "1")]⟩, some "disk full"⟩,
   ⟨⟨"id", "u1", [("b__0", "0"), ("c__0", "1")]⟩, none⟩]

/-- The user keeps the first assignment of `a`, since the second is refused, and gets the later one
of `b`. -/
theorem refused_save_left_out :
    let service : StickyService := {}
    (∀ call ∈ savesOfUser, Sorted call.document.assignments) ∧
      ∃ document, service.get (service.afterSaves {} savesOfUser) "id" "u1" = some document ∧
        Dictionary.get? document.assignments "a__0" = some "0" ∧
        Dictionary.get? document.assignments "b__0" = some "0" := by
  intro service
  have hsorted : ∀ call ∈ savesOfUser, Sorted call.document.assignments := by
    simp only [savesOfUser, List.forall_mem_cons, Sorted, List.pairwise_cons]
    decide
  obtain ⟨hnone, hsome⟩ := (assignments_after_saves service {} hsorted).1 "id" "u1"
  have hsaved : SaveCall.acceptedFor (StickyDocument.keyOf "id" "u1") savesOfUser =
      [[("a__0", "0"), ("b__0", "1")], [("b__0", "0"), ("c__0", "1")]] := by
    decide
  obtain ⟨document, hdocument⟩ := Option.ne_none_iff_exists'.mp
    fun h => List.cons_ne_nil _ _ (hsaved.symm.trans (hnone.mp h).2)
  obtain ⟨-, hentries⟩ := hsome document hdocument
  refine ⟨hsorted, document, hdocument, ?_, ?_⟩
  · rw [hentries, hsaved]
    rfl
  · rw [hentries, hsaved]
    rfl

end StickyService

end FeatureFlags
