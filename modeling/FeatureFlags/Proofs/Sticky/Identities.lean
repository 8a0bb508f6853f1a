import FeatureFlags.Proofs.Sticky.Merging
import FeatureFlags.Proofs.Sticky.Run

/-!
# Documents of different identities

A document is stored under the name and the value of its identity with a separator of two bars
between them.  Bars may also be part of a name or a value, and then the separator can be found in
more than one place: the first name, a separator and some text are the second name, and that
text, a separator and the second value are the first value (`HashIdentity.Overlaps`).  One bar
more at the end of the name does it as well, because three bars are two separators that overlap.
There is no other way in which two identities get one key (`HashIdentity.key_eq_iff`).

Identities with one key share a document, so that a save for either of them is seen by the other.
All others are isolated from each other, whatever is stored and saved
(`StickyService.isolates_iff_key_ne`), among them all users that are told apart by the same
attribute, and all identities whose names have no bar.
-/

namespace FeatureFlags

/-! ## Keys that are equal -/

/-- The separator between a name and a value is found at the beginning of a text, one character
behind it, or further behind. -/
theorem StickyDocument.separator_append_eq_iff {front value rest : List Char} :
    '|' :: '|' :: value = front ++ '|' :: '|' :: rest ↔
      (front = [] ∧ value = rest) ∨ (front = ['|'] ∧ value = '|' :: rest) ∨
        ∃ between, front = '|' :: '|' :: between ∧ value = between ++ '|' :: '|' :: rest := by
  rcases front with _ | ⟨first, _ | ⟨second, between⟩⟩
  · simp
  · simp [and_comm, eq_comm]
  · simp only [List.cons_append, List.cons.injEq, reduceCtorEq, false_and, and_false, false_or]
    constructor
    · rintro ⟨rfl, rfl, hvalue⟩
      exact ⟨between, ⟨rfl, rfl, rfl⟩, hvalue⟩
    · rintro ⟨_, ⟨rfl, rfl, rfl⟩, hvalue⟩
      exact ⟨rfl, rfl, hvalue⟩

namespace HashIdentity

/-- The key of the document of an identity. -/
def key (identity : HashIdentity) : String := StickyDocument.keyOf identity.name identity.value

/-- The second name is longer than the first one, and what it has more is taken from the first
value: some text between two separators, or a bar that overlaps with the separator. -/
inductive Overlaps (first second : HashIdentity) : Prop
  | text (between : String) (hname : second.name = first.name ++ "||" ++ between)
      (hvalue : first.value = between ++ "||" ++ second.value)
  | bar (hname : second.name = first.name ++ "|") (hvalue : first.value = "|" ++ second.value)

variable {first second : HashIdentity}

theorem toList_key (identity : HashIdentity) :
    identity.key.toList = identity.name.toList ++ '|' :: '|' :: identity.value.toList := by
  simp [key, StickyDocument.keyOf]

/-- The second name begins with the first one but is longer, and behind the first name the two keys
go on alike. -/
theorem overlaps_iff : first.Overlaps second ↔
    ∃ front ≠ [], second.name.toList = first.name.toList ++ front ∧
      '|' :: '|' :: first.value.toList = front ++ '|' :: '|' :: second.value.toList := by
  simp only [StickyDocument.separator_append_eq_iff]
  constructor
  · rintro (⟨between, hname, hvalue⟩ | ⟨hname, hvalue⟩)
    · refine ⟨'|' :: '|' :: between.toList, List.cons_ne_nil _ _, by simp [hname], ?_⟩
      exact Or.inr (Or.inr ⟨between.toList, rfl, by simp [hvalue]⟩)
    · refine ⟨['|'], List.cons_ne_nil _ _, by simp [hname], ?_⟩
      exact Or.inr (Or.inl ⟨rfl, by simp [hvalue]⟩)
  · rintro ⟨front, hne, hname, ⟨hnil, -⟩ | ⟨rfl, hvalue⟩ | ⟨between, rfl, hvalue⟩⟩
    · exact absurd hnil hne
    · refine .bar (String.toList_inj.mp ?_) (String.toList_inj.mp ?_)
      · simpa using hname
      · simpa using hvalue
    · refine .text (String.ofList between) (String.toList_inj.mp ?_) (String.toList_inj.mp ?_)
      · simpa using hname
      · simpa using hvalue

theorem Overlaps.key_eq (h : first.Overlaps second) : first.key = second.key := by
  obtain ⟨front, -, hname, hrest⟩ := overlaps_iff.mp h
  rw [← String.toList_inj, toList_key, toList_key, hname, hrest, List.append_assoc]

theorem eq_of_key_eq (hkey : first.key = second.key) (hname : first.name = second.name) :
    first = second := by
  rw [key, key, hname, StickyDocument.keyOf, StickyDocument.keyOf, String.append_right_inj] at hkey
  rw [mk.injEq]
  exact ⟨hname, hkey⟩

/-- **When two identities have one key.** -/
theorem key_eq_iff :
    first.key = second.key ↔ first = second ∨ first.Overlaps second ∨ second.Overlaps first := by
  constructor
  · intro hkey
    by_cases hname : first.name = second.name
    · exact Or.inl (eq_of_key_eq hkey hname)
    rw [← String.toList_inj] at hkey hname
    rw [toList_key, toList_key, List.append_eq_append_iff] at hkey
    -- The longer name is the shorter one with something behind it.
    rcases hkey with ⟨front, hlonger, hrest⟩ | ⟨front, hlonger, hrest⟩
    · refine Or.inr (Or.inl (overlaps_iff.mpr ⟨front, ?_, hlonger, hrest⟩))
      rintro rfl
      exact hname (by rw [hlonger, List.append_nil])
    · refine Or.inr (Or.inr (overlaps_iff.mpr ⟨front, ?_, hlonger, hrest⟩))
      rintro rfl
      exact hname (by rw [hlonger, List.append_nil])
  · rintro (rfl | hoverlaps | hoverlaps)
    · rfl
    · exact hoverlaps.key_eq
    · exact hoverlaps.key_eq.symm

/-- Users that are told apart by the same attribute have keys of their own, and so have all
identities whose names have no bar. -/
theorem key_ne_of_ne (hne : first ≠ second)
    (hnames : first.name = second.name ∨
      '|' ∉ first.name.toList ∧ '|' ∉ second.name.toList) : first.key ≠ second.key := by
  have hbar {longer shorter : HashIdentity} (h : shorter.Overlaps longer) :
      '|' ∈ longer.name.toList := by
    rcases h with ⟨between, hname, -⟩ | ⟨hname, -⟩ <;> simp [hname]
  intro hkey
  rcases hnames with hname | ⟨hfirst, hsecond⟩
  · exact hne (eq_of_key_eq hkey hname)
  · rcases key_eq_iff.mp hkey with hsame | hoverlaps | hoverlaps
    · exact hne hsame
    · exact hsecond (hbar hoverlaps)
    · exact hfirst (hbar hoverlaps)

end HashIdentity

/-! ## Documents that are shared, and documents that are not -/

/-- The identity whose assignments a document is made for. -/
def StickyDocument.identity (document : StickyDocument) : HashIdentity :=
  ⟨document.attributeName, document.attributeValue⟩

namespace StickyService

variable {service : StickyService} {saved found : HashIdentity}

/-- Saving a document of one identity, accepted or refused, never changes what is found for
another one. -/
def Isolates (service : StickyService) (saved found : HashIdentity) : Prop :=
  ∀ (store : Persistence) (call : SaveCall), call.document.identity = saved →
    service.get (service.afterSave store call) found.name found.value =
      service.get store found.name found.value

theorem get_eq_of_key_eq (hkey : saved.key = found.key) (store : Persistence) :
    service.get store saved.name saved.value = service.get store found.name found.value :=
  congrArg (fun key => read store (service.keyPrefix ++ key)) hkey

/-- Two identities are isolated if their keys differ.  If they do not, a document that is saved for
the one in an empty store is found for the other. -/
theorem isolates_iff_key_ne : service.Isolates saved found ↔ saved.key ≠ found.key := by
  constructor
  · intro hisolates hkey
    let call : SaveCall := ⟨⟨saved.name, saved.value, []⟩, none⟩
    have hget := hisolates {} call rfl
    have hread := service.read_afterSave {} call found.key
    rw [if_pos ⟨rfl, hkey⟩] at hread
    cases hread.symm.trans hget
  · rintro hkey store call rfl
    exact (service.read_afterSave store call found.key).trans (if_neg fun h => hkey h.2)

/-- Saves for identities that are isolated from one do not change what is found for it. -/
theorem get_afterSaves {calls : List SaveCall}
    (hcalls : ∀ call ∈ calls, service.Isolates call.document.identity found)
    (store : Persistence) :
    service.get (service.afterSaves store calls) found.name found.value =
      service.get store found.name found.value := by
  induction calls generalizing store with
  | nil => rfl
  | cons call rest ih =>
      obtain ⟨hcall, hrest⟩ := List.forall_mem_cons.mp hcalls
      exact (ih hrest (service.afterSave store call)).trans (hcall store call rfl)

/-- **When documents of different identities are isolated.**  Saving a document of one identity
never changes what is found for another one, unless they overlap.  Identities that overlap share
whatever is stored for either of them.  Identities with the same name do not overlap, nor do those
whose names have no bar; and what is found for an identity outlasts any saves for identities that
are isolated from it. -/
theorem documents_isolated_iff (service : StickyService) :
    (∀ saved found : HashIdentity, service.Isolates saved found ↔
      saved ≠ found ∧ ¬ saved.Overlaps found ∧ ¬ found.Overlaps saved) ∧
    (∀ first second : HashIdentity, first.Overlaps second → ∀ store,
      service.get store first.name first.value = service.get store second.name second.value) ∧
    (∀ saved found : HashIdentity, saved ≠ found →
      (saved.name = found.name ∨ '|' ∉ saved.name.toList ∧ '|' ∉ found.name.toList) →
        service.Isolates saved found) ∧
    ∀ (store : Persistence) (calls : List SaveCall) (found : HashIdentity),
      (∀ call ∈ calls, service.Isolates call.document.identity found) →
        service.get (service.afterSaves store calls) found.name found.value =
          service.get store found.name found.value := by
  refine ⟨fun saved found => ?_, fun first second h => get_eq_of_key_eq h.key_eq,
    fun saved found hne hnames => ?_, fun store calls found hcalls => get_afterSaves hcalls store⟩
  · rw [isolates_iff_key_ne, Ne, HashIdentity.key_eq_iff, not_or, not_or]
  · exact isolates_iff_key_ne.mpr (HashIdentity.key_ne_of_ne hne hnames)

/-- Two users whose ids have bars: what is saved for the first one is nothing to the second one. -/
theorem barred_values_isolated :
    let service : StickyService := {}
    let calls : List SaveCall := [⟨⟨"id", "eu||u1", [("t__0", "1")]⟩, none⟩]
    '|' ∉ "id".toList ∧ service.Isolates ⟨"id", "eu||u1"⟩ ⟨"id", "u1"⟩ ∧
      service.get (service.afterSaves {} calls) "id" "u1" = none := by
  intro service calls
  have hbar : '|' ∉ "id".toList := by decide
  obtain ⟨-, -, hplain, hsaves⟩ := documents_isolated_iff service
  have hisolates : service.Isolates ⟨"id", "eu||u1"⟩ ⟨"id", "u1"⟩ :=
    hplain _ _ (by decide) (Or.inr ⟨hbar, hbar⟩)
  exact ⟨hbar, hisolates, hsaves {} calls ⟨"id", "u1"⟩ (List.forall_mem_singleton.mpr hisolates)⟩

/-- A name with a separator and an id with one: what is saved for the one identity is found for the
other, and a user who would get the second variation gets the first one because of somebody else.
A bar at the end of a name has the same effect. -/
theorem document_of_two_identities :
    let service : StickyService := {}
    let other : HashIdentity := ⟨"id||eu", "u1"⟩
    let user : HashIdentity := ⟨"id", "eu||u1"⟩
    let document : StickyDocument := ⟨other.name, other.value, [("t1__0", "0")]⟩
    let experiment : Experiment :=
      { key := "t1", variations := [.string "A", .string "B"]
        fallbackAttribute := some other.name }
    let othersRun := ExperimentRun.ofUser [(other.name, .string other.value)] experiment
    let usersRun := ExperimentRun.ofUser [(user.name, .string user.value)] experiment
    (other ≠ user ∧ service.get {} user.name user.value = none ∧
        service.get (service.afterSave {} ⟨document, none⟩) user.name user.value = some document ∧
        ¬ service.Isolates other user) ∧
      ((usersRun.on {}).result.variationId = 1 ∧
        (usersRun.on (othersRun.on {}).store).result.variationId = 0) ∧
      ¬ service.Isolates ⟨"id", "|u1"⟩ ⟨"id|", "u1"⟩ := by
  intro service other user document experiment othersRun usersRun
  refine ⟨⟨by decide, rfl, by decide +kernel, fun h => ?_⟩,
    ⟨by decide +kernel, by decide +kernel⟩, fun h => ?_⟩
  · exact isolates_iff_key_ne.mp h rfl
  · exact isolates_iff_key_ne.mp h rfl

end StickyService

end FeatureFlags
