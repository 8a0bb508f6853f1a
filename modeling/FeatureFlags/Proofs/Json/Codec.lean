import FeatureFlags.Experiment
import FeatureFlags.Proofs.Json.Decoding
import FeatureFlags.Proofs.Json.Regular

/-!
# Things that survive being written and read again

A codec says how things of a type are read off drafts and how they are written, and it knows
that whatever has been read survives being written and read again (`Format.Survives`).  What
is read the second time need not be identical to what was read first, so a codec also says
what becomes of it; this is equal to it and written in the same way.

Codecs are put together like the decoders they are about.  Two things have to be kept track
of on the way.  A field that holds something is not written as `null`, because then it would
be read as a field that holds nothing.  And the limit on nesting that a text was read within
must hold of the text that is written; where a decoder fills in what is missing, the written
text may have a container more, and `room` counts these.
-/

namespace FeatureFlags.Json

open Dictionary (Sorted)

/-- How things of a type are read and written. -/
structure Format (α : Type) where
  decode : Decoder α
  toJson : α → Json
  /-- What a thing becomes by being written and read again. -/
  reread : α → α
  same : α → α → Bool
  /-- So many containers have to be free inside of those around the thing. -/
  room : Nat

/-- What has been read off a draft survives being written and read again. -/
structure Format.Survives {α : Type} (format : Format α) (draft : Draft) (x : α) : Prop where
  decode_toJson : format.decode (.ofJson (format.toJson x)) = some (format.reread x)
  toJson_reread : format.toJson (format.reread x) = format.toJson x
  same_reread : format.same x (format.reread x) = true
  regular : (format.toJson x).Regular
  null : format.toJson x = .null → draft = .null
  fits (depth : Nat) (hroom : depth + format.room ≤ depthLimit) (hfits : draft.Fits depth) :
    (Draft.ofJson (format.toJson x)).Fits depth

/-- A format in which everything that is read survives. -/
structure Codec (α : Type) extends Format α where
  survives ⦃draft : Draft⦄ ⦃x : α⦄ (hsound : draft.Sound) (h : decode draft = some x) :
    toFormat.Survives draft x

namespace Codec

variable {α β : Type}

/-! ## Values without parts -/

/-- A codec for what is read again as it was. -/
def exact (decode : Decoder α) (toJson : α → Json) (same : α → α → Bool) (room : Nat)
    (h : ∀ ⦃draft : Draft⦄ ⦃x : α⦄, draft.Sound → decode draft = some x →
      Format.Survives ⟨decode, toJson, id, same, room⟩ draft x) : Codec α where
  decode := decode
  toJson := toJson
  reread := id
  same := same
  room := room
  survives := h

/-- Any tree, which is kept as it is. -/
def json : Codec Json :=
  exact Decoder.json id Json.same 0 fun draft json hsound h => by
    have hregular := Draft.regular_of_toJson? hsound h
    refine ⟨toJson?_ofJson_of_regular hregular, rfl, same_self hregular, hregular, fun hnull => ?_,
      fun depth _ hfits => Draft.fits_of_toJson? hfits h⟩
    have hnull : json = .null := hnull
    rw [hnull] at h
    exact Draft.eq_null_of_toJson? h

def string : Codec String :=
  exact Decoder.string .string (fun a b => a = b) 0 fun draft s _ h => by
    cases draft with
    | string s =>
        cases h
        exact ⟨rfl, rfl, by simp, trivial, by simp, fun _ _ _ => trivial⟩
    | _ => cases h

def bool : Codec Bool :=
  exact Decoder.bool .bool (fun a b => a = b) 0 fun draft b _ h => by
    cases draft with
    | bool b =>
        cases h
        exact ⟨rfl, rfl, by simp, trivial, by simp, fun _ _ _ => trivial⟩
    | _ => cases h

/-- Natural numbers of at most 64 bits. -/
def natBelow (bound : Nat) (hbound : bound ≤ Nat.pow 2 64) : Codec Nat :=
  exact (Decoder.natBelow bound) .ofNat (fun a b => a = b) 0 fun draft n _ h => by
    cases draft with
    | integer value =>
        rw [Decoder.natBelow] at h
        split at h
        · rename_i hrange
          simp only [Bool.and_eq_true, decide_eq_true_eq] at hrange
          cases h
          have hpower : Nat.pow 2 64 = 0x10000000000000000 := by decide
          have hword : IsWord64 (value.toNat : Int) := by
            unfold IsWord64
            omega
          refine ⟨?_, rfl, by simp, hword, by simp [ofNat], fun _ _ _ => hword⟩
          have hagain : (0 ≤ (value.toNat : Int) && (value.toNat : Int) < bound) = true := by
            simp only [Bool.and_eq_true, decide_eq_true_eq]
            omega
          simp only [ofNat, Draft.ofJson, Decoder.natBelow, if_pos hagain, Int.toNat_natCast, id]
        · cases h
    | _ => cases h

theorem isDouble_of_number {draft : Draft} {x : Number} (hsound : draft.Sound)
    (h : Decoder.number draft = some x) : x.IsDouble := by
  cases draft with
  | integer n =>
      cases h
      exact IsWord64.isDouble hsound
  | float y =>
      cases h
      exact hsound
  | _ => cases h

theorem ofNumber_eq {x : Number} (hx : x.IsDouble) : ofNumber x = .float x := by
  rw [ofNumber, if_pos hx.isFinite]

def number : Codec Number :=
  exact Decoder.number ofNumber Number.equals 0 fun draft x hsound h => by
    have hx := isDouble_of_number hsound h
    have hjson := ofNumber_eq hx
    refine ⟨?_, rfl, equals_self hx.isFinite, ?_, ?_, fun _ _ _ => ?_⟩
    · simp only [hjson]
      rfl
    · simp only [hjson]
      exact hx
    · simp [hjson]
    · simp only [hjson]
      trivial

/-- Numbers of 32 bits without sign. -/
abbrev word32 : Codec Nat := natBelow (Nat.pow 2 32) (by decide)

/-- Numbers of 64 bits without sign. -/
abbrev word64 : Codec Nat := natBelow (Nat.pow 2 64) (Nat.le_refl _)

/-! ## Lists -/

/-- The items of an array survive. -/
theorem survives_items (codec : Codec α) {draft : Draft} {xs : List α} (hsound : draft.Sound)
    (h : Decoder.list codec.decode draft = some xs) :
    ∃ items, draft = .array items ∧ ∀ x ∈ xs, ∃ item ∈ items, codec.Survives item x := by
  cases draft with
  | array items =>
      refine ⟨items, rfl, fun x hx => ?_⟩
      obtain ⟨item, hitem, hread⟩ := List.exists_of_mem_mapM h hx
      exact ⟨item, hitem, codec.survives (Draft.sound_array_iff.mp hsound item hitem) hread⟩
  | _ => cases h

/-- Arrays of any length. -/
def list (codec : Codec α) : Codec (List α) where
  decode := Decoder.list codec.decode
  toJson xs := .array (xs.map codec.toJson)
  reread xs := xs.map codec.reread
  same xs ys := xs.isEqv ys codec.same
  room := codec.room + 1
  survives draft xs hsound h := by
    obtain ⟨items, rfl, hitems⟩ := survives_items codec hsound h
    refine ⟨?_, ?_, List.isEqv_map_iff.mpr fun x hx => ?_, ?_, by simp, fun depth hroom hfits => ?_⟩
    · dsimp only
      rw [Draft.ofJson, Draft.ofItems_eq_map, List.map_map]
      refine List.mapM_eq_some_iff.mpr (List.forall₂_map_left_iff.mpr
        (List.forall₂_map_right_iff.mpr (List.forall₂_same.mpr fun x hx => ?_)))
      obtain ⟨item, -, hitem⟩ := hitems x hx
      exact hitem.decode_toJson
    · dsimp only
      rw [List.map_map]
      refine congrArg Json.array (List.map_congr_left fun x hx => ?_)
      obtain ⟨item, -, hitem⟩ := hitems x hx
      exact hitem.toJson_reread
    · obtain ⟨item, -, hitem⟩ := hitems x hx
      exact hitem.same_reread
    · rw [regular_array_iff, List.forall_mem_map]
      intro x hx
      obtain ⟨item, -, hitem⟩ := hitems x hx
      exact hitem.regular
    · refine ⟨hfits.1, Draft.itemsFit_iff.mpr ?_⟩
      rw [Draft.ofItems_eq_map, List.map_map, List.forall_mem_map]
      intro x hx
      obtain ⟨item, hmem, hitem⟩ := hitems x hx
      have hroom : depth + (codec.room + 1) ≤ depthLimit := hroom
      exact hitem.fits (depth + 1) (by omega) (Draft.itemsFit_iff.mp hfits.2 item hmem)

/-! ## Dictionaries -/

end Codec

/-- Objects with arbitrary names. -/
def Format.dictionary {α : Type} (format : Format α) : Format (Dictionary α) where
  decode := Decoder.dictionary format.decode
  toJson entries := .object (Dictionary.mapValues format.toJson entries)
  reread entries := Dictionary.mapValues format.reread entries
  same := Dictionary.same format.same
  room := format.room + 1

namespace Format

variable {α : Type}

theorem sorted_mapValues {β : Type} (f : α → β) {entries : Dictionary α} (h : Sorted entries) :
    Sorted (Dictionary.mapValues f entries) :=
  List.pairwise_map.mpr h

/-- What has been read as a dictionary is in order, and each value has been read off a member. -/
theorem exists_of_dictionary {decode : Decoder α} {draft : Draft} {entries : Dictionary α}
    (h : Decoder.dictionary decode draft = some entries) :
    Sorted entries ∧ ∃ members, draft = .object members ∧
      ∀ entry ∈ entries, ∃ member ∈ members, decode member.2 = some entry.2 := by
  cases draft with
  | object members =>
      obtain ⟨read, hread, rfl⟩ := Option.map_eq_some_iff.mp h
      refine ⟨Dictionary.sorted_ofList read, members, rfl, fun entry hentry => ?_⟩
      obtain ⟨member, hmember, hnamed⟩ :=
        List.exists_of_mem_mapM hread (Dictionary.mem_of_mem_ofList hentry)
      obtain ⟨value, hvalue, rfl⟩ := Option.map_eq_some_iff.mp hnamed
      exact ⟨member, hmember, hvalue⟩
  | _ => cases h

/-- **A dictionary survives if its values do.** -/
theorem survives_dictionary (format : Format α) {draft : Draft} {entries : Dictionary α}
    (hsound : draft.Sound) (h : Decoder.dictionary format.decode draft = some entries)
    (hvalues : ∀ entry ∈ entries, ∀ member : Draft, member.Sound →
      format.decode member = some entry.2 → format.Survives member entry.2) :
    format.dictionary.Survives draft entries := by
  obtain ⟨hsorted, members, rfl, hread⟩ := exists_of_dictionary h
  have hsurvive : ∀ entry ∈ entries, ∃ member ∈ members, format.Survives member.2 entry.2 := by
    intro entry hentry
    obtain ⟨member, hmember, hvalue⟩ := hread entry hentry
    have hmemberSound := Draft.sound_object_iff.mp hsound member hmember
    exact ⟨member, hmember, hvalues entry hentry member.2 hmemberSound hvalue⟩
  refine ⟨?_, ?_, Dictionary.same_mapValues_iff.mpr fun entry hentry => ?_, ?_,
    by simp [dictionary], fun depth hroom hfits => ?_⟩
  · have hmembers : (Draft.ofMembers (Dictionary.mapValues format.toJson entries)).mapM
        (fun member => (format.decode member.2).map (member.1, ·)) =
          some (Dictionary.mapValues format.reread entries) := by
      rw [Draft.ofMembers_eq_map, Dictionary.mapValues, List.map_map]
      refine List.mapM_eq_some_iff.mpr (List.forall₂_map_left_iff.mpr
        (List.forall₂_map_right_iff.mpr (List.forall₂_same.mpr fun entry hentry => ?_)))
      obtain ⟨member, -, hvalue⟩ := hsurvive entry hentry
      simp only [Function.comp, hvalue.decode_toJson, Option.map_some]
    -- the names are in order already, so no entry is moved or replaced
    refine (congrArg (Option.map Dictionary.ofList) hmembers).trans ?_
    rw [Option.map_some, Dictionary.ofList_of_sorted (sorted_mapValues _ hsorted)]
    rfl
  · dsimp only [dictionary]
    rw [Dictionary.mapValues, Dictionary.mapValues, Dictionary.mapValues, List.map_map]
    refine congrArg Json.object (List.map_congr_left fun entry hentry => ?_)
    obtain ⟨member, -, hvalue⟩ := hsurvive entry hentry
    exact congrArg (Prod.mk entry.1) hvalue.toJson_reread
  · obtain ⟨member, -, hvalue⟩ := hsurvive entry hentry
    exact hvalue.same_reread
  · refine regular_object_iff.mpr ⟨sorted_mapValues _ hsorted, ?_⟩
    rw [Dictionary.mapValues, List.forall_mem_map]
    intro entry hentry
    obtain ⟨member, -, hvalue⟩ := hsurvive entry hentry
    exact hvalue.regular
  · refine ⟨hfits.1, Draft.membersFit_iff.mpr ?_⟩
    rw [Draft.ofMembers_eq_map, Dictionary.mapValues, List.map_map, List.forall_mem_map]
    intro entry hentry
    obtain ⟨member, hmember, hvalue⟩ := hsurvive entry hentry
    have hroom : depth + (format.room + 1) ≤ depthLimit := hroom
    exact hvalue.fits (depth + 1) (by omega) (Draft.membersFit_iff.mp hfits.2 member hmember)

end Format

namespace Codec

variable {α β : Type}

/-- Objects with arbitrary names. -/
def dictionary (codec : Codec α) : Codec (Dictionary α) where
  toFormat := codec.toFormat.dictionary
  survives _ _ hsound h :=
    codec.toFormat.survives_dictionary hsound h fun _ _ _ hmember hvalue =>
      codec.survives hmember hvalue

/-! ## Optional values -/

/-- The tree of a value that may be missing. -/
def optionToJson (toJson : α → Json) (x : Option α) : Json := (x.map toJson).getD .null

theorem nullable_of_ne_null {decode : Decoder α} {draft : Draft} (h : draft ≠ .null) :
    Decoder.nullable decode draft = (decode draft).map some := by
  cases draft with
  | null => exact absurd rfl h
  | _ => rfl

theorem ofJson_eq_null {json : Json} (h : Draft.ofJson json = .null) : json = .null := by
  cases json with
  | null => rfl
  | _ => cases h

/-- A value or `null`. -/
def nullable (codec : Codec α) : Codec (Option α) where
  decode := Decoder.nullable codec.decode
  toJson := optionToJson codec.toJson
  reread := Option.map codec.reread
  same := sameOption codec.same
  room := codec.room
  survives draft x hsound h := by
    by_cases hnull : draft = .null
    · subst hnull
      cases h
      exact ⟨rfl, rfl, rfl, trivial, fun _ => rfl, fun _ _ _ => trivial⟩
    · rw [nullable_of_ne_null hnull] at h
      obtain ⟨value, hvalue, rfl⟩ := Option.map_eq_some_iff.mp h
      have hsurvives := codec.survives hsound hvalue
      have hwritten : Draft.ofJson (codec.toJson value) ≠ .null := fun heq =>
        hnull (hsurvives.null (ofJson_eq_null heq))
      refine ⟨?_, hsurvives.toJson_reread.trans rfl, hsurvives.same_reread, hsurvives.regular,
        hsurvives.null, hsurvives.fits⟩
      exact (nullable_of_ne_null hwritten).trans
        (congrArg (Option.map some) hsurvives.decode_toJson)

/-- A value that is there, be it written as `null`. -/
def present (codec : Codec α) : Codec (Option α) where
  decode draft := (codec.decode draft).map some
  toJson := optionToJson codec.toJson
  reread := Option.map codec.reread
  same := sameOption codec.same
  room := codec.room
  survives draft x hsound h := by
    obtain ⟨value, hvalue, rfl⟩ := Option.map_eq_some_iff.mp h
    have hsurvives := codec.survives hsound hvalue
    exact ⟨congrArg (Option.map some) hsurvives.decode_toJson, hsurvives.toJson_reread,
      hsurvives.same_reread, hsurvives.regular, hsurvives.null, hsurvives.fits⟩

/-! ## What can be read anywhere -/

/-- The thing is read off a draft that may stand wherever there is room. -/
def Readable (codec : Codec α) (x : α) : Prop :=
  ∃ draft : Draft, draft.Sound ∧ codec.decode draft = some x ∧
    ∀ depth, depth + codec.room ≤ depthLimit → draft.Fits depth

theorem readable_string (s : String) : string.Readable s :=
  ⟨.string s, trivial, rfl, fun _ _ => trivial⟩

theorem readable_bool (b : Bool) : bool.Readable b := ⟨.bool b, trivial, rfl, fun _ _ => trivial⟩

theorem readable_none (codec : Codec α) : codec.nullable.Readable none :=
  ⟨.null, trivial, rfl, fun _ _ => trivial⟩

theorem readable_nil (codec : Codec α) : codec.list.Readable [] := by
  refine ⟨.array [], trivial, rfl, fun depth hroom => ⟨?_, trivial⟩⟩
  have hroom : depth + (codec.room + 1) ≤ depthLimit := hroom
  omega

theorem readable_empty (codec : Codec α) : codec.dictionary.Readable [] := by
  refine ⟨.object [], trivial, rfl, fun depth hroom => ⟨?_, trivial⟩⟩
  have hroom : depth + (codec.room + 1) ≤ depthLimit := hroom
  omega

/-! ## Other views of what is read -/

/-- A codec for what consists of the same parts. -/
def through (codec : Codec α) (decode : Decoder β) (toJson : β → Json) (same : β → β → Bool)
    (build : α → β) (parts : β → α) (hparts : ∀ a, parts (build a) = a)
    (hdecode : ∀ draft, decode draft = (codec.decode draft).map build)
    (htoJson : ∀ b, toJson b = codec.toJson (parts b))
    (hsame : ∀ b c, codec.same (parts b) (parts c) = true → same b c = true) : Codec β where
  decode := decode
  toJson := toJson
  reread b := build (codec.reread (parts b))
  same := same
  room := codec.room
  survives draft b hsound h := by
    rw [hdecode] at h
    obtain ⟨a, ha, rfl⟩ := Option.map_eq_some_iff.mp h
    have hsurvives := codec.survives hsound ha
    refine ⟨?_, ?_, hsame _ _ ?_, ?_, ?_, fun depth hroom hfits => ?_⟩
    · dsimp only
      rw [htoJson, hdecode, hparts, hsurvives.decode_toJson, Option.map_some]
    · dsimp only
      rw [htoJson, htoJson, hparts, hparts, hsurvives.toJson_reread]
    · simp only [hparts]
      exact hsurvives.same_reread
    · dsimp only
      rw [htoJson, hparts]
      exact hsurvives.regular
    · dsimp only
      rw [htoJson, hparts]
      exact hsurvives.null
    · dsimp only
      rw [htoJson, hparts]
      exact hsurvives.fits depth hroom hfits

/-! ## Equality and rereading -/

@[simp]
theorem reread_string : string.reread = id := rfl

@[simp]
theorem reread_bool : bool.reread = id := rfl

@[simp]
theorem reread_natBelow (bound : Nat) (hbound : bound ≤ Nat.pow 2 64) :
    (natBelow bound hbound).reread = id := rfl

@[simp]
theorem reread_number : number.reread = id := rfl

@[simp]
theorem reread_list (codec : Codec α) : codec.list.reread = List.map codec.reread := rfl

@[simp]
theorem reread_dictionary (codec : Codec α) :
    codec.dictionary.reread = Dictionary.mapValues codec.reread := rfl

@[simp]
theorem same_string : string.same = fun a b => decide (a = b) := rfl

@[simp]
theorem same_bool : bool.same = fun a b => decide (a = b) := rfl

@[simp]
theorem same_natBelow (bound : Nat) (hbound : bound ≤ Nat.pow 2 64) :
    (natBelow bound hbound).same = fun a b => decide (a = b) := rfl

@[simp]
theorem same_number : number.same = Number.equals := rfl

@[simp]
theorem same_list (codec : Codec α) :
    codec.list.same = fun xs ys => xs.isEqv ys codec.same := rfl

@[simp]
theorem same_dictionary (codec : Codec α) :
    codec.dictionary.same = Dictionary.same codec.same := rfl

end Codec

@[simp]
theorem sameOption_decide_eq {α : Type} [DecidableEq α] (x y : Option α) :
    sameOption (fun a b => decide (a = b)) x y = decide (x = y) := by
  cases x <;> cases y <;> simp [sameOption]

theorem sameOption_map_right {α : Type} {same : α → α → Bool} {f : α → α}
    (h : ∀ a b, same a (f b) = same a b) (x y : Option α) :
    sameOption same x (y.map f) = sameOption same x y := by
  cases x with
  | none => cases y <;> rfl
  | some a =>
      cases y with
      | none => rfl
      | some b => exact h a b

@[simp]
theorem same_decide_eq {α : Type} [DecidableEq α] (first second : Dictionary α) :
    Dictionary.same (fun a b => decide (a = b)) first second = decide (first = second) := by
  rw [← List.isEqv_decide_eq]
  unfold Dictionary.same
  simp [Prod.ext_iff]

end FeatureFlags.Json
