import FeatureFlags.Proofs.Json.Codec

/-!
# Records that survive being written and read again

The fields of a record are read one after the other and independently of each other.  So a
codec for a record is put together from codecs for its fields (`Fields.and`), and the record
survives if each of its fields does (`Fields.codec`).

What a field reads is what the record has under its name.  A record is written as an object,
and the members that are written are found again under their names, because the names of the
fields are all different and each is the name its field is written under
(`Record.exists_of_written`).  A field that is left out is read as its default, so it must
have been this default (`Fields.field`).
-/

namespace FeatureFlags.Json

/-! ## Records that have been written -/

/-- The members of an object with the given fields, of which some may have been left out. -/
def writtenMembers (fields : List (String × Option Json)) : List (String × Json) :=
  fields.flatMap fun field => optionalMember field.1 field.2

theorem mem_writtenMembers {fields : List (String × Option Json)} {name : String} {json : Json} :
    (name, json) ∈ writtenMembers fields ↔ (name, some json) ∈ fields := by
  unfold writtenMembers
  rw [List.mem_flatMap]
  constructor
  · rintro ⟨⟨key, value⟩, hfield, hmember⟩
    cases value with
    | none => cases hmember
    | some value =>
        cases List.mem_singleton.mp hmember
        exact hfield
  · intro hfield
    exact ⟨(name, some json), hfield, List.mem_singleton_self _⟩

/-- The members that are written are among the fields, in their order. -/
theorem names_writtenMembers (fields : List (String × Option Json)) :
    ((writtenMembers fields).map (·.1)).Sublist (fields.map (·.1)) := by
  induction fields with
  | nil => exact .slnil
  | cons field rest ih =>
      obtain ⟨name, value⟩ := field
      cases value with
      | none => exact ih.cons _
      | some json => exact ih.cons_cons _

@[simp]
theorem writtenMembers_nil : writtenMembers [] = [] := rfl

@[simp]
theorem writtenMembers_cons (name : String) (value : Option Json)
    (rest : List (String × Option Json)) :
    writtenMembers ((name, value) :: rest) = optionalMember name value ++ writtenMembers rest :=
  rfl

/-- The record has in each field what is written for it. -/
def Record.Holds (record : Record) (fields : List (String × Option Json)) : Prop :=
  ∀ field ∈ fields, record.lookup field.1 = field.2.map Draft.ofJson

/-- A name that a field is written under, and that no earlier field answers to. -/
def IsMain (schema : Schema) (name : String) : Prop :=
  (schema.find? (·.answersTo name)).map (·.main) = some name

instance (schema : Schema) (name : String) : Decidable (IsMain schema name) :=
  inferInstanceAs (Decidable (_ = _))

theorem recognized_of_isMain {schema : Schema} {members : List (String × Draft)}
    (h : ∀ member ∈ members, IsMain schema member.1) :
    Record.recognized schema members = members := by
  induction members with
  | nil => rfl
  | cons member rest ih =>
      obtain ⟨hmember, hrest⟩ := List.forall_mem_cons.mp h
      obtain ⟨field, hfield, hmain⟩ := Option.map_eq_some_iff.mp hmember
      have htail := ih hrest
      unfold Record.recognized at htail ⊢
      rw [List.filterMap_cons, hfield, Option.map_some, htail, hmain]

/-- **What has been written is found again under the names of the fields.** -/
theorem Record.exists_of_written {schema : Schema} {fields : List (String × Option Json)}
    (hnames : (fields.map (·.1)).Nodup) (hmain : ∀ name ∈ fields.map (·.1), IsMain schema name) :
    ∃ record, ofDraft? schema (.ofJson (.ofMembers (writtenMembers fields))) = some record ∧
      record.Holds fields := by
  have hsublist := names_writtenMembers fields
  have hwritten : ((writtenMembers fields).map (·.1)).Nodup := hsublist.nodup hnames
  have hperm := Dictionary.ofList_perm hwritten
  have hsorted := Dictionary.sorted_ofList (writtenMembers fields)
  obtain ⟨drafts, hdrafts⟩ : ∃ drafts, drafts =
      Dictionary.mapValues Draft.ofJson (Dictionary.ofList (writtenMembers fields)) := ⟨_, rfl⟩
  have hnodup : (drafts.map (·.1)).Nodup := by
    rw [hdrafts, Dictionary.mapValues, List.map_map]
    exact hsorted.nodup_keys
  have hrecognized : recognized schema drafts = drafts := by
    refine recognized_of_isMain fun member hmember => ?_
    rw [hdrafts] at hmember
    obtain ⟨entry, hentry, rfl⟩ := List.mem_map.mp hmember
    refine hmain entry.1 (hsublist.subset (List.mem_map_of_mem ?_))
    exact hperm.mem_iff.mp hentry
  have hobject : Draft.ofJson (.ofMembers (writtenMembers fields)) = .object drafts := by
    rw [hdrafts, ofMembers, Draft.ofJson, Draft.ofMembers_eq_map]
    rfl
  refine ⟨drafts.reverse, ?_, fun field hfield => ?_⟩
  · rw [hobject, ofDraft?_object, hrecognized, if_pos hnodup]
  · obtain ⟨name, value⟩ := field
    rw [lookup_of_recognized hnodup, hdrafts, Dictionary.get?_mapValues]
    refine congrArg (Option.map Draft.ofJson) ?_
    cases value with
    | some json =>
        refine (Dictionary.get?_eq_some_iff hsorted.nodup_keys).mpr ?_
        exact hperm.mem_iff.mpr (mem_writtenMembers.mpr hfield)
    | none =>
        -- a field of this name that is written would be a second one
        refine Dictionary.get?_eq_none_of_forall_ne fun entry hentry heq => ?_
        have hother : (entry.1, some entry.2) ∈ fields :=
          mem_writtenMembers.mp (hperm.mem_iff.mp hentry)
        have hsame := List.inj_on_of_nodup_map hnames hother hfield heq
        cases (Prod.mk.inj hsame).2

/-! ## Fields -/

/-- How some fields of a record are read and written. -/
structure FieldsFormat (α : Type) where
  read : Record → Option α
  /-- The fields with what is written for them, if anything is. -/
  write : α → List (String × Option Json)
  reread : α → α
  same : α → α → Bool
  room : Nat

/-- What has been read off the fields of a record survives being written and read again. -/
structure FieldsFormat.Survive {α : Type} (format : FieldsFormat α) (record : Record) (x : α) :
    Prop where
  read_written (written : Record) (hwritten : written.Holds (format.write x)) :
    format.read written = some (format.reread x)
  write_reread : format.write (format.reread x) = format.write x
  same_reread : format.same x (format.reread x) = true
  regular (name : String) (json : Json) (hfield : (name, some json) ∈ format.write x) :
    json.Regular
  fits (depth : Nat) (hroom : depth + format.room ≤ depthLimit)
    (hfits : ∀ name draft, record.lookup name = some draft → draft.Fits depth) (name : String)
    (json : Json) (hfield : (name, some json) ∈ format.write x) : (Draft.ofJson json).Fits depth

/-- Fields of which everything that is read survives. -/
structure Fields (α : Type) extends FieldsFormat α where
  names : List String
  names_write (x : α) : (write x).map (·.1) = names
  survive ⦃record : Record⦄ ⦃x : α⦄
    (hsound : ∀ name draft, record.lookup name = some draft → draft.Sound)
    (h : read record = some x) : toFieldsFormat.Survive record x

namespace Fields

variable {α β : Type}

/-- One field with a way to read it and a way to write it. -/
def single (name : String) (codec : Codec α) (read : Record → Option α)
    (write : α → Option Json) : FieldsFormat α where
  read := read
  write x := [(name, write x)]
  reread := codec.reread
  same := codec.same
  room := codec.room

section Single

variable {name : String} {codec : Codec α} {read : Record → Option α} {write : α → Option Json}
  {record : Record} {x : α}

theorem single_holds {written : Record}
    (h : written.Holds ((single name codec read write).write x)) :
    written.lookup name = (write x).map Draft.ofJson :=
  h (name, write x) (List.mem_singleton_self _)

theorem mem_single_write {other : String} {json : Json}
    (h : (other, some json) ∈ (single name codec read write).write x) : write x = some json :=
  (Prod.mk.inj (List.mem_singleton.mp h)).2.symm

/-- What is written for a field survives if it survives by itself. -/
theorem survive_of_written {draft : Draft} (hsurvives : codec.Survives draft x)
    (hread : ∀ written field, written.lookup name = some field → read written = codec.decode field)
    (hwrite : write x = some (codec.toJson x))
    (hagain : write (codec.reread x) = some (codec.toJson (codec.reread x)))
    (hfits : ∀ depth, depth + codec.room ≤ depthLimit →
      (∀ name draft, record.lookup name = some draft → draft.Fits depth) → draft.Fits depth) :
    (single name codec read write).Survive record x := by
  refine ⟨fun written hwritten => ?_, ?_, hsurvives.same_reread, fun other json hfield => ?_,
    fun depth hroom hrecord other json hfield => ?_⟩
  · have hlookup := single_holds hwritten
    rw [hwrite] at hlookup
    exact (hread written _ hlookup).trans hsurvives.decode_toJson
  · dsimp only [single]
    rw [hwrite, hagain, hsurvives.toJson_reread]
  · cases hwrite.symm.trans (mem_single_write hfield)
    exact hsurvives.regular
  · cases hwrite.symm.trans (mem_single_write hfield)
    exact hsurvives.fits depth hroom (hfits depth hroom hrecord)

/-- What is left out survives if it is read where nothing is. -/
theorem survive_of_omitted (hread : ∀ written : Record, written.lookup name = none →
    read written = some x) (hwrite : write x = none) (hreread : codec.reread x = x)
    (hsame : codec.same x x = true) : (single name codec read write).Survive record x := by
  have hnothing {other : String} {json : Json}
      (hfield : (other, some json) ∈ (single name codec read write).write x) : False := by
    cases hwrite.symm.trans (mem_single_write hfield)
  refine ⟨fun written hwritten => ?_, ?_, ?_, fun _ _ hfield => (hnothing hfield).elim,
    fun _ _ _ _ _ hfield => (hnothing hfield).elim⟩
  · have hlookup := single_holds hwritten
    rw [hwrite] at hlookup
    exact (hread written hlookup).trans (congrArg some hreread.symm)
  · dsimp only [single]
    rw [hreread]
  · dsimp only [single]
    rw [hreread]
    exact hsame

end Single

/-- A field that has to be there. -/
def required (name : String) (codec : Codec α) : Fields α where
  toFieldsFormat := single name codec (fun record => record.required name codec.decode)
    fun x => some (codec.toJson x)
  names := [name]
  names_write _ := rfl
  survive record x hsound h := by
    obtain ⟨draft, hlookup, hread⟩ := Option.bind_eq_some_iff.mp h
    refine survive_of_written (codec.survives (hsound name draft hlookup) hread)
      (fun written field hfield => ?_) rfl rfl fun depth _ hfits => hfits name draft hlookup
    rw [Record.required, hfield, Option.bind_some]

/-- What a field that may be missing is read as if it is, and when it is left out in writing. -/
structure Default (codec : Codec α) where
  value : α
  /-- Whether the field is left out. -/
  omitted : α → Bool
  eq_value (x : α) (h : omitted x = true) : x = value
  omitted_reread (x : α) : omitted (codec.reread x) = omitted x
  /-- The default itself survives. -/
  reread : omitted value = true →
    codec.reread value = value ∧ codec.same value value = true
  /-- A default that is written could have been read. -/
  readable : omitted value = false → codec.Readable value

/-- What is written for a field that may be missing. -/
def Default.write {codec : Codec α} (default : Default codec) (x : α) : Option Json :=
  if default.omitted x then none else some (codec.toJson x)

/-- What was read for the field survives, be it the default or not. -/
theorem Default.survives {codec : Codec α} (default : Default codec) {name : String}
    {record : Record} {x : α}
    (hsound : ∀ name draft, record.lookup name = some draft → draft.Sound)
    (h : record.withDefault name codec.decode default.value = some x)
    (hwritten : default.omitted x = false) :
    ∃ draft : Draft, codec.Survives draft x ∧
      ∀ depth, depth + codec.room ≤ depthLimit →
        (∀ name draft, record.lookup name = some draft → draft.Fits depth) → draft.Fits depth := by
  unfold Record.withDefault at h
  split at h
  · rename_i draft hlookup
    exact ⟨draft, codec.survives (hsound name draft hlookup) h,
      fun depth _ hfits => hfits name draft hlookup⟩
  · cases h
    obtain ⟨draft, hdraft, hread, hfits⟩ := default.readable hwritten
    exact ⟨draft, codec.survives hdraft hread, fun depth hroom _ => hfits depth hroom⟩

/-- A field that may be missing. -/
def field (name : String) (codec : Codec α) (default : Default codec) : Fields α where
  toFieldsFormat := single name codec
    (fun record => record.withDefault name codec.decode default.value) default.write
  names := [name]
  names_write _ := rfl
  survive record x hsound h := by
    cases homitted : default.omitted x with
    | true =>
        obtain rfl := default.eq_value x homitted
        obtain ⟨hreread, hsame⟩ := default.reread homitted
        refine survive_of_omitted (fun written hlookup => ?_) (if_pos homitted) hreread hsame
        rw [Record.withDefault, hlookup]
    | false =>
        obtain ⟨draft, hsurvives, hfits⟩ := default.survives hsound h homitted
        have hwrite {y : α} (hy : default.omitted y = false) :
            default.write y = some (codec.toJson y) := by
          rw [Default.write, hy]
          rfl
        refine survive_of_written hsurvives (fun written field hfield => ?_) (hwrite homitted)
          (hwrite ((default.omitted_reread x).trans homitted)) hfits
        rw [Record.withDefault, hfield]

/-! ## Ways to be missing -/

/-- A field that may be missing and is always written. -/
def withDefault (name : String) (codec : Codec α) (value : α) (h : codec.Readable value) :
    Fields α :=
  field name codec
    { value
      omitted := fun _ => false
      eq_value := fun _ h => by cases h
      omitted_reread := fun _ => rfl
      reread := fun h => by cases h
      readable := fun _ => h }

/-- A field that may be missing or `null` and is then left out. -/
def optional (name : String) (codec : Codec α) : Fields (Option α) :=
  field name codec.nullable
    { value := none
      omitted := Option.isNone
      eq_value := fun _ h => Option.isNone_iff_eq_none.mp h
      omitted_reread := fun x => by cases x <;> rfl
      reread := fun _ => ⟨rfl, rfl⟩
      readable := fun h => by cases h }

/-- A field that may be missing or `null` and is then written as `null`. -/
def nullable (name : String) (codec : Codec α) : Fields (Option α) :=
  withDefault name codec.nullable none codec.readable_none

/-- A field that may be missing and is then left out, but is not missing if it is `null`. -/
def present (name : String) (codec : Codec α) : Fields (Option α) :=
  field name codec.present
    { value := none
      omitted := Option.isNone
      eq_value := fun _ h => Option.isNone_iff_eq_none.mp h
      omitted_reread := fun x => by cases x <;> rfl
      reread := fun _ => ⟨rfl, rfl⟩
      readable := fun h => by cases h }

/-- A list that may be missing and is left out if it is empty. -/
def nonEmpty (name : String) (codec : Codec α) : Fields (List α) :=
  field name codec.list
    { value := []
      omitted := List.isEmpty
      eq_value := fun _ h => List.isEmpty_iff.mp h
      omitted_reread := fun xs => by cases xs <;> rfl
      reread := fun _ => ⟨rfl, rfl⟩
      readable := fun h => by cases h }

@[simp]
theorem write_required (name : String) (codec : Codec α) (x : α) :
    (required name codec).write x = [(name, some (codec.toJson x))] := rfl

@[simp]
theorem write_withDefault (name : String) (codec : Codec α) (value : α) (h) (x : α) :
    (withDefault name codec value h).write x = [(name, some (codec.toJson x))] := rfl

@[simp]
theorem write_optional (name : String) (codec : Codec α) (x : Option α) :
    (optional name codec).write x = [(name, x.map codec.toJson)] := by
  cases x <;> rfl

@[simp]
theorem write_nullable (name : String) (codec : Codec α) (x : Option α) :
    (nullable name codec).write x = [(name, some ((x.map codec.toJson).getD .null))] := rfl

@[simp]
theorem write_present (name : String) (codec : Codec α) (x : Option α) :
    (present name codec).write x = [(name, x.map codec.toJson)] := by
  cases x <;> rfl

@[simp]
theorem write_nonEmpty (name : String) (codec : Codec α) (xs : List α) :
    (nonEmpty name codec).write xs =
      [(name, if xs.isEmpty then none else some (.array (xs.map codec.toJson)))] := rfl

@[simp]
theorem reread_required (name : String) (codec : Codec α) :
    (required name codec).reread = codec.reread := rfl

@[simp]
theorem reread_withDefault (name : String) (codec : Codec α) (value : α) (h) :
    (withDefault name codec value h).reread = codec.reread := rfl

@[simp]
theorem reread_optional (name : String) (codec : Codec α) :
    (optional name codec).reread = Option.map codec.reread := rfl

@[simp]
theorem reread_nullable (name : String) (codec : Codec α) :
    (nullable name codec).reread = Option.map codec.reread := rfl

@[simp]
theorem reread_present (name : String) (codec : Codec α) :
    (present name codec).reread = Option.map codec.reread := rfl

@[simp]
theorem reread_nonEmpty (name : String) (codec : Codec α) :
    (nonEmpty name codec).reread = List.map codec.reread := rfl

@[simp]
theorem same_required (name : String) (codec : Codec α) :
    (required name codec).same = codec.same := rfl

@[simp]
theorem same_withDefault (name : String) (codec : Codec α) (value : α) (h) :
    (withDefault name codec value h).same = codec.same := rfl

@[simp]
theorem same_optional (name : String) (codec : Codec α) :
    (optional name codec).same = sameOption codec.same := rfl

@[simp]
theorem same_nullable (name : String) (codec : Codec α) :
    (nullable name codec).same = sameOption codec.same := rfl

@[simp]
theorem same_present (name : String) (codec : Codec α) :
    (present name codec).same = sameOption codec.same := rfl

@[simp]
theorem same_nonEmpty (name : String) (codec : Codec α) :
    (nonEmpty name codec).same = fun xs ys => xs.isEqv ys codec.same := rfl

/-! ## Several fields -/

/-- Some fields and others. -/
def and (first : Fields α) (second : Fields β) : Fields (α × β) where
  read record := (first.read record).bind fun a => (second.read record).map fun b => (a, b)
  write x := first.write x.1 ++ second.write x.2
  reread x := (first.reread x.1, second.reread x.2)
  same x y := first.same x.1 y.1 && second.same x.2 y.2
  room := max first.room second.room
  names := first.names ++ second.names
  names_write x := by rw [List.map_append, first.names_write, second.names_write]
  survive record x hsound h := by
    obtain ⟨a, ha, h⟩ := Option.bind_eq_some_iff.mp h
    obtain ⟨b, hb, rfl⟩ := Option.map_eq_some_iff.mp h
    have hfirst := first.survive hsound ha
    have hsecond := second.survive hsound hb
    refine ⟨fun written hwritten => ?_, ?_, ?_, fun name json hfield => ?_,
      fun depth hroom hfits name json hfield => ?_⟩
    · have hleft := hfirst.read_written written fun field hfield =>
        hwritten field (List.mem_append_left _ hfield)
      have hright := hsecond.read_written written fun field hfield =>
        hwritten field (List.mem_append_right _ hfield)
      dsimp only
      rw [hleft, Option.bind_some, hright, Option.map_some]
    · dsimp only
      rw [hfirst.write_reread, hsecond.write_reread]
    · dsimp only
      rw [hfirst.same_reread, hsecond.same_reread]
      rfl
    · rcases List.mem_append.mp hfield with hfield | hfield
      · exact hfirst.regular name json hfield
      · exact hsecond.regular name json hfield
    · have hroom : depth + max first.room second.room ≤ depthLimit := hroom
      rcases List.mem_append.mp hfield with hfield | hfield
      · exact hfirst.fits depth (by omega) hfits name json hfield
      · exact hsecond.fits depth (by omega) hfits name json hfield

@[simp]
theorem write_and (first : Fields α) (second : Fields β) (x : α × β) :
    (first.and second).write x = first.write x.1 ++ second.write x.2 := rfl

@[simp]
theorem reread_and (first : Fields α) (second : Fields β) (x : α × β) :
    (first.and second).reread x = (first.reread x.1, second.reread x.2) := rfl

@[simp]
theorem same_and (first : Fields α) (second : Fields β) (x y : α × β) :
    (first.and second).same x y = (first.same x.1 y.1 && second.same x.2 y.2) := rfl

/-- **A record survives if its fields do.** -/
def codec (fields : Fields α) (schema : Schema) (hnames : fields.names.Nodup)
    (hmain : ∀ name ∈ fields.names, IsMain schema name) : Codec α where
  decode draft := (Record.ofDraft? schema draft).bind fields.read
  toJson x := .ofMembers (writtenMembers (fields.write x))
  reread := fields.reread
  same := fields.same
  room := fields.room + 1
  survives draft x hsound h := by
    obtain ⟨record, hrecord, hread⟩ := Option.bind_eq_some_iff.mp h
    have hfieldSound (name : String) (field : Draft) (hlookup : record.lookup name = some field) :
        field.Sound := by
      rcases Record.exists_of_lookup hrecord hlookup with
        ⟨members, rfl, member, hmember, rfl⟩ | ⟨items, rfl, hitem⟩
      · exact Draft.sound_object_iff.mp hsound member hmember
      · exact Draft.sound_array_iff.mp hsound field hitem
    -- a field stands one container further in, be the record an object or an array
    have hfieldFits (depth : Nat) (hfits : draft.Fits depth) (name : String) (field : Draft)
        (hlookup : record.lookup name = some field) : field.Fits (depth + 1) := by
      rcases Record.exists_of_lookup hrecord hlookup with
        ⟨members, rfl, member, hmember, rfl⟩ | ⟨items, rfl, hitem⟩
      · exact Draft.membersFit_iff.mp hfits.2 member hmember
      · exact Draft.itemsFit_iff.mp hfits.2 field hitem
    have hsurvive := fields.survive hfieldSound hread
    have hwrittenNames := fields.names_write x
    refine ⟨?_, ?_, hsurvive.same_reread, ?_, by simp [ofMembers], fun depth hroom hfits => ?_⟩
    · have hrecord := @Record.exists_of_written schema (fields.write x)
        (hwrittenNames ▸ hnames) (hwrittenNames ▸ hmain)
      obtain ⟨written, hwritten, hholds⟩ := hrecord
      dsimp only
      rw [hwritten, Option.bind_some, hsurvive.read_written written hholds]
    · dsimp only
      rw [hsurvive.write_reread]
    · refine regular_ofMembers fun member hmember => ?_
      exact hsurvive.regular member.1 member.2 (mem_writtenMembers.mp hmember)
    · have hroom : depth + (fields.room + 1) ≤ depthLimit := hroom
      refine ⟨by omega, Draft.membersFit_iff.mpr ?_⟩
      rw [Draft.ofMembers_eq_map, List.forall_mem_map]
      intro member hmember
      exact hsurvive.fits (depth + 1) (by omega) (hfieldFits depth hfits) member.1 member.2
        (mem_writtenMembers.mp (Dictionary.mem_of_mem_ofList hmember))

theorem toJson_codec (fields : Fields α) (schema : Schema) (hnames) (hmain) (x : α) :
    (fields.codec schema hnames hmain).toJson x = .ofMembers (writtenMembers (fields.write x)) :=
  rfl

@[simp]
theorem reread_codec (fields : Fields α) (schema : Schema) (hnames) (hmain) :
    (fields.codec schema hnames hmain).reread = fields.reread := rfl

@[simp]
theorem same_codec (fields : Fields α) (schema : Schema) (hnames) (hmain) :
    (fields.codec schema hnames hmain).same = fields.same := rfl

/-- Reading a record and doing something with its fields. -/
theorem map_decode_codec (fields : Fields α) {schema : Schema} {hnames} {hmain} {f : α → β}
    {draft : Draft} {body : Record → Option β}
    (hbody : ∀ record, (fields.read record).bind (fun x => some (f x)) = body record) :
    (Record.ofDraft? schema draft).bind body =
      ((fields.codec schema hnames hmain).decode draft).map f := by
  rw [codec]
  dsimp only
  rw [Option.map_bind]
  refine congrArg (Option.bind _) (funext fun record => ?_)
  rw [← hbody]
  exact Option.map_eq_bind.symm

/-- Reading some fields and then others. -/
theorem bind_read_and {γ : Type} {first : Fields α} {second : Fields β} {record : Record}
    {f : α × β → Option γ} {field : Option α} {rest : α → Option γ}
    (hfield : first.read record = field)
    (hrest : ∀ a, (second.read record).bind (fun b => f (a, b)) = rest a) :
    ((first.and second).read record).bind f = field.bind rest := by
  rw [and]
  dsimp only
  rw [Option.bind_assoc, hfield]
  refine congrArg (Option.bind field) (funext fun a => ?_)
  rw [Option.bind_map, ← hrest]
  rfl

end Fields

end FeatureFlags.Json
