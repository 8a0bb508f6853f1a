import FeatureFlags.Json.Record
import FeatureFlags.Proofs.Json.Settling

/-!
# Decoders do not see the order of members

A decoder that gets the members of an object in another order reads the same value
(`Decoder.IgnoresOrder`), as long as the names are different from each other.  This is
shown once for each way in which decoders are put together.  Records are the only one
where there is more to it: a record fails if two members stand for one field, which
depends on all of its members (`Record.foldlM_addMember?`).
-/

namespace FeatureFlags.Json

open Draft (Tidied MemberTidied)

/-! ## Values -/

/-- The decoder makes no difference between a plain draft and the same draft with its members in
order. -/
def Decoder.IgnoresOrder {α : Type} (decoder : Decoder α) : Prop :=
  ∀ ⦃draft tidy : Draft⦄, draft.Tidied tidy → decoder tidy = decoder draft

namespace Decoder

variable {α β : Type} {decoder : Decoder α}

/-- Only arrays and objects can come in another order. -/
theorem ignoresOrder_of (harray : ∀ items others, List.Forall₂ Tidied items others →
      (Draft.array items).Tidied (.array others) →
        decoder (.array others) = decoder (.array items))
    (hobject : ∀ members ordered, (Draft.object members).Tidied (.object ordered) →
      decoder (.object ordered) = decoder (.object members)) : decoder.IgnoresOrder := by
  intro draft tidy htidied
  cases draft with
  | array items =>
      obtain ⟨others, rfl, hothers⟩ := htidied.array
      exact harray items others hothers htidied
  | object members =>
      obtain ⟨-, others, ordered, rfl, -⟩ := htidied.object
      exact hobject members ordered htidied
  | _ => rw [htidied.eq_of_scalar trivial]

theorem ignoresOrder_json : json.IgnoresOrder := fun _ _ h => h.toJson?_eq

theorem ignoresOrder_string : string.IgnoresOrder :=
  ignoresOrder_of (fun _ _ _ _ => rfl) fun _ _ _ => rfl

theorem ignoresOrder_bool : bool.IgnoresOrder :=
  ignoresOrder_of (fun _ _ _ _ => rfl) fun _ _ _ => rfl

theorem ignoresOrder_number : number.IgnoresOrder :=
  ignoresOrder_of (fun _ _ _ _ => rfl) fun _ _ _ => rfl

theorem ignoresOrder_natBelow (bound : Nat) : (natBelow bound).IgnoresOrder :=
  ignoresOrder_of (fun _ _ _ _ => rfl) fun _ _ _ => rfl

theorem IgnoresOrder.map (h : decoder.IgnoresOrder) (f : α → β) :
    IgnoresOrder fun draft => (decoder draft).map f :=
  fun _ _ htidied => congrArg (Option.map f) (h htidied)

theorem IgnoresOrder.list (h : decoder.IgnoresOrder) : (list decoder).IgnoresOrder := by
  refine ignoresOrder_of (fun items others hitems htidied => ?_) fun _ _ _ => rfl
  change others.mapM decoder = items.mapM decoder
  clear htidied
  induction hitems with
  | nil => rfl
  | cons hhead hrest ih => rw [List.mapM_option_cons, List.mapM_option_cons, h hhead, ih]

theorem IgnoresOrder.pair {second : Decoder β} (h : decoder.IgnoresOrder)
    (hsecond : second.IgnoresOrder) : (pair decoder second).IgnoresOrder := by
  refine ignoresOrder_of (fun items others hitems _ => ?_) fun _ _ _ => rfl
  rcases hitems with _ | ⟨ha, _ | ⟨hb, _ | ⟨hc, hrest⟩⟩⟩
  · rfl
  · rfl
  · simp only [Decoder.pair, h ha, hsecond hb]
  · rfl

theorem IgnoresOrder.nullable (h : decoder.IgnoresOrder) : (nullable decoder).IgnoresOrder :=
  ignoresOrder_of (fun _ _ _ htidied => congrArg (Option.map some) (h htidied))
    fun _ _ htidied => congrArg (Option.map some) (h htidied)

/-! ## Dictionaries -/

/-- What is decoded from a member, under its name. -/
def decodeMember (decoder : Decoder α) (member : String × Draft) : Option (String × α) :=
  (decoder member.2).map (member.1, ·)

/-- What is decoded from a member keeps its name. -/
theorem names_of_mapM {members : List (String × Draft)} {entries : List (String × α)}
    (h : members.mapM decoder.decodeMember = some entries) :
    entries.map (·.1) = members.map (·.1) := by
  have hpairs := List.mapM_eq_some_iff.mp h
  clear h
  induction hpairs with
  | nil => rfl
  | cons hhead hrest ih =>
      obtain ⟨value, -, rfl⟩ := Option.map_eq_some_iff.mp hhead
      rw [List.map_cons, List.map_cons, ih]

/-- Members that are tidied one by one are decoded to the same entries. -/
theorem IgnoresOrder.mapM_members (h : decoder.IgnoresOrder)
    {members others : List (String × Draft)}
    (hmembers : List.Forall₂ MemberTidied members others) :
    others.mapM decoder.decodeMember = members.mapM decoder.decodeMember := by
  induction hmembers with
  | nil => rfl
  | cons hhead hrest ih =>
      rw [List.mapM_option_cons, List.mapM_option_cons, ih]
      simp only [decodeMember, h hhead.2, hhead.1]

theorem IgnoresOrder.dictionary (h : decoder.IgnoresOrder) :
    (dictionary decoder).IgnoresOrder := by
  refine ignoresOrder_of (fun _ _ _ _ => rfl) fun members ordered htidied => ?_
  obtain ⟨hnames, others, _, heq, hperm, hmembers⟩ := htidied.object
  cases heq
  have hordered := List.mapM_perm decoder.decodeMember hperm
  rw [h.mapM_members hmembers] at hordered
  change (ordered.mapM decoder.decodeMember).map Dictionary.ofList =
    (members.mapM decoder.decodeMember).map Dictionary.ofList
  cases hentries : members.mapM decoder.decodeMember with
  | none =>
      rw [hentries] at hordered
      generalize ordered.mapM decoder.decodeMember = results at hordered
      cases hordered
      rfl
  | some entries =>
      have hkeys : (entries.map (·.1)).Nodup := by
        rw [names_of_mapM hentries]
        exact hnames
      rw [hentries] at hordered
      generalize ordered.mapM decoder.decodeMember = results at hordered
      cases hordered with
      | some hentriesPerm =>
          -- different names, so the dictionary is the same in any order
          exact congrArg some (Dictionary.ofList_congr hkeys hentriesPerm).symm

end Decoder

/-! ## Records -/

namespace Record

/-- Two records have the same fields, and what they hold differs at most in the order of
members. -/
def Tidied (record tidy : Record) : Prop :=
  ∀ name, Option.Rel Draft.Tidied (record.lookup name) (tidy.lookup name)

section Fields

variable {α : Type} {record tidy : Record} {value : Decoder α} (h : record.Tidied tidy)
  (hvalue : value.IgnoresOrder) (name : String)
include h hvalue

theorem Tidied.required : tidy.required name value = record.required name value := by
  have hfield := h name
  unfold Record.required
  generalize record.lookup name = field, tidy.lookup name = other at hfield
  cases hfield with
  | none => rfl
  | some htidied => exact hvalue htidied

theorem Tidied.withDefault (default : α) :
    tidy.withDefault name value default = record.withDefault name value default := by
  have hfield := h name
  unfold Record.withDefault
  generalize record.lookup name = field, tidy.lookup name = other at hfield
  cases hfield with
  | none => rfl
  | some htidied => exact hvalue htidied

theorem Tidied.optional : tidy.optional name value = record.optional name value :=
  h.withDefault hvalue.nullable name none

end Fields

/-- The members that a record knows, under the names of their fields. -/
def recognized (schema : Schema) (members : List (String × Draft)) : List (String × Draft) :=
  members.filterMap fun member =>
    (schema.find? (·.answersTo member.1)).map fun field => (field.main, member.2)

theorem lookup_eq_get? (record : Record) (name : String) :
    record.lookup name = Dictionary.get? record name := by
  induction record with
  | nil => rfl
  | cons entry rest ih =>
      obtain ⟨key, draft⟩ := entry
      rw [List.lookup_cons, Dictionary.get?_cons, ih]
      by_cases hname : key = name
      · simp [hname]
      · have hne : (name == key) = false := by simpa using Ne.symm hname
        simp [hname, hne]

/-- **Members make a record unless two of them stand for one field.** -/
theorem foldlM_addMember? (schema : Schema) (members : List (String × Draft)) {record : Record}
    (hrecord : (record.map (·.1)).Nodup) :
    members.foldlM (addMember? schema) record =
      if ((recognized schema members ++ record).map (·.1)).Nodup then
        some ((recognized schema members).reverse ++ record)
      else none := by
  induction members generalizing record with
  | nil => simp [recognized, hrecord]
  | cons member rest ih =>
      rw [List.foldlM_cons, addMember?]
      cases hfield : schema.find? (·.answersTo member.1) with
      | none =>
          have hsame : recognized schema (member :: rest) = recognized schema rest := by
            simp [recognized, hfield]
          rw [hsame]
          exact ih hrecord
      | some field =>
          have hmore : recognized schema (member :: rest) =
              (field.main, member.2) :: recognized schema rest := by
            simp [recognized, hfield]
          have hthere : (record.lookup field.main).isSome = true ↔
              field.main ∈ record.map (·.1) := by
            rw [lookup_eq_get?, Dictionary.isSome_get?_iff, List.mem_map]
          rw [hmore]
          dsimp only
          by_cases hmember : field.main ∈ record.map (·.1)
          · -- the field is there already
            rw [if_pos (hthere.mpr hmember), if_neg]
            · rfl
            · rw [List.cons_append, List.map_cons, List.map_append, List.nodup_cons]
              exact fun hnodup => hnodup.1 (List.mem_append_right _ hmember)
          · -- a new field, which joins those of the record
            rw [if_neg fun h => hmember (hthere.mp h)]
            have hnext : (((field.main, member.2) :: record).map (·.1)).Nodup :=
              List.nodup_cons.mpr ⟨hmember, hrecord⟩
            have hperm : (recognized schema rest ++ (field.main, member.2) :: record).Perm
                ((field.main, member.2) :: recognized schema rest ++ record) := List.perm_middle
            refine (ih hnext).trans ?_
            simp only [(hperm.map _).nodup_iff, List.reverse_cons, List.append_assoc,
              List.singleton_append]

theorem ofDraft?_object (schema : Schema) (members : List (String × Draft)) :
    ofDraft? schema (.object members) =
      if ((recognized schema members).map (·.1)).Nodup then
        some (recognized schema members).reverse
      else none := by
  have hnothing : (([] : Record).map (·.1)).Nodup := List.nodup_nil
  have hfold := foldlM_addMember? schema members hnothing
  rwa [List.append_nil, List.append_nil] at hfold

theorem lookup_of_recognized {members : List (String × Draft)}
    (hnodup : (members.map (·.1)).Nodup) (name : String) :
    List.lookup name members.reverse = Dictionary.get? members name := by
  rw [lookup_eq_get?]
  exact (Dictionary.get?_perm hnodup (List.reverse_perm members).symm name).symm

/-- What a record has in a field is a member or an item of the draft. -/
theorem exists_of_lookup {schema : Schema} {draft field : Draft} {record : Record} {name : String}
    (hrecord : ofDraft? schema draft = some record) (hlookup : record.lookup name = some field) :
    (∃ members, draft = .object members ∧ ∃ member ∈ members, member.2 = field) ∨
      ∃ items, draft = .array items ∧ field ∈ items := by
  rw [lookup_eq_get?] at hlookup
  have hmem : (name, field) ∈ record := Dictionary.mem_of_get? hlookup
  cases draft with
  | object members =>
      rw [ofDraft?_object] at hrecord
      split at hrecord
      · cases hrecord
        obtain ⟨member, hmember, hfield⟩ := List.mem_filterMap.mp (List.mem_reverse.mp hmem)
        obtain ⟨known, -, heq⟩ := Option.map_eq_some_iff.mp hfield
        cases heq
        exact Or.inl ⟨members, rfl, member, hmember, rfl⟩
      · cases hrecord
  | array items =>
      rw [ofDraft?] at hrecord
      split at hrecord
      · cases hrecord
        exact Or.inr ⟨items, rfl, (List.of_mem_zip hmem).2⟩
      · cases hrecord
  | _ => cases hrecord

theorem get?_of_forall₂ {members others : List (String × Draft)}
    (hmembers : List.Forall₂ MemberTidied members others) (name : String) :
    Option.Rel Draft.Tidied (Dictionary.get? members name) (Dictionary.get? others name) := by
  induction hmembers with
  | nil => exact .none
  | cons hhead hrest ih =>
      rw [Dictionary.get?_cons, Dictionary.get?_cons, hhead.1]
      split
      · exact .some hhead.2
      · exact ih

theorem recognized_of_forall₂ (schema : Schema) {members others : List (String × Draft)}
    (hmembers : List.Forall₂ MemberTidied members others) :
    List.Forall₂ MemberTidied (recognized schema members) (recognized schema others) := by
  induction hmembers with
  | nil => exact .nil
  | @cons member other rest rest' hhead hrest ih =>
      unfold recognized at ih ⊢
      rw [List.filterMap_cons, List.filterMap_cons, hhead.1]
      cases schema.find? (·.answersTo other.1) with
      | none => exact ih
      | some field => exact .cons ⟨rfl, hhead.2⟩ ih

theorem names_of_forall₂ {members others : List (String × Draft)}
    (hmembers : List.Forall₂ MemberTidied members others) :
    members.map (·.1) = others.map (·.1) := by
  induction hmembers with
  | nil => rfl
  | cons hhead hrest ih => rw [List.map_cons, List.map_cons, hhead.1, ih]

theorem zip_of_forall₂ (names : List String) {items others : List Draft}
    (hitems : List.Forall₂ Draft.Tidied items others) :
    List.Forall₂ MemberTidied (names.zip items) (names.zip others) := by
  induction hitems generalizing names with
  | nil => cases names <;> exact .nil
  | cons hhead hrest ih =>
      cases names with
      | nil => exact .nil
      | cons name names => exact .cons ⟨rfl, hhead⟩ (ih names)

/-- **A record is the same from a draft with its members in order.** -/
theorem ofDraft?_of_tidied (schema : Schema) {draft tidy : Draft} (h : draft.Tidied tidy) :
    Option.Rel Tidied (ofDraft? schema draft) (ofDraft? schema tidy) := by
  cases draft with
  | array items =>
      obtain ⟨others, rfl, hitems⟩ := h.array
      -- an array gives its items to the fields in turn
      simp only [ofDraft?, hitems.length_eq]
      split
      · refine .some fun name => ?_
        rw [lookup_eq_get?, lookup_eq_get?]
        exact get?_of_forall₂ (zip_of_forall₂ _ hitems) name
      · exact .none
  | object members =>
      obtain ⟨-, others, ordered, rfl, hperm, hmembers⟩ := h.object
      -- each member is put in order first, and then all of them
      have hothers := recognized_of_forall₂ schema hmembers
      have hordered : (recognized schema others).Perm (recognized schema ordered) :=
        hperm.filterMap _
      have hperm : ((recognized schema members).map (·.1)).Perm
          ((recognized schema ordered).map (·.1)) := by
        rw [names_of_forall₂ hothers]
        exact hordered.map _
      rw [ofDraft?_object, ofDraft?_object]
      by_cases hnodup : ((recognized schema members).map (·.1)).Nodup
      · have hnodup' := hperm.nodup_iff.mp hnodup
        have hkeys : (Dictionary.keys (recognized schema others)).Nodup := by
          rw [Dictionary.keys, ← names_of_forall₂ hothers]
          exact hnodup
        rw [if_pos hnodup, if_pos hnodup']
        refine .some fun name => ?_
        rw [lookup_of_recognized hnodup, lookup_of_recognized hnodup',
          ← Dictionary.get?_perm hkeys hordered]
        exact get?_of_forall₂ hothers name
      · rw [if_neg hnodup, if_neg fun h => hnodup (hperm.nodup_iff.mpr h)]
        exact .none
  | _ =>
      rw [h.eq_of_scalar trivial]
      exact .none

/-- What is made of the fields of a record does not depend on any order. -/
theorem ignoresOrder {α : Type} {schema : Schema} {body : Record → Option α}
    (hbody : ∀ {record tidy : Record}, record.Tidied tidy → body tidy = body record) :
    Decoder.IgnoresOrder fun draft => ofDraft? schema draft >>= body := by
  intro draft tidy h
  have hrecord := ofDraft?_of_tidied schema h
  dsimp only
  generalize ofDraft? schema draft = record, ofDraft? schema tidy = other at hrecord
  cases hrecord with
  | none => rfl
  | some htidied => exact hbody htidied

end Record

end FeatureFlags.Json
