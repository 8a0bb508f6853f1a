import FeatureFlags.Dictionary
import FeatureFlags.Proofs.Dictionary.Pointwise

/-!
# Sorted dictionaries

A dictionary is meant to hold its keys in ascending order.  The type does not
say so, because a list that is read off a JSON tree need not; this file says it
with `Sorted` and shows that everything built by `insert`, `ofList` or `extend`
is sorted.  Two facts make the predicate worth having:

* `ofList_of_sorted`: reading the entries of a sorted dictionary back gives the
  same dictionary, which is what makes a stored document survive a round trip;
* `get?_extend`: an overlay answers for its own keys and leaves all others to
  the base, which is false of an overlay that holds a key twice.
-/

namespace FeatureFlags.Dictionary

variable {α : Type}

/-- The keys ascend, so that each of them occurs once. -/
def Sorted (entries : Dictionary α) : Prop :=
  entries.Pairwise fun earlier later => earlier.1 < later.1

@[simp] theorem sorted_nil : Sorted ([] : Dictionary α) := List.Pairwise.nil

/-! ## Insertion -/

theorem mem_insert {key : String} {value : α} {entries : Dictionary α} {entry : String × α}
    (hentry : entry ∈ insert key value entries) : entry = (key, value) ∨ entry ∈ entries := by
  induction entries with
  | nil => simpa [insert] using hentry
  | cons head rest ih =>
      obtain ⟨k, old⟩ := head
      simp only [insert] at hentry
      split at hentry
      · exact List.mem_cons.mp hentry
      · split at hentry
        · rcases List.mem_cons.mp hentry with heq | hrest
          · exact Or.inl heq
          · exact Or.inr (List.mem_cons_of_mem _ hrest)
        · rcases List.mem_cons.mp hentry with heq | hrest
          · exact Or.inr (heq ▸ List.mem_cons_self ..)
          · exact (ih hrest).imp id (List.mem_cons_of_mem _)

theorem Sorted.insert {entries : Dictionary α} (hsorted : Sorted entries) (key : String)
    (value : α) : Sorted (insert key value entries) := by
  induction entries with
  | nil => exact List.pairwise_singleton _ _
  | cons head rest ih =>
      obtain ⟨k, old⟩ := head
      obtain ⟨hhead, hrest⟩ := List.pairwise_cons.mp hsorted
      simp only [Dictionary.insert]
      split
      · -- the key comes in front of all others
        rename_i hlt
        refine List.pairwise_cons.mpr ⟨?_, hsorted⟩
        intro entry hentry
        rcases List.mem_cons.mp hentry with rfl | hentry
        · exact hlt
        · exact String.lt_trans hlt (hhead entry hentry)
      · split
        · -- the key is there already and keeps its place
          rename_i heq
          exact List.pairwise_cons.mpr ⟨fun entry hentry => heq ▸ hhead entry hentry, hrest⟩
        · -- the key belongs further back
          rename_i hnlt hne
          have hlt : k < key := by
            rcases Std.lt_trichotomy key k with hlt | heq | hlt
            · exact absurd hlt hnlt
            · exact absurd heq hne
            · exact hlt
          refine List.pairwise_cons.mpr ⟨?_, ih hrest⟩
          intro entry hentry
          rcases mem_insert hentry with rfl | hentry
          · exact hlt
          · exact hhead entry hentry

/-- Inserting a key behind all others appends it. -/
theorem insert_of_forall_lt {key : String} {value : α} {entries : Dictionary α}
    (hlast : ∀ entry ∈ entries, entry.1 < key) :
    insert key value entries = entries ++ [(key, value)] := by
  induction entries with
  | nil => rfl
  | cons head rest ih =>
      obtain ⟨k, old⟩ := head
      have hhead : k < key := hlast (k, old) (List.mem_cons_self ..)
      have hrest := ih fun entry hentry => hlast entry (List.mem_cons_of_mem _ hentry)
      simp only [insert, if_neg (String.lt_asymm hhead), if_neg (String.ne_of_lt hhead).symm, hrest,
        List.cons_append]

/-! ## Overlays -/

theorem extend_cons (base : Dictionary α) (entry : String × α) (rest : Dictionary α) :
    extend base (entry :: rest) = extend (insert entry.1 entry.2 base) rest := rfl

theorem Sorted.extend {base : Dictionary α} (hbase : Sorted base) (overlay : Dictionary α) :
    Sorted (extend base overlay) := by
  induction overlay generalizing base with
  | nil => exact hbase
  | cons entry rest ih => exact ih (hbase.insert entry.1 entry.2)

theorem sorted_ofList (entries : List (String × α)) : Sorted (ofList entries) :=
  sorted_nil.extend entries

theorem get?_eq_none_of_forall_ne {key : String} {entries : Dictionary α}
    (habsent : ∀ entry ∈ entries, entry.1 ≠ key) : get? entries key = none := by
  induction entries with
  | nil => rfl
  | cons entry rest ih =>
      rw [get?_cons, if_neg (habsent entry (List.mem_cons_self ..))]
      exact ih fun other hother => habsent other (List.mem_cons_of_mem _ hother)

theorem get?_append (first second : Dictionary α) (key : String) :
    get? (first ++ second) key = (get? first key).or (get? second key) := by
  induction first with
  | nil => rfl
  | cons entry rest ih =>
      rw [List.cons_append, get?_cons, get?_cons, ih]
      split <;> rfl

/-- Of several entries of one key the last counts. -/
theorem get?_extend_eq (base : Dictionary α) (overlay : List (String × α)) (key : String) :
    get? (extend base overlay) key = (get? overlay.reverse key).or (get? base key) := by
  induction overlay generalizing base with
  | nil => rfl
  | cons entry rest ih =>
      rw [extend_cons, ih, get?_insert, List.reverse_cons, get?_append, get?_cons, get?_nil,
        Option.or_assoc]
      split <;> rfl

theorem get?_ofList (entries : List (String × α)) (key : String) :
    get? (ofList entries) key = get? entries.reverse key := by
  have hextend := get?_extend_eq [] entries key
  rwa [get?_nil, Option.or_none] at hextend

theorem mem_of_get? {entries : Dictionary α} {key : String} {value : α}
    (h : get? entries key = some value) : (key, value) ∈ entries := by
  induction entries with
  | nil => cases h
  | cons entry rest ih =>
      obtain ⟨k, old⟩ := entry
      rw [get?_cons] at h
      split at h
      · rename_i hkey
        have hkey : k = key := hkey
        cases h
        rw [hkey]
        exact List.mem_cons_self ..
      · exact List.mem_cons_of_mem _ (ih h)

/-- An overlay answers for its own keys, the base for all others. -/
theorem get?_extend (base : Dictionary α) {overlay : Dictionary α} (hoverlay : Sorted overlay)
    (key : String) :
    get? (extend base overlay) key = (get? overlay key).or (get? base key) := by
  induction overlay generalizing base with
  | nil => simp [extend]
  | cons entry rest ih =>
      obtain ⟨hhead, hrest⟩ := List.pairwise_cons.mp hoverlay
      rw [extend_cons, ih _ hrest, get?_insert, get?_cons]
      split
      · rename_i heq
        -- the key of the first entry does not occur again
        have hnone : get? rest key = none := get?_eq_none_of_forall_ne fun other hother =>
          heq ▸ (String.ne_of_lt (hhead other hother)).symm
        simp [hnone]
      · rfl

/-- Appending the entries one by one to a dictionary they all come after. -/
theorem extend_eq_append {base overlay : Dictionary α} (hsorted : Sorted (base ++ overlay)) :
    extend base overlay = base ++ overlay := by
  induction overlay generalizing base with
  | nil => simp [extend]
  | cons entry rest ih =>
      have hlast : ∀ other ∈ base, other.1 < entry.1 := fun other hother =>
        (List.pairwise_append.mp hsorted).2.2 other hother entry (List.mem_cons_self ..)
      have hassoc : base ++ entry :: rest = (base ++ [entry]) ++ rest := by simp
      rw [extend_cons, insert_of_forall_lt hlast, hassoc]
      exact ih (hassoc ▸ hsorted)

/-- A sorted dictionary is the dictionary of its entries. -/
theorem ofList_of_sorted {entries : Dictionary α} (hsorted : Sorted entries) :
    ofList entries = entries :=
  @extend_eq_append _ [] entries hsorted

/-! ## Keys -/

theorem isSome_get?_iff {entries : Dictionary α} {key : String} :
    (get? entries key).isSome ↔ ∃ entry ∈ entries, entry.1 = key := by
  induction entries with
  | nil => simp
  | cons entry rest ih =>
      rw [get?_cons]
      by_cases hkey : entry.1 = key <;> simp [hkey, ih]

/-- Each key occurs once. -/
theorem Sorted.nodup_keys {entries : Dictionary α} (hsorted : Sorted entries) :
    (keys entries).Nodup :=
  List.pairwise_map.mpr (hsorted.imp String.ne_of_lt)

theorem get?_eq_some_iff {entries : Dictionary α} (hkeys : (keys entries).Nodup) {key : String}
    {value : α} : get? entries key = some value ↔ (key, value) ∈ entries := by
  induction entries with
  | nil => simp
  | cons entry rest ih =>
      obtain ⟨k, old⟩ := entry
      obtain ⟨hhead, hrest⟩ := List.nodup_cons.mp hkeys
      rw [get?_cons, List.mem_cons]
      split
      · rename_i heq
        simp only at heq
        subst heq
        have hrest : (k, value) ∉ rest := fun hmem => hhead (List.mem_map.mpr ⟨_, hmem, rfl⟩)
        simp [hrest, eq_comm]
      · rename_i hne
        rw [ih hrest, Prod.mk.injEq]
        exact ⟨Or.inr, fun hmem => hmem.resolve_left fun heq => hne heq.1.symm⟩

/-- Putting entries in order adds none. -/
theorem mem_of_mem_ofList {entries : List (String × α)} {entry : String × α}
    (h : entry ∈ ofList entries) : entry ∈ entries := by
  have hget : get? (ofList entries) entry.1 = some entry.2 :=
    (get?_eq_some_iff (sorted_ofList entries).nodup_keys).mpr h
  rw [get?_ofList] at hget
  exact List.mem_reverse.mp (mem_of_get? hget)

/-- The order of the entries does not matter to looking up. -/
theorem get?_perm {entries other : Dictionary α} (hkeys : (keys entries).Nodup)
    (hperm : entries.Perm other) (key : String) : get? entries key = get? other key := by
  have hother : (keys other).Nodup := (hperm.map Prod.fst).nodup_iff.mp hkeys
  ext value
  rw [get?_eq_some_iff hkeys, get?_eq_some_iff hother, hperm.mem_iff]

/-! ## Removal -/

theorem erase_cons (entry : String × α) (rest : Dictionary α) (key : String) :
    erase key (entry :: rest) =
      if entry.1 = key then erase key rest else entry :: erase key rest := by
  unfold erase
  split
  · rename_i hkey
    exact List.filter_cons_of_neg (by simpa using hkey)
  · rename_i hkey
    exact List.filter_cons_of_pos (by simpa using hkey)

theorem get?_erase (entries : Dictionary α) (key other : String) :
    get? (erase key entries) other = if key = other then none else get? entries other := by
  induction entries with
  | nil => simp [erase]
  | cons entry rest ih =>
      rw [erase_cons]
      split
      · rename_i hkey
        rw [ih, get?_cons, hkey]
        split <;> rfl
      · rename_i hkey
        rw [get?_cons, get?_cons, ih]
        split
        · rename_i hother
          rw [if_neg fun heq => hkey (hother.trans heq.symm)]
        · rfl

theorem erase_of_forall_ne {entries : Dictionary α} {key : String}
    (habsent : ∀ entry ∈ entries, entry.1 ≠ key) : erase key entries = entries :=
  List.filter_eq_self.mpr fun entry hentry => decide_eq_true (habsent entry hentry)

/-- The key of the last entry occurs nowhere else. -/
theorem erase_concat {front : Dictionary α} {last : String × α}
    (hkeys : (keys (front ++ [last])).Nodup) : erase last.1 (front ++ [last]) = front := by
  have hother : ∀ entry ∈ front, entry.1 ≠ last.1 := fun entry hentry =>
    (List.pairwise_append.mp (List.pairwise_map.mp hkeys)).2.2 entry hentry last
      (List.mem_singleton_self last)
  have hlast : erase last.1 [last] = [] := by rw [erase_cons, if_pos rfl, erase, List.filter_nil]
  calc erase last.1 (front ++ [last])
      = erase last.1 front ++ erase last.1 [last] := List.filter_append ..
    _ = front := by rw [erase_of_forall_ne hother, hlast, List.append_nil]

theorem Sorted.erase {entries : Dictionary α} (hsorted : Sorted entries) (key : String) :
    Sorted (erase key entries) :=
  hsorted.filter _

/-- What is stored under a key takes the place of the entry that was there. -/
theorem insert_perm {entries : Dictionary α} (hsorted : Sorted entries) (key : String)
    (value : α) : (insert key value entries).Perm ((key, value) :: erase key entries) := by
  induction entries with
  | nil => exact List.Perm.refl _
  | cons head rest ih =>
      obtain ⟨k, old⟩ := head
      obtain ⟨hhead, hrest⟩ := List.pairwise_cons.mp hsorted
      -- in sorted entries, nothing behind a key that is not smaller can be the key
      have hbehind (hle : ¬k < key) : erase key rest = rest :=
        erase_of_forall_ne fun entry hentry heq => hle (heq ▸ hhead entry hentry)
      rw [erase_cons]
      simp only [insert]
      split
      · rename_i hlt
        rw [if_neg (String.ne_of_lt hlt).symm, hbehind (String.lt_asymm hlt)]
      · split
        · rename_i heq
          subst heq
          rw [if_pos rfl, hbehind (String.lt_irrefl key)]
        · rename_i hne
          rw [if_neg (Ne.symm hne)]
          exact ((ih hrest).cons _).trans (List.Perm.swap ..)

/-! ## Values -/

variable {β : Type}

theorem get?_mapValues (f : α → β) (entries : Dictionary α) (key : String) :
    get? (mapValues f entries) key = (get? entries key).map f := by
  induction entries with
  | nil => rfl
  | cons entry rest ih =>
      unfold mapValues at ih ⊢
      rw [List.map_cons, get?_cons, get?_cons, ih]
      split <;> rfl

theorem mapValues_id (entries : Dictionary α) : mapValues id entries = entries := List.map_id' _

theorem isEmpty_mapValues (f : α → β) (entries : Dictionary α) :
    (mapValues f entries).isEmpty = entries.isEmpty := List.isEmpty_map

theorem erase_mapValues (f : α → β) (entries : Dictionary α) (key : String) :
    erase key (mapValues f entries) = mapValues f (erase key entries) :=
  List.filter_map ..

/-- Leaving out the entries whose values have no image keeps the order. -/
theorem Sorted.filterMap {entries : Dictionary α} (hsorted : Sorted entries) (f : α → Option β) :
    Sorted (entries.filterMap fun (key, value) => (f value).map (key, ·)) := by
  refine List.Pairwise.filterMap _ (fun first second hlt image himage other hother => ?_) hsorted
  obtain ⟨value, -, rfl⟩ := Option.map_eq_some_iff.mp himage
  obtain ⟨value, -, rfl⟩ := Option.map_eq_some_iff.mp hother
  exact hlt

/-- **A key is left out if its value has no image, whatever the other values have.** -/
theorem get?_filterMap (f : α → Option β) {entries : Dictionary α} (hkeys : (keys entries).Nodup)
    (key : String) :
    get? (entries.filterMap fun (key, value) => (f value).map (key, ·)) key =
      (get? entries key).bind f := by
  induction entries with
  | nil => rfl
  | cons entry rest ih =>
      obtain ⟨k, value⟩ := entry
      obtain ⟨hnew, hrest⟩ := List.nodup_cons.mp hkeys
      have htail := ih hrest
      rw [List.filterMap_cons, get?_cons]
      by_cases hkey : k = key
      · subst hkey
        -- no later entry has the key, so nothing is found if this one is left out
        have habsent : get? rest k = none := by
          refine get?_eq_none_of_forall_ne fun other hother heq => hnew ?_
          exact List.mem_map.mpr ⟨other, hother, heq⟩
        rw [habsent] at htail
        cases himage : f value with
        | none => simpa [himage] using htail
        | some image => simp [himage, get?_cons]
      · cases himage : f value with
        | none => simpa [himage, hkey] using htail
        | some image => simpa [himage, hkey, get?_cons] using htail

/-! ## Equality -/

/-- Equality of dictionaries whose values are compared by `equal`. -/
def same (equal : α → α → Bool) (first second : Dictionary α) : Bool :=
  first.isEqv second fun a b => a.1 = b.1 && equal a.2 b.2

theorem same_mapValues_iff {equal : α → α → Bool} {f : α → α} {entries : Dictionary α} :
    same equal entries (mapValues f entries) = true ↔
      ∀ entry ∈ entries, equal entry.2 (f entry.2) = true := by
  unfold same mapValues
  rw [List.isEqv_map_iff]
  simp

theorem same_mapValues_right {equal : α → α → Bool} {f : α → α}
    (h : ∀ a b, equal a (f b) = equal a b) (first second : Dictionary α) :
    same equal first (mapValues f second) = same equal first second := by
  unfold same mapValues
  exact List.isEqv_map_right (fun a b => by rw [h]) first second

end FeatureFlags.Dictionary
