import FeatureFlags.Proofs.Condition.Clauses
import FeatureFlags.Proofs.Text.Order
import FeatureFlags.Proofs.Version.Semantic

/-!
# The order of padded versions

Padded parts are compared one after the other.  Numbers that fit the padding are equally long
then, and a blank comes before every digit; words are ended by the hyphen, which comes before all
letters and digits; and the mark of a release comes after everything (`compare_padPart_append`).
So padded versions are ordered as texts the way versions are (`compare_padded`), if numbers that
stand at the same place either fit the padding or are equally long anyway.
-/

namespace FeatureFlags

open Text Version

/-! ## Padded numbers -/

namespace Identifier

/-- Two numbers fit the padding or have equally many digits. -/
def IsAligned : Identifier → Identifier → Prop
  | number m, number n =>
    (Digits.write m).length ≤ 5 ∧ (Digits.write n).length ≤ 5 ∨
      (Digits.write m).length = (Digits.write n).length
  | _, _ => True

instance : ∀ i j : Identifier, Decidable (i.IsAligned j)
  | number _, number _ => inferInstanceAs (Decidable (_ ∨ _))
  | number _, word _ => isTrue trivial
  | word _, _ => isTrue trivial

theorem padPart_number (n : ℕ) :
    padPart (number n).text =
      List.replicate (5 - (Digits.write n).length) ' ' ++ Digits.write n := by
  have hne : (Digits.write n).isEmpty = false :=
    List.isEmpty_eq_false_iff.mpr (Digits.write_ne_nil n)
  have hdigits : (Digits.write n).all Digits.isDigit = true :=
    List.all_eq_true.mpr fun c hc => Digits.isDigit_of_mem_write hc
  rw [text, padPart, hne, hdigits, Bool.not_false, Bool.true_and, if_pos rfl]

/-- A padded number begins with a digit or a blank. -/
theorem exists_padPart_number (n : ℕ) :
    ∃ first rest, padPart (number n).text = first :: rest ∧ first.toNat ≤ 57 := by
  rw [padPart_number]
  cases 5 - (Digits.write n).length with
  | zero =>
      obtain ⟨first, rest, hdigits, hfirst⟩ := Digits.exists_cons_write n
      exact ⟨first, rest, hdigits, (Digits.toNat_of_isDigit hfirst).2⟩
  | succ blanks => exact ⟨' ', _, rfl, by decide⟩

theorem length_padPart_of_isAligned {m n : ℕ} (h : (number m).IsAligned (number n)) :
    (padPart (number m).text).length = (padPart (number n).text).length := by
  simp only [padPart_number, List.length_append, List.length_replicate]
  simp only [IsAligned] at h
  omega

/-- A number with fewer digits has a blank where the other one begins. -/
theorem compare_padPart_of_shorter {m n : ℕ}
    (hshorter : (Digits.write m).length < (Digits.write n).length)
    (hfits : (Digits.write n).length ≤ 5) :
    compare (padPart (number m).text) (padPart (number n).text) = .lt ∧ compare m n = .lt := by
  have hlt : m < n := by
    by_contra hle
    exact absurd (Digits.length_write_mono (Nat.le_of_not_lt hle)) (Nat.not_le.mpr hshorter)
  obtain ⟨first, rest, hdigits, hfirst⟩ := Digits.exists_cons_write n
  have hblank : compare ' ' first = .lt := by
    have hbounds := Digits.toNat_of_isDigit hfirst
    exact compare_char.mpr (by simp only [Char.reduceToNat]; omega)
  obtain ⟨k, hk⟩ : ∃ k, 5 - (Digits.write m).length = 5 - (Digits.write n).length + (k + 1) :=
    ⟨(Digits.write n).length - (Digits.write m).length - 1, by omega⟩
  refine ⟨?_, Nat.compare_eq_lt.mpr hlt⟩
  rw [padPart_number, padPart_number, hk, List.replicate_add, List.append_assoc,
    compare_append_left, List.replicate_succ, List.cons_append, hdigits]
  exact compare_cons_of_lt hblank _ _

theorem compare_padPart_number {m n : ℕ} (h : (number m).IsAligned (number n)) :
    compare (padPart (number m).text) (padPart (number n).text) = compare m n := by
  rcases Nat.lt_trichotomy (Digits.write m).length (Digits.write n).length with hlt | heq | hgt
  · have hfits : (Digits.write n).length ≤ 5 := by
      simp only [IsAligned] at h
      omega
    obtain ⟨htext, hnumber⟩ := compare_padPart_of_shorter hlt hfits
    rw [htext, hnumber]
  · rw [padPart_number, padPart_number, heq, compare_append_left]
    exact Digits.compare_write heq
  · have hfits : (Digits.write m).length ≤ 5 := by
      simp only [IsAligned] at h
      omega
    obtain ⟨htext, hnumber⟩ := compare_padPart_of_shorter hgt hfits
    rw [Std.OrientedOrd.eq_swap, htext, Std.OrientedOrd.eq_swap (a := m), hnumber]

/-! ## Words -/

theorem toNat_of_isAlpha {c : Char} (hc : c.isAlpha = true) : 65 ≤ c.toNat ∧ c.toNat ≤ 122 := by
  rcases Bool.or_eq_true_iff.mp hc with hupper | hlower
  · have hbounds : 'A' ≤ c ∧ c ≤ 'Z' := of_decide_eq_true hupper
    exact ⟨hbounds.1, hbounds.2.trans (show 'Z' ≤ 'z' by decide)⟩
  · obtain ⟨hlow, hhigh⟩ := Bool.and_eq_true_iff.mp hlower
    have hlow : 'a' ≤ c := of_decide_eq_true hlow
    have hhigh : c ≤ 'z' := of_decide_eq_true hhigh
    exact ⟨(show 'A' ≤ 'a' by decide).trans hlow, hhigh⟩

theorem compare_hyphen_of_isAlphanum {c : Char} (hc : c.isAlphanum = true) :
    compare '-' c = .lt := by
  have hlow : 48 ≤ c.toNat := by
    rw [Char.isAlphanum, Bool.or_eq_true] at hc
    rcases hc with halpha | hdigit
    · exact (show 48 ≤ 65 by decide).trans (toNat_of_isAlpha halpha).1
    · simp only [Char.isDigit, Bool.and_eq_true, decide_eq_true_eq,
        UInt32.le_iff_toNat_le] at hdigit
      exact hdigit.1
  exact compare_char.mpr (Nat.lt_of_lt_of_le (by decide) hlow)

theorem padPart_word (w : Word) : padPart (word w).text = w.first :: w.rest := by
  have hfirst : Digits.isDigit w.first = false := by
    by_contra hdigit
    have hbounds := Digits.toNat_of_isDigit (Bool.eq_true_of_not_eq_false hdigit)
    have hbounds' := toNat_of_isAlpha w.isAlpha_first
    omega
  rw [text, padPart, List.all_cons, hfirst, Bool.false_and, Bool.and_false,
    if_neg Bool.false_ne_true]

/-! ## Padded parts -/

/-- **Padded parts are ordered by precedence.**  What stands behind them matters only if they are
the same. -/
theorem compare_padPart_append {i j : Identifier} (haligned : i.IsAligned j) {s t : List Char}
    (hs : Ends '-' s) (ht : Ends '-' t) :
    compare (padPart i.text ++ s) (padPart j.text ++ t) =
      (i.precedence j).then (compare s t) := by
  -- A number and a word differ in their first character.
  have hmixed (n : ℕ) (w : Word) (s t : List Char) :
      compare (padPart (number n).text ++ s) (padPart (word w).text ++ t) = .lt := by
    obtain ⟨first, rest, hnumber, hfirst⟩ := exists_padPart_number n
    have hletter := toNat_of_isAlpha w.isAlpha_first
    rw [hnumber, padPart_word, List.cons_append, List.cons_append]
    exact compare_cons_of_lt (compare_char.mpr (by omega)) _ _
  cases i with
  | number m =>
      cases j with
      | number n =>
          rw [compare_append_of_length_eq (length_padPart_of_isAligned haligned),
            compare_padPart_number haligned, precedence]
      | word w => rw [hmixed, precedence, Ordering.lt_then]
  | word v =>
      cases j with
      | number n =>
          rw [Std.OrientedOrd.eq_swap, hmixed, precedence, Ordering.gt_then]
          rfl
      | word w =>
          rw [padPart_word, padPart_word]
          have hyphen (w : Word) : ∀ c ∈ (word w).text, compare '-' c = .lt :=
            fun c hc => compare_hyphen_of_isAlphanum (isAlphanum_of_mem_text hc)
          exact compare_append_of_ends (hyphen v) (hyphen w) hs ht

/-- The mark of a release comes after every part. -/
theorem compare_padPart_releaseMark (i : Identifier) (s t : List Char) :
    compare (padPart i.text ++ s) ('~' :: t) = .lt := by
  cases i with
  | number n =>
      obtain ⟨first, rest, hnumber, hfirst⟩ := exists_padPart_number n
      rw [hnumber, List.cons_append]
      exact compare_cons_of_lt (compare_char.mpr (by simp only [Char.reduceToNat]; omega)) _ _
  | word w =>
      have hletter := toNat_of_isAlpha w.isAlpha_first
      rw [padPart_word, List.cons_append]
      exact compare_cons_of_lt (compare_char.mpr (by simp only [Char.reduceToNat]; omega)) _ _

end Identifier

/-! ## Padded versions -/

/-- Padded parts, each behind a hyphen. -/
def hyphenated (parts : List (List Char)) : List Char := (parts.map padPart).flatMap ('-' :: ·)

theorem hyphenated_cons (part : List Char) (rest : List (List Char)) :
    hyphenated (part :: rest) = '-' :: (padPart part ++ hyphenated rest) := by
  rw [hyphenated, List.map_cons, List.flatMap_cons, List.cons_append]
  rfl

theorem ends_hyphenated (parts : List (List Char)) : Ends '-' (hyphenated parts) := by
  cases parts with
  | nil => nofun
  | cons part rest =>
      rw [hyphenated_cons]
      rintro c ⟨⟩
      rfl

theorem compare_hyphenated_cons {i j : Identifier} (haligned : i.IsAligned j)
    (rest others : List (List Char)) :
    compare (hyphenated (i.text :: rest)) (hyphenated (j.text :: others)) =
      (i.precedence j).then (compare (hyphenated rest) (hyphenated others)) := by
  rw [hyphenated_cons, hyphenated_cons, List.compare_cons_cons, Std.compare_self,
    Ordering.eq_then]
  exact i.compare_padPart_append haligned (ends_hyphenated rest) (ends_hyphenated others)

/-- Numbers at the same place are aligned. -/
def AreAligned (first second : List Identifier) : Prop :=
  ∀ (place : ℕ) (i j : Identifier), first[place]? = some i → second[place]? = some j →
    i.IsAligned j

theorem areAligned_cons_iff {i j : Identifier} {first second : List Identifier} :
    AreAligned (i :: first) (j :: second) ↔ i.IsAligned j ∧ AreAligned first second := by
  constructor
  · intro h
    exact ⟨h 0 i j rfl rfl, fun place => h (place + 1)⟩
  · rintro ⟨hhead, htail⟩ place i' j' hi hj
    cases place with
    | zero =>
        cases hi
        cases hj
        exact hhead
    | succ place => exact htail place i' j' hi hj

theorem AreAligned.head {i j : Identifier} {first second : List Identifier}
    (h : AreAligned (i :: first) (j :: second)) : i.IsAligned j :=
  (areAligned_cons_iff.mp h).1

theorem AreAligned.tail {i j : Identifier} {first second : List Identifier}
    (h : AreAligned (i :: first) (j :: second)) : AreAligned first second :=
  (areAligned_cons_iff.mp h).2

instance : ∀ first second, Decidable (AreAligned first second)
  | [], _ => isTrue nofun
  | _ :: _, [] => isTrue nofun
  | _ :: first, _ :: second =>
    have := instDecidableAreAligned first second
    decidable_of_iff _ areAligned_cons_iff.symm

theorem compare_hyphenated {first second : List Identifier} (haligned : AreAligned first second) :
    compare (hyphenated (first.map Identifier.text)) (hyphenated (second.map Identifier.text)) =
      List.compareLex Identifier.precedence first second := by
  induction first generalizing second with
  | nil =>
      cases second with
      | nil => rfl
      | cons j second =>
          rw [List.map_cons, hyphenated_cons]
          rfl
  | cons i first ih =>
      cases second with
      | nil =>
          rw [List.map_cons, hyphenated_cons]
          rfl
      | cons j second =>
          rw [List.map_cons, List.map_cons, compare_hyphenated_cons haligned.head,
            ih haligned.tail, List.compareLex_cons_cons]

namespace SemanticVersion

/-- A release, which has its mark in place of a prerelease, comes behind every prerelease. -/
theorem compare_prerelease {first second : List Identifier} (haligned : AreAligned first second) :
    compare (hyphenated (first.map Identifier.text ++ releaseMark first))
        (hyphenated (second.map Identifier.text ++ releaseMark second)) =
      prereleasePrecedence first second := by
  -- the mark of a release comes after every prerelease identifier
  have hrelease (i : Identifier) (rest : List Identifier) :
      compare (hyphenated ((i :: rest).map Identifier.text ++ releaseMark (i :: rest)))
        (hyphenated (([] : List Identifier).map Identifier.text ++ releaseMark [])) = .lt := by
    rw [List.map_cons, List.cons_append, hyphenated_cons, List.map_nil, List.nil_append,
      releaseMark, hyphenated_cons, List.compare_cons_cons, Std.compare_self, Ordering.eq_then]
    exact i.compare_padPart_releaseMark _ _
  cases first with
  | nil =>
      cases second with
      | nil => exact Std.compare_self
      | cons j second =>
          rw [Std.OrientedOrd.eq_swap, hrelease]
          rfl
  | cons i first =>
      cases second with
      | nil => exact hrelease i first
      | cons j second =>
          rw [releaseMark, releaseMark, List.append_nil, List.append_nil]
          exact compare_hyphenated haligned

theorem padded_spelled (v : SemanticVersion) (marked : Bool) (build : Option (List Char)) :
    padded (v.spelled marked build) =
      padPart (Identifier.number v.major).text ++
        hyphenated ((Identifier.number v.minor).text :: (Identifier.number v.patch).text ::
          (v.prerelease.map Identifier.text ++ releaseMark v.prerelease)) := by
  rw [padded, parts_spelled, identifiers, List.map_cons, List.cons_append, List.map_cons, join_cons]
  rfl

/-- Padded versions are ordered by precedence. -/
theorem compare_padded {v w : SemanticVersion}
    (haligned : AreAligned v.identifiers w.identifiers) (marked marked' : Bool)
    (build build' : Option (List Char)) :
    compare (padded (v.spelled marked build)) (padded (w.spelled marked' build')) =
      v.precedence w := by
  rw [padded_spelled, padded_spelled,
    Identifier.compare_padPart_append haligned.head (ends_hyphenated _) (ends_hyphenated _),
    compare_hyphenated_cons haligned.tail.head, compare_hyphenated_cons haligned.tail.tail.head,
    compare_prerelease haligned.tail.tail.tail]
  rfl

end SemanticVersion

/-! ## Comparing versions in conditions -/

namespace VersionRelation

/-- The operator that tests for the relation. -/
def name : VersionRelation → String
  | equal => "$veq"
  | different => "$vne"
  | after => "$vgt"
  | notBefore => "$vgte"
  | before => "$vlt"
  | notAfter => "$vlte"

/-- Whether the relation accepts the order of a version and its operand. -/
def accepts : VersionRelation → Ordering → Bool
  | equal, order => order = .eq
  | different, order => order ≠ .eq
  | after, order => order = .gt
  | notBefore, order => order ≠ .lt
  | before, order => order = .lt
  | notAfter, order => order ≠ .gt

theorem holds_eq_accepts (relation : VersionRelation) (a b : String) :
    relation.holds a b = relation.accepts (compare a.toList b.toList) := by
  cases relation <;>
    simp only [holds, accepts, compare_toList_eq_lt_iff, compare_toList_eq_eq_iff,
      compare_toList_eq_gt_iff, ne_eq]

theorem compileOperator_name (relation : VersionRelation) (operand : String) :
    Condition.compileOperator relation.name (.string operand) =
      .version relation (paddedVersion operand) := by
  cases relation <;> exact Condition.compileOperator_of_isSimple (by decide) (.string operand)

end VersionRelation

/-- **Versions are ordered semantically.**  Byte by byte, padded versions are ordered by
precedence, whatever their marks and builds, and so the operators for versions accept it. -/
theorem SemanticVersion.padding_keeps_precedence {v w : SemanticVersion}
    (haligned : AreAligned v.identifiers w.identifiers) (marked marked' : Bool)
    (build build' : Option (List Char)) :
    let version := String.ofList (v.spelled marked build)
    let operand := String.ofList (w.spelled marked' build')
    compare (Utf8.encode (paddedVersion version).toList)
        (Utf8.encode (paddedVersion operand).toList) = v.precedence w ∧
      ∀ (relation : VersionRelation) (groups : SavedGroups),
        (Condition.compileOperator relation.name (.string operand)).holds groups (.string version) =
          relation.accepts (v.precedence w) := by
  intro version operand
  have horder : compare (paddedVersion version).toList (paddedVersion operand).toList =
      v.precedence w := by
    simp only [version, operand, paddedVersion, String.toList_ofList]
    exact compare_padded haligned marked marked' build build'
  refine ⟨?_, ?_⟩
  · rw [compare_encode]
    exact horder
  · intro relation groups
    rw [relation.compileOperator_name]
    change relation.holds (paddedVersion version) (paddedVersion operand) = _
    rw [relation.holds_eq_accepts, horder]

/-- The tenth release candidate comes after the second one, although a text with `10` would come
before a text with `2`; neither the mark nor the build has a say. -/
theorem SemanticVersion.tenth_candidate_after_second :
    (Condition.compileOperator "$vgt" (.string "1.0.0-rc.2")).holds []
      (.string "v1.0.0-rc.10+sha.2") = true := by
  let rc : Identifier := .word ⟨'r', ['c'], by decide, List.forall_mem_singleton.mpr (by decide)⟩
  let tenth : SemanticVersion := ⟨1, 0, 0, [rc, .number 10]⟩
  let second : SemanticVersion := ⟨1, 0, 0, [rc, .number 2]⟩
  have hspelled : String.ofList (tenth.spelled true (some "sha.2".toList)) =
      "v1.0.0-rc.10+sha.2" := by decide +kernel
  have hspelled' : String.ofList (second.spelled false none) = "1.0.0-rc.2" := by decide +kernel
  have haligned : AreAligned tenth.identifiers second.identifiers := by decide +kernel
  obtain ⟨-, hoperators⟩ :=
    padding_keeps_precedence haligned true false (some "sha.2".toList) none
  rw [hspelled, hspelled'] at hoperators
  rw [← show VersionRelation.after.name = "$vgt" from rfl, hoperators .after []]
  decide +kernel

end FeatureFlags
