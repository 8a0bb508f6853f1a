import FeatureFlags.Proofs.Text.Digits
import FeatureFlags.Proofs.Text.Split
import FeatureFlags.Version

/-!
# Semantic versions

A semantic version has three numbers and, unless it is a release, identifiers that say which
prerelease it is.  `precedence` orders versions by these; the spelling of a version may carry a
mark `v` and name a build, of which nothing is left once a version is read: its parts are its
identifiers, and those of a release end with `~` (`parts_spelled`).
-/

namespace FeatureFlags

open Text Version

/-! ## Identifiers -/

/-- ASCII letters and digits behind a letter. -/
structure Word where
  first : Char
  rest : List Char
  isAlpha_first : first.isAlpha = true
  isAlphanum_rest : ∀ c ∈ rest, c.isAlphanum = true

/-- What a version is made of. -/
inductive Identifier
  | number (n : ℕ)
  | word (w : Word)

namespace Identifier

/-- A number is spelled without leading zeros. -/
def text : Identifier → List Char
  | number n => Digits.write n
  | word w => w.first :: w.rest

/-- Numbers are ordered by their amount and come before words, which are ordered as texts. -/
def precedence : Identifier → Identifier → Ordering
  | number m, number n => compare m n
  | number _, word _ => .lt
  | word _, number _ => .gt
  | word v, word w => compare (word v).text (word w).text

theorem isAlphanum_of_isDigit {c : Char} (hc : Digits.isDigit c = true) : c.isAlphanum = true := by
  have hbounds : '0' ≤ c ∧ c ≤ '9' := Digits.toNat_of_isDigit hc
  have hdigit : c.isDigit = true := by simpa [Char.isDigit, Char.le_def] using hbounds
  rw [Char.isAlphanum, hdigit, Bool.or_true]

theorem isAlphanum_of_mem_text {i : Identifier} {c : Char} (hc : c ∈ i.text) :
    c.isAlphanum = true := by
  cases i with
  | number n => exact isAlphanum_of_isDigit (Digits.isDigit_of_mem_write hc)
  | word w =>
      rcases List.mem_cons.mp hc with rfl | hc
      · rw [Char.isAlphanum, w.isAlpha_first, Bool.true_or]
      · exact w.isAlphanum_rest c hc

end Identifier

/-! ## Versions -/

/-- A version; that of a release has no prerelease. -/
structure SemanticVersion where
  major : ℕ
  minor : ℕ
  patch : ℕ
  prerelease : List Identifier

namespace SemanticVersion

/-- Prereleases are ordered by their first difference, a shorter one coming first, and all of them
come before the release. -/
def prereleasePrecedence : List Identifier → List Identifier → Ordering
  | [], [] => .eq
  | [], _ :: _ => .gt
  | _ :: _, [] => .lt
  | first, second => List.compareLex Identifier.precedence first second

/-- The order of versions, which the numbers decide before the prereleases. -/
def precedence (v w : SemanticVersion) : Ordering :=
  (compare v.major w.major).then <| (compare v.minor w.minor).then <|
    (compare v.patch w.patch).then <| prereleasePrecedence v.prerelease w.prerelease

/-- All identifiers of a version, the numbers first. -/
def identifiers (v : SemanticVersion) : List Identifier :=
  .number v.major :: .number v.minor :: .number v.patch :: v.prerelease

/-- The hyphen in front of a prerelease, and its identifiers. -/
def prereleaseText : List Identifier → List Char
  | [] => []
  | first :: rest => '-' :: join '.' ((first :: rest).map Identifier.text)

/-- The spelling of a version without mark and build. -/
def text (v : SemanticVersion) : List Char :=
  Digits.write v.major ++ '.' :: (Digits.write v.minor ++ '.' ::
    (Digits.write v.patch ++ prereleaseText v.prerelease))

/-- The mark that may stand in front of a version. -/
def markText (marked : Bool) : List Char := bif marked then ['v'] else []

/-- The name of a build, which may be any text. -/
def buildText : Option (List Char) → List Char
  | none => []
  | some build => '+' :: build

/-- A spelling of a version. -/
def spelled (v : SemanticVersion) (marked : Bool) (build : Option (List Char)) : List Char :=
  markText marked ++ (v.text ++ buildText build)

/-- What a release has in place of a prerelease. -/
def releaseMark : List Identifier → List (List Char)
  | [] => [['~']]
  | _ :: _ => []

/-! ## Reading a version -/

theorem mem_prereleaseText {prerelease : List Identifier} {c : Char}
    (hc : c ∈ prereleaseText prerelease) : c.isAlphanum = true ∨ c = '-' ∨ c = '.' := by
  cases prerelease with
  | nil => cases hc
  | cons first rest =>
      rcases List.mem_cons.mp hc with rfl | hc
      · exact Or.inr (Or.inl rfl)
      rcases mem_join hc with rfl | ⟨part, hpart, hc⟩
      · exact Or.inr (Or.inr rfl)
      · obtain ⟨identifier, -, rfl⟩ := List.mem_map.mp hpart
        exact Or.inl (Identifier.isAlphanum_of_mem_text hc)

theorem mem_text {v : SemanticVersion} {c : Char} (hc : c ∈ v.text) :
    c.isAlphanum = true ∨ c = '-' ∨ c = '.' := by
  have hnumber {n : ℕ} (hc : c ∈ Digits.write n) : c.isAlphanum = true :=
    Identifier.isAlphanum_of_mem_text (i := .number n) hc
  simp only [text, List.mem_append, List.mem_cons] at hc
  rcases hc with hc | rfl | hc | rfl | hc | hc
  · exact Or.inl (hnumber hc)
  · exact Or.inr (Or.inr rfl)
  · exact Or.inl (hnumber hc)
  · exact Or.inr (Or.inr rfl)
  · exact Or.inl (hnumber hc)
  · exact mem_prereleaseText hc

theorem withoutMark_spelled (v : SemanticVersion) (marked : Bool) (build : Option (List Char)) :
    withoutMark (v.spelled marked build) = v.text ++ buildText build := by
  cases marked with
  | true => rfl
  | false =>
      -- A version without a mark begins with a digit.
      obtain ⟨first, digits, hdigits, hdigit⟩ := Digits.exists_cons_write v.major
      have hfirst : first ≠ 'v' := by
        rintro rfl
        cases hdigit
      change withoutMark (v.text ++ buildText build) = v.text ++ buildText build
      simp only [text, hdigits, List.cons_append]
      unfold withoutMark
      split
      · rename_i heq
        exact absurd (List.cons.inj heq).1 hfirst
      · rfl

theorem withoutBuild_append (v : SemanticVersion) (build : Option (List Char)) :
    withoutBuild (v.text ++ buildText build) = v.text := by
  have hplain : ∀ c ∈ v.text, decide (c = '+') = false := by
    intro c hc
    refine decide_eq_false ?_
    rintro rfl
    rcases mem_text hc with hc | hc | hc <;> cases hc
  cases build with
  | none => rw [buildText, List.append_nil, withoutBuild, splitOnce?_of_forall hplain]
  | some build => rw [buildText, withoutBuild, splitOnce?_append hplain (decide_eq_true rfl)]

/-- Identifiers have no separator in them. -/
theorem isSeparator_of_mem_text {i : Identifier} {c : Char} (hc : c ∈ i.text) :
    (c = '-' || c = '.') = false := by
  have halphanum := Identifier.isAlphanum_of_mem_text hc
  rw [Bool.or_eq_false_iff]
  refine ⟨decide_eq_false ?_, decide_eq_false ?_⟩
  · rintro rfl
    cases halphanum
  · rintro rfl
    cases halphanum

theorem split_patch (patch : ℕ) (prerelease : List Identifier) :
    split (fun c => c = '-' || c = '.') (Digits.write patch ++ prereleaseText prerelease) =
      (Identifier.number patch :: prerelease).map Identifier.text := by
  have hpatch : ∀ c ∈ Digits.write patch, (c = '-' || c = '.') = false :=
    fun c hc => isSeparator_of_mem_text (i := .number patch) hc
  cases prerelease with
  | nil =>
      rw [prereleaseText, List.append_nil]
      exact split_of_forall hpatch
  | cons first rest =>
      have hparts : ∀ part ∈ (first :: rest).map Identifier.text, ∀ c ∈ part,
          (c = '-' || c = '.') = false := by
        rintro part hpart c hc
        obtain ⟨identifier, -, rfl⟩ := List.mem_map.mp hpart
        exact isSeparator_of_mem_text hc
      rw [prereleaseText, split_append hpatch rfl, split_join rfl hparts (List.cons_ne_nil _ _)]
      rfl

/-- **The parts of a version are its identifiers.**  Nothing is left of mark and build, and a
release has the mark of one. -/
theorem parts_spelled (v : SemanticVersion) (marked : Bool) (build : Option (List Char)) :
    parts (v.spelled marked build) =
      v.identifiers.map Identifier.text ++ releaseMark v.prerelease := by
  have hfound : split (fun c => c = '-' || c = '.') v.text =
      v.identifiers.map Identifier.text := by
    have hnumber (n : ℕ) : ∀ c ∈ Digits.write n, (c = '-' || c = '.') = false :=
      fun c hc => isSeparator_of_mem_text (i := .number n) hc
    rw [text, split_append (hnumber v.major) rfl, split_append (hnumber v.minor) rfl, split_patch]
    rfl
  rw [parts, withoutMark_spelled, withoutBuild_append, hfound]
  -- Only a release has three parts.
  cases hprerelease : v.prerelease with
  | nil => simp [identifiers, releaseMark, hprerelease]
  | cons first rest => simp [identifiers, releaseMark, hprerelease]

end SemanticVersion

end FeatureFlags
