import FeatureFlags.Json.Reader
import Mathlib.Data.List.Infix

/-!
# Numerals

An integer that is read off a numeral fits a word of 64 bits.  A numeral ends where a
character comes that no numeral has.  So what is read off its text does not depend on what
follows (`scanNumeral_append`), and a text made of nothing but characters of numerals, if
it can be read at all, is a single numeral (`scan_of_draft`).
-/

namespace FeatureFlags.Json

/-! ## Integers -/

/-- The integers that a numeral can stand for are those of a word of 64 bits, with a sign or
without one. -/
def IsWord64 (n : Int) : Prop := -0x8000000000000000 ≤ n ∧ n < 0x10000000000000000

theorem Numeral.isWord64_of_toInteger? {numeral : Numeral} {n : Int}
    (h : numeral.toInteger? = some n) : IsWord64 n := by
  unfold toInteger? at h
  split at h
  · cases h
  · split at h
    · rename_i magnitude _
      have hbounds : Nat.pow 2 63 = 0x8000000000000000 ∧ Nat.pow 2 64 = 0x10000000000000000 :=
        ⟨rfl, rfl⟩
      rw [hbounds.1, hbounds.2] at h
      split at h
      · obtain ⟨hbound, ⟨⟩⟩ := Option.ite_none_right_eq_some.mp h
        have hmost := of_decide_eq_true (Bool.and_eq_true_iff.mp hbound).2
        exact ⟨by omega, by omega⟩
      · obtain ⟨hbound, ⟨⟩⟩ := Option.ite_none_right_eq_some.mp h
        exact ⟨by omega, by omega⟩
    · cases h

namespace Token

open Text Text.Utf8

/-! ## Where a numeral ends -/

/-- The characters that numerals are made of. -/
def isNumeralChar (c : Char) : Bool :=
  Digits.isDigit c || c = '-' || c = '+' || c = '.' || c = 'e' || c = 'E'

/-- What follows cannot go on a numeral. -/
def EndsNumeral (more : Bytes) : Prop := ∀ b ∈ more.head?, isNumeralChar (charOf b) = false

theorem endsNumeral_nil : EndsNumeral [] := nofun

theorem endsNumeral_cons {b : UInt8} {more : Bytes} :
    EndsNumeral (b :: more) ↔ isNumeralChar (charOf b) = false := by
  simp [EndsNumeral]

theorem isDigit_eq_false {b : UInt8} (h : isNumeralChar (charOf b) = false) :
    isDigit b = false := by
  simp only [isNumeralChar, Bool.or_eq_false_iff] at h
  exact h.1.1.1.1.1

theorem ne_of_not_isNumeralChar {b : UInt8} (h : isNumeralChar (charOf b) = false) (mark : Char)
    (hmark : isNumeralChar (charOf (ascii mark)) = true) : b ≠ ascii mark := by
  intro heq
  rw [heq, hmark] at h
  cases h

/-! ## The three parts -/

/-- A zero, or digits that do not begin with zero. -/
def isWhole (digits : List Char) : Bool :=
  !digits.isEmpty && (digits.head? != some '0' || digits.length = 1)

theorem scanWhole_eq (text : Bytes) :
    scanWhole text = if isWhole (takeDigits text).1 then some (takeDigits text) else none := by
  unfold scanWhole
  rcases takeDigits text with ⟨_ | ⟨c, _ | ⟨d, digits⟩⟩, rest⟩
  · rfl
  · by_cases hzero : c = '0' <;> simp [isWhole, hzero]
  · by_cases hzero : c = '0' <;> simp [isWhole, hzero]

theorem scanFraction_cons (b : UInt8) (text : Bytes) :
    scanFraction (b :: text) =
      if b = ascii '.' then
        if (takeDigits text).1.isEmpty then none
        else some ((takeDigits text).1, true, (takeDigits text).2)
      else some ([], false, b :: text) := by
  unfold scanFraction
  dsimp only
  rcases takeDigits text with ⟨_ | ⟨c, digits⟩, rest⟩ <;> rfl

/-- The sign of an exponent, and what follows it. -/
def takeSign : Bytes → Bool × Bytes
  | s :: text =>
    if s = ascii '-' then (true, text) else if s = ascii '+' then (false, text)
    else (false, s :: text)
  | [] => (false, [])

/-- The exponent that some digits stand for. -/
def exponentOf (negative : Bool) (digits : List Char) : Int :=
  let n : Int := (Digits.read? digits).getD 0
  if negative then -n else n

theorem exponent_of_takeDigits (negative : Bool) (text : Bytes) :
    (match takeDigits text with
      | ([], _) => none
      | (digits, after) => some (some (exponentOf negative digits), after)) =
      if (takeDigits text).1.isEmpty then none
      else some (some (exponentOf negative (takeDigits text).1), (takeDigits text).2) := by
  rcases takeDigits text with ⟨_ | ⟨c, digits⟩, after⟩ <;> rfl

theorem scanExponent_cons (b : UInt8) (text : Bytes) :
    scanExponent (b :: text) =
      if b = ascii 'e' || b = ascii 'E' then
        let (negative, digits) := takeSign text
        if (takeDigits digits).1.isEmpty then none
        else some (some (exponentOf negative (takeDigits digits).1), (takeDigits digits).2)
      else some (none, b :: text) := by
  unfold scanExponent takeSign
  dsimp only
  cases text with
  | nil => rw [← exponent_of_takeDigits]; rfl
  | cons s text =>
      dsimp only
      rw [← exponent_of_takeDigits]; rfl

section Append

variable {more : Bytes} (hmore : EndsNumeral more)
include hmore

theorem takeDigits_append (text : Bytes) :
    takeDigits (text ++ more) = ((takeDigits text).1, (takeDigits text).2 ++ more) := by
  have htake : (text ++ more).takeWhile isDigit = text.takeWhile isDigit ∧
      (text ++ more).dropWhile isDigit = text.dropWhile isDigit ++ more := by
    induction text with
    | nil =>
        cases more with
        | nil => exact ⟨rfl, rfl⟩
        | cons b more =>
            have hdigit := isDigit_eq_false (endsNumeral_cons.mp hmore)
            simp [hdigit]
    | cons b text ih =>
        rw [List.cons_append, List.takeWhile_cons, List.takeWhile_cons, List.dropWhile_cons,
          List.dropWhile_cons, ih.1, ih.2]
        split <;> exact ⟨rfl, rfl⟩
  rw [takeDigits, htake.1, htake.2]
  rfl

theorem scanWhole_append {text rest : Bytes} {digits : List Char}
    (h : scanWhole text = some (digits, rest)) :
    scanWhole (text ++ more) = some (digits, rest ++ more) := by
  rw [scanWhole_eq] at h ⊢
  rw [takeDigits_append hmore]
  split at h
  · rename_i hwhole
    rw [if_pos hwhole, Option.some.inj h]
  · cases h

theorem scanFraction_append {text rest : Bytes} {digits : List Char} {hasFraction : Bool}
    (h : scanFraction text = some (digits, hasFraction, rest)) :
    scanFraction (text ++ more) = some (digits, hasFraction, rest ++ more) := by
  cases text with
  | nil =>
      cases h
      cases more with
      | nil => rfl
      | cons b more =>
          -- nothing was left, and what follows does not begin with a point
          have hpoint := ne_of_not_isNumeralChar (endsNumeral_cons.mp hmore) '.' (by decide)
          rw [List.nil_append, scanFraction_cons, if_neg hpoint]
  | cons b text =>
      rw [scanFraction_cons] at h
      rw [List.cons_append, scanFraction_cons, takeDigits_append hmore]
      split at h
      · rename_i hpoint
        rw [if_pos hpoint]
        split at h
        · cases h
        · rename_i hdigits
          cases h
          rw [if_neg hdigits]
      · rename_i hpoint
        cases h
        rw [if_neg hpoint]
        rfl

theorem takeSign_append (text : Bytes) :
    takeSign (text ++ more) = ((takeSign text).1, (takeSign text).2 ++ more) := by
  cases text with
  | nil =>
      cases more with
      | nil => rfl
      | cons b more =>
          have hminus := ne_of_not_isNumeralChar (endsNumeral_cons.mp hmore) '-' (by decide)
          have hplus := ne_of_not_isNumeralChar (endsNumeral_cons.mp hmore) '+' (by decide)
          simp [takeSign, hminus, hplus]
  | cons s text =>
      simp only [List.cons_append, takeSign]
      split
      · rfl
      · split <;> rfl

theorem scanExponent_append {text rest : Bytes} {exponent : Option Int}
    (h : scanExponent text = some (exponent, rest)) :
    scanExponent (text ++ more) = some (exponent, rest ++ more) := by
  cases text with
  | nil =>
      cases h
      cases more with
      | nil => rfl
      | cons b more =>
          -- what follows does not begin with a mark of an exponent
          have hend := endsNumeral_cons.mp hmore
          have hlower := ne_of_not_isNumeralChar hend 'e' (by decide)
          have hupper := ne_of_not_isNumeralChar hend 'E' (by decide)
          rw [List.nil_append, scanExponent_cons, if_neg (by simp [hlower, hupper])]
  | cons b text =>
      rw [scanExponent_cons] at h
      rw [List.cons_append, scanExponent_cons, takeSign_append hmore]
      split at h
      · -- behind a mark the digits end where they ended before
        rename_i hmark
        rw [if_pos hmark]
        dsimp only at h ⊢
        rw [takeDigits_append hmore]
        split at h
        · cases h
        · rename_i hdigits
          cases h
          rw [if_neg hdigits]
      · rename_i hmark
        cases h
        rw [if_neg hmark]
        rfl

/-- **A numeral is read the same whatever follows it.** -/
theorem scanNumeral_append {negative : Bool} {text rest : Bytes} {numeral : Numeral}
    (h : scanNumeral negative text = some (numeral, rest)) :
    scanNumeral negative (text ++ more) = some (numeral, rest ++ more) := by
  simp only [scanNumeral, Option.bind_eq_bind, Option.bind_eq_some_iff, Prod.exists] at h
  obtain ⟨whole, rest₁, hwhole, fraction, hasFraction, rest₂, hfraction, exponent, rest₃,
    hexponent, hnumeral⟩ := h
  cases hnumeral
  simp only [scanNumeral, Option.bind_eq_bind, scanWhole_append hmore hwhole, Option.bind_some,
    scanFraction_append hmore hfraction, scanExponent_append hmore hexponent]

end Append

/-! ## What is left behind a numeral -/

theorem takeDigits_suffix (text : Bytes) : (takeDigits text).2 <:+ text :=
  List.dropWhile_suffix _

theorem scanWhole_suffix {text rest : Bytes} {digits : List Char}
    (h : scanWhole text = some (digits, rest)) : rest <:+ text := by
  have hsuffix := takeDigits_suffix text
  rw [scanWhole_eq] at h
  split at h
  · rwa [Option.some.inj h] at hsuffix
  · cases h

theorem scanFraction_suffix {text rest : Bytes} {digits : List Char} {hasFraction : Bool}
    (h : scanFraction text = some (digits, hasFraction, rest)) : rest <:+ text := by
  cases text with
  | nil =>
      cases h
      exact List.suffix_refl _
  | cons b text =>
      rw [scanFraction_cons] at h
      split at h
      · split at h <;> cases h
        exact (takeDigits_suffix text).trans (List.suffix_cons b text)
      · cases h
        exact List.suffix_refl _

theorem takeSign_suffix (text : Bytes) : (takeSign text).2 <:+ text := by
  cases text with
  | nil => exact List.suffix_refl _
  | cons s text =>
      rw [takeSign]
      split
      · exact List.suffix_cons s text
      · split
        · exact List.suffix_cons s text
        · exact List.suffix_refl _

theorem scanExponent_suffix {text rest : Bytes} {exponent : Option Int}
    (h : scanExponent text = some (exponent, rest)) : rest <:+ text := by
  cases text with
  | nil =>
      cases h
      exact List.suffix_refl _
  | cons b text =>
      rw [scanExponent_cons] at h
      split at h
      · dsimp only at h
        split at h <;> cases h
        exact ((takeDigits_suffix _).trans (takeSign_suffix text)).trans (List.suffix_cons b text)
      · cases h
        exact List.suffix_refl _

theorem scanNumeral_suffix {negative : Bool} {text rest : Bytes} {numeral : Numeral}
    (h : scanNumeral negative text = some (numeral, rest)) : rest <:+ text := by
  simp only [scanNumeral, Option.bind_eq_bind, Option.bind_eq_some_iff, Prod.exists] at h
  obtain ⟨whole, rest₁, hwhole, fraction, hasFraction, rest₂, hfraction, exponent, rest₃,
    hexponent, hnumeral⟩ := h
  cases hnumeral
  exact ((scanExponent_suffix hexponent).trans (scanFraction_suffix hfraction)).trans
    (scanWhole_suffix hwhole)

/-! ## Numerals as tokens -/

section Numeral

variable {b : UInt8} (hchar : isNumeralChar (charOf b) = true)
include hchar

/-- Behind a character of a numeral there is nothing but a numeral to read. -/
theorem scan_of_isNumeralChar (rest : Bytes) :
    scan b rest =
      if charOf b = '-' then
        (scanNumeral true rest).map fun (numeral, after) => (ofNumeral numeral, after)
      else
        (scanNumeral false (b :: rest)).map fun (numeral, after) => (ofNumeral numeral, after) := by
  unfold scan
  split
  all_goals rename_i hother
  iterate 10 (rw [hother] at hchar; exact absurd hchar (by decide))
  · rw [if_pos hother]
  · rw [if_neg hother]

theorem isSpace_of_isNumeralChar : isSpace b = false := by
  simp only [isSpace, Bool.or_eq_false_iff, decide_eq_false_iff_not]
  refine ⟨⟨⟨?_, ?_⟩, ?_⟩, ?_⟩ <;> rintro rfl <;> exact absurd hchar (by decide)

theorem scan_append {rest after more : Bytes} {token : Token}
    (h : scan b rest = some (token, after)) (hmore : EndsNumeral more) :
    scan b (rest ++ more) = some (token, after ++ more) := by
  rw [scan_of_isNumeralChar hchar] at h ⊢
  split at h
  all_goals
    rename_i hminus
    obtain ⟨⟨numeral, left⟩, hnumeral, heq⟩ := Option.map_eq_some_iff.mp h
    cases heq
  · rw [if_pos hminus, scanNumeral_append hmore hnumeral]
    rfl
  · rw [if_neg hminus, ← List.cons_append, scanNumeral_append hmore hnumeral]
    rfl

theorem scan_eq_some {rest after : Bytes} {token : Token} (h : scan b rest = some (token, after)) :
    (∃ draft, token = scalar draft) ∧ after <:+ b :: rest := by
  rw [scan_of_isNumeralChar hchar] at h
  split at h
  all_goals
    obtain ⟨⟨numeral, left⟩, hnumeral, heq⟩ := Option.map_eq_some_iff.mp h
    cases heq
    have hsuffix := scanNumeral_suffix hnumeral
  · exact ⟨⟨_, rfl⟩, hsuffix.trans (List.suffix_cons b rest)⟩
  · exact ⟨⟨_, rfl⟩, hsuffix⟩

end Numeral

theorem isSpace_of_scanAll_eq_nil {budget : Nat} {b : UInt8} {rest : Bytes}
    (h : scanAll budget (b :: rest) = some []) : isSpace b = true := by
  cases budget with
  | zero => cases h
  | succ budget =>
      rw [scanAll] at h
      split at h
      · assumption
      · split at h
        · obtain ⟨later, hlater, heq⟩ := Option.map_eq_some_iff.mp h
          cases heq
        · cases h

/-- A text of characters of numerals that is read at all is one numeral. -/
theorem scan_of_draft {text : Bytes} (hchars : ∀ b ∈ text, isNumeralChar (charOf b) = true)
    {draft : Draft} (h : Draft.ofBytes? text = some draft) :
    ∃ b rest, text = b :: rest ∧ scan b rest = some (scalar draft, []) := by
  simp only [Draft.ofBytes?, Option.bind_eq_bind, Option.bind_eq_some_iff] at h
  obtain ⟨tokens, htokens, progress, hprogress, hresult⟩ := h
  cases text with
  | nil =>
      cases htokens
      cases hprogress
      cases hresult
  | cons b rest =>
      have hb := hchars b (List.mem_cons_self ..)
      rw [ofBytes?, List.length_cons, scanAll, isSpace_of_isNumeralChar hb] at htokens
      simp only [Bool.false_eq_true, if_false] at htokens
      split at htokens
      · rename_i token after hscan
        obtain ⟨⟨value, rfl⟩, hsuffix⟩ := scan_eq_some hb hscan
        obtain ⟨later, hlater, rfl⟩ := Option.map_eq_some_iff.mp htokens
        -- nothing can come behind the first token, and no byte is skipped
        cases later with
        | cons next later => cases hprogress
        | nil =>
            cases hprogress
            cases hresult
            cases after with
            | nil => exact ⟨b, rest, rfl, hscan⟩
            | cons c after =>
                have hc := hchars c (hsuffix.subset (List.mem_cons_self ..))
                have hspace := isSpace_of_scanAll_eq_nil hlater
                rw [isSpace_of_isNumeralChar hc] at hspace
                cases hspace
      · cases htokens

end Token

end FeatureFlags.Json
