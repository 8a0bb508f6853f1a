import FeatureFlags.Text.Utf8

/-!
# Reading UTF-8 around an ASCII byte

A byte below 128 never belongs to a character of several bytes: what is read in front
of it is read as if the input ended there, and behind it reading starts afresh.  So
lossy decoding splits at every ASCII byte (`decodeLossy_append`), even if a character
was cut off in front of it.
-/

namespace FeatureFlags.Text.Utf8

/-- The same front with more bytes behind it. -/
def Front.append : Front → Bytes → Front
  | .char c rest, more => .char c (rest ++ more)
  | .invalid rest, more => .invalid (rest ++ more)

@[simp] theorem Front.char_append (c : Char) (rest more : Bytes) :
    (Front.char c rest).append more = .char c (rest ++ more) := rfl

@[simp] theorem Front.invalid_append (rest more : Bytes) :
    (Front.invalid rest).append more = .invalid (rest ++ more) := rfl

theorem Front.append_ite (p : Prop) [Decidable p] (front other : Front) (more : Bytes) :
    (if p then front else other).append more =
      if p then front.append more else other.append more :=
  apply_ite (Front.append · more) p front other

theorem decodeLossy_of_char {first : UInt8} {rest tail : Bytes} {c : Char}
    (hfront : next first rest = .char c tail) :
    decodeLossy (first :: rest) = c :: decodeLossy tail := by
  rw [decodeLossy]
  split
  · rename_i h
    cases hfront.symm.trans h
    rfl
  · rename_i h
    cases hfront.symm.trans h

theorem decodeLossy_of_invalid {first : UInt8} {rest tail : Bytes}
    (hfront : next first rest = .invalid tail) :
    decodeLossy (first :: rest) = '\uFFFD' :: decodeLossy tail := by
  rw [decodeLossy]
  split
  · rename_i h
    cases hfront.symm.trans h
  · rename_i h
    cases hfront.symm.trans h
    rfl

section Ascii

variable {b : UInt8} (hascii : b < 0x80)
include hascii

theorem isContinuation_of_ascii : isContinuation b = false := by
  simp only [isContinuation, Bool.and_eq_false_iff, decide_eq_false_iff_not]
  exact Or.inl (UInt8.not_le.mpr hascii)

theorem admitsThree_of_ascii (first : UInt8) : admitsThree first b = false := by
  have hlow : ¬0xA0 ≤ b := UInt8.not_le.mpr (UInt8.lt_trans hascii (by decide))
  have hmiddle : ¬0x80 ≤ b := UInt8.not_le.mpr hascii
  simp only [admitsThree, isContinuation_of_ascii hascii, decide_eq_false hlow,
    decide_eq_false hmiddle, Bool.false_and, ite_self]

theorem admitsFour_of_ascii (first : UInt8) : admitsFour first b = false := by
  have hlow : ¬0x90 ≤ b := UInt8.not_le.mpr (UInt8.lt_trans hascii (by decide))
  have hmiddle : ¬0x80 ≤ b := UInt8.not_le.mpr hascii
  simp only [admitsFour, isContinuation_of_ascii hascii, decide_eq_false hlow,
    decide_eq_false hmiddle, Bool.false_and, ite_self]

/-- An ASCII byte ends what is read in front of it, just as the end of the input does. -/
theorem next_append (first : UInt8) (rest more : Bytes) :
    next first (rest ++ b :: more) = (next first rest).append (b :: more) := by
  have htail := isContinuation_of_ascii hascii
  have hthree := admitsThree_of_ascii hascii first
  have hfour := admitsFour_of_ascii hascii first
  -- at most three bytes behind the first one are looked at
  rcases rest with _ | ⟨second, _ | ⟨third, _ | ⟨fourth, tail⟩⟩⟩ <;>
    simp only [next, List.nil_append, List.cons_append, htail, hthree, hfour, Bool.false_eq_true,
      if_false, Front.append_ite, Front.char_append, Front.invalid_append]

/-- Lossy decoding splits at an ASCII byte. -/
theorem decodeLossy_append (bytes more : Bytes) :
    decodeLossy (bytes ++ b :: more) = decodeLossy bytes ++ decodeLossy (b :: more) := by
  fun_induction decodeLossy bytes with
  | case1 => rfl
  | case2 first rest c tail hfront ih =>
      have hlonger : next first (rest ++ b :: more) = .char c (tail ++ b :: more) := by
        rw [next_append hascii, hfront, Front.char_append]
      rw [List.cons_append, decodeLossy_of_char hlonger, ih, List.cons_append]
  | case3 first rest tail hfront ih =>
      have hlonger : next first (rest ++ b :: more) = .invalid (tail ++ b :: more) := by
        rw [next_append hascii, hfront, Front.invalid_append]
      rw [List.cons_append, decodeLossy_of_invalid hlonger, ih, List.cons_append]

end Ascii

end FeatureFlags.Text.Utf8
