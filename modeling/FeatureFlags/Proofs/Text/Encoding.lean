import FeatureFlags.Proofs.Text.Utf8

/-!
# Encoded characters are read back

`encodeChar` writes a character in one to four bytes.  The first byte announces how many
there are, and `next` reads just these off the front of a text, whatever follows
(`next_encodeChar`).  An ASCII character is its own byte; any other one has no byte
below 128, so that a search for an ASCII byte passes over it
(`mem_of_toUInt8_mem_encode`).  A whole text is read back one character after the other
(`decodeLossy_encode`).
-/

namespace FeatureFlags.Text.Utf8

theorem encode_nil : encode [] = [] := rfl

theorem encode_cons (c : Char) (text : List Char) :
    encode (c :: text) = encodeChar c ++ encode text :=
  List.flatMap_cons ..

theorem encode_append (first second : List Char) :
    encode (first ++ second) = encode first ++ encode second :=
  List.flatMap_append ..

/-! ## Code points -/

theorem toNat_toUInt8 {n : Nat} (h : n < 256) : n.toUInt8.toNat = n := by
  simp [Nat.toUInt8, Nat.mod_eq_of_lt h]

/-- Characters are the code points up to `0x10FFFF` that are not surrogates. -/
theorem toNat_lt_or (c : Char) : c.toNat < 0xD800 ∨ 0xDFFF < c.toNat ∧ c.toNat < 0x110000 := by
  have hvalid := c.valid
  simpa [UInt32.isValidChar, Nat.isValidChar] using hvalid

theorem isContinuation_iff {b : UInt8} :
    isContinuation b = true ↔ 0x80 ≤ b.toNat ∧ b.toNat ≤ 0xBF := by
  simp [isContinuation, UInt8.le_iff_toNat_le]

/-! ## Sequences of several bytes -/

section Sequence

variable {n : Nat} {b₁ b₂ b₃ b₄ : UInt8} (more : Bytes)

theorem next_two (hlow : 0x80 ≤ n) (hhigh : n < 0x800) (h₁ : b₁.toNat = 0xC0 + n / 64)
    (h₂ : b₂.toNat = 0x80 + n % 64) : next b₁ (b₂ :: more) = .char (Char.ofNat n) more := by
  have hvalue : b₁.toNat % 32 * 64 + b₂.toNat % 64 = n := by omega
  have hsecond : isContinuation b₂ = true := isContinuation_iff.mpr (by omega)
  have hfirst : ¬b₁ < 0x80 ∧ 0xC2 ≤ b₁ ∧ b₁ ≤ 0xDF := by
    simp only [UInt8.lt_iff_toNat_lt, UInt8.le_iff_toNat_le, UInt8.reduceToNat]
    omega
  simp [next, hfirst, hsecond, payload, hvalue]

theorem next_three (hlow : 0x800 ≤ n) (hhigh : n < 0x10000) (hsurrogate : n < 0xD800 ∨ 0xDFFF < n)
    (h₁ : b₁.toNat = 0xE0 + n / 4096) (h₂ : b₂.toNat = 0x80 + n / 64 % 64)
    (h₃ : b₃.toNat = 0x80 + n % 64) :
    next b₁ (b₂ :: b₃ :: more) = .char (Char.ofNat n) more := by
  have hvalue : b₁.toNat % 16 * 4096 + b₂.toNat % 64 * 64 + b₃.toNat % 64 = n := by omega
  have hthird : isContinuation b₃ = true := isContinuation_iff.mpr (by omega)
  have hfirst : ¬b₁ < 0x80 ∧ ¬b₁ ≤ 0xDF ∧ 0xE0 ≤ b₁ ∧ b₁ ≤ 0xEF := by
    simp only [UInt8.lt_iff_toNat_lt, UInt8.le_iff_toNat_le, UInt8.reduceToNat]
    omega
  -- overlong forms and surrogates are told by the second byte
  have hsecond : admitsThree b₁ b₂ = true := by
    simp only [admitsThree, ← UInt8.toNat_inj, UInt8.le_iff_toNat_le, UInt8.reduceToNat]
    split
    · simp; omega
    · split
      · simp; omega
      · exact isContinuation_iff.mpr (by omega)
  simp [next, hfirst, hsecond, hthird, payload, hvalue]

theorem next_four (hlow : 0x10000 ≤ n) (hhigh : n < 0x110000)
    (h₁ : b₁.toNat = 0xF0 + n / 262144) (h₂ : b₂.toNat = 0x80 + n / 4096 % 64)
    (h₃ : b₃.toNat = 0x80 + n / 64 % 64) (h₄ : b₄.toNat = 0x80 + n % 64) :
    next b₁ (b₂ :: b₃ :: b₄ :: more) = .char (Char.ofNat n) more := by
  have hvalue : b₁.toNat % 8 * 262144 + b₂.toNat % 64 * 4096 + b₃.toNat % 64 * 64 +
      b₄.toNat % 64 = n := by omega
  have hthird : isContinuation b₃ = true := isContinuation_iff.mpr (by omega)
  have hfourth : isContinuation b₄ = true := isContinuation_iff.mpr (by omega)
  have hfirst : ¬b₁ < 0x80 ∧ ¬b₁ ≤ 0xDF ∧ ¬b₁ ≤ 0xEF ∧ 0xF0 ≤ b₁ ∧ b₁ ≤ 0xF4 := by
    simp only [UInt8.lt_iff_toNat_lt, UInt8.le_iff_toNat_le, UInt8.reduceToNat]
    omega
  have hsecond : admitsFour b₁ b₂ = true := by
    simp only [admitsFour, ← UInt8.toNat_inj, UInt8.le_iff_toNat_le, UInt8.reduceToNat]
    split
    · simp; omega
    · split
      · simp; omega
      · exact isContinuation_iff.mpr (by omega)
  simp [next, hfirst, hsecond, hthird, hfourth, payload, hvalue]

end Sequence

/-! ## Characters -/

theorem encodeChar_of_ascii {c : Char} (hascii : c.toNat < 0x80) :
    encodeChar c = [c.toNat.toUInt8] := by
  rw [encodeChar, if_pos hascii]

/-- A character that is not ASCII has no ASCII byte. -/
theorem le_of_mem_encodeChar {c : Char} (hascii : ¬c.toNat < 0x80) {b : UInt8}
    (hb : b ∈ encodeChar c) : 0x80 ≤ b := by
  have hc := toNat_lt_or c
  have hbyte {n : Nat} (hlow : 0x80 ≤ n) (hhigh : n < 256) : 0x80 ≤ n.toUInt8 := by
    rw [UInt8.le_iff_toNat_le, toNat_toUInt8 hhigh]
    exact hlow
  rw [encodeChar, if_neg hascii] at hb
  split at hb
  · simp only [List.mem_cons, List.not_mem_nil, or_false] at hb
    rcases hb with rfl | rfl <;> exact hbyte (by omega) (by omega)
  · split at hb <;> simp only [List.mem_cons, List.not_mem_nil, or_false] at hb
    · rcases hb with rfl | rfl | rfl <;> exact hbyte (by omega) (by omega)
    · rcases hb with rfl | rfl | rfl | rfl <;> exact hbyte (by omega) (by omega)

/-- **The character that has been encoded is read off the front again.** -/
theorem next_encodeChar (c : Char) (more : Bytes) :
    ∃ first rest, encodeChar c = first :: rest ∧ next first (rest ++ more) = .char c more := by
  have hvalid := toNat_lt_or c
  have hc : Char.ofNat c.toNat = c := Char.ofNat_toNat c
  unfold encodeChar
  dsimp only
  split
  · -- one byte; the other lengths have a lemma each
    rename_i hone
    have hbyte := toNat_toUInt8 (show c.toNat < 256 by omega)
    have hascii : c.toNat.toUInt8 < 0x80 := by
      rw [UInt8.lt_iff_toNat_lt, hbyte]
      exact hone
    refine ⟨_, _, rfl, ?_⟩
    simp [next, hascii, hbyte, hc]
  · split
    · have h := next_two more (n := c.toNat) (by omega) (by omega) (toNat_toUInt8 (by omega))
        (toNat_toUInt8 (by omega))
      rw [hc] at h
      exact ⟨_, _, rfl, h⟩
    · split
      · have h := next_three more (n := c.toNat) (by omega) (by omega) (by omega)
          (toNat_toUInt8 (by omega)) (toNat_toUInt8 (by omega)) (toNat_toUInt8 (by omega))
        rw [hc] at h
        exact ⟨_, _, rfl, h⟩
      · have h := next_four more (n := c.toNat) (by omega) (by omega) (toNat_toUInt8 (by omega))
          (toNat_toUInt8 (by omega)) (toNat_toUInt8 (by omega)) (toNat_toUInt8 (by omega))
        rw [hc] at h
        exact ⟨_, _, rfl, h⟩

/-! ## Texts -/

/-- The byte of an ASCII character stands for that character only. -/
theorem mem_of_toUInt8_mem_encode {c : Char} (hascii : c.toNat < 0x80) {text : List Char}
    (hbyte : c.toNat.toUInt8 ∈ encode text) : c ∈ text := by
  obtain ⟨d, hd, hbyte⟩ := List.mem_flatMap.mp hbyte
  have hc : c.toNat.toUInt8.toNat = c.toNat := toNat_toUInt8 (by omega)
  by_cases hother : d.toNat < 0x80
  · rw [encodeChar_of_ascii hother, List.mem_singleton] at hbyte
    have hcode : c.toNat = d.toNat := by
      rw [← hc, hbyte, toNat_toUInt8 (by omega)]
    rwa [Char.toNat_inj.mp hcode]
  · have hlow := UInt8.le_iff_toNat_le.mp (le_of_mem_encodeChar hother hbyte)
    rw [hc] at hlow
    exact absurd hascii (Nat.not_lt.mpr hlow)

/-- **A text that has been encoded is read back.** -/
theorem decodeLossy_encode (text : List Char) : decodeLossy (encode text) = text := by
  induction text with
  | nil => rw [encode_nil, decodeLossy]
  | cons c text ih =>
      obtain ⟨first, rest, hbytes, hfront⟩ := next_encodeChar c (encode text)
      rw [encode_cons, hbytes, List.cons_append, decodeLossy_of_char hfront, ih]

end FeatureFlags.Text.Utf8
