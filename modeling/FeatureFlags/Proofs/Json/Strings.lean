import FeatureFlags.Json.Token
import FeatureFlags.Json.Writer
import FeatureFlags.Proofs.Text.Encoding

/-!
# Strings are read back

A string is written character by character, each one as itself or as an escape.  Reading
goes the same way twice: first to find the closing quote, then to undo the escapes.  Both
times the text of a character is taken as one piece (`Spells`), so the whole string is
read back whatever follows it.
-/

namespace FeatureFlags.Json.Token

open Text Text.Utf8

/-- Some bytes inside a string are taken as one character. -/
structure Spells (piece : Bytes) (c : Char) : Prop where
  scan : ∀ rest, scanString (piece ++ rest) =
    (scanString rest).map fun (raw, after) => (piece ++ raw, after)
  next : ∀ rest, nextChar? (piece ++ rest) = some (c, rest)

/-! ## Escapes -/

theorem spells_of_escape? {e : UInt8} {c : Char} (hletter : e ≠ ascii 'u')
    (hescape : escape? e = some c) : Spells [ascii '\\', e] c where
  scan rest := by
    have hquote : ascii '\\' ≠ ascii '"' := by decide
    rw [List.cons_append, scanString.eq_def]
    simp [hquote, hletter, hescape]
  next rest := by simp [nextChar?, hletter, hescape]

/-- Control characters are below 32, so that the first two of their four digits are zeros. -/
theorem spells_of_hex : ∀ n < 32,
    let high := ascii (Digits.hexDigit (n / 16 % 16))
    let low := ascii (Digits.hexDigit (n % 16))
    (isHex high = true ∧ isHex low = true) ∧
      codeUnit (ascii '0') (ascii '0') high low = n := by
  decide

theorem spells_control {c : Char} (hcontrol : c.toNat < 32) :
    Spells (encode ('\\' :: 'u' :: Digits.writeHex 4 c.toNat)) c := by
  obtain ⟨⟨hhigh, hlow⟩, hunit⟩ := spells_of_hex c.toNat hcontrol
  have hdigit {n : Nat} (hn : n < 16) : (Digits.hexDigit n).toNat < 0x80 := by
    have hall : ∀ n < 16, (Digits.hexDigit n).toNat < 0x80 := by decide
    exact hall n hn
  have hbytes : encode ('\\' :: 'u' :: Digits.writeHex 4 c.toNat) =
      [ascii '\\', ascii 'u', ascii '0', ascii '0', ascii (Digits.hexDigit (c.toNat / 16 % 16)),
        ascii (Digits.hexDigit (c.toNat % 16))] := by
    -- a control character has two hexadecimal digits, with two zeros in front
    have hzero₁ : c.toNat / 16 / 16 = 0 := by omega
    simp only [Digits.writeHex, hzero₁, List.nil_append, List.cons_append, encode_cons, encode_nil,
      encodeChar_of_ascii (hdigit (Nat.mod_lt _ (by decide : 0 < 16)))]
    rfl
  rw [hbytes]
  constructor
  · intro rest
    have hquote : ascii '\\' ≠ ascii '"' := by decide
    have hzero : isHex (ascii '0') = true := by decide
    rw [List.cons_append, scanString.eq_def]
    simp [hquote, hzero, hhigh, hlow]
  · intro rest
    -- no surrogate, so the one unit is the whole character
    have hpair : Utf16.isTrailing c.toNat = false ∧ Utf16.isLeading c.toNat = false := by
      simp only [Utf16.isTrailing, Utf16.isLeading, Bool.and_eq_false_iff,
        decide_eq_false_iff_not]
      omega
    simp [nextChar?, unicodeEscape?, takeUnit?, hunit, hpair, Char.ofNat_toNat]

/-! ## Characters that stand for themselves -/

theorem scanString_of_forall {piece : Bytes}
    (hplain : ∀ b ∈ piece, b ≠ ascii '"' ∧ b ≠ ascii '\\' ∧ ¬b < 0x20) (rest : Bytes) :
    scanString (piece ++ rest) =
      (scanString rest).map fun (raw, after) => (piece ++ raw, after) := by
  induction piece with
  | nil => simp
  | cons b piece ih =>
      obtain ⟨hquote, hbackslash, hcontrol⟩ := hplain b (List.mem_cons_self ..)
      have htail := ih fun other hother => hplain other (List.mem_cons_of_mem _ hother)
      rw [List.cons_append, scanString.eq_def]
      simp only [if_neg hquote, if_neg hbackslash, if_neg hcontrol, htail, Option.map_map]
      rfl

theorem ascii_ne {c d : Char} (hc : c.toNat < 0x80) (hd : d.toNat < 0x80) (hne : c ≠ d) :
    ascii c ≠ ascii d := by
  intro heq
  have hcodes := congrArg UInt8.toNat heq
  rw [ascii, ascii, toNat_toUInt8 (by omega), toNat_toUInt8 (by omega)] at hcodes
  exact hne (by rw [← Char.ofNat_toNat c, hcodes, Char.ofNat_toNat])

theorem spells_plain {c : Char} (hquote : c ≠ '"') (hbackslash : c ≠ '\\')
    (hcontrol : ¬c.toNat < 0x20) : Spells (encodeChar c) c := by
  have hplain : ∀ b ∈ encodeChar c, b ≠ ascii '"' ∧ b ≠ ascii '\\' ∧ ¬b < 0x20 := by
    intro b hb
    by_cases hascii : c.toNat < 0x80
    · rw [encodeChar_of_ascii hascii] at hb
      rw [List.mem_singleton.mp hb]
      refine ⟨ascii_ne hascii (by decide) hquote, ascii_ne hascii (by decide) hbackslash, ?_⟩
      rw [UInt8.lt_iff_toNat_lt, toNat_toUInt8 (by omega)]
      exact hcontrol
    · -- the bytes of a character beyond ASCII have their high bit set
      have hlow := le_of_mem_encodeChar hascii hb
      rw [UInt8.le_iff_toNat_le] at hlow
      simp only [ne_eq, ← UInt8.toNat_inj, UInt8.lt_iff_toNat_lt]
      have h₁ : (ascii '"').toNat = 34 := by decide
      have h₂ : (ascii '\\').toNat = 92 := by decide
      simp only [UInt8.reduceToNat] at hlow ⊢
      omega
  refine ⟨scanString_of_forall hplain, ?_⟩
  intro rest
  obtain ⟨first, tail, hbytes, hfront⟩ := next_encodeChar c rest
  have hfirst := (hplain first (by rw [hbytes]; exact List.mem_cons_self ..)).2.1
  rw [hbytes, List.cons_append, nextChar?.eq_def]
  simp only [if_neg hfirst, hfront]

/-! ## Whole strings -/

/-- What is written for a character is taken as this character. -/
theorem spells_escapeChar (c : Char) : Spells (encode (escapeChar c)) c := by
  unfold escapeChar
  split
  · subst c; exact spells_of_escape? (by decide) rfl
  split
  · subst c; exact spells_of_escape? (by decide) rfl
  split
  · subst c; exact spells_of_escape? (by decide) rfl
  split
  · subst c; exact spells_of_escape? (by decide) rfl
  split
  · subst c; exact spells_of_escape? (by decide) rfl
  split
  · subst c; exact spells_of_escape? (by decide) rfl
  split
  · subst c; exact spells_of_escape? (by decide) rfl
  split
  · exact spells_control ‹_›
  · have hone : encode [c] = encodeChar c := by rw [encode_cons, encode_nil, List.append_nil]
    rw [hone]
    exact spells_plain ‹_› ‹_› ‹_›

/-- The closing quote of a written string is found. -/
theorem scanString_escaped (text : List Char) (more : Bytes) :
    scanString (encode (text.flatMap escapeChar) ++ ascii '"' :: more) =
      some (encode (text.flatMap escapeChar), more) := by
  induction text with
  | nil =>
      rw [List.flatMap_nil, encode_nil, List.nil_append, scanString.eq_def]
      simp
  | cons c text ih =>
      rw [List.flatMap_cons, encode_append, List.append_assoc, (spells_escapeChar c).scan, ih]
      rfl

/-- The escapes of a written string are undone. -/
theorem unescape?_escaped (text : List Char) :
    unescape? (encode (text.flatMap escapeChar)) = some text := by
  induction text with
  | nil =>
      rw [List.flatMap_nil, encode_nil, unescape?]
      rfl
  | cons c text ih =>
      have hnext := (spells_escapeChar c).next (encode (text.flatMap escapeChar))
      rw [List.flatMap_cons, encode_append, unescape?]
      split
      · rename_i hpiece
        rw [hnext] at hpiece
        obtain ⟨rfl, rfl⟩ := Prod.mk.injEq .. ▸ Option.some.inj hpiece
        rw [ih]
        rfl
      · rename_i hnone
        rw [hnext] at hnone
        cases hnone

/-- **A written string is read back.** -/
theorem scan_writeString (s : String) (more : Bytes) :
    ∃ rest, encode (writeString s) = ascii '"' :: rest ∧
      scan (ascii '"') (rest ++ more) = some (string (some s), more) := by
  refine ⟨encode (s.toList.flatMap escapeChar) ++ [ascii '"'], ?_, ?_⟩
  · rw [writeString, encode_cons, encode_append]
    rfl
  · have hquote : charOf (ascii '"') = '"' := by decide
    rw [List.append_assoc]
    simp [scan, hquote, scanString_escaped, unescape?_escaped]

end FeatureFlags.Json.Token
