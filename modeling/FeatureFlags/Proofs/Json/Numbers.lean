import FeatureFlags.Json.Writer
import FeatureFlags.Proofs.Json.Numerals
import FeatureFlags.Proofs.Text.Digits
import FeatureFlags.Proofs.Text.Encoding
import Mathlib.Data.List.TakeWhile

/-!
# Numbers are read back

An integer of 64 bits is always read back from its text.  A float need not be: its digits
are put together with more than one rounding.  For a float it is therefore a condition on
the number, `Number.ReadsBack`, which is about its text alone and carries over to any
place where this text may stand (`scan_of_readsBack`).
-/

namespace FeatureFlags

/-- The text that is written for a float is read as this float. -/
def Number.ReadsBack (x : Number) : Prop :=
  Json.Draft.ofBytes? (Json.float x).bytes = some (.float x)

namespace Json.Token

open Text Text.Utf8

/-! ## Integers -/

theorem toNat_lt_of_isNumeralChar {c : Char} (hc : isNumeralChar c = true) : c.toNat < 0x80 := by
  simp only [isNumeralChar, Bool.or_eq_true, decide_eq_true_eq] at hc
  rcases hc with ((((hdigit | rfl) | rfl) | rfl) | rfl) | rfl
  · have hrange := Digits.toNat_of_isDigit hdigit
    omega
  all_goals decide

theorem isNumeralChar_of_mem_digits {n : Nat} {c : Char} (hc : c ∈ Digits.write n) :
    isNumeralChar c = true := by
  simp [isNumeralChar, Digits.isDigit_of_mem_write hc]

theorem encode_of_isNumeralChar {text : List Char} (htext : ∀ c ∈ text, isNumeralChar c = true) :
    encode text = text.map ascii := by
  induction text with
  | nil => rfl
  | cons c text ih =>
      have hc := toNat_lt_of_isNumeralChar (htext c (List.mem_cons_self ..))
      rw [encode_cons, encodeChar_of_ascii hc, ih fun d hd => htext d (List.mem_cons_of_mem _ hd)]
      rfl

theorem charOf_ascii {c : Char} (hc : c.toNat < 0x80) : charOf (ascii c) = c := by
  rw [charOf, ascii, toNat_toUInt8 (by omega), Char.ofNat_toNat]

/-- The only number whose digits begin with zero is zero. -/
theorem head?_write_ne_zero {n : Nat} (hpos : 0 < n) : (Digits.write n).head? ≠ some '0' := by
  fun_induction Digits.write n with
  | case1 n hn =>
      have hdigits : ∀ m < 10, 0 < m → Digits.digit m ≠ '0' := by decide
      simpa using hdigits n hn hpos
  | case2 n hn ih =>
      obtain ⟨first, rest, hfront⟩ := List.exists_cons_of_ne_nil (Digits.write_ne_nil (n / 10))
      rw [hfront] at ih ⊢
      exact ih (by omega)

theorem isWhole_write (n : Nat) : isWhole (Digits.write n) = true := by
  rcases Nat.eq_zero_or_pos n with rfl | hpos
  · have hzero : Digits.write 0 = ['0'] := by
      rw [Digits.write]
      rfl
    rw [hzero]
    rfl
  · simp [isWhole, Digits.write_ne_nil, head?_write_ne_zero hpos]

/-- Digits and nothing else. -/
theorem takeDigits_write (n : Nat) :
    takeDigits (encode (Digits.write n)) = (Digits.write n, []) := by
  have hchars (c : Char) (hc : c ∈ Digits.write n) : isNumeralChar c = true :=
    isNumeralChar_of_mem_digits hc
  have hcode (c : Char) (hc : c ∈ Digits.write n) : charOf (ascii c) = c :=
    charOf_ascii (toNat_lt_of_isNumeralChar (hchars c hc))
  have hdigits (b : UInt8) (hb : b ∈ (Digits.write n).map ascii) : isDigit b = true := by
    obtain ⟨c, hc, rfl⟩ := List.mem_map.mp hb
    rw [isDigit, hcode c hc]
    exact Digits.isDigit_of_mem_write hc
  rw [encode_of_isNumeralChar hchars, takeDigits, List.takeWhile_eq_self_iff.mpr hdigits,
    List.dropWhile_eq_nil_iff.mpr hdigits, List.map_map]
  simp only [Prod.mk.injEq, and_true]
  exact (List.map_congr_left hcode).trans (List.map_id _)

theorem scanNumeral_write (negative : Bool) (n : Nat) :
    scanNumeral negative (encode (Digits.write n)) =
      some (⟨negative, Digits.write n, [], false, none⟩, []) := by
  have hwhole : scanWhole (encode (Digits.write n)) = some (Digits.write n, []) := by
    rw [scanWhole_eq, takeDigits_write, if_pos (isWhole_write n)]
  simp [scanNumeral, hwhole, scanFraction, scanExponent]

theorem toInteger?_write {n : Nat} (hn : n < 0x10000000000000000) :
    Numeral.toInteger? ⟨false, Digits.write n, [], false, none⟩ = some (n : Int) := by
  have hread : Digits.read? (Digits.write n) = some n := Digits.read?_write n
  have hbound : n < Nat.pow 2 64 := hn
  rw [Numeral.toInteger?, hread]
  exact if_pos hbound

theorem toInteger?_write_negative {n : Nat} (hpos : 0 < n) (hn : n ≤ 0x8000000000000000) :
    Numeral.toInteger? ⟨true, Digits.write n, [], false, none⟩ = some (-(n : Int)) := by
  have hread : Digits.read? (Digits.write n) = some n := Digits.read?_write n
  have hbound : (decide (0 < n) && decide (n ≤ Nat.pow 2 63)) = true :=
    Bool.and_eq_true_iff.mpr ⟨decide_eq_true hpos, decide_eq_true hn⟩
  rw [Numeral.toInteger?, hread]
  exact if_pos hbound

theorem ofNumeral_write {n : Nat} (hn : n < 0x10000000000000000) :
    ofNumeral ⟨false, Digits.write n, [], false, none⟩ = scalar (.integer n) := by
  rw [ofNumeral, Numeral.toJson?, toInteger?_write hn]
  rfl

theorem ofNumeral_write_negative {n : Nat} (hpos : 0 < n) (hn : n ≤ 0x8000000000000000) :
    ofNumeral ⟨true, Digits.write n, [], false, none⟩ = scalar (.integer (-n)) := by
  rw [ofNumeral, Numeral.toJson?, toInteger?_write_negative hpos hn]
  rfl

theorem scan_write {n : Nat} (hn : n < 0x10000000000000000) {more : Bytes}
    (hmore : EndsNumeral more) :
    ∃ b rest, encode (Digits.write n) = b :: rest ∧
      scan b (rest ++ more) = some (scalar (.integer n), more) := by
  obtain ⟨first, rest, hfront⟩ := List.exists_cons_of_ne_nil (Digits.write_ne_nil n)
  have hfirst : first ∈ Digits.write n := hfront ▸ List.mem_cons_self ..
  have hchar := isNumeralChar_of_mem_digits hfirst
  have hascii := toNat_lt_of_isNumeralChar hchar
  have hbytes : encode (Digits.write n) = ascii first :: encode rest := by
    rw [hfront, encode_cons, encodeChar_of_ascii hascii]
    rfl
  have hminus : first ≠ '-' := by
    rintro rfl
    exact absurd (Digits.isDigit_of_mem_write hfirst) (by decide)
  have hscan := scanNumeral_append hmore (scanNumeral_write false n)
  rw [hbytes, List.cons_append, List.nil_append] at hscan
  refine ⟨ascii first, encode rest, hbytes, ?_⟩
  rw [scan_of_isNumeralChar ((charOf_ascii hascii).symm ▸ hchar), charOf_ascii hascii,
    if_neg hminus, hscan, Option.map_some]
  dsimp only
  rw [ofNumeral_write hn]

theorem scan_write_negative {n : Nat} (hpos : 0 < n) (hn : n ≤ 0x8000000000000000) {more : Bytes}
    (hmore : EndsNumeral more) :
    scan (ascii '-') (encode (Digits.write n) ++ more) = some (scalar (.integer (-n)), more) := by
  have hscan := scanNumeral_append hmore (scanNumeral_write true n)
  rw [List.nil_append] at hscan
  rw [scan_of_isNumeralChar (by decide), if_pos (by decide), hscan, Option.map_some]
  dsimp only
  rw [ofNumeral_write_negative hpos hn]

/-- **An integer of 64 bits is read back.** -/
theorem scan_writeInt {n : Int} (hword : IsWord64 n) {more : Bytes} (hmore : EndsNumeral more) :
    ∃ b rest, encode (Digits.writeInt n) = b :: rest ∧
      scan b (rest ++ more) = some (scalar (.integer n), more) := by
  obtain ⟨hlow, hhigh⟩ := hword
  cases n with
  | ofNat n =>
      have hrange : (n : Int) < 0x10000000000000000 := hhigh
      exact scan_write (by omega) hmore
  | negSucc n =>
      refine ⟨ascii '-', encode (Digits.write (n + 1)), rfl, ?_⟩
      exact scan_write_negative (Nat.succ_pos n) (by omega) hmore

/-! ## Floats -/

theorem mem_writePositional {marksInteger : Bool} {digits : List Char} {exponent : Int} {c : Char}
    (hc : c ∈ Number.writePositional marksInteger digits exponent) :
    c ∈ digits ∨ c = '0' ∨ c = '.' := by
  unfold Number.writePositional at hc
  split at hc
  · -- no fraction: digits and zeros, and a mark of the form `.0` if it is asked for
    rcases List.mem_append.mp hc with hc | hc
    · rcases List.mem_append.mp hc with hc | hc
      · exact Or.inl hc
      · exact Or.inr (Or.inl (List.eq_of_mem_replicate hc))
    · split at hc
      · simpa [or_comm] using Or.inr (a := c ∈ digits) (List.mem_cons.mp hc)
      · cases hc
  · -- the point stands between the digits, or zeros stand between it and them
    dsimp only at hc
    split at hc
    · rcases List.mem_append.mp hc with hc | hc
      · exact Or.inl (List.mem_of_mem_take hc)
      · rcases List.mem_cons.mp hc with hc | hc
        · exact Or.inr (Or.inr hc)
        · exact Or.inl (List.mem_of_mem_drop hc)
    · rcases List.mem_cons.mp hc with hc | hc
      · exact Or.inr (Or.inl hc)
      · rcases List.mem_cons.mp hc with hc | hc
        · exact Or.inr (Or.inr hc)
        · rcases List.mem_append.mp hc with hc | hc
          · exact Or.inr (Or.inl (List.eq_of_mem_replicate hc))
          · exact Or.inl hc

theorem mem_writeScientific {digits : List Char} {n : Int} {c : Char}
    (hc : c ∈ Number.writeScientific digits n) :
    c ∈ digits ∨ c ∈ ['.', 'e', '-', '+'] ∨ c ∈ Digits.write n.natAbs := by
  unfold Number.writeScientific at hc
  rcases List.mem_append.mp hc with hc | hc
  · rcases digits with _ | ⟨first, _ | ⟨second, rest⟩⟩
    · cases hc
    · exact Or.inl hc
    · rcases List.mem_cons.mp hc with rfl | hc
      · exact Or.inl (List.mem_cons_self ..)
      · rcases List.mem_cons.mp hc with rfl | hc
        · simp
        · exact Or.inl (List.mem_cons_of_mem _ hc)
  · rcases List.mem_cons.mp hc with rfl | hc
    · simp
    · rcases List.mem_cons.mp hc with rfl | hc
      · split <;> simp
      · exact Or.inr (Or.inr hc)

theorem isNumeralChar_of_mem_positional {marksInteger : Bool} {digits : List Char}
    {exponent : Int} (hdigits : ∀ c ∈ digits, isNumeralChar c = true) {c : Char}
    (hc : c ∈ Number.writePositional marksInteger digits exponent) : isNumeralChar c = true := by
  rcases mem_writePositional hc with hc | rfl | rfl
  · exact hdigits c hc
  · decide
  · decide

theorem isNumeralChar_of_mem_magnitude {q : Rat} {c : Char}
    (hc : c ∈ Number.Format.json.writeMagnitude q) : isNumeralChar c = true := by
  unfold Number.Format.writeMagnitude at hc
  dsimp only at hc
  split at hc
  · exact isNumeralChar_of_mem_positional (fun _ => isNumeralChar_of_mem_digits) hc
  · rcases mem_writeScientific hc with hc | hc | hc
    · exact isNumeralChar_of_mem_digits hc
    · simp only [List.mem_cons, List.not_mem_nil, or_false] at hc
      rcases hc with rfl | rfl | rfl | rfl <;> decide
    · exact isNumeralChar_of_mem_digits hc

theorem isNumeralChar_of_mem_write {x : Number} (hfinite : x.isFinite = true) {c : Char}
    (hc : c ∈ Number.Format.json.write x) : isNumeralChar c = true := by
  have hdigit : ∀ d ∈ ['0'], isNumeralChar d = true := List.forall_mem_singleton.mpr rfl
  have hzero {c : Char} (hc : c ∈ Number.writePositional true ['0'] 0) : isNumeralChar c = true :=
    isNumeralChar_of_mem_positional hdigit hc
  cases x with
  | finite value =>
      rw [Number.Format.write] at hc
      split at hc
      · exact hzero hc
      · split at hc
        · rcases List.mem_cons.mp hc with rfl | hc
          · decide
          · exact isNumeralChar_of_mem_magnitude hc
        · exact isNumeralChar_of_mem_magnitude hc
  | negativeZero =>
      rcases List.mem_cons.mp hc with rfl | hc
      · decide
      · exact hzero hc
  | infinity negative => cases hfinite
  | nan => cases hfinite

theorem isFinite_of_readsBack {x : Number} (h : x.ReadsBack) : x.isFinite = true := by
  cases x with
  | finite value => rfl
  | negativeZero => rfl
  | infinity negative =>
      have hnone : Draft.ofBytes? (Json.float (.infinity negative)).bytes = none := by
        cases negative <;> exact Option.isNone_iff_eq_none.mp (by decide +kernel)
      cases hnone.symm.trans h
  | nan =>
      have hnone : Draft.ofBytes? (Json.float .nan).bytes = none :=
        Option.isNone_iff_eq_none.mp (by decide +kernel)
      cases hnone.symm.trans h

/-- **A float that is read back from its text is so wherever the text stands.** -/
theorem scan_of_readsBack {x : Number} (h : x.ReadsBack) {more : Bytes}
    (hmore : EndsNumeral more) :
    ∃ b rest, encode (Number.Format.json.write x) = b :: rest ∧
      scan b (rest ++ more) = some (scalar (.float x), more) := by
  have hchars := fun c => isNumeralChar_of_mem_write (isFinite_of_readsBack h) (c := c)
  have hbytes := encode_of_isNumeralChar hchars
  have hdraft : Draft.ofBytes? (encode (Number.Format.json.write x)) = some (.float x) := h
  rw [hbytes] at hdraft ⊢
  have hall : ∀ b ∈ (Number.Format.json.write x).map ascii, isNumeralChar (charOf b) = true := by
    intro b hb
    obtain ⟨c, hc, rfl⟩ := List.mem_map.mp hb
    rw [charOf_ascii (toNat_lt_of_isNumeralChar (hchars c hc))]
    exact hchars c hc
  obtain ⟨b, rest, htext, hscan⟩ := scan_of_draft hall hdraft
  refine ⟨b, rest, htext, ?_⟩
  exact scan_append (hall b (by rw [htext]; exact List.mem_cons_self ..)) hscan hmore

end Json.Token

end FeatureFlags
