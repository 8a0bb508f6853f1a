import FeatureFlags.Text.Digits
import Mathlib.Algebra.Group.Nat.Defs

/-!
# Written numbers are read back

`read?` undoes `write`, so that different numbers have different spellings, and
a written number consists of digits alone.  Different integers have different
spellings, too.  Zeros in front of a number change nothing but its length, so that a number
that is padded is read back as well, and nothing else is read as this number
(`read?_eq_some_iff`).
-/

namespace FeatureFlags.Text.Digits

theorem value?_digit : ∀ n < 10, value? (digit n) = some n := by decide

theorem write_ne_nil (n : Nat) : write n ≠ [] := by
  rw [write]
  split <;> simp

theorem isDigit_of_mem_write {n : Nat} {c : Char} (hc : c ∈ write n) : isDigit c := by
  fun_induction write n with
  | case1 n hn =>
      rw [List.mem_singleton.mp hc, isDigit, value?_digit n hn]
      rfl
  | case2 n hn ih =>
      rcases List.mem_append.mp hc with hc | hc
      · exact ih hc
      · rw [List.mem_singleton.mp hc, isDigit, value?_digit _ (Nat.mod_lt _ (by omega))]
        rfl

theorem toNat_of_isDigit {c : Char} (hc : isDigit c = true) : 48 ≤ c.toNat ∧ c.toNat ≤ 57 := by
  have hrange : '0' ≤ c ∧ c ≤ '9' := by simpa [isDigit, value?] using hc
  exact hrange

/-- A written number begins with a digit. -/
theorem exists_cons_write (n : Nat) :
    ∃ first rest, write n = first :: rest ∧ isDigit first = true := by
  obtain ⟨first, rest, hdigits⟩ := List.exists_cons_of_ne_nil (write_ne_nil n)
  exact ⟨first, rest, hdigits, isDigit_of_mem_write (hdigits ▸ List.mem_cons_self ..)⟩

theorem readFrom?_append (n : Nat) (first second : List Char) :
    readFrom? n (first ++ second) = (readFrom? n first).bind (readFrom? · second) := by
  induction first generalizing n with
  | nil => rfl
  | cons c rest ih =>
      simp only [List.cons_append, readFrom?]
      cases value? c with
      | none => rfl
      | some d => exact ih _

theorem readFrom?_write (n : Nat) : readFrom? 0 (write n) = some n := by
  fun_induction write n with
  | case1 n hn => simp [readFrom?, value?_digit n hn]
  | case2 n hn ih =>
      rw [readFrom?_append, ih]
      simp only [Option.bind_some, readFrom?, value?_digit _ (Nat.mod_lt n (by omega))]
      congr 1
      omega

theorem read?_write (n : Nat) : read? (write n) = some n := by
  rw [read?, List.isEmpty_eq_false_iff.mpr (write_ne_nil n)]
  exact readFrom?_write n

theorem write_injective {m n : Nat} (h : write m = write n) : m = n := by
  have hread := congrArg read? h
  rwa [read?_write, read?_write, Option.some.injEq] at hread

theorem writeInt_injective {m n : Int} (h : writeInt m = writeInt n) : m = n := by
  -- No number begins with the sign of a negative one.
  have hsign (k : Nat) (rest : List Char) : write k ≠ '-' :: rest := by
    intro hwrite
    have hdigit : isDigit '-' = true := isDigit_of_mem_write (hwrite ▸ List.mem_cons_self ..)
    cases hdigit
  cases m with
  | ofNat m =>
      cases n with
      | ofNat n => rw [write_injective h]
      | negSucc n => exact absurd h (hsign m _)
  | negSucc m =>
      cases n with
      | ofNat n => exact absurd h.symm (hsign n _)
      | negSucc n => rw [Nat.succ.inj (write_injective (List.cons.inj h).2)]

/-! ## Padded numbers -/

theorem readFrom?_replicate (count : Nat) (text : List Char) :
    readFrom? 0 (List.replicate count '0' ++ text) = readFrom? 0 text := by
  induction count with
  | zero => rfl
  | succ count ih =>
      have hzero : value? '0' = some 0 := by decide
      rw [List.replicate_succ, List.cons_append, readFrom?, hzero]
      exact ih

theorem length_write_le {n width : Nat} (hwidth : 0 < width) (hn : n < 10 ^ width) :
    (write n).length ≤ width := by
  fun_induction write n generalizing width with
  | case1 n hsmall => exact hwidth
  | case2 n hlarge ih =>
      obtain ⟨width, rfl⟩ : ∃ w, width = w + 1 := ⟨width - 1, by omega⟩
      have hpositive : 0 < width := by
        rcases Nat.eq_zero_or_pos width with rfl | hpos
        · omega
        · exact hpos
      have hquotient : n / 10 < 10 ^ width := by
        rw [Nat.pow_succ] at hn
        omega
      rw [List.length_append, List.length_singleton]
      exact Nat.succ_le_succ (ih hpositive hquotient)

theorem length_writePadded {n width : Nat} (hwidth : 0 < width) (hn : n < 10 ^ width) :
    (writePadded width n).length = width := by
  have hlength := length_write_le hwidth hn
  rw [writePadded, List.length_append, List.length_replicate]
  omega

theorem le_length_writePadded (width n : Nat) : width ≤ (writePadded width n).length := by
  rw [writePadded, List.length_append, List.length_replicate]
  omega

theorem writePadded_zero (n : Nat) : writePadded 0 n = write n := by
  rw [writePadded, Nat.zero_sub, List.replicate_zero, List.nil_append]

theorem writePadded_ne_nil (width n : Nat) : writePadded width n ≠ [] := by
  simp [writePadded, write_ne_nil]

theorem isDigit_of_mem_writePadded {width n : Nat} {c : Char} (hc : c ∈ writePadded width n) :
    isDigit c = true := by
  rcases List.mem_append.mp hc with hzero | hdigit
  · rw [List.eq_of_mem_replicate hzero]
    decide
  · exact isDigit_of_mem_write hdigit

theorem read?_writePadded (width n : Nat) : read? (writePadded width n) = some n := by
  rw [read?, List.isEmpty_eq_false_iff.mpr (writePadded_ne_nil width n)]
  exact (readFrom?_replicate _ _).trans (readFrom?_write n)

theorem value?_lt {c : Char} {d : Nat} (h : value? c = some d) : d < 10 := by
  unfold value? at h
  split at h
  · rename_i hrange
    have hmost : c.toNat ≤ 57 := by
      simp only [Bool.and_eq_true, decide_eq_true_eq] at hrange
      exact hrange.2
    cases h
    omega
  · cases h

theorem readFrom?_lt {text : List Char} {n m : Nat} (h : readFrom? n text = some m) :
    m < (n + 1) * 10 ^ text.length := by
  induction text generalizing n with
  | nil =>
      cases h
      simp
  | cons c rest ih =>
      rw [readFrom?] at h
      split at h
      · rename_i d hd
        have hdigit := value?_lt hd
        calc m < (10 * n + d + 1) * 10 ^ rest.length := ih h
          _ ≤ (10 * (n + 1)) * 10 ^ rest.length := Nat.mul_le_mul_right _ (by omega)
          _ = (n + 1) * 10 ^ (c :: rest).length := by
              rw [List.length_cons, Nat.pow_succ, Nat.mul_comm 10 (n + 1), Nat.mul_assoc,
                Nat.mul_comm 10]
      · cases h

theorem read?_lt {text : List Char} {n : Nat} (h : read? text = some n) :
    n < 10 ^ text.length := by
  unfold read? at h
  split at h
  · cases h
  · have hbound := readFrom?_lt h
    omega

/-- A number is read with any zeros in front of it. -/
theorem readSigned?_writePadded {bound n : Nat} (hn : n < bound) (width : Nat) :
    readSigned? bound (writePadded width n) = some n := by
  have hread : readSigned? bound (writePadded width n) =
      (read? (writePadded width n)).filter (· < bound) := by
    unfold readSigned?
    split
    · rename_i rest hplus
      have hdigit : isDigit '+' = true :=
        isDigit_of_mem_writePadded (hplus ▸ List.mem_cons_self ..)
      cases hdigit
    · rfl
  rw [hread, read?_writePadded]
  exact Option.filter_eq_some_iff.mpr ⟨rfl, decide_eq_true hn⟩

/-! ## All spellings of a number -/

theorem toNat_of_value? {c : Char} {d : Nat} (h : value? c = some d) : c.toNat = 48 + d := by
  have hdigit : isDigit c = true := by rw [isDigit, h, Option.isSome_some]
  obtain ⟨hleast, -⟩ := toNat_of_isDigit hdigit
  unfold value? at h
  split at h
  · cases h
    omega
  · cases h

/-- Digits of the same number that are equally many are the same digits, and are read after the
same number. -/
theorem readFrom?_inj {first second : List Char} {m k n : Nat}
    (hlength : first.length = second.length) (hfirst : readFrom? m first = some n)
    (hsecond : readFrom? k second = some n) : m = k ∧ first = second := by
  induction first generalizing m k second with
  | nil =>
      obtain rfl := List.length_eq_zero_iff.mp hlength.symm
      exact ⟨Option.some.inj (hfirst.trans hsecond.symm), rfl⟩
  | cons c first ih =>
      obtain ⟨c', second, rfl⟩ := List.exists_cons_of_length_eq_add_one hlength.symm
      rw [readFrom?] at hfirst hsecond
      split at hfirst
      · rename_i d hd
        split at hsecond
        · rename_i d' hd'
          obtain ⟨hbefore, rfl⟩ := ih (Nat.succ.inj hlength) hfirst hsecond
          -- both digits are below ten, so the leading part and the digit can be told apart
          have hm : m = k := by
            have hsmall := value?_lt hd
            have hsmall' := value?_lt hd'
            omega
          have hc : c = c' := by
            rw [← Char.toNat_inj, toNat_of_value? hd, toNat_of_value? hd']
            omega
          exact ⟨hm, by rw [hc]⟩
        · cases hsecond
      · cases hfirst

/-- The spellings of a number are its digits with any zeros in front of them. -/
theorem read?_eq_some_iff {text : List Char} {n : Nat} :
    read? text = some n ↔ ∃ width, text = writePadded width n := by
  constructor
  · intro h
    have hbound := read?_lt h
    unfold read? at h
    split at h
    · cases h
    · rename_i hne
      have hpositive : 0 < text.length :=
        List.length_pos_iff.mpr fun hnil => hne (List.isEmpty_iff.mpr hnil)
      have hwritten : readFrom? 0 (writePadded text.length n) = some n :=
        (readFrom?_replicate _ _).trans (readFrom?_write n)
      refine ⟨text.length, (readFrom?_inj ?_ h hwritten).2⟩
      exact (length_writePadded hpositive hbound).symm
  · rintro ⟨width, rfl⟩
    exact read?_writePadded width n

/-- The spellings of a number below the bound, where a plus sign is allowed in front. -/
theorem readSigned?_eq_some_iff {bound : Nat} {text : List Char} {n : Nat} :
    readSigned? bound text = some n ↔
      n < bound ∧ ∃ width, text = writePadded width n ∨ text = '+' :: writePadded width n := by
  constructor
  · intro h
    unfold readSigned? at h
    rw [Option.filter_eq_some_iff, decide_eq_true_eq] at h
    obtain ⟨hread, hbound⟩ := h
    refine ⟨hbound, ?_⟩
    split at hread
    · obtain ⟨width, rfl⟩ := read?_eq_some_iff.mp hread
      exact ⟨width, Or.inr rfl⟩
    · obtain ⟨width, rfl⟩ := read?_eq_some_iff.mp hread
      exact ⟨width, Or.inl rfl⟩
  · rintro ⟨hbound, width, rfl | rfl⟩
    · exact readSigned?_writePadded hbound width
    · change (read? (writePadded width n)).filter _ = _
      rw [read?_writePadded]
      exact Option.filter_eq_some_iff.mpr ⟨rfl, decide_eq_true hbound⟩

end FeatureFlags.Text.Digits
