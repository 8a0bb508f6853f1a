import FeatureFlags.Proofs.Text.Digits
import FeatureFlags.Proofs.Text.Encoding
import Mathlib.Data.String.Basic
import Mathlib.Tactic.SplitIfs

/-!
# The order of texts

Texts are ordered by their first difference, and a text comes before all that it begins.  The
order is the same whether code points or UTF-8 bytes are compared (`compare_encode`).

Two texts are compared piece by piece if their pieces are equally long, or if every piece is ended
by a separator that comes before all characters of a piece.  Written numbers of one length are
ordered as texts the way they are as numbers (`compare_write`).
-/

namespace FeatureFlags.Text

/-! ## Comparing piece by piece -/

section Pieces

variable {α : Type} [Ord α]

theorem compare_cons_of_lt {a b : α} (h : compare a b = .lt) (s t : List α) :
    compare (a :: s) (b :: t) = .lt := by
  rw [List.compare_cons_cons, h, Ordering.lt_then]

theorem compare_append_left [Std.ReflOrd α] (common s t : List α) :
    compare (common ++ s) (common ++ t) = compare s t := by
  induction common with
  | nil => rfl
  | cons a rest ih =>
      rw [List.cons_append, List.cons_append, List.compare_cons_cons, Std.compare_self,
        Ordering.eq_then]
      exact ih

theorem compare_append_of_length_eq {p q : List α} (h : p.length = q.length) (s t : List α) :
    compare (p ++ s) (q ++ t) = (compare p q).then (compare s t) := by
  induction p generalizing q with
  | nil =>
      rw [List.length_eq_zero_iff.mp h.symm, List.compare_nil_nil, Ordering.eq_then]
      rfl
  | cons a p ih =>
      cases q with
      | nil => cases h
      | cons b q =>
          rw [List.cons_append, List.cons_append, List.compare_cons_cons, List.compare_cons_cons,
            ih (Nat.succ.inj h), Ordering.then_assoc]

/-- A text has ended, or goes on behind the separator. -/
def Ends (separator : α) (text : List α) : Prop := ∀ a ∈ text.head?, a = separator

/-- A separator that comes before everything in the pieces ends the shorter of them first. -/
theorem compare_append_of_ends [Std.OrientedOrd α] {separator : α} {p q s t : List α}
    (hp : ∀ a ∈ p, compare separator a = .lt) (hq : ∀ a ∈ q, compare separator a = .lt)
    (hs : Ends separator s) (ht : Ends separator t) :
    compare (p ++ s) (q ++ t) = (compare p q).then (compare s t) := by
  -- an end is empty or begins with the separator, which comes before all of `p` and `q`
  have hshorter {rest longer : List α} {a : α} (hrest : Ends separator rest)
      (ha : compare separator a = .lt) : compare rest (a :: longer) = .lt := by
    cases rest with
    | nil => exact List.compare_nil_cons
    | cons b rest =>
        obtain rfl : b = separator := hrest b rfl
        exact compare_cons_of_lt ha rest longer
  induction p generalizing q with
  | nil =>
      cases q with
      | nil => rfl
      | cons b q =>
          rw [List.compare_nil_cons, Ordering.lt_then]
          exact hshorter hs (hq b List.mem_cons_self)
  | cons a p ih =>
      obtain ⟨ha, hp⟩ := List.forall_mem_cons.mp hp
      cases q with
      | nil =>
          rw [List.compare_cons_nil, Ordering.gt_then, List.nil_append, List.cons_append,
            Std.OrientedOrd.eq_swap, hshorter ht ha]
          rfl
      | cons b q =>
          rw [List.cons_append, List.cons_append, List.compare_cons_cons, List.compare_cons_cons,
            ih hp (List.forall_mem_cons.mp hq).2, Ordering.then_assoc]

end Pieces

/-! ## Characters and bytes -/

theorem compare_char {c d : Char} : compare c d = .lt ↔ c.toNat < d.toNat :=
  Std.LawfulLTCmp.eq_lt_iff_lt

theorem compare_byte {a b : UInt8} : compare a b = .lt ↔ a.toNat < b.toNat :=
  compareOfLessAndEq_eq_lt.trans UInt8.lt_iff_toNat_lt

theorem compare_bytes {a b : UInt8} {s t : Utf8.Bytes} :
    compare (a :: s) (b :: t) = .lt ↔
      a.toNat < b.toNat ∨ a.toNat = b.toNat ∧ compare s t = .lt := by
  rw [List.compare_cons_cons, Ordering.then_eq_lt, compare_byte, Std.compare_eq_iff_eq,
    UInt8.toNat_inj]

/-- The character with the smaller code point has the smaller bytes, whatever follows. -/
theorem compare_encodeChar_append {c d : Char} (h : compare c d = .lt) (s t : Utf8.Bytes) :
    compare (Utf8.encodeChar c ++ s) (Utf8.encodeChar d ++ t) = .lt := by
  have hlt := compare_char.mp h
  have hc := Utf8.toNat_lt_or c
  have hd := Utf8.toNat_lt_or d
  have hsixth (n : Nat) : n / 4096 = n / 64 / 64 ∧ n / 262144 = n / 64 / 64 / 64 := by omega
  unfold Utf8.encodeChar
  dsimp only
  -- Both characters have one to four bytes; more bytes go with a greater first one.
  split_ifs <;> simp (disch := omega) only [List.cons_append, List.nil_append, compare_bytes,
    Utf8.toNat_toUInt8, hsixth] <;> omega

/-- **UTF-8 keeps the order of texts.** -/
theorem compare_encode (s t : List Char) :
    compare (Utf8.encode s) (Utf8.encode t) = compare s t := by
  have hnonempty (c : Char) (more : Utf8.Bytes) :
      ∃ b rest, Utf8.encodeChar c ++ more = b :: rest := by
    obtain ⟨first, rest, hchar, -⟩ := Utf8.next_encodeChar c more
    exact ⟨first, rest ++ more, by rw [hchar, List.cons_append]⟩
  induction s generalizing t with
  | nil =>
      cases t with
      | nil => rfl
      | cons d t =>
          obtain ⟨b, rest, hbytes⟩ := hnonempty d (Utf8.encode t)
          rw [Utf8.encode_cons, hbytes, Utf8.encode_nil, List.compare_nil_cons,
            List.compare_nil_cons]
  | cons c s ih =>
      cases t with
      | nil =>
          obtain ⟨b, rest, hbytes⟩ := hnonempty c (Utf8.encode s)
          rw [Utf8.encode_cons, hbytes, Utf8.encode_nil, List.compare_cons_nil,
            List.compare_cons_nil]
      | cons d t =>
          rw [Utf8.encode_cons, Utf8.encode_cons, List.compare_cons_cons]
          -- the first characters decide unless they are the same, and so do their bytes
          cases horder : compare c d with
          | lt => exact compare_encodeChar_append horder _ _
          | eq =>
              obtain rfl : c = d := Std.compare_eq_iff_eq.mp horder
              rw [compare_append_left, ih, Ordering.eq_then]
          | gt =>
              have hswap : compare d c = .lt := by rw [Std.OrientedOrd.eq_swap, horder]; rfl
              rw [Std.OrientedOrd.eq_swap, compare_encodeChar_append hswap]
              rfl

/-! ## Strings -/

theorem compare_eq_lt_iff {s t : List Char} : compare s t = .lt ↔ s < t := by
  induction s generalizing t with
  | nil =>
      cases t with
      | nil => simp
      | cons d t => simp [List.compare_nil_cons]
  | cons c s ih =>
      cases t with
      | nil => simp [List.compare_cons_nil]
      | cons d t =>
          rw [List.compare_cons_cons, Ordering.then_eq_lt, ih, List.cons_lt_cons_iff,
            Std.compare_eq_iff_eq, Std.LawfulLTCmp.eq_lt_iff_lt]

theorem compare_toList_eq_lt_iff {a b : String} : compare a.toList b.toList = .lt ↔ a < b :=
  compare_eq_lt_iff.trans String.lt_iff_toList_lt.symm

theorem compare_toList_eq_eq_iff {a b : String} : compare a.toList b.toList = .eq ↔ a = b :=
  Std.compare_eq_iff_eq.trans String.toList_inj

theorem compare_toList_eq_gt_iff {a b : String} : compare a.toList b.toList = .gt ↔ b < a := by
  rw [Std.OrientedOrd.eq_swap, Ordering.swap_eq_gt, compare_toList_eq_lt_iff]

/-! ## Written numbers -/

namespace Digits

theorem compare_digit : ∀ m < 10, ∀ n < 10, compare (digit m) (digit n) = compare m n := by
  decide

theorem write_of_lt {n : Nat} (h : n < 10) : write n = [digit n] := by
  rw [write, if_pos h]

theorem write_of_le {n : Nat} (h : 10 ≤ n) : write n = write (n / 10) ++ [digit (n % 10)] := by
  rw [write, if_neg (Nat.not_lt.mpr h)]

theorem length_write_of_lt {n : Nat} (h : n < 10) : (write n).length = 1 :=
  congrArg List.length (write_of_lt h)

theorem length_write_of_le {n : Nat} (h : 10 ≤ n) :
    (write n).length = (write (n / 10)).length + 1 := by
  rw [write_of_le h, List.length_append]
  rfl

theorem length_write_pos (n : Nat) : 0 < (write n).length :=
  List.length_pos_iff.mpr (write_ne_nil n)

/-- A number is ordered by its digits from the first one on. -/
theorem compare_div_then_mod (m n : Nat) :
    (compare (m / 10) (n / 10)).then (compare (m % 10) (n % 10)) = compare m n := by
  simp only [Nat.compare_eq_ite_lt]
  split_ifs <;> simp only [Ordering.lt_then, Ordering.eq_then, Ordering.gt_then] <;> omega

/-- **Numbers of equally many digits are ordered by their spelling.** -/
theorem compare_write {m n : Nat} (h : (write m).length = (write n).length) :
    compare (write m) (write n) = compare m n := by
  induction m using Nat.strongRecOn generalizing n with
  | ind m ih =>
      have hpos := length_write_pos (m / 10)
      have hpos' := length_write_pos (n / 10)
      by_cases hm : m < 10
      · have hn : n < 10 := by
          by_contra hn
          rw [length_write_of_lt hm, length_write_of_le (Nat.le_of_not_lt hn)] at h
          omega
        rw [write_of_lt hm, write_of_lt hn, List.compare_cons_cons, compare_digit m hm n hn,
          List.compare_nil_nil, Ordering.then_eq]
      · have hm : 10 ≤ m := Nat.le_of_not_lt hm
        have hn : 10 ≤ n := by
          by_contra hn
          rw [length_write_of_lt (Nat.lt_of_not_le hn), length_write_of_le hm] at h
          omega
        rw [length_write_of_le hm, length_write_of_le hn] at h
        have hfront : (write (m / 10)).length = (write (n / 10)).length := Nat.succ.inj h
        -- equal lengths: the digits in front decide, and the last one if they are equal
        rw [write_of_le hm, write_of_le hn, compare_append_of_length_eq hfront,
          ih (m / 10) (by omega) hfront, List.compare_cons_cons,
          compare_digit _ (Nat.mod_lt _ (by omega)) _ (Nat.mod_lt _ (by omega)),
          List.compare_nil_nil, Ordering.then_eq, compare_div_then_mod]

/-- A smaller number has no more digits. -/
theorem length_write_mono {m n : Nat} (h : m ≤ n) : (write m).length ≤ (write n).length := by
  induction n using Nat.strongRecOn generalizing m with
  | ind n ih =>
      by_cases hm : m < 10
      · rw [length_write_of_lt hm]
        exact length_write_pos n
      · have hten : 10 ≤ m := Nat.le_of_not_lt hm
        rw [length_write_of_le hten, length_write_of_le (hten.trans h)]
        exact Nat.succ_le_succ (ih (n / 10) (by omega) (Nat.div_le_div_right h))

end Digits

end FeatureFlags.Text
