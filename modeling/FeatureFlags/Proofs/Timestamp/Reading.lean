import FeatureFlags.Proofs.Text.Digits
import FeatureFlags.Proofs.Timestamp.Calendar
import Mathlib.Data.List.TakeWhile
import Mathlib.Tactic.Ring

/-!
# Timestamps are read back

A timestamp that has been read is written as a text that is read as this timestamp
(`ofText?_write`).  What has been read keeps some bounds (`IsRead`): its day has a date with
a year that can be read, and a nanosecond beyond the last one of a second belongs to the last
second of a minute.  The latter is true in universal time as well as in local time, because
offsets are whole minutes.
-/

namespace FeatureFlags

namespace Timestamp

open Text

/-! ## The parts of a text -/

section Parts

variable (rest : List Char)

theorem isBlank_of_isDigit {c : Char} (hc : Digits.isDigit c = true) : isBlank c = false := by
  have hrange := Digits.toNat_of_isDigit hc
  simp [isBlank]
  omega

theorem trimStart_of_isDigit {c : Char} (hc : Digits.isDigit c = true) :
    trimStart (c :: rest) = c :: rest := by
  rw [trimStart, List.dropWhile_cons_of_neg (by simp [isBlank_of_isDigit hc])]

/-- A padded number begins with a digit. -/
theorem exists_cons_writePadded (width n : Nat) :
    ∃ first digits, Digits.writePadded width n = first :: digits ∧
      Digits.isDigit first = true := by
  obtain ⟨first, digits, heq⟩ := List.exists_cons_of_ne_nil (Digits.writePadded_ne_nil width n)
  have hmem : first ∈ Digits.writePadded width n := by
    rw [heq]
    exact List.mem_cons_self ..
  exact ⟨first, digits, heq, Digits.isDigit_of_mem_writePadded hmem⟩

theorem trimStart_writePadded (width n : Nat) :
    trimStart (Digits.writePadded width n ++ rest) = Digits.writePadded width n ++ rest := by
  obtain ⟨first, digits, heq, hfirst⟩ := exists_cons_writePadded width n
  rw [heq, List.cons_append, trimStart_of_isDigit _ hfirst]

theorem takeNumber?_writePadded {width n : Nat} (hwidth : 0 < width) (hn : n < 10 ^ width) :
    takeNumber? width (Digits.writePadded width n ++ rest) = some (n, rest) := by
  have hlength := Digits.length_writePadded hwidth hn
  have htake : (Digits.writePadded width n ++ rest).take width = Digits.writePadded width n :=
    List.take_left' hlength
  have hall : (Digits.writePadded width n).takeWhile Digits.isDigit =
      Digits.writePadded width n :=
    List.takeWhile_eq_self_iff.mpr fun c hc => Digits.isDigit_of_mem_writePadded hc
  rw [takeNumber?, trimStart_writePadded, htake, hall, Digits.read?_writePadded, Option.map_some,
    List.drop_left]

theorem takeMark?_cons {mark : Char} (hmark : isBlank mark = false) :
    takeMark? mark (mark :: rest) = some rest := by
  rw [takeMark?, trimStart, List.dropWhile_cons_of_neg (by simp [hmark])]
  simp

/-- All digits before something else. -/
theorem takeWhile_writePadded (width n : Nat) {c : Char} (hc : Digits.isDigit c = false) :
    (Digits.writePadded width n ++ c :: rest).takeWhile Digits.isDigit =
      Digits.writePadded width n := by
  rw [List.takeWhile_append_of_pos fun c hc => Digits.isDigit_of_mem_writePadded hc,
    List.takeWhile_cons_of_neg (by simp [hc]), List.append_nil]

theorem takeSignedYear_writePadded (sign : Int) (n : Nat) {c : Char}
    (hc : Digits.isDigit c = false) :
    takeYear?.takeSignedYear sign (Digits.writePadded 4 n ++ c :: rest) =
      some (sign * n, c :: rest) := by
  rw [takeYear?.takeSignedYear, takeWhile_writePadded _ _ _ hc, Digits.read?_writePadded]
  change some (sign * (n : Int), List.drop _ _) = some (sign * (n : Int), c :: rest)
  rw [List.drop_left]

theorem takeYear?_writeYear (year : Int) {c : Char} (hc : Digits.isDigit c = false) :
    takeYear? (writeYear year ++ c :: rest) = some (year, c :: rest) := by
  unfold writeYear
  split
  · rename_i hrange
    simp only [Bool.and_eq_true, decide_eq_true_eq] at hrange
    -- four digits without a sign
    have hnumber := takeNumber?_writePadded (c :: rest) (show 0 < 4 by decide)
      (show year.toNat < 10 ^ 4 by omega)
    obtain ⟨first, digits, heq, hfirst⟩ := exists_cons_writePadded 4 year.toNat
    have hsigned : first ≠ '-' ∧ first ≠ '+' := by
      constructor
      · rintro rfl
        exact absurd hfirst (by decide)
      · rintro rfl
        exact absurd hfirst (by decide)
    have hyear : (year.toNat : Int) = year := Int.toNat_of_nonneg hrange.1
    rw [heq, List.cons_append] at hnumber ⊢
    unfold takeYear?
    rw [trimStart_of_isDigit _ hfirst]
    split
    · rename_i hhead
      exact absurd (List.cons.inj hhead).1 hsigned.1
    · rename_i hhead
      exact absurd (List.cons.inj hhead).1 hsigned.2
    · rw [hnumber, Option.map_some]
      change some ((year.toNat : Int), c :: rest) = some (year, c :: rest)
      rw [hyear]
  · split
    · -- more digits, behind the sign
      rename_i hnegative
      have hyear : -1 * (year.natAbs : Int) = year := by omega
      have hread := takeSignedYear_writePadded rest (-1) year.natAbs hc
      rw [hyear] at hread
      exact hread
    · rename_i hnonneg
      have hyear : 1 * (year.natAbs : Int) = year := by omega
      have hread := takeSignedYear_writePadded rest 1 year.natAbs hc
      rw [hyear] at hread
      exact hread

/-- Digits of a fraction stand for as many nanoseconds as their place says. -/
theorem takeFraction?_writePadded {width n : Nat} (hwidth : 0 < width) (hmost : width ≤ 9)
    (hn : n < 10 ^ width) {c : Char} (hc : Digits.isDigit c = false) :
    takeFraction? ('.' :: (Digits.writePadded width n ++ c :: rest)) =
      some (n * 10 ^ (9 - width), c :: rest) := by
  have hlength := Digits.length_writePadded hwidth hn
  have htake : (Digits.writePadded width n).take 9 = Digits.writePadded width n :=
    List.take_of_length_le (by omega)
  rw [takeFraction?, takeWhile_writePadded _ _ _ hc, htake, Digits.read?_writePadded,
    Option.map_some, List.drop_left, hlength]
  rfl

theorem takeFraction?_writeFraction {nanosecond : Nat} (hmost : nanosecond < 1000000000) :
    takeFraction? (writeFraction nanosecond ++ 'Z' :: rest) = some (nanosecond, 'Z' :: rest) := by
  have hZ : Digits.isDigit 'Z' = false := by decide
  unfold writeFraction
  split
  · rename_i hzero
    rw [hzero]
    rfl
  · split
    · -- three, six or nine digits, and the dropped ones were zeros
      rename_i hmilli
      have hread := takeFraction?_writePadded rest (show 0 < 3 by decide) (by decide)
        (show nanosecond / 1000000 < 10 ^ 3 by omega) hZ
      have hvalue : nanosecond / 1000000 * 10 ^ (9 - 3) = nanosecond := by omega
      rwa [hvalue] at hread
    · split
      · rename_i hmicro
        have hread := takeFraction?_writePadded rest (show 0 < 6 by decide) (by decide)
          (show nanosecond / 1000 < 10 ^ 6 by omega) hZ
        have hvalue : nanosecond / 1000 * 10 ^ (9 - 6) = nanosecond := by omega
        rwa [hvalue] at hread
      · have hread := takeFraction?_writePadded rest (show 0 < 9 by decide) (by decide)
          (show nanosecond < 10 ^ 9 by omega) hZ
        have hvalue : nanosecond * 10 ^ (9 - 9) = nanosecond := by omega
        rwa [hvalue] at hread

end Parts

/-! ## What has been read -/

/-- The bounds that a timestamp keeps if it has been read. -/
structure IsRead (t : Timestamp) : Prop where
  least : dayRange.1 ≤ t.day
  most : t.day ≤ dayRange.2
  second : t.second < 86400
  nanosecond : t.nanosecond < 2000000000
  leap : 1000000000 ≤ t.nanosecond → t.second % 60 = 59

theorem lt_of_takeFraction? {text rest : List Char} {nanosecond : Nat}
    (h : takeFraction? text = some (nanosecond, rest)) : nanosecond < 1000000000 := by
  unfold takeFraction? at h
  split at h
  · obtain ⟨n, hn, heq⟩ := Option.map_eq_some_iff.mp h
    cases heq
    have hbound := Digits.read?_lt hn
    have hlength := List.length_take_le 9 (List.takeWhile Digits.isDigit ‹List Char›)
    calc n * Nat.pow 10 (9 - _) < 10 ^ _ * 10 ^ (9 - _) :=
          Nat.mul_lt_mul_of_pos_right hbound (Nat.pow_pos (by decide))
      _ = 1000000000 := by
          rw [← Nat.pow_add, Nat.add_sub_cancel' hlength]
  · cases h
    decide

/-- A time of day lies within the day; in a leap second the minute is at its end. -/
theorem bounds_of_takeTime? {text rest : List Char} {second nanosecond : Nat}
    (h : takeTime? text = some (second, nanosecond, rest)) :
    second < 86400 ∧ nanosecond < 2000000000 ∧
      (1000000000 ≤ nanosecond → second % 60 = 59) := by
  simp only [takeTime?, Option.bind_eq_bind, Option.bind_eq_some_iff] at h
  obtain ⟨⟨hour, afterHour⟩, -, afterMark, -, ⟨minute, afterMinute⟩, -, afterSecondMark, -,
    ⟨sec, afterSecond⟩, -, ⟨fraction, afterFraction⟩, hfraction, h⟩ := h
  have hless := lt_of_takeFraction? hfraction
  simp only [Bool.and_eq_true, decide_eq_true_eq] at h
  split at h
  · rename_i hrange
    split at h
    · cases h
      exact ⟨by omega, by omega, by omega⟩
    · cases h
      exact ⟨by omega, by omega, by omega⟩
  · cases h

/-- An offset is a number of whole minutes. -/
theorem offset_mod {text rest : List Char} {offset : Int}
    (h : takeOffset? text = some (offset, rest)) : offset % 60 = 0 := by
  have hwhole (direction hours minutes : Int) :
      direction * (hours * 3600 + minutes * 60) % 60 = 0 := by
    have hfactor : direction * (hours * 3600 + minutes * 60) =
        direction * (hours * 60 + minutes) * 60 := by ring
    rw [hfactor, Int.mul_emod_left]
  unfold takeOffset? at h
  split at h
  · cases h
    rfl
  · cases h
    rfl
  · split at h
    · cases h
      rfl
    · unfold takeSignedOffset? at h
      split at h
      · cases h
      · simp only [Option.bind_eq_bind] at h
        -- either sign, then hours and minutes
        split at h
        · simp only [Option.bind_some, Option.bind_eq_some_iff] at h
          obtain ⟨hours, -, minutes, -, h⟩ := h
          split at h <;> cases h
          exact hwhole _ _ _
        · split at h
          · simp only [Option.bind_some, Option.bind_eq_some_iff] at h
            obtain ⟨hours, -, minutes, -, h⟩ := h
            split at h <;> cases h
            exact hwhole _ _ _
          · cases h

/-- The moment of a local time keeps the bounds. -/
theorem isRead_of_ofLocal? {day offset : Int} {second nanosecond : Nat} {t : Timestamp}
    (hnanosecond : nanosecond < 2000000000)
    (hleap : 1000000000 ≤ nanosecond → second % 60 = 59) (hminutes : offset % 60 = 0)
    (h : ofLocal? day second nanosecond offset = some t) : t.IsRead := by
  unfold ofLocal? at h
  simp only [Bool.and_eq_true, decide_eq_true_eq] at h
  split at h
  · rename_i hrange
    cases h
    have hmod (n : Int) : Int.fmod n 86400 = n % 86400 :=
      Int.fmod_eq_emod_of_nonneg n (by decide)
    -- the offset is a number of whole minutes, and so is a day
    refine ⟨hrange.1.2, hrange.2, ?_, hnanosecond, fun hlate => ?_⟩
    · dsimp only
      rw [hmod]
      omega
    · have hlast := hleap hlate
      dsimp only
      rw [hmod]
      omega
  · cases h

/-- **A timestamp that has been read keeps the bounds.** -/
theorem isRead_of_ofText? {text : List Char} {t : Timestamp} (h : ofText? text = some t) :
    t.IsRead := by
  simp only [ofText?, Option.bind_eq_bind] at h
  obtain ⟨⟨day, afterDate⟩, -, h⟩ := Option.bind_eq_some_iff.mp h
  cases afterDate with
  | nil => cases h
  | cons separator afterSeparator =>
      dsimp only at h
      split at h
      · rw [Option.bind_some] at h
        obtain ⟨⟨second, nanosecond, afterTime⟩, htime, h⟩ := Option.bind_eq_some_iff.mp h
        obtain ⟨⟨offset, afterOffset⟩, hoffset, h⟩ := Option.bind_eq_some_iff.mp h
        obtain ⟨-, hnanosecond, hleap⟩ := bounds_of_takeTime? htime
        split at h
        · exact isRead_of_ofLocal? hnanosecond hleap (offset_mod hoffset) h
        · cases h
      · cases h

/-! ## What is written -/

theorem daysInMonth_le (year : Int) (month : Nat) : daysInMonth year month ≤ 31 := by
  unfold daysInMonth
  split
  · split <;> decide
  all_goals decide

/-- A date is read back. -/
theorem takeDate?_write {year : Int} {month day : Nat} (hdate : IsDate year month day)
    (hleast : leastYear ≤ year) (hmost : year ≤ greatestYear) (rest : List Char) :
    takeDate? (writeYear year ++ '-' :: twoDigits month ++ '-' :: twoDigits day ++ rest) =
      some (dayOfDate year month day, rest) := by
  have hmark : isBlank '-' = false := by decide
  obtain ⟨hmonth, hday⟩ := hdate
  have hlength := daysInMonth_le year month
  have htext : writeYear year ++ '-' :: twoDigits month ++ '-' :: twoDigits day ++ rest =
      writeYear year ++ '-' :: (twoDigits month ++ '-' :: (twoDigits day ++ rest)) := by
    simp [List.append_assoc]
  have hmonthRead := takeNumber?_writePadded ('-' :: (twoDigits day ++ rest)) (show 0 < 2 by decide)
    (show month < 10 ^ 2 by omega)
  have hdayRead := takeNumber?_writePadded rest (show 0 < 2 by decide)
    (show day < 10 ^ 2 by omega)
  rw [htext, takeDate?, takeYear?_writeYear _ year (by decide)]
  simp only [Option.bind_eq_bind, Option.bind_some, takeMark?_cons _ hmark, twoDigits] at *
  rw [hmonthRead]
  simp only [Option.bind_some, takeMark?_cons _ hmark]
  rw [hdayRead]
  simp [hleast, hmost, hmonth, hday]

/-- A time of day is read back; the sixtieth second is a leap second. -/
theorem takeTime?_write {hour minute second nanosecond : Nat} (hhour : hour < 24)
    (hminute : minute < 60) (hsecond : second ≤ 60) (hnanosecond : nanosecond < 1000000000)
    (rest : List Char) :
    takeTime? (twoDigits hour ++ ':' :: (twoDigits minute ++ ':' :: (twoDigits second ++
      (writeFraction nanosecond ++ 'Z' :: rest)))) =
      if second = 60 then
        some (hour * 3600 + minute * 60 + 59, nanosecond + 1000000000, 'Z' :: rest)
      else some (hour * 3600 + minute * 60 + second, nanosecond, 'Z' :: rest) := by
  have hmark : isBlank ':' = false := by decide
  have htwo {n : Nat} (hn : n ≤ 60) (after : List Char) :
      takeNumber? 2 (twoDigits n ++ after) = some (n, after) :=
    takeNumber?_writePadded after (show 0 < 2 by decide) (show n < 10 ^ 2 by omega)
  rw [takeTime?, htwo (by omega)]
  simp only [Option.bind_eq_bind, Option.bind_some, takeMark?_cons _ hmark]
  rw [htwo (by omega)]
  simp only [Option.bind_some, takeMark?_cons _ hmark]
  rw [htwo hsecond]
  simp only [Option.bind_some]
  rw [takeFraction?_writeFraction _ hnanosecond]
  simp [hhour, hminute, hsecond]

/-- The second of the minute that is written: sixty in a leap second. -/
def writtenSecond (t : Timestamp) : Nat :=
  t.second % 60 + (if 1000000000 ≤ t.nanosecond then 1 else 0)

/-- The nanosecond of the second that is written. -/
def writtenNanosecond (t : Timestamp) : Nat :=
  if 1000000000 ≤ t.nanosecond then t.nanosecond - 1000000000 else t.nanosecond

section Written

variable {t : Timestamp} (h : t.IsRead)
include h

/-- A leap second is the sixtieth of its minute, and no other second is. -/
theorem writtenSecond_spec :
    (1000000000 ≤ t.nanosecond ∧ t.writtenSecond = 60 ∧ t.second % 60 = 59 ∧
      t.writtenNanosecond + 1000000000 = t.nanosecond) ∨
    (t.writtenSecond < 60 ∧ t.writtenSecond = t.second % 60 ∧
      t.writtenNanosecond = t.nanosecond ∧ t.nanosecond < 1000000000) := by
  unfold writtenSecond writtenNanosecond
  by_cases hleap : 1000000000 ≤ t.nanosecond
  · have hminute := h.leap hleap
    rw [if_pos hleap, if_pos hleap]
    exact Or.inl ⟨hleap, by omega, hminute, by omega⟩
  · rw [if_neg hleap, if_neg hleap]
    exact Or.inr ⟨by omega, by omega, rfl, by omega⟩

/-- The time of day is read back. -/
theorem takeTime?_written (rest : List Char) :
    takeTime? (twoDigits (t.second / 3600) ++ ':' :: (twoDigits (t.second / 60 % 60) ++
      ':' :: (twoDigits t.writtenSecond ++ (writeFraction t.writtenNanosecond ++ 'Z' :: rest)))) =
        some (t.second, t.nanosecond, 'Z' :: rest) := by
  have hsecond := h.second
  have hnanosecond := h.nanosecond
  have hday : t.second / 3600 * 3600 + t.second / 60 % 60 * 60 + t.second % 60 = t.second := by
    omega
  rcases writtenSecond_spec h with ⟨-, hsixty, hlast, hrest⟩ | ⟨hless, hsame, hrest, hordinary⟩
  · rw [takeTime?_write (by omega) (by omega) (by omega) (by omega), if_pos hsixty, hrest, ← hlast,
      hday]
  · rw [takeTime?_write (by omega) (by omega) (by omega) (by omega), if_neg hless.ne, hrest, hsame,
      hday]

/-- In universal time a moment is the local time itself. -/
theorem ofLocal?_utc : ofLocal? t.day t.second t.nanosecond 0 = some t := by
  obtain ⟨hleast, hmost, hsecond, -, -⟩ := h
  have hday : Int.fdiv (t.day * 86400 + t.second - 0) 86400 = t.day := by
    rw [Int.fdiv_eq_ediv_of_nonneg _ (by decide)]
    omega
  have hofDay : (Int.fmod (t.day * 86400 + t.second - 0) 86400).toNat = t.second := by
    rw [Int.fmod_eq_emod_of_nonneg _ (by decide)]
    omega
  unfold ofLocal?
  simp only [hday, hofDay]
  simp [hleast, hmost]

/-- **What is written for a timestamp that has been read is read as this timestamp.** -/
theorem ofText?_write : ofText? t.write.toList = some t := by
  obtain ⟨year, month, day, hdateOf, hdate, hback, hfirst, hlast⟩ := isDate_dateOfDay h.least h.most
  have htext : t.write.toList = writeYear year ++ '-' :: twoDigits month ++ '-' :: twoDigits day ++
      'T' :: (twoDigits (t.second / 3600) ++ ':' :: (twoDigits (t.second / 60 % 60) ++ ':' ::
        (twoDigits t.writtenSecond ++ (writeFraction t.writtenNanosecond ++ 'Z' :: [])))) := by
    simp [write, hdateOf, writtenSecond, writtenNanosecond]
  have hsuffix : takeOffset? (trimStart ['Z']) = some (0, []) := rfl
  have hnothing : trimStart [] = [] := rfl
  rw [htext, ofText?, takeDate?_write hdate hfirst hlast, hback]
  simp [takeTime?_written h, hsuffix, hnothing, ofLocal?_utc h]

end Written

end Timestamp

end FeatureFlags
