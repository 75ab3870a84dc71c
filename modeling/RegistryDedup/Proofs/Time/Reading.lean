import Mathlib.Data.Option.Basic
import RegistryDedup.Proofs.Text.Blank
import RegistryDedup.Proofs.Text.Digits
import RegistryDedup.Time.Printer
import RegistryDedup.Time.Reader

/-!
# Instants read back

An instant that is written is read as the same instant, whatever its year and however many digits
its fraction takes. Only leap seconds make a difference: they are written as the second 60 of a
minute, so that one in the middle of a minute would be read as another instant. No instant of a
clock and none that was read from a text is of that kind.

- `Clock.takeDigits_append`, `Clock.readPart_padded`, `Clock.readYear_yearText`,
  `Clock.readFraction_fractionText`: the parts of a text, each as it was written.
- `Instant.EndsMinute`: leap seconds come at the end of a minute only.
- `Instant.endsMinute_of_read?`: so it is for all instants that were read from a cell.
- `Instant.Held`: the instants that a program can hold.
- `Instant.readLoose?_text`: an instant as it was written.
-/

namespace RegistryDedup

open Text

/-! ## Digits -/

section Padded

variable {width n : Nat}

theorem isDigit_of_mem_padded {c : Char} (h : c ∈ padded width n) : isDigit c = true := by
  obtain hzero | hdigit := List.mem_append.mp h
  · rw [(List.mem_replicate.mp hzero).2]
    rfl
  · exact Nat.isDigit_of_mem_toDigits (by decide) (by decide) hdigit

@[simp] theorem digitsValue_padded (width n : Nat) : digitsValue (padded width n) = n := by
  unfold padded
  rw [digitsValue_eq, Nat.ofDigitChars_append, Nat.ofDigitChars_replicate_zero, Nat.mul_zero,
    Nat.ofDigitChars_ten_toDigits]

theorem length_padded (hwidth : 0 < width) (h : n < Nat.pow 10 width) :
    (padded width n).length = width := by
  have hle : (Nat.toDigits 10 n).length ≤ width :=
    (Nat.length_toDigits_le_iff (by decide) hwidth).mpr h
  unfold padded
  rw [List.length_append, List.length_replicate]
  omega

/-- At least one digit is written. -/
theorem exists_padded_cons (width n : Nat) :
    ∃ d ds, padded width n = d :: ds ∧ isDigit d = true := by
  have hne : padded width n ≠ [] := by
    unfold padded
    exact List.append_ne_nil_of_right_ne_nil _ Nat.toDigits_ne_nil
  obtain ⟨d, ds, heq⟩ := List.exists_cons_of_ne_nil hne
  have hmem : d ∈ padded width n := by
    rw [heq]
    exact List.mem_cons_self
  exact ⟨d, ds, heq, isDigit_of_mem_padded hmem⟩

end Padded

namespace Clock

variable {rest : List Char}

/-- Digits are taken as a number, if `max` of them are where more would follow. -/
theorem takeDigits_append {min max : Nat} {ds : List Char} (hdigits : ∀ c ∈ ds, isDigit c = true)
    (hmin : min ≤ ds.length) (hstop : (ds ++ rest.takeWhile isDigit).take max = ds) :
    takeDigits min max (ds ++ rest) = some (digitsValue ds, rest) := by
  unfold takeDigits
  rw [List.takeWhile_append_of_pos hdigits, hstop]
  show (if ds.length < min then none else some (digitsValue ds, (ds ++ rest).drop ds.length)) = _
  rw [if_neg (Nat.not_lt_of_le hmin), List.drop_left]

/-- Two digits are read as the number they were written from. -/
theorem readPart_padded {n : Nat} (h : n < 100) (rest : List Char) :
    readPart (padded 2 n ++ rest) = some (n, rest) := by
  obtain ⟨d, ds, heq, hd⟩ := exists_padded_cons 2 n
  have hlength : (padded 2 n).length = 2 := length_padded (by decide) h
  have htrim : trimStart (padded 2 n ++ rest) = padded 2 n ++ rest := by
    rw [heq]
    exact trimStart_cons (isBlank_of_isDigit hd) _
  have hstop : (padded 2 n ++ rest.takeWhile isDigit).take 2 = padded 2 n :=
    List.take_left' hlength
  unfold readPart
  rw [htrim, takeDigits_append (fun c => isDigit_of_mem_padded) (by omega) hstop,
    digitsValue_padded]

/-- A year is read up to the mark after it. -/
theorem readYear_yearText (year : Int) (rest : List Char) :
    readYear (yearText year ++ '-' :: rest) = some (year, '-' :: rest) := by
  obtain ⟨d, ds, heq, hd⟩ := exists_padded_cons 4 year.natAbs
  have hdigits : ∀ c ∈ padded 4 year.natAbs, isDigit c = true := fun c => isDigit_of_mem_padded
  -- After a sign all digits up to the mark count.
  have hsigned : takeDigits 1 (padded 4 year.natAbs ++ '-' :: rest).length
      (padded 4 year.natAbs ++ '-' :: rest) = some (year.natAbs, '-' :: rest) := by
    have hnone : ('-' :: rest).takeWhile isDigit = [] := rfl
    rw [takeDigits_append hdigits, digitsValue_padded]
    · rw [heq]
      exact Nat.succ_le_succ (Nat.zero_le _)
    · rw [hnone, List.append_nil]
      refine List.take_of_length_le ?_
      rw [List.length_append]
      exact Nat.le_add_right _ _
  unfold yearText
  by_cases hyear : 0 ≤ year ∧ year ≤ 9999
  · have hfour : year.natAbs < 10000 := by omega
    have hlength : (padded 4 year.natAbs).length = 4 := length_padded (by decide) hfour
    have hunsigned : takeDigits 1 4 (padded 4 year.natAbs ++ '-' :: rest) =
        some (year.natAbs, '-' :: rest) := by
      rw [takeDigits_append hdigits (by omega) (List.take_left' hlength), digitsValue_padded]
    rw [if_pos hyear]
    unfold readYear
    have htrim : trimStart (padded 4 year.natAbs ++ '-' :: rest) =
        padded 4 year.natAbs ++ '-' :: rest := by
      rw [heq]
      exact trimStart_cons (isBlank_of_isDigit hd) _
    rw [htrim]
    -- A digit is no sign.
    split
    · next hsign =>
      rw [heq] at hsign
      rw [(List.cons.inj hsign).1] at hd
      cases hd
    · next hsign =>
      rw [heq] at hsign
      rw [(List.cons.inj hsign).1] at hd
      cases hd
    · rw [hunsigned]
      show some ((year.natAbs : Int), _) = _
      rw [Int.natAbs_of_nonneg hyear.1]
  · rw [if_neg hyear]
    by_cases hneg : year < 0
    · rw [if_pos hneg]
      show (takeDigits 1 (padded 4 year.natAbs ++ '-' :: rest).length
        (padded 4 year.natAbs ++ '-' :: rest)).map _ = _
      rw [hsigned]
      show some (-(year.natAbs : Int), _) = _
      rw [Int.ofNat_natAbs_of_nonpos (Int.le_of_lt hneg), Int.neg_neg]
    · rw [if_neg hneg]
      show (takeDigits 1 (padded 4 year.natAbs ++ '-' :: rest).length
        (padded 4 year.natAbs ++ '-' :: rest)).map _ = _
      rw [hsigned]
      show some ((year.natAbs : Int), _) = _
      rw [Int.natAbs_of_nonneg (Int.not_lt.mp hneg)]

/-- The digits after a point are read as a part of a second. -/
theorem readFraction_padded {k m : Nat} (hk : 0 < k) (hk' : k ≤ 9) (hm : m < Nat.pow 10 k)
    (rest : List Char) :
    readFraction ('.' :: (padded k m ++ 'Z' :: rest)) =
      some (m * Nat.pow 10 (9 - k), 'Z' :: rest) := by
  have hlength : (padded k m).length = k := length_padded hk hm
  have hspan : (padded k m ++ 'Z' :: rest).takeWhile isDigit = padded k m := by
    have hnone : ('Z' :: rest).takeWhile isDigit = [] := rfl
    rw [List.takeWhile_append_of_pos fun c => isDigit_of_mem_padded, hnone, List.append_nil]
  have hne : (padded k m).isEmpty = false := by
    obtain ⟨d, ds, heq, -⟩ := exists_padded_cons k m
    rw [heq]
    rfl
  have hkept : (padded k m).take 9 = padded k m := List.take_of_length_le (by omega)
  show (if (List.takeWhile isDigit (padded k m ++ 'Z' :: rest)).isEmpty = true then none else _) = _
  rw [hspan, hne, hkept, if_neg Bool.false_ne_true, digitsValue_padded, hlength]
  have hdrop : (padded k m ++ 'Z' :: rest).drop k = 'Z' :: rest := List.drop_left' hlength
  rw [hdrop]

/-- The fraction of a second is read as it was written, with whichever number of digits. -/
theorem readFraction_fractionText {nano : Nat} (h : nano < nanosPerSecond) (rest : List Char) :
    readFraction (Instant.fractionText nano ++ 'Z' :: rest) = some (nano, 'Z' :: rest) := by
  have hbound : nano < 1000000000 := h
  have hmilli : Nat.pow 10 6 = 1000000 := rfl
  have hmicro : Nat.pow 10 3 = 1000 := rfl
  unfold Instant.fractionText
  rw [hmilli, hmicro]
  -- No digits, three, six or nine of them; in each case the others would be zeros.
  split
  · next hzero =>
    rw [hzero]
    rfl
  split
  · next hmillis =>
    have hread := readFraction_padded (k := 3) (m := nano / 1000000) (by decide) (by decide)
      (by omega) rest
    rw [List.cons_append, hread]
    have hscale : nano / 1000000 * Nat.pow 10 (9 - 3) = nano := by
      have hpow : Nat.pow 10 (9 - 3) = 1000000 := rfl
      rw [hpow]
      omega
    rw [hscale]
  split
  · next hmicros =>
    have hread := readFraction_padded (k := 6) (m := nano / 1000) (by decide) (by decide)
      (by omega) rest
    rw [List.cons_append, hread]
    have hscale : nano / 1000 * Nat.pow 10 (9 - 6) = nano := by
      have hpow : Nat.pow 10 (9 - 6) = 1000 := rfl
      rw [hpow]
      omega
    rw [hscale]
  · have hread := readFraction_padded (k := 9) (m := nano) (by decide) (by decide) hbound rest
    rw [List.cons_append, hread]
    have hscale : nano * Nat.pow 10 (9 - 9) = nano := by
      have hpow : Nat.pow 10 (9 - 9) = 1 := rfl
      rw [hpow]
      omega
    rw [hscale]

/-- A mark is read where it stands. -/
theorem spacedMark_cons {c : Char} (h : isBlank c = false) (s : List Char) :
    spacedMark c (c :: s) = some s := by
  unfold spacedMark
  rw [trimStart_cons h]
  exact if_pos rfl

/-- A date is read as it was written. -/
theorem readDate_written (date : Date) (rest : List Char) :
    readDate spacedMark (yearText date.year ++ '-' :: (padded 2 date.month ++
      '-' :: (padded 2 date.day ++ rest))) = some (date, rest) := by
  have hdate := date.isDate
  have hmonth : date.month < 100 ∧ date.day < 100 := by
    simp only [isDate, Bool.and_eq_true, decide_eq_true_eq] at hdate
    obtain ⟨⟨⟨-, hmonth⟩, -⟩, hday⟩ := hdate
    have hdays : daysInMonth date.year date.month ≤ 31 := by
      unfold daysInMonth
      split
      · split <;> decide
      · split <;> decide
    omega
  unfold readDate
  rw [readYear_yearText]
  simp only [Option.bind_eq_bind, Option.bind_some]
  rw [spacedMark_cons rfl]
  simp only [Option.bind_some]
  rw [readPart_padded hmonth.1]
  simp only [Option.bind_some]
  rw [spacedMark_cons rfl]
  simp only [Option.bind_some]
  rw [readPart_padded hmonth.2]
  simp only [Option.bind_some]
  unfold Date.ofFields?
  rw [dif_pos hdate]
  rfl

/-- A time of day is read as it was written, up to the `Z` after it. -/
theorem readTime_written {hour minute second nano : Nat} (hhour : hour < 100)
    (hminute : minute < 100) (hsecond : second < 100) (hnano : nano < nanosPerSecond)
    (rest : List Char) :
    readTime spacedMark (padded 2 hour ++ ':' :: (padded 2 minute ++ ':' :: (padded 2 second ++
      (Instant.fractionText nano ++ 'Z' :: rest)))) =
      some ((hour, minute, second, nano), 'Z' :: rest) := by
  unfold readTime
  rw [readPart_padded hhour]
  simp only [Option.bind_eq_bind, Option.bind_some]
  rw [spacedMark_cons rfl]
  simp only [Option.bind_some]
  rw [readPart_padded hminute]
  simp only [Option.bind_some]
  rw [spacedMark_cons rfl]
  simp only [Option.bind_some]
  rw [readPart_padded hsecond]
  simp only [Option.bind_some]
  rw [readFraction_fractionText hnano]
  rfl

end Clock

/-! ## Instants -/

namespace Instant

variable {t : Instant}

/-- Leap seconds come at the end of a minute only. -/
def EndsMinute (t : Instant) : Prop :=
  t.isLeap = true → t.second % 60 = 59

/-- The nanoseconds of an instant are those of the second, and a second more in a leap second. -/
theorem nano_eq (t : Instant) :
    t.nano = t.subsecond + if t.isLeap then nanosPerSecond else 0 := by
  unfold subsecond isLeap
  by_cases hleap : nanosPerSecond ≤ t.nano
  · rw [if_pos (decide_eq_true hleap), if_pos (decide_eq_true hleap)]
    omega
  · rw [if_neg (by simpa using hleap), if_neg (by simpa using hleap)]
    omega

theorem subsecond_lt (t : Instant) : t.subsecond < nanosPerSecond := by
  have hnano := t.nano_lt
  unfold subsecond isLeap
  by_cases hleap : nanosPerSecond ≤ t.nano
  · rw [if_pos (decide_eq_true hleap)]
    omega
  · rw [if_neg (by simpa using hleap)]
    omega

theorem ofFields?_fields (t : Instant) : ofFields? t.date t.second t.nano = some t := by
  unfold ofFields?
  rw [dif_pos t.second_lt, dif_pos t.nano_lt]

/-- The second and the nanoseconds that a clock reader keeps: a second 60 is a leap second. -/
theorem clock_second_nano (h : t.EndsMinute) :
    (if t.secondOfMinute = 60 then (59, t.subsecond + nanosPerSecond)
      else (t.secondOfMinute, t.subsecond)) = (t.second % 60, t.nano) := by
  have hnano := nano_eq t
  unfold secondOfMinute
  by_cases hleap : t.isLeap = true
  · -- The second shown is 60 because the one before it ends the minute.
    rw [if_pos hleap] at hnano ⊢
    rw [h hleap, hnano, if_pos rfl]
  · rw [if_neg hleap] at hnano ⊢
    rw [hnano, if_neg (by omega), Nat.add_zero, Nat.add_zero]

/-- A clock shows a time of day. -/
theorem clock_inRange (t : Instant) : (t.hour ≤ 23 && t.minute ≤ 59 && t.secondOfMinute ≤ 60 &&
    t.subsecond < nanosPerSecond) = true := by
  have hday : t.second < 86400 := t.second_lt
  have hhour : t.hour ≤ 23 := by
    unfold hour
    omega
  have hminute : t.minute ≤ 59 := by
    unfold minute
    omega
  have hsecond : t.secondOfMinute ≤ 60 := by
    unfold secondOfMinute
    split <;> omega
  rw [decide_eq_true hhour, decide_eq_true hminute, decide_eq_true hsecond,
    decide_eq_true (subsecond_lt t)]
  rfl

theorem clock_second (t : Instant) :
    t.hour * 3600 + t.minute * 60 + t.second % 60 = t.second := by
  unfold hour minute
  omega

/-- What a clock shows at an instant is that instant. -/
theorem ofLocal?_clock (h : t.EndsMinute) :
    ofLocal? t.date t.hour t.minute t.secondOfMinute t.subsecond 0 = some t := by
  have hguard : (guard (true = true) : Option Unit) = some () := rfl
  unfold ofLocal?
  rw [clock_inRange, clock_second_nano h, hguard, Option.bind_eq_bind, Option.bind_some]
  dsimp only
  rw [clock_second, Int.sub_zero, if_neg (by omega), if_pos (Int.ofNat_lt.mpr t.second_lt),
    Int.toNat_natCast]
  exact ofFields?_fields t

/-- An instant is read as it was written. -/
theorem readLoose?_text (h : t.EndsMinute) : readLoose? t.text = some t := by
  have hclock : t.clockText ++ ['Z'] = yearText t.date.year ++ '-' :: (padded 2 t.date.month ++
      '-' :: (padded 2 t.date.day ++ 'T' :: (padded 2 t.hour ++ ':' :: (padded 2 t.minute ++
      ':' :: (padded 2 t.secondOfMinute ++ (fractionText t.subsecond ++ ['Z'])))))) := by
    unfold clockText
    simp only [List.append_assoc, List.cons_append]
  have hhour : t.hour < 100 := by
    have hsecond := t.second_lt
    unfold secondsPerDay at hsecond
    unfold hour
    omega
  have hminute : t.minute < 100 := by
    unfold minute
    omega
  have hsecond : t.secondOfMinute < 100 := by
    unfold secondOfMinute
    split <;> omega
  unfold readLoose? text
  rw [String.toList_ofList, hclock]
  unfold readLooseText?
  rw [Clock.readDate_written]
  simp only [Option.bind_eq_bind, Option.bind_some]
  show (Clock.readTime Clock.spacedMark _).bind _ = _
  rw [Clock.readTime_written hhour hminute hsecond (subsecond_lt t)]
  exact ofLocal?_clock h

/-! ### Instants that were read -/

theorem fields_of_ofFields? {date : Date} {second nano : Nat}
    (h : ofFields? date second nano = some t) : t.second = second ∧ t.nano = nano := by
  unfold ofFields? at h
  split at h
  · split at h
    · cases h
      exact ⟨rfl, rfl⟩
    · cases h
  · cases h

/-- The instant that a clock shows somewhere has its leap seconds at the end of a minute, as clocks
differ by whole minutes. -/
theorem endsMinute_of_ofLocal? {date : Date} {hour minute second nano : Nat} {offset : Int}
    (hminutes : 60 ∣ offset) (hday : offset < secondsPerDay)
    (h : ofLocal? date hour minute second nano offset = some t) : t.EndsMinute := by
  obtain ⟨minutes, rfl⟩ := hminutes
  have hperDay : (secondsPerDay : Int) = 86400 := rfl
  intro hleap
  have hlong : nanosPerSecond ≤ t.nano := of_decide_eq_true hleap
  unfold ofLocal? at h
  rw [Option.bind_eq_bind, Option.bind_eq_some_iff] at h
  obtain ⟨_, hrange, h⟩ := h
  have hnano : nano < nanosPerSecond := by
    have hall := (Option.guard_eq_some' _).mp hrange
    rw [Bool.and_eq_true] at hall
    exact of_decide_eq_true hall.2
  -- Only the second 60 gives more than a second of nanoseconds.
  by_cases hsixty : second = 60
  · rw [if_pos hsixty] at h
    dsimp only at h
    rw [hperDay] at h hday
    split at h
    · obtain ⟨date, -, h⟩ := Option.bind_eq_some_iff.mp h
      have hsecond := (fields_of_ofFields? h).1
      omega
    split at h
    · have hsecond := (fields_of_ofFields? h).1
      omega
    · obtain ⟨date, -, h⟩ := Option.bind_eq_some_iff.mp h
      have hsecond := (fields_of_ofFields? h).1
      omega
  · rw [if_neg hsixty] at h
    dsimp only at h
    have hsame : t.nano = nano := by
      split at h
      · obtain ⟨date, -, h⟩ := Option.bind_eq_some_iff.mp h
        exact (fields_of_ofFields? h).2
      split at h
      · exact (fields_of_ofFields? h).2
      · obtain ⟨date, -, h⟩ := Option.bind_eq_some_iff.mp h
        exact (fields_of_ofFields? h).2
    omega

/-- Offsets are whole minutes, and less than a day. -/
theorem offset_of_readOffset {between : List Char → Option (List Char)} {s rest : List Char}
    {offset : Int} (h : Clock.readOffset between s = some (offset, rest)) :
    60 ∣ offset ∧ offset < secondsPerDay := by
  have hperDay : (secondsPerDay : Int) = 86400 := rfl
  unfold Clock.readOffset at h
  split at h
  · split at h
    · cases h
      exact ⟨by omega, by omega⟩
    split at h
    · split at h
      · split at h
        · simp only [Option.bind_eq_bind, Option.bind_eq_some_iff] at h
          obtain ⟨_, -, ⟨minutes, after⟩, -, _, hday, heq⟩ := h
          have hlt := (Option.guard_eq_some' _).mp hday
          unfold secondsPerDay at hlt
          rw [Option.pure_def, Option.some.injEq, Prod.mk.injEq] at heq
          obtain ⟨heq, -⟩ := heq
          dsimp only at hlt heq
          split at heq
          · omega
          · omega
        · cases h
      · cases h
    · cases h
  · cases h

theorem endsMinute_of_readStrict? {s : List Char} (h : readStrict? s = some t) : t.EndsMinute := by
  unfold readStrict? at h
  -- The year, then month, day, hour, minute and second, each after a mark, and the fraction.
  obtain ⟨⟨_, _⟩, -, h⟩ := Option.bind_eq_some_iff.mp h
  iterate 5
    obtain ⟨_, -, h⟩ := Option.bind_eq_some_iff.mp h
    obtain ⟨⟨_, _⟩, -, h⟩ := Option.bind_eq_some_iff.mp h
  obtain ⟨⟨_, _⟩, -, h⟩ := Option.bind_eq_some_iff.mp h
  obtain ⟨⟨offset, rest⟩, hoffset, h⟩ := Option.bind_eq_some_iff.mp h
  obtain ⟨_, -, h⟩ := Option.bind_eq_some_iff.mp h
  obtain ⟨date, -, hlocal⟩ := Option.bind_eq_some_iff.mp h
  obtain ⟨hminutes, hday⟩ := offset_of_readOffset hoffset
  exact endsMinute_of_ofLocal? hminutes hday hlocal

theorem endsMinute_of_readLocal? {mark : List Char → Option (List Char)} {s : List Char}
    (h : readLocal? mark s = some t) : t.EndsMinute := by
  unfold readLocal? at h
  obtain ⟨⟨date, _⟩, -, h⟩ := Option.bind_eq_some_iff.mp h
  obtain ⟨_, -, h⟩ := Option.bind_eq_some_iff.mp h
  obtain ⟨⟨⟨hour, minute, second, nano⟩, _⟩, -, h⟩ := Option.bind_eq_some_iff.mp h
  obtain ⟨_, -, hlocal⟩ := Option.bind_eq_some_iff.mp h
  exact endsMinute_of_ofLocal? (Int.dvd_zero 60) (by decide) hlocal

/-- An instant that was read from a cell has its leap seconds at the end of a minute. -/
theorem endsMinute_of_read? {s : String} (h : read? s = some t) : t.EndsMinute := by
  unfold read? at h
  rw [Option.or_eq_some_iff, Option.or_eq_some_iff] at h
  obtain h | ⟨-, h | ⟨-, h⟩⟩ := h
  · exact endsMinute_of_readStrict? h
  · exact endsMinute_of_readLocal? h
  · exact endsMinute_of_readLocal? h

/-- An instant that a program can hold: one of its clock, which knows no leap seconds, or one that
was read from a cell of a table. -/
inductive Held : Instant → Prop
  | clock {t : Instant} (h : t.isLeap = false) : Held t
  | cell {t : Instant} {s : String} (h : read? s = some t) : Held t

/-- The clock counts seconds and nanoseconds from the start of 1970. -/
theorem held_of_ofEpoch? {seconds : Int} {nano : Nat} (hnano : nano < nanosPerSecond)
    (h : ofEpoch? seconds nano = some t) : t.Held := by
  have hsame : t.nano = nano := by
    unfold ofEpoch? at h
    dsimp only at h
    split at h
    · obtain ⟨date, -, hfields⟩ := Option.bind_eq_some_iff.mp h
      exact (fields_of_ofFields? hfields).2
    · obtain ⟨date, -, hfields⟩ := Option.bind_eq_some_iff.mp h
      exact (fields_of_ofFields? hfields).2
  refine .clock ?_
  unfold isLeap
  exact decide_eq_false (by omega)

theorem Held.endsMinute (h : t.Held) : t.EndsMinute := by
  cases h with
  | clock hclock =>
    intro hleap
    rw [hclock] at hleap
    cases hleap
  | cell hread => exact endsMinute_of_read? hread

end Instant

end RegistryDedup
