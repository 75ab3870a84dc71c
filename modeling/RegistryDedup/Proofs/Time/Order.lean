import Mathlib.Logic.Function.Basic
import RegistryDedup.Time.Instant

/-!
# The order of instants

The rank of an instant puts its fields into one number, of which each field takes a part that it
cannot outgrow. So ranks compare as the fields do from the year down, and no two instants share one.

- `Instant.rank_lt_iff`: what it is to be before another instant.
- `Instant.rank_injective`: instants that are told apart have different ranks.
-/

namespace RegistryDedup

/-- Months and days are counted from one, and there are no more than twelve and thirty-one. -/
theorem Date.inRange (d : Date) : 1 ≤ d.month ∧ d.month ≤ 12 ∧ 1 ≤ d.day ∧ d.day ≤ 31 := by
  have hdate := d.isDate
  simp only [RegistryDedup.isDate, Bool.and_eq_true, decide_eq_true_eq] at hdate
  have hdays : daysInMonth d.year d.month ≤ 31 := by
    unfold daysInMonth
    split
    · split <;> decide
    · split <;> decide
  omega

namespace Instant

/-- An instant is before another if it is so by the first field in which they differ. -/
theorem rank_lt_iff (s t : Instant) : s.rank < t.rank ↔
    s.date.year < t.date.year ∨ s.date.year = t.date.year ∧
      (s.date.month < t.date.month ∨ s.date.month = t.date.month ∧
        (s.date.day < t.date.day ∨ s.date.day = t.date.day ∧
          (s.second < t.second ∨ s.second = t.second ∧ s.nano < t.nano))) := by
  have hs := s.date.inRange
  have ht := t.date.inRange
  have hsecond := And.intro s.second_lt t.second_lt
  have hnano := And.intro s.nano_lt t.nano_lt
  simp only [rank, secondsPerDay, nanosPerSecond] at *
  omega

theorem rank_injective : Function.Injective rank := by
  intro s t heq
  -- Neither is before the other, in no field.
  have hst := mt (rank_lt_iff s t).mpr (Int.not_lt.mpr (Int.le_of_eq heq.symm))
  have hts := mt (rank_lt_iff t s).mpr (Int.not_lt.mpr (Int.le_of_eq heq))
  obtain ⟨⟨year, month, day, hdate⟩, second, nano, hsecond, hnano⟩ := s
  obtain ⟨⟨year', month', day', hdate'⟩, second', nano', hsecond', hnano'⟩ := t
  dsimp only at hst hts
  obtain ⟨rfl, rfl, rfl, rfl, rfl⟩ : year = year' ∧ month = month' ∧ day = day' ∧
      second = second' ∧ nano = nano' := by omega
  rfl

end Instant

end RegistryDedup
