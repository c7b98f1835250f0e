import Gatehouse.Time.Calendar
import Mathlib.Tactic.Lemma

/-!
# Day numbers

`Date.ofDay` finds the date of a day number: it is a date of the calendar (`Date.ofDay_isValid`), it
has that number (`Date.toDay_ofDay`), and its parts are small enough to be written with two digits.
The year is found from an estimate, which `daysBefore_near` shows to be off by one at most.
-/

namespace Gatehouse.Calendar

/-- Four hundred years have 146097 days, and no year begins far from where that puts it. -/
lemma daysBefore_near (y : Int) :
    146097 * y - 396 ≤ 400 * daysBefore y ∧ 400 * daysBefore y ≤ 146097 * y + 699 := by
  simp only [daysBefore]
  omega

/-- A day lies in its year. -/
lemma yearOf_spec (n : Int) : daysBefore (yearOf n) ≤ n ∧ n < daysBefore (yearOf n + 1) := by
  have hn : 146097 * (400 * n / 146097) ≤ 400 * n ∧ 400 * n < 146097 * (400 * n / 146097 + 1) := by
    omega
  simp only [yearOf]
  generalize 400 * n / 146097 = y at *
  split
  case isTrue h =>
    have near := daysBefore_near (y - 1)
    rw [show y - 1 + 1 = y by omega]
    omega
  case isFalse h =>
    split
    case isTrue h' =>
      have near := daysBefore_near (y + 1 + 1)
      omega
    case isFalse h' => omega

/-- The months of a year make 365 days, and one more in a leap year. -/
lemma daysIn_monthLengths : ∀ leap, daysIn (monthLengths leap) = if leap then 366 else 365 := by
  decide

/-- The next year begins after the months of this one. -/
lemma daysBefore_succ (y : Int) :
    daysBefore (y + 1) = daysBefore y + (daysIn (monthLengths (isLeap y)) : Nat) := by
  rw [daysIn_monthLengths]
  cases h : isLeap y with
  | true =>
    simp only [isLeap, Bool.and_eq_true, Bool.or_eq_true, beq_iff_eq, bne_iff_ne] at h
    simp only [daysBefore, if_true]
    omega
  | false =>
    simp only [isLeap, Bool.and_eq_false_iff, Bool.or_eq_false_iff, beq_eq_false_iff_ne,
      bne_eq_false_iff_eq] at h
    simp only [daysBefore, Bool.false_eq_true, if_false]
    omega

/-- The month and the day of a day within a list of months. -/
lemma monthOf_spec {ls : List Nat} {n : Nat} (h : n < daysIn ls) :
    1 ≤ (monthOf ls n).1 ∧ (monthOf ls n).1 ≤ ls.length ∧ 1 ≤ (monthOf ls n).2 ∧
      (monthOf ls n).2 ≤ ls.getD ((monthOf ls n).1 - 1) 0 ∧
      daysIn (ls.take ((monthOf ls n).1 - 1)) + ((monthOf ls n).2 - 1) = n := by
  induction ls generalizing n with
  | nil => cases h
  | cons len ls ih =>
    rw [daysIn] at h
    by_cases hn : n < len
    · have e : monthOf (len :: ls) n = (1, n + 1) := by rw [monthOf, if_pos hn]
      rw [e]
      refine ⟨Nat.le_refl 1, by simp, by simp, ?_, by simp [daysIn]⟩
      exact hn
    · have e : monthOf (len :: ls) n =
          ((monthOf ls (n - len)).1 + 1, (monthOf ls (n - len)).2) := by
        rw [monthOf, if_neg hn]
      obtain ⟨h1, h2, h3, h4, h5⟩ := ih (n := n - len) (by omega)
      rw [e]
      obtain ⟨m, hm⟩ : ∃ m, (monthOf ls (n - len)).1 = m + 1 :=
        ⟨_, (Nat.succ_pred_eq_of_pos h1).symm⟩
      simp only [hm, Nat.add_sub_cancel] at h2 h4 h5 ⊢
      refine ⟨by omega, by simpa using h2, h3, h4, ?_⟩
      rw [List.take_succ_cons, daysIn]
      omega

namespace Date

/-- A year has as many days as its months. -/
lemma dayOfYear_lt (n : Int) :
    (n - daysBefore (yearOf n)).toNat < daysIn (monthLengths (isLeap (yearOf n))) := by
  have h := yearOf_spec n
  rw [daysBefore_succ] at h
  omega

/-- The month and the day of a date are those of the calendar. -/
lemma ofDay_month_day (n : Int) :
    1 ≤ (ofDay n).month ∧ (ofDay n).month ≤ 12 ∧ 1 ≤ (ofDay n).day ∧
      (ofDay n).day ≤ (monthLengths (isLeap (yearOf n))).getD ((ofDay n).month - 1) 0 := by
  obtain ⟨h1, h2, h3, h4, -⟩ := monthOf_spec (dayOfYear_lt n)
  exact ⟨h1, h2, h3, h4⟩

/-- The date of a day is one of the calendar. -/
lemma ofDay_isValid (n : Int) : (ofDay n).isValid = true := by
  obtain ⟨h1, h2, h3, h4⟩ := ofDay_month_day n
  have h4 : (ofDay n).day ≤ daysInMonth (ofDay n).year (ofDay n).month := by
    rw [daysInMonth, if_neg (by omega)]
    exact h4
  simp only [isValid, Bool.and_eq_true, decide_eq_true_eq]
  exact ⟨⟨⟨h1, h2⟩, h3⟩, h4⟩

/-- A day is read back from its date. -/
lemma toDay_ofDay (n : Int) : (ofDay n).toDay = n := by
  obtain ⟨h1, -, h3, -, h5⟩ := monthOf_spec (dayOfYear_lt n)
  have hy := (yearOf_spec n).1
  change daysBefore (yearOf n) +
    (daysIn ((monthLengths (isLeap (yearOf n))).take ((ofDay n).month - 1)) : Nat)
    + (((ofDay n).day : Nat) - 1 : Int) = n
  change 1 ≤ (ofDay n).day at h3
  change daysIn ((monthLengths (isLeap (yearOf n))).take ((ofDay n).month - 1)) +
    ((ofDay n).day - 1)
    = (n - daysBefore (yearOf n)).toNat at h5
  omega

/-- No month has more than 31 days. -/
lemma day_le (n : Int) : (ofDay n).day ≤ 31 := by
  obtain ⟨h1, h2, -, h4⟩ := ofDay_month_day n
  have all : ∀ leap, ∀ m : Fin 12, (monthLengths leap).getD m 0 ≤ 31 := by decide
  exact Nat.le_trans h4 (all _ ⟨(ofDay n).month - 1, by omega⟩)

end Date

end Gatehouse.Calendar
