import Mathlib.Algebra.Order.Group.Int
import TypedRoutes.Proofs.Calendar.Layout
/-!
# Days in a row

The days of the calendar are numbered one after the other, over the ends of months, of years and of Februaries with
a leap day. No two days have one number (`Date.dayNumber_injective`), so the day before or behind another is told by its
number: `Date.next?_eq_some_iff`, `Date.previous?_eq_some_iff`. Only at the ends of the calendar there is none.
-/
namespace TypedRoutes.Calendar

theorem daysInMonth_pos (year : Int) {month : Nat} (h : 1 ≤ month) (h' : month ≤ 12) : 1 ≤ daysInMonth year month := by
  unfold daysInMonth
  split
  case h_12 => split <;> omega
  case h_13 => grind
  all_goals omega

/-- A month with a day is not the zeroth. -/
theorem one_le_month_of_isDate {year : Int} {month day : Nat} (h : IsDate year month day) : 1 ≤ month := by
  obtain ⟨-, -, hpos, hle⟩ := h
  by_contra hm
  obtain rfl : month = 0 := by omega
  have hz : daysInMonth year 0 = 0 := rfl
  omega

namespace Date

/-! ## Years and months -/

/-- The number of days from the first of January of the year 1 to that of a year. -/
def daysBeforeYear (year : Int) : Int :=
  365 * (year - 1) + (year - 1) / 4 - (year - 1) / 100 + (year - 1) / 400

theorem daysBeforeYear_succ (year : Int) :
    daysBeforeYear (year + 1) = daysBeforeYear year + if isLeapYear year then 366 else 365 := by
  have hyear : isLeapYear year = true ↔ year % 4 = 0 ∧ (year % 100 ≠ 0 ∨ year % 400 = 0) := by simp [isLeapYear]
  unfold daysBeforeYear
  split
  · rename_i h
    rw [hyear] at h
    omega
  · rename_i h
    rw [hyear] at h
    omega

theorem daysBeforeYear_le {year other : Int} (h : year ≤ other) : daysBeforeYear year ≤ daysBeforeYear other := by
  unfold daysBeforeYear
  omega

theorem daysBeforeMonth_one (year : Int) : daysBeforeMonth year 1 = 0 := rfl

theorem daysBeforeMonth_succ (year : Int) {month : Nat} (h : 1 ≤ month) :
    daysBeforeMonth year (month + 1) = daysBeforeMonth year month + daysInMonth year month := by
  have hlen : 1 ≤ (List.range month).length := by simpa using h
  rw [daysBeforeMonth, List.range_succ, List.drop_append_of_le_length hlen, List.foldl_append]
  rfl

theorem daysBeforeMonth_le (year : Int) {month other : Nat} (h : 1 ≤ month) (hle : month ≤ other) :
    daysBeforeMonth year month ≤ daysBeforeMonth year other := by
  induction other, hle using Nat.le_induction with
  | base => exact Nat.le_refl _
  | succ other hle ih =>
    rw [daysBeforeMonth_succ year (h.trans hle)]
    omega

/-- A year is over after its December. -/
theorem daysBeforeMonth_december (year : Int) :
    ((daysBeforeMonth year 12 + 31 : Nat) : Int) = if isLeapYear year then 366 else 365 := by
  have hsum : daysBeforeMonth year 12 = 306 + daysInMonth year 2 := by
    simp only [daysBeforeMonth, List.range, List.range.loop, List.drop, List.foldl, daysInMonth]
    omega
  rw [hsum, daysInMonth]
  split <;> rfl

/-! ## Days -/

variable {d e : Date}

theorem dayNumber_eq (d : Date) :
    d.dayNumber = daysBeforeYear d.year + daysBeforeMonth d.year d.month + d.day - 719163 := rfl

theorem one_le_month (d : Date) : 1 ≤ d.month :=
  one_le_month_of_isDate d.isDate

theorem month_le (d : Date) : d.month ≤ 12 :=
  month_le_of_isDate d.isDate

theorem of?_eq_some_iff {year : Int} {month day : Nat} :
    of? year month day = some e ↔ e.year = year ∧ e.month = month ∧ e.day = day := by
  constructor
  · intro h
    unfold of? at h
    split at h
    · cases h
      exact ⟨rfl, rfl, rfl⟩
    · cases h
  · rintro ⟨rfl, rfl, rfl⟩
    exact e.of?_self

theorem of?_eq_none_iff {year : Int} {month day : Nat} : of? year month day = none ↔ ¬ IsDate year month day := by
  unfold of?
  split <;> simp [*]

/-- A day is behind the days of the years before. -/
theorem daysBeforeYear_lt (d : Date) : daysBeforeYear d.year < d.dayNumber + 719163 := by
  have hday := d.isDate.2.2.1
  rw [dayNumber_eq]
  omega

/-- A day is in its month. -/
theorem dayNumber_le_month (d : Date) :
    d.dayNumber + 719163 ≤ daysBeforeYear d.year + daysBeforeMonth d.year (d.month + 1) := by
  have hday := d.isDate.2.2.2
  rw [dayNumber_eq, daysBeforeMonth_succ d.year d.one_le_month]
  omega

/-- A day is in its year. -/
theorem dayNumber_le_year (d : Date) : d.dayNumber + 719163 ≤ daysBeforeYear (d.year + 1) := by
  have hmonth := d.dayNumber_le_month
  have hle : d.month + 1 ≤ 13 := Nat.succ_le_succ d.month_le
  have hyear := daysBeforeMonth_le d.year (Nat.le_add_left 1 d.month) hle
  have hdecember := daysBeforeMonth_december d.year
  have hlast : daysBeforeMonth d.year 13 = daysBeforeMonth d.year 12 + 31 := daysBeforeMonth_succ d.year (by omega)
  rw [hlast] at hyear
  rw [daysBeforeYear_succ]
  omega

theorem dayNumber_lt_of_year (h : d.year < e.year) : d.dayNumber < e.dayNumber := by
  have hle := daysBeforeYear_le (show d.year + 1 ≤ e.year by omega)
  have hd := d.dayNumber_le_year
  have he := e.daysBeforeYear_lt
  omega

theorem dayNumber_lt_of_month (hy : d.year = e.year) (h : d.month < e.month) : d.dayNumber < e.dayNumber := by
  have hle := daysBeforeMonth_le e.year (Nat.le_add_left 1 d.month) h
  have hd := d.dayNumber_le_month
  have he := e.isDate.2.2.1
  rw [hy] at hd
  rw [e.dayNumber_eq]
  omega

/-- No two days have one number. -/
theorem dayNumber_injective (h : d.dayNumber = e.dayNumber) : d = e := by
  have hyear : d.year = e.year := by
    rcases lt_trichotomy d.year e.year with hlt | heq | hlt
    · have := dayNumber_lt_of_year hlt
      omega
    · exact heq
    · have := dayNumber_lt_of_year hlt
      omega
  have hmonth : d.month = e.month := by
    rcases lt_trichotomy d.month e.month with hlt | heq | hlt
    · have := dayNumber_lt_of_month hyear hlt
      omega
    · exact heq
    · have := dayNumber_lt_of_month hyear.symm hlt
      omega
  have hday : d.day = e.day := by
    rw [dayNumber_eq, dayNumber_eq, hyear, hmonth] at h
    omega
  cases d
  cases e
  cases hyear
  cases hmonth
  cases hday
  rfl

/-! ## The day behind and the day before -/

/-- The last of December is the day before the next year. -/
theorem dayNumber_december (h : d.month = 12) (hd : d.day = 31) :
    d.dayNumber + 719163 = daysBeforeYear (d.year + 1) := by
  have hdecember := daysBeforeMonth_december d.year
  rw [dayNumber_eq, daysBeforeYear_succ, h, hd]
  omega

theorem dayNumber_of_next? (h : d.next? = some e) : e.dayNumber = d.dayNumber + 1 := by
  have hle := d.isDate.2.2.2
  unfold next? at h
  split at h
  · obtain ⟨hy, hm, hd⟩ := of?_eq_some_iff.1 h
    rw [dayNumber_eq, dayNumber_eq, hy, hm, hd]
    omega
  · split at h
    · obtain ⟨hy, hm, hd⟩ := of?_eq_some_iff.1 h
      rw [dayNumber_eq, dayNumber_eq, hy, hm, hd, daysBeforeMonth_succ d.year d.one_le_month]
      omega
    · obtain ⟨hy, hm, hd⟩ := of?_eq_some_iff.1 h
      have hmonth : d.month = 12 := by
        have := d.month_le
        omega
      have hdays : daysInMonth d.year d.month = 31 := by
        rw [hmonth]
        rfl
      have hdecember := dayNumber_december hmonth (by omega)
      rw [e.dayNumber_eq, hy, hm, hd, daysBeforeMonth_one]
      omega

/-- Only the last day of the calendar, the last of December in its last year, has none behind it. -/
theorem le_of_next?_eq_none (h : d.next? = none) (e : Date) : e.dayNumber ≤ d.dayNumber := by
  obtain ⟨hfirst, hlast, hpos, hle⟩ := d.isDate
  have hmonth := d.month_le
  unfold next? at h
  split at h
  · rename_i hlt
    exact absurd ⟨hfirst, hlast, by omega, hlt⟩ (of?_eq_none_iff.1 h)
  · split at h
    · rename_i hlt
      have hdays := daysInMonth_pos d.year (Nat.le_add_left 1 d.month) hlt
      exact absurd ⟨hfirst, hlast, Nat.le_refl 1, hdays⟩ (of?_eq_none_iff.1 h)
    · have hyear : d.year = lastYear := by
        by_contra hne
        have hdays := daysInMonth_pos (d.year + 1) (Nat.le_refl 1) (by decide)
        exact of?_eq_none_iff.1 h ⟨by omega, by omega, Nat.le_refl 1, hdays⟩
      have hdecember : d.month = 12 := by omega
      have hdays : daysInMonth d.year d.month = 31 := by
        rw [hdecember]
        rfl
      have hnumber := dayNumber_december hdecember (by omega)
      have hmax := e.dayNumber_le_year
      have hmono := daysBeforeYear_le (show e.year + 1 ≤ d.year + 1 by have := e.isDate.2.1; omega)
      omega

/-- The day behind another is the one with the next number. -/
theorem next?_eq_some_iff : d.next? = some e ↔ e.dayNumber = d.dayNumber + 1 := by
  refine ⟨dayNumber_of_next?, fun h => ?_⟩
  cases hn : d.next? with
  | some other => rw [dayNumber_injective ((dayNumber_of_next? hn).trans h.symm)]
  | none =>
    have := le_of_next?_eq_none hn e
    omega

theorem dayNumber_of_previous? (h : d.previous? = some e) : d.dayNumber = e.dayNumber + 1 := by
  have hpos := d.isDate.2.2.1
  have hmonth := d.one_le_month
  unfold previous? at h
  split at h
  · obtain ⟨hy, hm, hd⟩ := of?_eq_some_iff.1 h
    rw [dayNumber_eq, dayNumber_eq, hy, hm, hd]
    omega
  · split at h
    · obtain ⟨hy, hm, hd⟩ := of?_eq_some_iff.1 h
      have hdays : daysBeforeMonth d.year (d.month - 1 + 1) =
          daysBeforeMonth d.year (d.month - 1) + daysInMonth d.year (d.month - 1) :=
        daysBeforeMonth_succ d.year (by omega)
      rw [Nat.sub_add_cancel hmonth] at hdays
      rw [dayNumber_eq, dayNumber_eq, hy, hm, hd]
      omega
    · obtain ⟨hy, hm, hd⟩ := of?_eq_some_iff.1 h
      have hjanuary : d.month = 1 := by omega
      have hdecember := dayNumber_december hm hd
      rw [hy, Int.sub_add_cancel] at hdecember
      rw [d.dayNumber_eq, hjanuary, daysBeforeMonth_one]
      omega

/-- Only the first day of the calendar, the first of January in its first year, has none before it. -/
theorem ge_of_previous?_eq_none (h : d.previous? = none) (e : Date) : d.dayNumber ≤ e.dayNumber := by
  obtain ⟨hfirst, hlast, hpos, hle⟩ := d.isDate
  have hmonth := d.month_le
  have hone := d.one_le_month
  unfold previous? at h
  split at h
  · exact absurd ⟨hfirst, hlast, by omega, by omega⟩ (of?_eq_none_iff.1 h)
  · split at h
    · have hdays : 1 ≤ daysInMonth d.year (d.month - 1) := daysInMonth_pos d.year (by omega) (by omega)
      exact absurd ⟨hfirst, hlast, hdays, Nat.le_refl _⟩ (of?_eq_none_iff.1 h)
    · have hyear : d.year = firstYear := by
        by_contra hne
        exact of?_eq_none_iff.1 h ⟨by omega, by omega, by decide, Nat.le_refl 31⟩
      have hjanuary : d.month = 1 := by omega
      have hmin := e.daysBeforeYear_lt
      have hmono := daysBeforeYear_le (show d.year ≤ e.year by have := e.isDate.1; omega)
      rw [d.dayNumber_eq, hjanuary, daysBeforeMonth_one]
      omega

/-- The day before another is the one with the number before. -/
theorem previous?_eq_some_iff : d.previous? = some e ↔ d.dayNumber = e.dayNumber + 1 := by
  refine ⟨dayNumber_of_previous?, fun h => ?_⟩
  cases hp : d.previous? with
  | some other =>
    have := dayNumber_of_previous? hp
    rw [dayNumber_injective (d := other) (e := e) (by omega)]
  | none =>
    have := ge_of_previous?_eq_none hp e
    omega

end Date

end TypedRoutes.Calendar
