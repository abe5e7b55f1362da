import TypedRoutes.Proofs.Calendar.DayNumber
/-!
# Instants

The instant of a date-time is the seconds counted since the beginning of 1970 and what is past the counted second. To
take minutes off a date-time is to take them off its instant, whatever ends of days, months and years lie between, and
all that can fail is that the calendar has no such day: `DateTime.minusMinutes?_eq_some_iff`.
-/
namespace TypedRoutes.Calendar

theorem TimeOfDay.of?_eq_some_iff {hour minute second nanosecond : Nat} {t : TimeOfDay} :
    of? hour minute second nanosecond = some t ↔
      t.hour = hour ∧ t.minute = minute ∧ t.second = second ∧ t.nanosecond = nanosecond := by
  constructor
  · intro h
    unfold of? at h
    split at h
    · cases h
      exact ⟨rfl, rfl, rfl, rfl⟩
    · cases h
  · rintro ⟨rfl, rfl, rfl, rfl⟩
    exact t.of?_self

/-- The time at a minute of the day, with the seconds of another time. -/
theorem TimeOfDay.atMinute?_eq_some_iff {t u : TimeOfDay} {n : Nat} :
    t.atMinute? n = some u ↔ u.minuteOfDay = n ∧ u.second = t.second ∧ u.nanosecond = t.nanosecond := by
  have hu := u.minute_lt
  rw [atMinute?, of?_eq_some_iff, minuteOfDay]
  constructor
  · rintro ⟨hh, hm, hs⟩
    exact ⟨by omega, hs⟩
  · rintro ⟨rfl, hs⟩
    exact ⟨by omega, by omega, hs⟩

theorem TimeOfDay.minuteOfDay_lt (t : TimeOfDay) : t.minuteOfDay < 1440 := by
  have hh := t.hour_lt
  have hm := t.minute_lt
  rw [minuteOfDay]
  omega

namespace DateTime
variable {t u : DateTime}

/-- The instant of one date-time is that many minutes before the instant of another. -/
structure Precedes (u : DateTime) (minutes : Int) (t : DateTime) : Prop where
  epochSeconds_add : u.epochSeconds + 60 * minutes = t.epochSeconds
  subsecond_eq : u.subsecond = t.subsecond

instance (u : DateTime) (minutes : Int) (t : DateTime) : Decidable (Precedes u minutes t) :=
  decidable_of_iff (u.epochSeconds + 60 * minutes = t.epochSeconds ∧ u.subsecond = t.subsecond)
    ⟨fun h => ⟨h.1, h.2⟩, fun h => ⟨h.epochSeconds_add, h.subsecond_eq⟩⟩

/-- Whole minutes leave the seconds as they are, and change the count of minutes. A leap second, which is not counted,
is told by what is past the counted one: more than a billion nanoseconds. -/
theorem precedes_iff {minutes : Int} : u.Precedes minutes t ↔
    1440 * u.date.dayNumber + u.time.minuteOfDay + minutes = 1440 * t.date.dayNumber + t.time.minuteOfDay ∧
      u.time.second = t.time.second ∧ u.time.nanosecond = t.time.nanosecond := by
  have hu := u.time.second_le
  have ht := t.time.second_le
  have hun := u.time.nanosecond_lt
  have htn := t.time.nanosecond_lt
  constructor
  · rintro ⟨he, hs⟩
    unfold epochSeconds at he
    unfold subsecond at hs
    split at hs <;> split at hs
    · omega
    · omega
    · omega
    · omega
  · rintro ⟨hm, hs, hn⟩
    refine ⟨?_, by rw [subsecond, subsecond, hs, hn]⟩
    rw [epochSeconds, epochSeconds, hs]
    omega

theorem parts_eq_some_iff {date? : Option Date} {time? : Option TimeOfDay} :
    (do return (⟨← date?, ← time?⟩ : DateTime)) = some u ↔ date? = some u.date ∧ time? = some u.time := by
  obtain ⟨date, time⟩ := u
  cases date? <;> cases time? <;> simp [bind, pure]

/-- Minutes, of less than a day either way, are taken off a date-time by taking them off its instant, whether that falls
on the day before, on the day behind or on the same day. -/
theorem minusMinutes?_eq_some_iff {minutes : Int} (h : minutes.natAbs < 1440) :
    t.minusMinutes? minutes = some u ↔ u.Precedes minutes t := by
  have hu := u.time.minuteOfDay_lt
  have ht := t.time.minuteOfDay_lt
  rw [precedes_iff, minusMinutes?]
  split
  · rw [parts_eq_some_iff, Date.previous?_eq_some_iff, TimeOfDay.atMinute?_eq_some_iff]
    constructor
    · rintro ⟨hd, hm, hs⟩
      exact ⟨by omega, hs⟩
    · rintro ⟨hm, hs⟩
      exact ⟨by omega, by omega, hs⟩
  · split
    · rw [parts_eq_some_iff, Date.next?_eq_some_iff, TimeOfDay.atMinute?_eq_some_iff]
      constructor
      · rintro ⟨hd, hm, hs⟩
        exact ⟨by omega, hs⟩
      · rintro ⟨hm, hs⟩
        exact ⟨by omega, by omega, hs⟩
    · change (do return (⟨← some t.date, ← t.time.atMinute? _⟩ : DateTime)) = some u ↔ _
      rw [parts_eq_some_iff, TimeOfDay.atMinute?_eq_some_iff, Option.some.injEq]
      constructor
      · rintro ⟨hd, hm, hs⟩
        rw [hd]
        exact ⟨by omega, hs⟩
      · rintro ⟨hm, hs⟩
        exact ⟨Date.dayNumber_injective (by omega), by omega, hs⟩

end DateTime

end TypedRoutes.Calendar
