import TypedRoutes.Value.Scalar
import TypedRoutes.Proofs.Calendar.Instant
/-!
# Spellings of a date-time

A date-time may be spelled as clocks of any offset show it, with the offset behind it, or without an offset: in full,
with a blank in the middle, without its seconds, or as a date alone. `Spelling` lists these texts, and
`DateTime.read_spelling` says that each is read as the date-time. None is taken for another before: a text without an
offset is no stamp, and each layout before its own asks for a mark or a number that is not there.
-/
namespace TypedRoutes.Calendar
open TypedRoutes.Number TypedRoutes.Text

namespace DateTime

/-- The texts of a date-time. -/
inductive Spelling (t : DateTime) : List Char → Prop
  /-- What clocks ahead of it show, and how far they are ahead. -/
  | ahead {shown : DateTime} {hours minutes : Nat} (hh : hours < 24) (hm : minutes < 60)
      (hy : 0 ≤ shown.date.year ∧ shown.date.year ≤ 9999)
      (h : t.Precedes ((60 * hours + minutes : Nat) : Int) shown) :
      Spelling t (shown.text ++ '+' :: (padded 2 hours ++ ':' :: padded 2 minutes))
  /-- What clocks behind it show, and how far they are behind. -/
  | behind {shown : DateTime} {hours minutes : Nat} (hh : hours < 24) (hm : minutes < 60)
      (hy : 0 ≤ shown.date.year ∧ shown.date.year ≤ 9999)
      (h : t.Precedes (-((60 * hours + minutes : Nat) : Int)) shown) :
      Spelling t (shown.text ++ '-' :: (padded 2 hours ++ ':' :: padded 2 minutes))
  | zulu (hy : 0 ≤ t.date.year ∧ t.date.year ≤ 9999) : Spelling t (t.text ++ ['Z'])
  | full : Spelling t t.text
  | spaced : Spelling t (t.date.text ++ ' ' :: t.time.text)
  | minute (hs : t.time.second = 0) (hn : t.time.nanosecond = 0) :
      Spelling t (t.date.text ++ 'T' :: t.time.minuteText)
  | date (hm : t.time.minuteOfDay = 0) (hs : t.time.second = 0) (hn : t.time.nanosecond = 0) : Spelling t t.date.text

/-! ## With an offset -/

/-- An offset is a sign, hours and minutes. -/
theorem readOffset_signed {sign : Char} {hours minutes : Nat} (hh : hours < 24) (hm : minutes < 60) :
    readOffset (sign :: (padded 2 hours ++ ':' :: padded 2 minutes)) =
      if sign = '+' then some ((60 * hours + minutes : Nat) : Int)
      else if sign = '-' ∨ sign = '\u2212' then some (-((60 * hours + minutes : Nat) : Int)) else none := by
  have hhours : readExactly 2 (padded 2 hours ++ ':' :: padded 2 minutes) = some (hours, ':' :: padded 2 minutes) :=
    readExactly_padded (by decide) (by omega)
  have hminutes : readExactly 2 (padded 2 minutes ++ []) = some (minutes, []) :=
    readExactly_padded (by decide) (by omega)
  rw [List.append_nil] at hminutes
  have hne := padded_ne_nil 2 hours
  have hle : ¬ (60 ≤ minutes ∨ 24 ≤ hours) := by omega
  unfold readOffset
  split
  · rename_i h
    simp [hne] at h
  · rename_i h
    simp [hne] at h
  · rename_i h
    cases h
    simp [hhours, readMark_self, hminutes, hle]
  · rename_i h
    cases h

/-- A date-time in full with an offset behind it is the date-time that many minutes before. -/
theorem readStamp_append {t : DateTime} (hy : 0 ≤ t.date.year ∧ t.date.year ≤ 9999) {rest : List Char}
    (hr : ∀ c ∈ rest.head?, c.isDigit = false ∧ c ≠ '.') :
    readStamp (t.text ++ rest) = (readOffset rest).bind t.minusMinutes? := by
  have hyear : ((t.date.year.toNat : Nat) : Int) = t.date.year := Int.toNat_of_nonneg hy.1
  rw [text_eq, List.append_assoc, List.cons_append, readStamp_date hy, readClock_time (.inl rfl) t.time hr, hyear,
    t.date.of?_self]
  rfl

theorem read_of_readStamp {t : DateTime} {cs : List Char} (h : readStamp cs = some t) : read cs = some t := by
  rw [read, h]
  rfl

/-- The offset of a stamp leads from what clocks show to the date-time. -/
theorem read_shown {t shown : DateTime} {offset : Int} {rest : List Char}
    (hy : 0 ≤ shown.date.year ∧ shown.date.year ≤ 9999) (hr : ∀ c ∈ rest.head?, c.isDigit = false ∧ c ≠ '.')
    (ho : readOffset rest = some offset) (hlt : offset.natAbs < 1440) (h : t.Precedes offset shown) :
    read (shown.text ++ rest) = some t := by
  refine read_of_readStamp ?_
  rw [readStamp_append hy hr, ho, Option.bind_some]
  exact (minusMinutes?_eq_some_iff hlt).2 h

/-! ## Without an offset -/

/-- The readers of a text, in the order in which they are tried. -/
theorem read_eq (cs : List Char) :
    read cs = (readStamp cs <|> readLayout (dateLayout ++ .mark 'T' :: timeLayout) cs <|>
      readLayout (dateLayout ++ .blanks :: timeLayout) cs <|>
      readLayout (dateLayout ++ .mark 'T' :: minuteLayout) cs <|> readLayout dateLayout cs) := by
  have hlayouts : layouts.findSome? (readLayout · cs) = (readLayout (dateLayout ++ .mark 'T' :: timeLayout) cs <|>
      readLayout (dateLayout ++ .blanks :: timeLayout) cs <|>
      readLayout (dateLayout ++ .mark 'T' :: minuteLayout) cs) := by
    simp only [layouts, List.findSome?_cons, List.findSome?_nil]
    cases readLayout (dateLayout ++ .mark 'T' :: timeLayout) cs <;>
      cases readLayout (dateLayout ++ .blanks :: timeLayout) cs <;>
      cases readLayout (dateLayout ++ .mark 'T' :: minuteLayout) cs <;> rfl
  rw [read, hlayouts]
  simp only [Option.orElse_eq_orElse, Option.orElse_eq_or, Option.or_assoc]

/-- The parts of a date-time make it up. -/
theorem dateTime?_parts {t : DateTime} {hour minute second nanosecond : Nat} (hh : t.time.hour = hour)
    (hm : t.time.minute = minute) (hs : t.time.second = second) (hn : t.time.nanosecond = nanosecond) :
    Parts.dateTime? ⟨t.date.year, t.date.month, t.date.day, hour, minute, second, nanosecond⟩ = some t := by
  simp [Parts.dateTime?, t.date.of?_self, TimeOfDay.of?_eq_some_iff.2 ⟨hh, hm, hs, hn⟩]

/-- A blank between date and time is taken by the second layout only. -/
theorem read_spaced (t : DateTime) : read (t.date.text ++ ' ' :: t.time.text) = some t := by
  have hstamp : readStamp (t.date.text ++ ' ' :: t.time.text) = none := readStamp_no_offset (.inr rfl) t
  have hfirst : readLayout (dateLayout ++ .mark 'T' :: timeLayout) (t.date.text ++ ' ' :: t.time.text) = none :=
    readLayout_mark_eq_none t.date timeLayout (by simp)
  have hblank : (' ' :: t.time.text).dropWhile isBlank = t.time.text := by
    rw [List.dropWhile_cons, if_pos (by decide), TimeOfDay.text_eq, TimeOfDay.minuteText, List.append_assoc]
    exact dropWhile_isBlank_digits (allDigits_padded 2 t.time.hour) (padded_ne_nil 2 t.time.hour)
  have hsecond : readLayout (dateLayout ++ .blanks :: timeLayout) (t.date.text ++ ' ' :: t.time.text) = some t := by
    rw [readLayout_date, readParts, hblank, TimeOfDay.readParts_text]
    exact dateTime?_parts rfl rfl rfl rfl
  rw [read_eq, hstamp, hfirst, hsecond]
  rfl

/-- Without seconds a time is taken by the third layout only. -/
theorem read_minute {t : DateTime} (hs : t.time.second = 0) (hn : t.time.nanosecond = 0) :
    read (t.date.text ++ 'T' :: t.time.minuteText) = some t := by
  have hstamp : readStamp (t.date.text ++ 'T' :: t.time.minuteText) = none := by
    have h1 := t.time.hour_lt
    have h2 := t.time.minute_lt
    refine readStamp_eq_none t.date fun year month day => ?_
    rw [readClock, TimeOfDay.minuteText, ← List.append_nil (padded 2 t.time.minute)]
    change (readExactly 2 _ >>= _) = _
    rw [bind_readExactly (by decide) (by omega)]
    dsimp only
    rw [bind_readMark, bind_readExactly (by decide) (by omega)]
    rfl
  have hminute := t.time.readParts_minute
  have hfirst : readLayout (dateLayout ++ .mark 'T' :: timeLayout) (t.date.text ++ 'T' :: t.time.minuteText) =
      none := by
    rw [readLayout_date, readParts, if_pos rfl, timeLayout, ← List.append_nil t.time.minuteText, hminute, readParts]
    rfl
  have hsecond : readLayout (dateLayout ++ .blanks :: timeLayout) (t.date.text ++ 'T' :: t.time.minuteText) = none :=
    readLayout_blanks_eq_none t.date rfl
  have hthird : readLayout (dateLayout ++ .mark 'T' :: minuteLayout) (t.date.text ++ 'T' :: t.time.minuteText) =
      some t := by
    rw [readLayout_date, readParts, if_pos rfl, ← List.append_nil minuteLayout, ← List.append_nil t.time.minuteText,
      hminute, readParts]
    exact dateTime?_parts rfl rfl hs hn
  rw [read_eq, hstamp, hfirst, hsecond, hthird]
  rfl

/-- A date alone is taken after all layouts. -/
theorem read_date {t : DateTime} (hm : t.time.minuteOfDay = 0) (hs : t.time.second = 0) (hn : t.time.nanosecond = 0) :
    read t.date.text = some t := by
  have hstamp : readStamp (t.date.text ++ []) = none := readStamp_eq_none t.date fun _ _ _ => rfl
  have hmark : ∀ layout, readLayout (dateLayout ++ .mark 'T' :: layout) (t.date.text ++ []) = none := fun layout =>
    readLayout_mark_eq_none t.date layout (by simp)
  have hsecond : readLayout (dateLayout ++ .blanks :: timeLayout) (t.date.text ++ []) = none :=
    readLayout_blanks_eq_none t.date rfl
  have hdate : readLayout dateLayout (t.date.text ++ []) = some t := by
    have hhour : t.time.hour = 0 ∧ t.time.minute = 0 := by
      unfold TimeOfDay.minuteOfDay at hm
      omega
    rw [← List.append_nil dateLayout, readLayout_date, readParts]
    exact dateTime?_parts hhour.1 hhour.2 hs hn
  rw [← List.append_nil t.date.text, read_eq, hstamp, hmark, hsecond, hmark, hdate]
  rfl

theorem precedes_zero (t : DateTime) : t.Precedes 0 t :=
  ⟨by omega, rfl⟩

/-- Every spelling of a date-time is read as the date-time. -/
theorem read_spelling {t : DateTime} {cs : List Char} (h : t.Spelling cs) :
    Scalar.read .dateTime cs = .ok (.dateTime t) := by
  have hread : read cs = some t := by
    cases h with
    | ahead hh hm hy h =>
      refine read_shown hy (by rintro c ⟨⟩; decide) (readOffset_signed hh hm) ?_ h
      omega
    | behind hh hm hy h =>
      refine read_shown hy (by rintro c ⟨⟩; decide) (readOffset_signed hh hm) ?_ h
      omega
    | zulu hy => exact read_shown hy (by rintro c ⟨⟩; decide) rfl (by decide) t.precedes_zero
    | full => exact t.read_text
    | spaced => exact t.read_spaced
    | minute hs hn => exact read_minute hs hn
    | date hm hs hn => exact read_date hm hs hn
  rw [Scalar.read, hread]

/-- The last half hour before the year 0, as clocks 45 minutes ahead show it. -/
theorem read_spelling_newYear :
    let t : DateTime := ⟨⟨-1, 12, 31, by decide⟩, ⟨23, 30, 0, 0, by decide, by decide, by decide, by decide⟩⟩
    Scalar.read .dateTime "0000-01-01T00:15:00+00:45".toList = .ok (.dateTime t) := by
  intro t
  let shown : DateTime := ⟨⟨0, 1, 1, by decide⟩, ⟨0, 15, 0, 0, by decide, by decide, by decide, by decide⟩⟩
  have h : t.Precedes ((60 * 0 + 45 : Nat) : Int) shown := by decide
  have htext : "0000-01-01T00:15:00+00:45".toList = shown.text ++ '+' :: (padded 2 0 ++ ':' :: padded 2 45) := by
    decide +kernel
  rw [htext]
  exact read_spelling (.ahead (by decide) (by decide) (by decide) h)

end DateTime

end TypedRoutes.Calendar
