import TypedRoutes.Calendar.Layout
import TypedRoutes.Proofs.Number.Integer
/-!
# Date-times read back

`DateTime.read_text`: the text of a date-time is read as the date-time again, a year beyond four digits and a leap
second too. It is no stamp, since no offset ends it (`readStamp_no_offset`), the first layout takes it part by part, and
no other layout takes it (`eq_of_readLayout_text`). What a stamp has behind its date is read by `readClock`.
-/
namespace TypedRoutes.Calendar
open TypedRoutes.Number TypedRoutes.Text

/-! ## Numbers in a layout -/

theorem isBlank_of_isDigit {c : Char} (h : c.isDigit = true) : isBlank c = false := by
  have hc := Char.isDigit_iff_toNat.1 h
  have h0 : '0'.toNat = 48 := rfl
  have h9 : '9'.toNat = 57 := rfl
  have : 48 ≤ c.toNat ∧ c.toNat ≤ 57 := by omega
  simp [isBlank]
  omega

/-- No blank stands before digits. -/
theorem dropWhile_isBlank_digits {ds rest : List Char} (hd : AllDigits ds) (hne : ds ≠ []) :
    (ds ++ rest).dropWhile isBlank = ds ++ rest := by
  obtain ⟨c, cs, rfl⟩ := List.exists_cons_of_ne_nil hne
  rw [List.cons_append, List.dropWhile_cons, isBlank_of_isDigit (hd c (by simp)), if_neg (by simp)]

theorem takeWhile_take_digits {ds rest : List Char} {places : Nat} (hd : AllDigits ds) (hl : ds.length = places) :
    ((ds ++ rest).take places).takeWhile Char.isDigit = ds := by
  rw [← hl, List.take_left, takeWhile_allDigits hd]

theorem readPlaces_padded {places n : Nat} {rest : List Char} (hp : 0 < places) (hn : n < 10 ^ places) :
    readPlaces places (padded places n ++ rest) = some (n, rest) := by
  have hl := length_padded hn hp
  have he : (padded places n).isEmpty = false := by simp [padded_ne_nil]
  simp only [readPlaces, takeWhile_take_digits (allDigits_padded places n) hl, he, ofDigits_padded, List.drop_left]
  simp

theorem readExactly_padded {places n : Nat} {rest : List Char} (hp : 0 < places) (hn : n < 10 ^ places) :
    readExactly places (padded places n ++ rest) = some (n, rest) := by
  have hl := length_padded hn hp
  simp only [readExactly, takeWhile_take_digits (allDigits_padded places n) hl, hl, ofDigits_padded, if_true,
    List.drop_left' hl]

theorem readRun_padded {places n : Nat} {rest : List Char} (hr : ∀ c ∈ rest.head?, c.isDigit = false) :
    readRun (padded places n ++ rest) = some (n, rest) := by
  have he : (padded places n).isEmpty = false := by simp [padded_ne_nil]
  simp only [readRun, digitRun_append (allDigits_padded places n) hr, he, ofDigits_padded]
  simp

/-- Every field but the year is written with two digits, and read with two at most. -/
theorem Field.read_padded (field : Field) {n : Nat} {rest : List Char} (hf : field ≠ .year) (hn : n < 100) :
    field.read (padded 2 n ++ rest) = some ((n : Int), rest) := by
  have hb : (padded 2 n ++ rest).dropWhile isBlank = padded 2 n ++ rest :=
    dropWhile_isBlank_digits (allDigits_padded 2 n) (padded_ne_nil 2 n)
  have hp : readPlaces 2 (padded 2 n ++ rest) = some (n, rest) := readPlaces_padded (by decide) (by omega)
  unfold Field.read
  rw [hb]
  cases field with
  | year => exact absurd rfl hf
  | month => simp [hp]
  | day => simp [hp]
  | hour => simp [hp]
  | minute => simp [hp]
  | second => simp [hp]

/-- A year is read back up to the mark that ends it, with its sign if it has one. -/
theorem Field.read_yearText (year : Int) (rest : List Char) :
    Field.year.read (Date.yearText year ++ '-' :: rest) = some (year, '-' :: rest) := by
  have hr : ∀ c ∈ ('-' :: rest).head?, c.isDigit = false := by
    rintro c ⟨⟩
    rfl
  unfold Field.read Date.yearText
  by_cases h : 0 ≤ year ∧ year ≤ 9999
  · obtain ⟨c, cs, hc⟩ := List.exists_cons_of_ne_nil (padded_ne_nil 4 year.natAbs)
    have hd := allDigits_padded 4 year.natAbs c (by simp [hc])
    obtain ⟨hminus, hplus⟩ := ne_sign_of_isDigit hd
    have hp : readPlaces 4 (padded 4 year.natAbs ++ '-' :: rest) = some (year.natAbs, '-' :: rest) :=
      readPlaces_padded (by decide) (by omega)
    rw [if_pos h, dropWhile_isBlank_digits (allDigits_padded _ _) (padded_ne_nil _ _)]
    rw [hc, List.cons_append] at hp ⊢
    have hy : ((year.natAbs : Nat) : Int) = year := by omega
    simp [hminus, hplus, hp, hy]
  · rw [if_neg h]
    by_cases hneg : year < 0
    · have hy : -((year.natAbs : Nat) : Int) = year := by omega
      generalize year.natAbs = n at hy ⊢
      simp [hneg, isBlank, readRun_padded hr, hy]
    · have hy : ((year.natAbs : Nat) : Int) = year := by omega
      generalize year.natAbs = n at hy ⊢
      simp [hneg, isBlank, readRun_padded hr, hy]

/-- The fraction of a second is read back, up to what cannot go on with it. -/
theorem readFraction_append {n : Nat} {rest : List Char} (h : n < 1000000000)
    (hr : ∀ c ∈ rest.head?, c.isDigit = false ∧ c ≠ '.') :
    readFraction (TimeOfDay.fractionText n ++ rest) = some (n, rest) := by
  have hdigit : ∀ c ∈ rest.head?, c.isDigit = false := fun c hc => (hr c hc).1
  have hread : ∀ width m : Nat, 0 < width → width ≤ 9 → m < 10 ^ width →
      readFraction ('.' :: padded width m ++ rest) = some (m * Nat.pow 10 (9 - width), rest) := by
    intro width m hw h9 hm
    have hl := length_padded hm hw
    have he : (padded width m).isEmpty = false := by simp [padded_ne_nil]
    have hrun := digitRun_append (allDigits_padded width m) hdigit
    have htake : (padded width m).take 9 = padded width m := List.take_of_length_le (by omega)
    simp only [List.cons_append, readFraction, hrun, he, htake, ofDigits_padded, hl]
    simp
  unfold TimeOfDay.fractionText
  split
  · subst n
    cases rest with
    | nil => rfl
    | cons c rest =>
      have hc : c ≠ '.' := (hr c rfl).2
      simp [readFraction, hc]
  · split
    · rw [hread 3 _ (by decide) (by decide) (by omega)]
      congr 2
      show n / 1000000 * 1000000 = n
      omega
    · split
      · rw [hread 6 _ (by decide) (by decide) (by omega)]
        congr 2
        show n / 1000 * 1000 = n
        omega
      · rw [hread 9 _ (by decide) (by decide) (by omega)]
        congr 2
        show n * 1 = n
        omega

theorem readFraction_fractionText {n : Nat} (h : n < 1000000000) :
    readFraction (TimeOfDay.fractionText n) = some (n, []) := by
  have hread : readFraction (TimeOfDay.fractionText n ++ []) = some (n, []) := readFraction_append h (by simp)
  rwa [List.append_nil] at hread

theorem readMark_self (m : Char) (cs : List Char) : readMark m (m :: cs) = some cs := by
  rw [readMark, if_pos rfl]

theorem bind_readMark {α : Type} (m : Char) (cs : List Char) (f : List Char → Option α) :
    (readMark m (m :: cs) >>= f) = f cs := by
  rw [readMark_self]
  rfl

theorem bind_readExactly {α : Type} {places n : Nat} {rest : List Char} (hp : 0 < places) (hn : n < 10 ^ places)
    (f : Nat × List Char → Option α) : (readExactly places (padded places n ++ rest) >>= f) = f (n, rest) := by
  rw [readExactly_padded hp hn]
  rfl

/-! ## Dates and times -/

theorem daysInMonth_le (year : Int) (month : Nat) : daysInMonth year month ≤ 31 := by
  unfold daysInMonth
  split <;> first | omega | (split <;> omega)

/-- A month with a day is one of the twelve. -/
theorem month_le_of_isDate {year : Int} {month day : Nat} (h : IsDate year month day) : month ≤ 12 := by
  obtain ⟨-, -, hpos, hle⟩ := h
  by_cases hm : month ≤ 12
  · exact hm
  · have hz : daysInMonth year month = 0 := by
      unfold daysInMonth
      split <;> first | rfl | omega
    omega

theorem Date.of?_self (d : Date) : Date.of? d.year d.month d.day = some d := by
  rw [Date.of?, dif_pos d.isDate]

theorem TimeOfDay.of?_self (t : TimeOfDay) : TimeOfDay.of? t.hour t.minute t.second t.nanosecond = some t := by
  rw [TimeOfDay.of?, dif_pos ⟨t.hour_lt, t.minute_lt, t.second_le, t.nanosecond_lt⟩]

namespace TimeOfDay

/-- The hours and minutes of a time. -/
def minuteText (t : TimeOfDay) : List Char :=
  padded 2 t.hour ++ ':' :: padded 2 t.minute

theorem text_eq (t : TimeOfDay) :
    t.text = t.minuteText ++ ':' :: (padded 2 t.second ++ fractionText t.nanosecond) := by
  simp only [text, minuteText, List.append_assoc, List.cons_append]

/-- The hours and minutes are read up to what follows them. -/
theorem readParts_minute (t : TimeOfDay) (p : Parts) (layout : List Part) (rest : List Char) :
    readParts p (minuteLayout ++ layout) (t.minuteText ++ rest) =
      readParts { p with hour := t.hour, minute := t.minute } layout rest := by
  have hh := t.hour_lt
  have hm := t.minute_lt
  simp only [minuteText, minuteLayout, List.cons_append, List.nil_append, List.append_assoc, readParts, if_true,
    Field.read_padded .hour (n := t.hour) (by decide) (by omega),
    Field.read_padded .minute (n := t.minute) (by decide) (by omega), Parts.set, Int.toNat_natCast]

/-- All parts of a time are read to the end of its text. -/
theorem readParts_text (t : TimeOfDay) (p : Parts) :
    readParts p timeLayout t.text =
      some { p with hour := t.hour, minute := t.minute, second := t.second, nanosecond := t.nanosecond } := by
  have hs := t.second_le
  rw [timeLayout, text_eq, readParts_minute]
  simp only [readParts, if_true, Field.read_padded .second (n := t.second) (by decide) (by omega),
    readFraction_fractionText t.nanosecond_lt, Parts.set, Int.toNat_natCast]

end TimeOfDay

namespace Date

theorem month_lt (d : Date) : d.month < 100 := by
  have := month_le_of_isDate d.isDate
  omega

theorem day_lt (d : Date) : d.day < 100 := by
  obtain ⟨-, -, -, hle⟩ := d.isDate
  have := daysInMonth_le d.year d.month
  omega

theorem text_append (d : Date) (rest : List Char) :
    d.text ++ rest = yearText d.year ++ '-' :: (padded 2 d.month ++ '-' :: (padded 2 d.day ++ rest)) := by
  simp only [text, List.append_assoc, List.cons_append]

/-- The parts of a date are read up to what follows it. -/
theorem readParts_text (d : Date) (layout : List Part) (rest : List Char) :
    readParts {} (dateLayout ++ layout) (d.text ++ rest) =
      readParts { year := d.year, month := d.month, day := d.day } layout rest := by
  rw [text_append]
  simp only [dateLayout, List.cons_append, List.nil_append, readParts, if_true, Field.read_yearText,
    Field.read_padded .month (by decide) d.month_lt, Field.read_padded .day (by decide) d.day_lt, Parts.set,
    Int.toNat_natCast]

end Date

/-! ## Layouts that begin with a date -/

theorem readLayout_date (d : Date) (layout : List Part) (rest : List Char) :
    readLayout (dateLayout ++ layout) (d.text ++ rest) =
      (readParts { year := d.year, month := d.month, day := d.day } layout rest).bind Parts.dateTime? := by
  rw [readLayout, Date.readParts_text]

/-- A mark that is not there is not read. -/
theorem readLayout_mark_eq_none (d : Date) (layout : List Part) {rest : List Char} (h : rest.head? ≠ some 'T') :
    readLayout (dateLayout ++ .mark 'T' :: layout) (d.text ++ rest) = none := by
  rw [readLayout_date]
  cases rest with
  | nil => rfl
  | cons c cs =>
    have hc : 'T' ≠ c := by
      rintro rfl
      exact h rfl
    rw [readParts, if_neg hc]
    rfl

/-- No time is read behind blanks where there is no hour. -/
theorem readLayout_blanks_eq_none (d : Date) {rest : List Char}
    (h : Field.hour.read (rest.dropWhile isBlank) = none) :
    readLayout (dateLayout ++ .blanks :: timeLayout) (d.text ++ rest) = none := by
  rw [readLayout_date, readParts, timeLayout, minuteLayout, List.cons_append, readParts, h]
  rfl

/-! ## Stamps -/

/-- Reads what a stamp has behind its date: a time in full and an offset. -/
def readClock (year month day : Nat) (cs : List Char) : Option DateTime := do
  let cs ← readMark 'T' cs <|> readMark 't' cs <|> readMark ' ' cs
  let (hour, cs) ← readExactly 2 cs
  let cs ← readMark ':' cs
  let (minute, cs) ← readExactly 2 cs
  let cs ← readMark ':' cs
  let (second, cs) ← readExactly 2 cs
  let (nanosecond, cs) ← readFraction cs
  let offset ← readOffset cs
  let date ← Date.of? year month day
  let time ← TimeOfDay.of? hour minute second nanosecond
  DateTime.minusMinutes? ⟨date, time⟩ offset

/-- A date with a year of four digits begins a stamp. -/
theorem readStamp_date {d : Date} (h : 0 ≤ d.year ∧ d.year ≤ 9999) (rest : List Char) :
    readStamp (d.text ++ rest) = readClock d.year.toNat d.month d.day rest := by
  have hm := d.month_lt
  have hd := d.day_lt
  have hyear : d.year.natAbs = d.year.toNat := by omega
  rw [d.text_append, readStamp, Date.yearText, if_pos h, bind_readExactly (by decide) (by omega)]
  dsimp only
  rw [bind_readMark, bind_readExactly (by decide) hm]
  dsimp only
  rw [bind_readMark, bind_readExactly (by decide) hd, hyear]
  rfl

/-- A date is no beginning of a stamp if what follows is none of its ends: a year with a sign begins none at all. -/
theorem readStamp_eq_none (d : Date) {rest : List Char} (h : ∀ year month day, readClock year month day rest = none) :
    readStamp (d.text ++ rest) = none := by
  by_cases hy : 0 ≤ d.year ∧ d.year ≤ 9999
  · rw [readStamp_date hy, h]
  · have hsign : (if d.year < 0 then '-' else '+').isDigit = false := by split <;> rfl
    rw [d.text_append, Date.yearText, if_neg hy, List.cons_append, readStamp, readExactly, List.take_succ_cons,
      List.takeWhile_cons, hsign]
    rfl

/-- Behind a time in full only the offset is left to be read. -/
theorem readClock_time {sep : Char} (hs : sep = 'T' ∨ sep = ' ') (t : TimeOfDay) {rest : List Char}
    (hr : ∀ c ∈ rest.head?, c.isDigit = false ∧ c ≠ '.') (year month day : Nat) :
    readClock year month day (sep :: (t.text ++ rest)) = (readOffset rest).bind fun offset =>
      (Date.of? year month day).bind fun date => DateTime.minusMinutes? ⟨date, t⟩ offset := by
  have hsep : ∀ cs, (readMark 'T' (sep :: cs) <|> readMark 't' (sep :: cs) <|> readMark ' ' (sep :: cs)) = some cs := by
    rcases hs with rfl | rfl <;> exact fun _ => rfl
  have h1 := t.hour_lt
  have h2 := t.minute_lt
  have h3 := t.second_le
  rw [readClock, hsep, t.text_eq, TimeOfDay.minuteText]
  simp only [List.append_assoc, List.cons_append]
  change (readExactly 2 _ >>= _) = _
  rw [bind_readExactly (by decide) (by omega)]
  dsimp only
  rw [bind_readMark, bind_readExactly (by decide) (by omega)]
  dsimp only
  rw [bind_readMark, bind_readExactly (by decide) (by omega)]
  dsimp only
  rw [readFraction_append t.nanosecond_lt hr]
  simp [t.of?_self, bind]

/-! ## The date-time -/

namespace DateTime

theorem text_eq (t : DateTime) : t.text = t.date.text ++ 'T' :: t.time.text := rfl

/-- The text is read by the first layout. -/
theorem readLayout_text (t : DateTime) :
    readLayout (dateLayout ++ .mark 'T' :: timeLayout) t.text = some t := by
  have hdate := t.date.of?_self
  have htime := t.time.of?_self
  rw [text_eq, readLayout_date, readParts, if_pos rfl, TimeOfDay.readParts_text]
  simp [Parts.dateTime?, hdate, htime]

/-- No other layout takes the text: a mark is no blank, and a date alone or one with minutes leaves a rest. -/
theorem eq_of_readLayout_text {t u : DateTime} {layout : List Part} (hl : layout ∈ layouts ++ [dateLayout])
    (h : readLayout layout t.text = some u) : layout = dateLayout ++ .mark 'T' :: timeLayout ∧ u = t := by
  simp only [layouts, List.cons_append, List.nil_append, List.mem_cons, List.not_mem_nil, or_false] at hl
  rcases hl with rfl | rfl | rfl | rfl
  · rw [readLayout_text] at h
    injection h with h
    exact ⟨rfl, h.symm⟩
  · have hnone : readLayout (dateLayout ++ .blanks :: timeLayout) t.text = none := readLayout_blanks_eq_none t.date rfl
    rw [hnone] at h
    cases h
  · rw [text_eq, readLayout_date, readParts, if_pos rfl, ← List.append_nil minuteLayout,
      TimeOfDay.text_eq, TimeOfDay.readParts_minute, readParts] at h
    cases h
  · rw [← List.append_nil dateLayout, text_eq, readLayout_date, readParts] at h
    cases h

/-- Without an offset a text is no stamp: a year with a sign begins none, and after any other the offset is missing. -/
theorem readStamp_no_offset {sep : Char} (hs : sep = 'T' ∨ sep = ' ') (t : DateTime) :
    readStamp (t.date.text ++ sep :: t.time.text) = none := by
  refine readStamp_eq_none t.date fun year month day => ?_
  have hend : ∀ c ∈ ([] : List Char).head?, c.isDigit = false ∧ c ≠ '.' := by simp
  have hclock := readClock_time hs t.time hend year month day
  rwa [List.append_nil] at hclock

theorem readStamp_text (t : DateTime) : readStamp t.text = none :=
  readStamp_no_offset (.inl rfl) t

/-- A date-time is read back from its text. -/
theorem read_text (t : DateTime) : read t.text = some t := by
  rw [read, readStamp_text, layouts, List.findSome?_cons, readLayout_text]
  rfl

/-! ## The characters of the text -/

theorem mem_yearText {year : Int} {c : Char} (h : c ∈ Date.yearText year) :
    c.isDigit = true ∨ c = '-' ∨ c = '+' := by
  unfold Date.yearText at h
  split at h
  · exact .inl (allDigits_padded _ _ c h)
  · rcases List.mem_cons.1 h with rfl | h
    · split <;> simp
    · exact .inl (allDigits_padded _ _ c h)

theorem mem_fractionText {n : Nat} {c : Char} (h : c ∈ TimeOfDay.fractionText n) : c.isDigit = true ∨ c = '.' := by
  have hp : ∀ width m : Nat, c ∈ '.' :: padded width m → c.isDigit = true ∨ c = '.' := by
    intro width m hc
    rcases List.mem_cons.1 hc with rfl | hc
    · exact .inr rfl
    · exact .inl (allDigits_padded _ _ c hc)
  unfold TimeOfDay.fractionText at h
  split at h
  · cases h
  · split at h
    · exact hp _ _ h
    · split at h
      · exact hp _ _ h
      · exact hp _ _ h

/-- The characters of a date-time's text. -/
theorem mem_text {t : DateTime} {c : Char} (h : c ∈ t.text) :
    c.isDigit = true ∨ c = '-' ∨ c = '+' ∨ c = 'T' ∨ c = ':' ∨ c = '.' := by
  rw [text_eq, Date.text_append, TimeOfDay.text_eq, TimeOfDay.minuteText] at h
  simp only [List.mem_append, List.mem_cons, or_assoc] at h
  rcases h with h | rfl | h | rfl | h | rfl | h | rfl | h | rfl | h | h
  · rcases mem_yearText h with h | h | h <;> simp [h]
  · simp
  · exact .inl (allDigits_padded _ _ c h)
  · simp
  · exact .inl (allDigits_padded _ _ c h)
  · simp
  · exact .inl (allDigits_padded _ _ c h)
  · simp
  · exact .inl (allDigits_padded _ _ c h)
  · simp
  · exact .inl (allDigits_padded _ _ c h)
  · rcases mem_fractionText h with h | h <;> simp [h]

theorem text_ne_nil (t : DateTime) : t.text ≠ [] := by
  rw [text_eq]
  simp

end DateTime

end TypedRoutes.Calendar
