import BenchDepot.Http.Router
import BenchDepot.Proofs.Ages
import BenchDepot.Proofs.Calendar

/-!
# Reading HTTP dates back

A strict reader of the form in which HTTP writes a date takes a header text apart: it knows the
names of the weekdays and months and the width of every number, and leaves nothing over.  What it
reads from the text of an instant is the date and the time of day that the calendar gives the
instant's second, and the weekday of that date; so the text tells the second, and nothing else of
the instant.

Each piece of the reader reads the piece of the text it is for, whatever follows it (`Reads`), and
the pieces are put together in their order (`Reads.bind`).

* `reads_httpDate` — what is read from the text of an instant;
* `httpDate_says_second` — the second that it says, and when two texts are the same;
* `exists_lastModified` — the same of the response with an artifact.
-/

namespace BenchDepot

/-- A time of day that a clock shows. -/
structure Clock.Valid (clock : Clock) : Prop where
  hour_lt : clock.hour < 24
  minute_lt : clock.minute < 60
  second_lt : clock.second < 60

namespace HttpDate

/-! ## The reader -/

/-- What an HTTP date says: the place of a weekday, from Saturday on, a date and a time of day. -/
structure Stamp where
  weekday : Nat
  date : Date
  clock : Clock
deriving DecidableEq

/-- A reader takes its piece from the front of a text. -/
abbrev Reader := StateT (List Char) Option

/-- Reads a piece of some width. -/
def field {α : Type} (width : Nat) (meaning : List Char → Option α) : Reader α := fun cs =>
  if width ≤ cs.length then (meaning (cs.take width)).map (·, cs.drop width) else none

/-- Reads a text that has to stand there. -/
def literal (text : String) : Reader Unit :=
  field text.toList.length fun cs => if cs = text.toList then some () else none

/-- Reads a number of some digits. -/
def number (width : Nat) : Reader Nat :=
  field width fun cs => if cs.all Char.isDigit then some (Nat.ofDigitChars 10 cs 0) else none

/-- Reads one of some names of three letters, as its place among them. -/
def name (names : List String) : Reader Nat :=
  field 3 fun cs => names.idxOf? (String.ofList cs)

/-- The names of the weekdays, from that of 0000-01-01 on. -/
def weekdays : List String :=
  ["Sat", "Sun", "Mon", "Tue", "Wed", "Thu", "Fri"]

/-- The names of the months, from that of the first on. -/
def months : List String :=
  ["Jan", "Feb", "Mar", "Apr", "May", "Jun", "Jul", "Aug", "Sep", "Oct", "Nov", "Dec"]

/-- Reads an HTTP date. -/
def stamp : Reader Stamp := do
  let weekday ← name weekdays
  literal ", "
  let day ← number 2
  literal " "
  let month ← name months
  literal " "
  let year ← number 4
  literal " "
  let hour ← number 2
  literal ":"
  let minute ← number 2
  literal ":"
  let second ← number 2
  literal " GMT"
  return ⟨weekday, ⟨year, month + 1, day⟩, ⟨hour, minute, second⟩⟩

/-- What a text says, if it is an HTTP date from its first character to its last. -/
def read? (text : String) : Option Stamp :=
  match stamp.run text.toList with
  | some (stamp, []) => some stamp
  | _ => none

/-! ## What a text says -/

/-- The second of a stamp, counted from 1970-01-01 00:00 UTC. -/
def Stamp.unixSecond (s : Stamp) : Int :=
  ((s.date.number : Int) - Date.number ⟨1970, 1, 1⟩) * 86400
    + (s.clock.hour * 3600 + s.clock.minute * 60 + s.clock.second : Nat)

/-- A stamp that exists: its date and its time of day do, and its weekday is that of the date.
The first of January of the year 0 was a Saturday. -/
structure Stamp.Valid (s : Stamp) : Prop where
  date : s.date.Valid
  clock : s.clock.Valid
  weekday : s.weekday = s.date.number % 7

/-- Whether a character may stand in a header. -/
def isVisible (c : Char) : Bool :=
  decide (' ' ≤ c) && decide (c ≤ '~')

/-- A text that may stand in a header and says a second: read back, it is of a date and a time of
day that exist, under the weekday of that date, and they are of that second. -/
structure Says (text : String) (second : Int) : Prop where
  visible : text.toList.all isVisible = true
  reads : ∃ s, read? text = some s ∧ s.Valid ∧ s.unixSecond = second

/-- The second that a year of the calendar starts with in UTC. -/
def yearStart (year : Nat) : Int :=
  ((Date.daysBeforeYear year : Int) - Date.daysBeforeYear 1970) * 86400

/-- An instant whose year, in UTC, is one of 0 to 9999. -/
def HasPlainYear (t : Instant) : Prop :=
  yearStart 0 * nanosPerSecond ≤ t.count ∧ t.count < yearStart 10000 * nanosPerSecond

/-! ## Reading a text piece by piece -/

/-- A reader takes just a text, whatever follows it, and reads something from it. -/
def Reads {α : Type} (reader : Reader α) (a : α) (text : String) : Prop :=
  ∀ rest, reader.run (text.toList ++ rest) = some (a, rest)

variable {α β : Type}

theorem Reads.pure (a : α) : Reads (Pure.pure a) a "" :=
  fun _ => rfl

theorem Reads.bind {reader : Reader α} {next : α → Reader β} {a : α} {b : β} {text text' : String}
    (h : Reads reader a text) (h' : Reads (next a) b text') :
    Reads (reader >>= next) b (text ++ text') := by
  intro rest
  rw [StateT.run_bind, String.toList_append, List.append_assoc, h]
  exact h' rest

theorem Reads.field {meaning : List Char → Option α} {a : α} {text : String} {width : Nat}
    (hwidth : text.toList.length = width) (h : meaning text.toList = some a) :
    Reads (field width meaning) a text := by
  subst hwidth
  intro rest
  have hle : text.toList.length ≤ (text.toList ++ rest).length := by simp
  change (if _ then _ else _) = _
  rw [if_pos hle, List.take_left, List.drop_left, h]
  rfl

theorem Reads.literal (text : String) : Reads (literal text) () text :=
  .field rfl (if_pos rfl)

theorem Reads.name {names : List String} {text : String} {place : Nat}
    (hwidth : text.toList.length = 3) (h : names.idxOf? text = some place) :
    Reads (name names) place text :=
  .field hwidth (by rw [String.ofList_toList, h])

theorem toList_padded (width n : Nat) : (padded width n).toList =
    List.replicate (width - (Nat.toDigits 10 n).length) '0' ++ Nat.toDigits 10 n :=
  String.toList_ofList

theorem isDigit_of_mem_padded {width n : Nat} {c : Char} (h : c ∈ (padded width n).toList) :
    c.isDigit = true := by
  rw [toList_padded, List.mem_append, List.mem_replicate] at h
  obtain ⟨-, rfl⟩ | h := h
  · rfl
  · exact Nat.isDigit_of_mem_toDigits (by decide) (by decide) h

/-- A number that its width is enough for fills it. -/
theorem Reads.number {width n : Nat} (hpos : 0 < width) (h : n < 10 ^ width) :
    Reads (number width) n (padded width n) := by
  have hlength := (Nat.length_toDigits_le_iff (by decide : 1 < 10) hpos).mpr h
  refine .field ?_ ?_
  · rw [toList_padded, List.length_append, List.length_replicate, Nat.sub_add_cancel hlength]
  · rw [if_pos (List.all_eq_true.mpr fun c => isDigit_of_mem_padded), toList_padded,
      Nat.ofDigitChars_append, Nat.ofDigitChars_replicate_zero, Nat.mul_zero,
      Nat.ofDigitChars_ten_toDigits]

/-- A text that a reader takes is read to its end. -/
theorem read_of_reads {text : String} {s : Stamp} (h : Reads stamp s text) :
    read? text = some s := by
  have hrun := h []
  rw [List.append_nil] at hrun
  rw [read?, hrun]

/-! ## The text of an instant -/

/-- The weekday of a date is named as the reader knows it. -/
theorem reads_weekday {date : Date} (h : date.Valid) (hyear : 0 ≤ date.year) :
    Reads (name weekdays) (date.number % 7) (weekdayName date.toDay) := by
  have hday := Date.toDay_eq_number h hyear
  rw [Date.epochNumber] at hday
  have hplace : (Int.fmod date.toDay 7).toNat = (date.number % 7 + 2) % 7 := by
    rw [Int.fmod_eq_emod_of_nonneg _ (by decide)]
    omega
  have hlt : date.number % 7 < 7 := Nat.mod_lt _ (by decide)
  rw [weekdayName, hplace]
  generalize date.number % 7 = weekday at hlt
  interval_cases weekday <;> exact .name rfl (by decide)

/-- A month is named as the reader knows it. -/
theorem reads_month {month : Nat} (hpos : 1 ≤ month) (hle : month ≤ 12) :
    Reads (name months) (month - 1) (monthName month) := by
  interval_cases month <;> exact .name rfl (by decide)

theorem clock_valid (t : Instant) : t.clock.Valid := by
  have hnonneg : 0 ≤ Int.fmod t.seconds.toInt 86400 := Int.fmod_nonneg_of_pos _ (by decide)
  have hlt : Int.fmod t.seconds.toInt 86400 < 86400 := Int.fmod_lt_of_pos _ (by decide)
  refine ⟨?_, ?_, ?_⟩ <;> dsimp only [Instant.clock] <;> omega

/-- The second of an instant is the whole seconds of its nanoseconds, rounded down. -/
theorem count_ediv (t : Instant) : t.count / nanosPerSecond = t.seconds.toInt := by
  have := t.nanos_lt
  unfold Instant.count nanosPerSecond at *
  omega

/-- The day and the time of day of an instant are those of its second. -/
theorem day_add_clock (t : Instant) : t.day * 86400 +
    (t.clock.hour * 3600 + t.clock.minute * 60 + t.clock.second : Nat) = t.seconds.toInt := by
  have hpos : (0 : Int) ≤ 86400 := by decide
  simp only [Instant.day, Instant.clock, Int.fdiv_eq_ediv_of_nonneg _ hpos,
    Int.fmod_eq_emod_of_nonneg _ hpos]
  omega

theorem yearStart_eq (year : Nat) :
    yearStart year = ((Date.daysBeforeYear year : Int) - Date.epochNumber) * 86400 := by
  have hepoch : (Date.daysBeforeYear 1970 : Int) = Date.epochNumber := by
    rw [Date.daysBeforeYear_eq]
    decide
  rw [yearStart, hepoch]

/-- The first second of the year 0 is the first that can be kept as a text. -/
theorem yearStart_zero : yearStart 0 = Instant.firstWritable := by
  rw [yearStart_eq, Date.daysBeforeYear_eq]
  decide

/-- The year 10000 starts behind the last second that can be written down. -/
theorem yearStart_tenThousand : yearStart 10000 = Instant.lastSecond + 1 := by
  rw [yearStart_eq, Date.daysBeforeYear_eq]
  decide

/-- An instant is in a year, or a later one, exactly if its second is not before the year's. -/
theorem le_year_iff (t : Instant) (year : Nat) :
    (year : Int) ≤ (Date.ofDay t.day).year ↔ yearStart year ≤ t.seconds.toInt := by
  rw [Date.le_year_iff (Date.ofDay_valid _), Date.toDay_ofDay, yearStart_eq, Instant.day,
    Int.fdiv_eq_ediv_of_nonneg _ (by decide)]
  omega

/-- The instants of the years 0 to 9999 are those whose date has such a year. -/
theorem hasPlainYear_iff (t : Instant) : HasPlainYear t ↔
    0 ≤ (Date.ofDay t.day).year ∧ (Date.ofDay t.day).year < 10000 := by
  have hfirst := le_year_iff t 0
  have hlast := le_year_iff t 10000
  have hcount := count_ediv t
  unfold HasPlainYear nanosPerSecond at *
  omega

/-- The text of an instant reads as the date of its day, under its weekday, and its time of day. -/
theorem reads_httpDate {t : Instant} (h : HasPlainYear t) :
    Reads stamp ⟨(Date.ofDay t.day).number % 7, Date.ofDay t.day, t.clock⟩ (httpDate t) := by
  obtain ⟨hfirst, hlast⟩ := (hasPlainYear_iff t).mp h
  have hdate := Date.ofDay_valid t.day
  have hclock := clock_valid t
  have hweekday := reads_weekday hdate hfirst
  rw [Date.toDay_ofDay] at hweekday
  have hday : (Date.ofDay t.day).day < 10 ^ 2 :=
    Nat.lt_of_le_of_lt hdate.day_le (Nat.lt_of_le_of_lt (Date.monthLength_le _ _) (by decide))
  have hmonth := reads_month hdate.month_pos hdate.month_le
  have hyear : (Date.ofDay t.day).year.natAbs < 10 ^ 4 := by omega
  have hhour : t.clock.hour < 10 ^ 2 := Nat.lt_trans hclock.hour_lt (by decide)
  have hminute : t.clock.minute < 10 ^ 2 := Nat.lt_trans hclock.minute_lt (by decide)
  have hsecond : t.clock.second < 10 ^ 2 := Nat.lt_trans hclock.second_lt (by decide)
  have htext : httpDate t = weekdayName t.day ++ (", " ++ (padded 2 (Date.ofDay t.day).day ++
      (" " ++ (monthName (Date.ofDay t.day).month ++ (" " ++
      (padded 4 (Date.ofDay t.day).year.natAbs ++ (" " ++ (padded 2 t.clock.hour ++ (":" ++
      (padded 2 t.clock.minute ++ (":" ++ (padded 2 t.clock.second ++
      (" GMT" ++ ""))))))))))))) := by
    simp only [httpDate, yearText, if_neg (Int.not_lt.mpr hfirst), String.append_assoc,
      String.append_empty]
  rw [htext]
  generalize Date.ofDay t.day = date at *
  obtain ⟨year, month, day⟩ := date
  obtain ⟨year, rfl⟩ := Int.eq_ofNat_of_zero_le hfirst
  obtain ⟨month, rfl⟩ := Nat.exists_eq_add_of_le' hdate.month_pos
  exact hweekday.bind <| (Reads.literal ", ").bind <| (Reads.number two_pos hday).bind <|
    (Reads.literal " ").bind <| hmonth.bind <| (Reads.literal " ").bind <|
    (Reads.number four_pos hyear).bind <| (Reads.literal " ").bind <|
    (Reads.number two_pos hhour).bind <| (Reads.literal ":").bind <|
    (Reads.number two_pos hminute).bind <| (Reads.literal ":").bind <|
    (Reads.number two_pos hsecond).bind <| (Reads.literal " GMT").bind <| .pure _

/-! ## The second of a text -/

theorem isVisible_of_isDigit {c : Char} (h : c.isDigit = true) : isVisible c = true := by
  simp only [Char.isDigit, Bool.and_eq_true, decide_eq_true_eq] at h
  simp only [isVisible, Bool.and_eq_true, decide_eq_true_eq]
  exact ⟨Nat.le_trans (by decide) h.1, Nat.le_trans h.2 (by decide)⟩

theorem visible_padded (width n : Nat) : (padded width n).toList.all isVisible = true :=
  List.all_eq_true.mpr fun _ h => isVisible_of_isDigit (isDigit_of_mem_padded h)

theorem visible_getD {names : List String} (h : ∀ text ∈ names, text.toList.all isVisible = true)
    (place : Nat) : (names.getD place "").toList.all isVisible = true := by
  rw [List.getD_eq_getElem?_getD]
  cases hget : names[place]? with
  | none => rfl
  | some text => exact h text (List.mem_of_getElem? hget)

theorem visible_weekdayName (day : Int) : (weekdayName day).toList.all isVisible = true :=
  visible_getD (by decide) _

theorem visible_monthName (month : Nat) : (monthName month).toList.all isVisible = true :=
  visible_getD (by decide) _

/-- Every character of the text may stand in a header. -/
theorem visible_httpDate (t : Instant) : (httpDate t).toList.all isVisible = true := by
  have hyear : (yearText (Date.ofDay t.day).year).toList.all isVisible = true := by
    unfold yearText
    split
    · rw [String.toList_append, List.all_append, visible_padded]
      decide
    · exact visible_padded _ _
  simp only [httpDate, String.toList_append, List.all_append, visible_padded, visible_weekdayName,
    visible_monthName, hyear, Bool.and_true, Bool.true_and]
  decide

/-- The text of an instant says the second that the instant lies in. -/
theorem says_httpDate {t : Instant} (h : HasPlainYear t) :
    Says (httpDate t) (t.count / nanosPerSecond) := by
  obtain ⟨hfirst, -⟩ := (hasPlainYear_iff t).mp h
  have hdate := Date.ofDay_valid t.day
  refine ⟨visible_httpDate t, _, read_of_reads (reads_httpDate h), ⟨hdate, clock_valid t, rfl⟩, ?_⟩
  have hday := Date.toDay_eq_number hdate hfirst
  rw [Date.toDay_ofDay] at hday
  rw [Stamp.unixSecond, Date.number_epoch, ← hday, day_add_clock, count_ediv]

/-- The response with an artifact says the second in which the artifact was made. -/
theorem exists_lastModified (key : Key) {artifact : Artifact}
    (h : HasPlainYear artifact.generatedAt) :
    ∃ text, ("last-modified", text) ∈ (Http.artifactResponse key artifact).headers ∧
      Says text (artifact.generatedAt.count / nanosPerSecond) :=
  ⟨httpDate artifact.generatedAt, List.mem_cons_of_mem _ List.mem_cons_self, says_httpDate h⟩

/-- A text says one second. -/
theorem Says.unique {text : String} {second second' : Int} (h : Says text second)
    (h' : Says text second') : second = second' := by
  obtain ⟨-, s, hread, -, hsecond⟩ := h
  obtain ⟨-, s', hread', -, hsecond'⟩ := h'
  cases hread.symm.trans hread'
  exact hsecond.symm.trans hsecond'

/-- The text of an instant depends on its second alone. -/
theorem httpDate_congr {t u : Instant} (h : t.seconds = u.seconds) : httpDate t = httpDate u := by
  simp only [httpDate, Instant.day, Instant.clock, h]

/-- The text of an instant of the years 0 to 9999 says the second the instant lies in, whatever its
nanoseconds and its offset, and the texts of two of them are the same exactly if the seconds are. -/
theorem httpDate_says_second {t u : Instant} (ht : HasPlainYear t) (hu : HasPlainYear u) :
    Says (httpDate t) (t.count / nanosPerSecond) ∧
      (httpDate t = httpDate u ↔ t.count / nanosPerSecond = u.count / nanosPerSecond) := by
  refine ⟨says_httpDate ht, fun htext => ?_, fun hsecond => ?_⟩
  · have htold := says_httpDate hu
    rw [← htext] at htold
    exact (says_httpDate ht).unique htold
  · rw [count_ediv, count_ediv] at hsecond
    exact httpDate_congr (Int64.toInt_inj.mp hsecond)

/-- In the last second of the 29th of February 1968, at an offset where it is March already. -/
def leapNight : Instant :=
  ⟨Int64.ofInt (-57974401), 987654321, 7200, by decide⟩

/-- Earlier in the same second, at an offset where it is still the evening. -/
def leapEvening : Instant :=
  ⟨Int64.ofInt (-57974401), 12345678, -19800, by decide⟩

theorem httpDate_says_second_leapNight :
    HasPlainYear leapNight ∧ HasPlainYear leapEvening ∧ Says (httpDate leapNight) (-57974401) ∧
      httpDate leapNight = httpDate leapEvening := by
  have hnight : HasPlainYear leapNight := by
    rw [HasPlainYear, yearStart_zero, yearStart_tenThousand]
    decide
  have hevening : HasPlainYear leapEvening := by
    rw [HasPlainYear, yearStart_zero, yearStart_tenThousand]
    decide
  obtain ⟨htold, hsame⟩ := httpDate_says_second hnight hevening
  exact ⟨hnight, hevening, htold, hsame.mpr (by decide)⟩

example : httpDate leapNight = "Thu, 29 Feb 1968 23:59:59 GMT" := by
  decide

end HttpDate

end BenchDepot
