import BenchDepot.Time.Calendar
import Mathlib.Tactic.IntervalCases

/-!
# The conversion between days and dates

The Gregorian calendar is told by its rules: the lengths of the months, and the years that have a
29th of February.  A date is one of the calendar if its month and day exist, and its number counts
the days before it year by year and month by month, from the first of January of the year 0 on.

The conversion counts years from March, so that the day some of them have more is their last.  A
day is placed in such a year first (`exists_ofDay_eq`), and its months then start after every 153
days of five.  Dates of the calendar and places in such years correspond (`ofMarch_valid`,
`Valid.march`).

* `ofDay_valid`, `toDay_ofDay` — the date of a day is one of the calendar, and is that day's;
* `toDay_eq_number` — the day of a date is its number, less that of 1970-01-01.
-/

namespace BenchDepot.Date

/-! ## The rules of the calendar -/

/-- Whether a year has a 29th of February. -/
def isLeap (year : Int) : Bool :=
  decide (year % 4 = 0) && (decide (year % 100 ≠ 0) || decide (year % 400 = 0))

/-- The days of a month. -/
def monthLength (year : Int) : Nat → Nat
  | 2 => if isLeap year then 29 else 28
  | 4 | 6 | 9 | 11 => 30
  | _ => 31

/-- The days of the first months of a year, those before some month. -/
def daysBefore (year : Int) (month : Nat) : Nat :=
  ((List.range' 1 (month - 1)).map (monthLength year)).sum

/-- The days of a year. -/
def yearLength (year : Int) : Nat :=
  daysBefore year 13

/-- The days of the years from the year 0 on, before some year. -/
def daysBeforeYear (year : Nat) : Nat :=
  ((List.range year).map fun earlier : Nat => yearLength earlier).sum

/-- The number of a date not before the year 0: the days from 0000-01-01 to it. -/
def number (date : Date) : Nat :=
  daysBeforeYear date.year.toNat + daysBefore date.year date.month + (date.day - 1)

/-- The number of 1970-01-01. -/
def epochNumber : Nat := 719528

/-- A date of the calendar: its year has such a month, and its month such a day. -/
structure Valid (date : Date) : Prop where
  month_pos : 1 ≤ date.month
  month_le : date.month ≤ 12
  day_pos : 1 ≤ date.day
  day_le : date.day ≤ monthLength date.year date.month

theorem isLeap_iff (year : Int) :
    isLeap year = true ↔ year % 4 = 0 ∧ (year % 100 ≠ 0 ∨ year % 400 = 0) := by
  simp [isLeap]

theorem monthLength_le (year : Int) (month : Nat) : monthLength year month ≤ 31 := by
  unfold monthLength
  split
  · split <;> decide
  · decide
  · decide
  · decide
  · decide
  · decide

/-! ## Years that start in March -/

/-- The days of a year that starts in March.  Its February is that of the next year. -/
def marchLength (year : Int) : Nat :=
  365 + (if isLeap (year + 1) then 1 else 0)

/-- The month at a place of such a year. -/
def monthAt (place : Nat) : Nat :=
  if place < 10 then place + 3 else place - 9

/-- The date of a day of such a year, by the day's place in it. -/
def ofMarch (year : Int) (place : Nat) : Date :=
  let month := monthAt ((5 * place + 2) / 153)
  { year := year + (if month ≤ 2 then 1 else 0)
    month := month
    day := place - daysBeforeMonth ((5 * place + 2) / 153) + 1 }

/-- The year of a date, if years start in March. -/
def marchYear (date : Date) : Int :=
  if date.month ≤ 2 then date.year - 1 else date.year

/-- The place of a date in that year. -/
def marchPlace (date : Date) : Nat :=
  daysBeforeMonth (monthPlace date.month) + (date.day - 1)

/-- The day of a date is its place behind the days before its year. -/
theorem toDay_eq {date : Date} (h : 1 ≤ date.day) :
    date.toDay = daysBeforeMarch date.marchYear + date.marchPlace - epoch := by
  simp only [toDay, marchYear, marchPlace]
  omega

theorem marchLength_bounds (year : Int) : 365 ≤ marchLength year ∧ marchLength year ≤ 366 := by
  unfold marchLength
  split <;> omega

/-- The days before a year, with the roundings written as of positive numbers. -/
theorem daysBeforeMarch_eq (year : Int) :
    daysBeforeMarch year = 365 * year + year / 4 - year / 100 + year / 400 := by
  rw [daysBeforeMarch, Int.fdiv_eq_ediv_of_nonneg _ (by decide),
    Int.fdiv_eq_ediv_of_nonneg _ (by decide), Int.fdiv_eq_ediv_of_nonneg _ (by decide)]

theorem daysBeforeMarch_succ (year : Int) :
    daysBeforeMarch (year + 1) = daysBeforeMarch year + marchLength year := by
  have hfour : (year + 1) / 4 = year / 4 + (if (year + 1) % 4 = 0 then 1 else 0) := by
    split <;> omega
  have hhundred : (year + 1) / 100 = year / 100 + (if (year + 1) % 100 = 0 then 1 else 0) := by
    split <;> omega
  have hcycle : (year + 1) / 400 = year / 400 + (if (year + 1) % 400 = 0 then 1 else 0) := by
    split <;> omega
  simp only [daysBeforeMarch_eq, hfour, hhundred, hcycle, marchLength, isLeap_iff]
  split <;> split <;> split <;> split <;> omega

theorem daysBeforeMarch_le {year later : Int} (h : year ≤ later) :
    daysBeforeMarch year ≤ daysBeforeMarch later := by
  rw [daysBeforeMarch_eq, daysBeforeMarch_eq]
  omega

/-- A day of a year comes before all those of a later year. -/
theorem lt_daysBeforeMarch {year later : Int} {place : Nat} (h : place < marchLength year)
    (hlt : year < later) : daysBeforeMarch year + place < daysBeforeMarch later := by
  have hle := daysBeforeMarch_le (Int.add_one_le_iff.mpr hlt)
  rw [daysBeforeMarch_succ] at hle
  omega

/-! ## The year of a day -/

/-- A day of a cycle lies in one of four centuries, of 25 groups of four years each.  The last
group of a century is a day short, but for that of the last century. -/
theorem exists_parts {day : Nat} (h : day < cycleDays) :
    ∃ century group year place : Nat, century < 4 ∧ group < 25 ∧ year < 4 ∧
      (place < 365 ∨ place = 365 ∧ year = 3 ∧ (group < 24 ∨ century = 3)) ∧
      day = 36524 * century + 1461 * group + 365 * year + place := by
  unfold cycleDays at h
  have hcentury : ∃ century rest, century < 4 ∧ day = 36524 * century + rest ∧
      (rest < 36524 ∨ rest = 36524 ∧ century = 3) :=
    ⟨min 3 (day / 36524), day - 36524 * min 3 (day / 36524), by omega, by omega, by omega⟩
  obtain ⟨century, rest, hfour, rfl, hrest⟩ := hcentury
  have hyear : ∃ year place, year < 4 ∧ rest % 1461 = 365 * year + place ∧
      (place < 365 ∨ place = 365 ∧ year = 3) :=
    ⟨min 3 (rest % 1461 / 365), rest % 1461 - 365 * min 3 (rest % 1461 / 365), by omega, by omega,
      by omega⟩
  obtain ⟨year, place, hyear, hplace, hlast⟩ := hyear
  exact ⟨century, rest / 1461, year, place, hfour, by omega, hyear, by omega, by omega⟩

section Parts

variable {century group year place : Nat} (hcentury : century < 4) (hgroup : group < 25)
  (hyear : year < 4)

include hcentury hgroup hyear

/-- The year of a day of the cycle is the one the day's parts tell. -/
theorem yearOfCycle_parts
    (hplace : place < 365 ∨ place = 365 ∧ year = 3 ∧ (group < 24 ∨ century = 3)) :
    yearOfCycle (36524 * century + 1461 * group + 365 * year + place) =
      100 * century + 4 * group + year := by
  unfold yearOfCycle
  generalize hday : 36524 * century + 1461 * group + 365 * year + place = day
  have hcenturies : day / 36524 = century ∧ day / 146096 = 0 ∨
      day / 36524 = century + 1 ∧ day / 146096 = 1 := by
    have hrest : day < 36524 * century + 36524 ∨ day = 146096 ∧ century = 3 := by omega
    omega
  -- the quotient is one too large only behind the first day of a year, where it does no harm
  have hgroups : day / 1460 = 25 * century + group ∧ place < 365 ∨
      day / 1460 = 25 * century + group + 1 ∧ 1 ≤ place := by omega
  omega

/-- The days before a year, by the parts of the year. -/
theorem daysBeforeMarch_parts (cycle : Int) :
    daysBeforeMarch (cycle * 400 + (100 * century + 4 * group + year : Nat)) =
      cycle * cycleDays + (36524 * century + 1461 * group + 365 * year : Nat) := by
  rw [daysBeforeMarch_eq, cycleDays]
  generalize hy : cycle * 400 + ((100 * century + 4 * group + year : Nat) : Int) = y
  have hfour : y / 4 = 100 * cycle + 25 * century + group := by omega
  have hhundred : y / 100 = 4 * cycle + century := by omega
  have hcycle : y / 400 = cycle := by omega
  omega

theorem lt_marchLength_parts (cycle : Int)
    (hplace : place < 365 ∨ place = 365 ∧ year = 3 ∧ (group < 24 ∨ century = 3)) :
    place < marchLength (cycle * 400 + (100 * century + 4 * group + year : Nat)) := by
  unfold marchLength
  obtain hplace | ⟨rfl, rfl, hlong⟩ := hplace
  · exact Nat.lt_add_right _ hplace
  · rw [if_pos ((isLeap_iff _).mpr _)]
    · exact Nat.lt_succ_self 365
    · obtain hgroup | rfl := hlong
      · have hhundred : (cycle * 400 + (100 * century + 4 * group + 3 : Nat) + 1) % 100 =
            4 * group + 4 := by omega
        omega
      · omega

end Parts

/-- Every day is one of a year that starts in March, and its date is the one of that place. -/
theorem exists_ofDay_eq (day : Int) : ∃ year place, place < marchLength year ∧
    day + epoch = daysBeforeMarch year + place ∧ ofDay day = ofMarch year place := by
  have hnonneg : 0 ≤ (day + epoch) % cycleDays := Int.emod_nonneg _ (by decide)
  have hlt : ((day + epoch) % cycleDays).toNat < cycleDays := by
    unfold cycleDays
    omega
  obtain ⟨century, group, year, place, hcentury, hgroup, hyear, hplace, hday⟩ := exists_parts hlt
  have hofCycle := yearOfCycle_parts hcentury hgroup hyear hplace
  have hbefore := daysBeforeMarch_parts hcentury hgroup hyear ((day + epoch) / cycleDays)
  have hlength := lt_marchLength_parts hcentury hgroup hyear ((day + epoch) / cycleDays) hplace
  generalize hy : 100 * century + 4 * group + year = y at hofCycle hbefore hlength
  refine ⟨(day + epoch) / cycleDays * 400 + y, place, hlength, ?_, ?_⟩
  · have hdivision := Int.ediv_mul_add_emod (day + epoch) cycleDays
    omega
  · have hrest : ((day + epoch) % cycleDays).toNat - (365 * y + y / 4 - y / 100) = place := by
      have hfour : y / 4 = 25 * century + group := by omega
      have hhundred : y / 100 = century := by omega
      omega
    simp only [ofDay, ofMarch, Int.fdiv_eq_ediv_of_nonneg _ (Int.natCast_nonneg cycleDays),
      Int.fmod_eq_emod_of_nonneg _ (Int.natCast_nonneg cycleDays)]
    rw [hday, hofCycle, ← hday, hrest]
    rfl

/-! ## The month of a day -/

theorem monthPlace_monthAt {place : Nat} (h : place < 12) : monthPlace (monthAt place) = place := by
  unfold monthAt monthPlace
  split <;> split <;> omega

theorem monthAt_bounds {place : Nat} (h : place < 12) : 1 ≤ monthAt place ∧ monthAt place ≤ 12 := by
  unfold monthAt
  split <;> omega

/-- The months are those at the places of a year that starts in March. -/
theorem exists_monthAt_eq {month : Nat} (hpos : 1 ≤ month) (hle : month ≤ 12) :
    ∃ place < 12, monthAt place = month := by
  refine ⟨monthPlace month, ?_, ?_⟩
  · unfold monthPlace
    split <;> omega
  · unfold monthAt monthPlace
    split <;> split <;> omega

/-- A month that is not the last has the days from its start to that of the next one. -/
theorem daysBeforeMonth_succ (year : Int) {place : Nat} (h : place < 11) :
    daysBeforeMonth (place + 1) = daysBeforeMonth place + monthLength year (monthAt place) := by
  interval_cases place <;> rfl

/-- The last month is a February, and has the other days of the year. -/
theorem marchLength_eq (year : Int) :
    marchLength year = daysBeforeMonth 11 + monthLength (year + 1) (monthAt 11) := by
  change 365 + (if isLeap (year + 1) then 1 else 0) = 337 + (if isLeap (year + 1) then 29 else 28)
  split <;> rfl

/-- A day is in the month that starts with it or before, while the next one starts later. -/
theorem monthPlace_of_lt {place day : Nat}
    (h : daysBeforeMonth place + day < daysBeforeMonth (place + 1)) :
    (5 * (daysBeforeMonth place + day) + 2) / 153 = place := by
  unfold daysBeforeMonth at *
  omega

theorem daysBeforeMonth_le (place : Nat) : daysBeforeMonth ((5 * place + 2) / 153) ≤ place := by
  unfold daysBeforeMonth
  omega

theorem lt_daysBeforeMonth (place : Nat) :
    place < daysBeforeMonth ((5 * place + 2) / 153 + 1) := by
  unfold daysBeforeMonth
  omega

/-- The date of a place is one of the calendar. -/
theorem ofMarch_valid {year : Int} {place : Nat} (h : place < marchLength year) :
    (ofMarch year place).Valid := by
  have hbounds := marchLength_bounds year
  have hlt : (5 * place + 2) / 153 < 12 := by omega
  have hle := daysBeforeMonth_le place
  have hnext := lt_daysBeforeMonth place
  obtain ⟨hpos, htwelve⟩ := monthAt_bounds hlt
  unfold ofMarch
  generalize (5 * place + 2) / 153 = monthPlace at *
  refine ⟨hpos, htwelve, Nat.le_add_left 1 _, ?_⟩
  dsimp only
  obtain hmonth | rfl : monthPlace < 11 ∨ monthPlace = 11 := by omega
  · rw [daysBeforeMonth_succ (year + if monthAt monthPlace ≤ 2 then 1 else 0) hmonth] at hnext
    omega
  · rw [marchLength_eq] at h
    rw [if_pos (by decide)]
    omega

/-- The date of a place is at that place of that year. -/
theorem march_ofMarch {year : Int} {place : Nat} (h : place < marchLength year) :
    (ofMarch year place).marchYear = year ∧ (ofMarch year place).marchPlace = place := by
  have hbounds := marchLength_bounds year
  have hlt : (5 * place + 2) / 153 < 12 := by omega
  have hle := daysBeforeMonth_le place
  constructor
  · unfold marchYear ofMarch
    dsimp only
    split <;> omega
  · simp only [marchPlace, ofMarch, monthPlace_monthAt hlt]
    omega

/-- A date of the calendar is in its year, and is the date of its place. -/
theorem Valid.march {date : Date} (h : date.Valid) : date.marchPlace < marchLength date.marchYear ∧
    ofMarch date.marchYear date.marchPlace = date := by
  obtain ⟨year, month, day⟩ := date
  obtain ⟨hpos, hle, hday, hlength⟩ := h
  dsimp only at hpos hle hday hlength
  obtain ⟨place, hplace, rfl⟩ := exists_monthAt_eq hpos hle
  simp only [marchYear, marchPlace, monthPlace_monthAt hplace]
  have hin : daysBeforeMonth place + (day - 1) < daysBeforeMonth (place + 1) ∧
      daysBeforeMonth place + (day - 1) <
        marchLength (if monthAt place ≤ 2 then year - 1 else year) := by
    obtain hmonth | rfl : place < 11 ∨ place = 11 := by omega
    · have hsucc := daysBeforeMonth_succ year hmonth
      have hshort : daysBeforeMonth (place + 1) ≤ 337 := by
        unfold daysBeforeMonth
        omega
      have hbounds := marchLength_bounds (if monthAt place ≤ 2 then year - 1 else year)
      omega
    · rw [if_pos (by decide)]
      have hlong := marchLength_eq (year - 1)
      rw [Int.sub_add_cancel] at hlong
      have hbounds := marchLength_bounds (year - 1)
      have hnext : daysBeforeMonth (11 + 1) = 367 := rfl
      omega
  refine ⟨hin.2, ?_⟩
  have hmonth := monthPlace_of_lt hin.1
  simp only [ofMarch, hmonth, Date.mk.injEq]
  refine ⟨?_, trivial, ?_⟩
  · split <;> omega
  · omega

/-! ## Days and dates -/

/-- The date of a day is one of the calendar. -/
theorem ofDay_valid (day : Int) : (ofDay day).Valid := by
  obtain ⟨year, place, hlength, -, hdate⟩ := exists_ofDay_eq day
  rw [hdate]
  exact ofMarch_valid hlength

/-- The date of a day is that day's. -/
theorem toDay_ofDay (day : Int) : (ofDay day).toDay = day := by
  obtain ⟨year, place, hlength, hday, hdate⟩ := exists_ofDay_eq day
  obtain ⟨hyear, hplace⟩ := march_ofMarch hlength
  rw [hdate, toDay_eq (ofMarch_valid hlength).day_pos, hyear, hplace]
  omega

/-! ## Days from the year 0 on -/

theorem yearLength_eq (year : Int) : yearLength year = marchLength (year - 1) := by
  rw [marchLength, Int.sub_add_cancel]
  simp only [yearLength, daysBefore, monthLength, List.range', List.map_cons, List.map_nil,
    List.sum_cons, List.sum_nil]
  split <;> rfl

/-- From one March to the next there are as many days as in the year of the second one. -/
theorem daysBeforeMarch_eq_add (year : Int) :
    daysBeforeMarch year = daysBeforeMarch (year - 1) + yearLength year := by
  have hsucc := daysBeforeMarch_succ (year - 1)
  rwa [← yearLength_eq, Int.sub_add_cancel] at hsucc

/-- The years before one have the days before the March of the last of them, from that of the year 0
on, and 366 more: the first two months of the year 0, and the other ten of the last. -/
theorem daysBeforeYear_eq (year : Nat) :
    (daysBeforeYear year : Int) = daysBeforeMarch (year - 1) + 366 := by
  induction year with
  | zero => decide
  | succ year ih =>
    have hsum : daysBeforeYear (year + 1) = daysBeforeYear year + yearLength year := by
      simp [daysBeforeYear, List.range_succ]
    rw [hsum, Int.natCast_add, ih, Int.natCast_add, Int.natCast_one, Int.add_sub_cancel,
      daysBeforeMarch_eq_add year]
    omega

/-- The months from March on have 306 days; the first two come before them in a year, and behind
them in one that starts in March. -/
theorem daysBefore_add (year : Int) {month : Nat} (hpos : 1 ≤ month) (hle : month ≤ 12) :
    daysBefore year month + 306 =
      daysBeforeMonth (monthPlace month) + (if month ≤ 2 then 0 else yearLength year) := by
  interval_cases month <;>
    simp [yearLength, daysBefore, monthLength, List.range', daysBeforeMonth, monthPlace]
  all_goals omega

/-- The day of a date from the year 0 on is its number, less that of 1970-01-01. -/
theorem toDay_eq_number {date : Date} (h : date.Valid) (hyear : 0 ≤ date.year) :
    date.toDay = (date.number : Int) - epochNumber := by
  have hyears := daysBeforeYear_eq date.year.toNat
  have hmonths := daysBefore_add date.year h.month_pos h.month_le
  have hmarch := daysBeforeMarch_eq_add date.year
  rw [Int.toNat_of_nonneg hyear] at hyears
  rw [toDay_eq h.day_pos, marchYear, marchPlace, number, epoch, epochNumber]
  split at hmonths
  · next hmonth =>
    rw [if_pos hmonth]
    omega
  · next hmonth =>
    rw [if_neg hmonth]
    omega

/-- The day 0 is 1970-01-01, whose number is the one that days are counted from. -/
theorem number_epoch : number ⟨1970, 1, 1⟩ = epochNumber := by
  have hvalid : Valid ⟨1970, 1, 1⟩ := ⟨by decide, by decide, by decide, by decide⟩
  have hday := toDay_eq_number hvalid (by decide)
  have hzero : toDay ⟨1970, 1, 1⟩ = 0 := by decide
  omega

/-- The first of January is at place 306 of a year that starts in March: the first two months have
the places from there on, and the others those before. -/
theorem Valid.march_cases {date : Date} (h : date.Valid) :
    date.marchYear = date.year - 1 ∧ 306 ≤ date.marchPlace ∨
      date.marchYear = date.year ∧ date.marchPlace < 306 := by
  obtain ⟨year, month, day⟩ := date
  obtain ⟨hpos, hle, hday, hlength⟩ := h
  dsimp only at hpos hle hday hlength
  obtain ⟨place, hplace, rfl⟩ := exists_monthAt_eq hpos hle
  simp only [marchYear, marchPlace, monthPlace_monthAt hplace]
  by_cases hfirst : place < 10
  · have hmonth : ¬monthAt place ≤ 2 := by
      rw [monthAt, if_pos hfirst]
      omega
    have hsucc := daysBeforeMonth_succ year (by omega : place < 11)
    have hbound : daysBeforeMonth (place + 1) ≤ 306 := by
      unfold daysBeforeMonth
      omega
    rw [if_neg hmonth]
    exact Or.inr ⟨rfl, by omega⟩
  · have hmonth : monthAt place ≤ 2 := by
      rw [monthAt, if_neg hfirst]
      omega
    have hbound : 306 ≤ daysBeforeMonth place := by
      unfold daysBeforeMonth
      omega
    rw [if_pos hmonth]
    exact Or.inl ⟨rfl, by omega⟩

/-- A date is of a year or of a later one exactly if its day is not before the first of January of
that year. -/
theorem le_year_iff {date : Date} (h : date.Valid) (year : Nat) :
    (year : Int) ≤ date.year ↔ (daysBeforeYear year : Int) - epochNumber ≤ date.toDay := by
  obtain ⟨hlength, -⟩ := h.march
  rw [daysBeforeYear_eq, toDay_eq h.day_pos, epochNumber, epoch]
  obtain ⟨hyear, hplace⟩ | ⟨hyear, hplace⟩ := h.march_cases
  · constructor
    · intro hle
      have := daysBeforeMarch_le (by omega : (year : Int) - 1 ≤ date.marchYear)
      omega
    · intro hle
      by_contra hlt
      have := lt_daysBeforeMarch hlength (by omega : date.marchYear < (year : Int) - 1)
      omega
  · constructor
    · intro hle
      have hfirst : 306 < marchLength (year - 1) := by
        have := marchLength_bounds (year - 1)
        omega
      have := lt_daysBeforeMarch hfirst (by omega : (year : Int) - 1 < date.marchYear)
      omega
    · intro hle
      by_contra hlt
      have := daysBeforeMarch_le (by omega : date.marchYear ≤ (year : Int) - 1)
      omega

end BenchDepot.Date
