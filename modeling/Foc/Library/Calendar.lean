import Foc.Library.Digits

/-!
Days of the Gregorian calendar counted from 1970-01-01, moments counted in
microseconds, and the ISO text of a moment in UTC. What is written of a year with
four digits is read back.
-/
namespace Foc.Library.Calendar
open Digits

/-! ## Days -/

structure Day where
  year : Int
  month : Nat
  day : Nat
  deriving DecidableEq, Repr

def leap (year : Int) : Bool :=
  decide (year % 4 = 0) && (decide (year % 100 ≠ 0) || decide (year % 400 = 0))

def monthDays (year : Int) (month : Nat) : Nat :=
  if month = 2 then if leap year then 29 else 28
  else if month = 4 ∨ month = 6 ∨ month = 9 ∨ month = 11 then 30
  else 31

/-- A day that exists. -/
structure Day.Exists (day : Day) : Prop where
  month : 1 ≤ day.month ∧ day.month ≤ 12
  day : 1 ≤ day.day ∧ day.day ≤ monthDays day.year day.month

/-- A day by its place in the cycle of 400 years. Years begin with March here, so that
a leap day is the last of its year. -/
def placed (era century quad year inYear : Int) : Day :=
  let march := (5 * inYear + 2) / 153
  { year := 400 * era + 100 * century + 4 * quad + year + (if march < 10 then 0 else 1)
    month := (if march < 10 then march + 3 else march - 9).toNat
    day := (inYear - (153 * march + 2) / 5 + 1).toNat }

/-- The day that is so many days after 1970-01-01. -/
def ofDays (days : Int) : Day :=
  let inEra := (days + 719468) % 146097
  let century := min 3 (inEra / 36524)
  let inCentury := inEra - 36524 * century
  let inQuad := inCentury % 1461
  let year := min 3 (inQuad / 365)
  placed ((days + 719468) / 146097) century (inCentury / 1461) year (inQuad - 365 * year)

def toDays (day : Day) : Int :=
  let year := if day.month ≤ 2 then day.year - 1 else day.year
  let march := if day.month ≤ 2 then (day.month : Int) + 9 else day.month - 3
  365 * year + year / 4 - year / 100 + year / 400 + (153 * march + 2) / 5 + day.day - 719469

structure Cycle (days era century quad year inYear : Int) : Prop where
  centuries : 0 ≤ century ∧ century ≤ 3
  quads : 0 ≤ quad ∧ quad ≤ 24
  years : 0 ≤ year ∧ year ≤ 3
  within : 0 ≤ inYear ∧ inYear ≤ 365
  leaps : inYear = 365 → year = 3 ∧ (quad = 24 → century = 3)
  sum : days + 719468 = 146097 * era + 36524 * century + 1461 * quad + 365 * year + inYear

theorem of_days (days : Int) : ∃ era century quad year inYear,
    ofDays days = placed era century quad year inYear ∧ Cycle days era century quad year inYear := by
  refine ⟨_, _, _, _, _, rfl, ?_⟩
  constructor <;> omega

theorem to_days_of_days (days : Int) : toDays (ofDays days) = days := by
  obtain ⟨era, century, quad, year, inYear, is, cycle⟩ := of_days days
  obtain ⟨centuries, quads, years, within, _, sum⟩ := cycle
  rw [is]
  simp only [placed, toDays]
  by_cases early : (5 * inYear + 2) / 153 < 10
  · simp only [early, if_true]
    rw [if_neg (by omega), if_neg (by omega)]
    omega
  · simp only [early, if_false]
    rw [if_pos (by omega), if_pos (by omega)]
    omega

/-- A year of 366 days from March on ends in a leap day. -/
theorem leap_last {days era century quad year : Int} (cycle : Cycle days era century quad year 365) :
    leap (400 * era + 100 * century + 4 * quad + year + 1) = true := by
  obtain ⟨rfl, last⟩ := cycle.leaps rfl
  obtain ⟨quads, _⟩ := cycle.quads
  have centuries := cycle.centuries
  have quads := cycle.quads
  simp only [leap, Bool.and_eq_true, Bool.or_eq_true, decide_eq_true_eq]
  omega

theorem of_days_exists (days : Int) : (ofDays days).Exists := by
  obtain ⟨era, century, quad, year, inYear, is, cycle⟩ := of_days days
  have within := cycle.within
  rw [is]
  obtain ⟨march, marches⟩ : ∃ march, march = (5 * inYear + 2) / 153 := ⟨_, rfl⟩
  have low : 0 ≤ march := by omega
  have high : march ≤ 11 := by omega
  constructor
  · simp only [placed]
    split <;> omega
  · simp only [placed, ← marches, monthDays]
    by_cases february : march = 11
    · subst february
      by_cases last : inYear = 365
      · subst last
        have leaps := leap_last cycle
        simp [leaps]
      · simp
        split <;> omega
    · interval_cases march <;> simp <;> omega

/-! ## Moments -/

structure Moment where
  day : Day
  hour : Nat
  minute : Nat
  second : Nat
  micro : Nat
  deriving DecidableEq, Repr

/-- The moment so many microseconds after the start of 1970. -/
def ofMicros (micros : Int) : Moment :=
  let inDay := (micros % 86400000000).toNat
  { day := ofDays (micros / 86400000000)
    hour := inDay / 3600000000
    minute := inDay / 60000000 % 60
    second := inDay / 1000000 % 60
    micro := inDay % 1000000 }

def toMicros (moment : Moment) : Int :=
  toDays moment.day * 86400000000 + moment.hour * 3600000000 + moment.minute * 60000000 +
    moment.second * 1000000 + moment.micro

theorem to_micros_of_micros (micros : Int) : toMicros (ofMicros micros) = micros := by
  simp only [toMicros, ofMicros, to_days_of_days]
  omega

/-! ## Text -/

/-- A moment in UTC: how its year is written, and the digits of its fraction. -/
def isoWith (year fraction : List Char) (moment : Moment) : List Char :=
  year ++ '-' :: (fixed 10 2 moment.day.month ++ '-' :: (fixed 10 2 moment.day.day ++
    'T' :: (fixed 10 2 moment.hour ++ ':' :: (fixed 10 2 moment.minute ++
    ':' :: (fixed 10 2 moment.second ++ '.' :: (fraction ++ ['Z']))))))

/-- To the microsecond. A year before the first is written without its era. -/
def isoMicros (moment : Moment) : List Char :=
  isoWith
    (padded 10 4 (if moment.day.year ≤ 0 then 1 - moment.day.year else moment.day.year).toNat)
    (fixed 10 6 moment.micro) moment

/-- A year of four digits, or six and a sign. -/
def signedYear (year : Int) : List Char :=
  if 0 ≤ year ∧ year ≤ 9999 then fixed 10 4 year.toNat
  else (if year < 0 then '-' else '+') :: padded 10 6 year.natAbs

/-- To the millisecond. -/
def isoMillis (moment : Moment) : List Char :=
  isoWith (signedYear moment.day.year) (fixed 10 3 (moment.micro / 1000)) moment

def expect (char : Char) : List Char → Option (List Char)
  | first :: rest => if first = char then some rest else none
  | [] => none

/-- The microseconds that the digits of a fraction write, rounded to the nearest. -/
def toMicro (digits : List Char) : Nat :=
  let scale := 10 ^ digits.length
  let value := ((scanNumber 10 digits.length 0 digits).map Prod.fst).getD 0 * 1000000
  let whole := value / scale
  let left := 2 * (value % scale)
  if left < scale ∨ (left = scale ∧ whole % 2 = 0) then whole else whole + 1

/-- Seconds and their fraction, or neither. -/
def scanSeconds : List Char → Option (Nat × Nat × List Char)
  | ':' :: rest =>
      (scanNumber 10 2 0 rest).bind fun (second, rest) =>
        if second < 60 then
          match rest with
          | '.' :: rest =>
              let digits := rest.takeWhile Char.isDigit
              if digits = [] then none else some (second, toMicro digits, rest.dropWhile Char.isDigit)
          | rest => some (second, 0, rest)
        else none
  | rest => some (0, 0, rest)

/-- The moment an ISO text in UTC tells, its year written with four digits. -/
def scanMoment (text : List Char) : Option Moment := do
  let (year, rest) ← scanNumber 10 4 0 text
  let rest ← expect '-' rest
  let (month, rest) ← scanNumber 10 2 0 rest
  let rest ← expect '-' rest
  let (day, rest) ← scanNumber 10 2 0 rest
  let rest ← expect 'T' rest
  let (hour, rest) ← scanNumber 10 2 0 rest
  let rest ← expect ':' rest
  let (minute, rest) ← scanNumber 10 2 0 rest
  let (second, micro, rest) ← scanSeconds rest
  if rest = ['Z'] ∧ (1 ≤ month ∧ month ≤ 12) ∧ (1 ≤ day ∧ day ≤ monthDays year month) ∧
      hour < 24 ∧ minute < 60 then
    some { day := { year, month, day }, hour, minute, second, micro }
  else none

/-- A moment whose parts are in their ranges, in a year of four digits. -/
structure Moment.Regular (moment : Moment) : Prop where
  year : 0 ≤ moment.day.year ∧ moment.day.year ≤ 9999
  day : moment.day.Exists
  hour : moment.hour < 24
  minute : moment.minute < 60
  second : moment.second < 60
  micro : moment.micro < 1000000

theorem of_micros_regular {micros : Int}
    (year : 0 ≤ (ofMicros micros).day.year ∧ (ofMicros micros).day.year ≤ 9999) :
    (ofMicros micros).Regular := by
  refine ⟨year, of_days_exists _, ?_, ?_, ?_, ?_⟩ <;> simp only [ofMicros] <;> omega

theorem to_micro_micros {micro : Nat} (small : micro < 1000000) :
    toMicro (fixed 10 6 micro) = micro := by
  have scanned : scanNumber 10 6 0 (fixed 10 6 micro) = some (micro, []) := by
    have read := scan_decimal 6 micro 0 []
    rwa [List.append_nil, Nat.zero_mul, Nat.zero_add,
      Nat.mod_eq_of_lt (by omega : micro < 10 ^ 6)] at read
  simp only [toMicro, length_fixed, scanned, Option.map_some, Option.getD_some]
  simp

theorem to_micro_millis {millis : Nat} (small : millis < 1000) :
    toMicro (fixed 10 3 millis) = millis * 1000 := by
  have scanned : scanNumber 10 3 0 (fixed 10 3 millis) = some (millis, []) := by
    have read := scan_decimal 3 millis 0 []
    rwa [List.append_nil, Nat.zero_mul, Nat.zero_add,
      Nat.mod_eq_of_lt (by omega : millis < 10 ^ 3)] at read
  simp only [toMicro, length_fixed, scanned, Option.map_some, Option.getD_some]
  have whole : millis * 1000000 / 10 ^ 3 = millis * 1000 := by omega
  have left : millis * 1000000 % 10 ^ 3 = 0 := by omega
  rw [whole, left]
  rfl

theorem scan_seconds {second width number : Nat} (small : second < 60) (some_ : width ≠ 0) :
    scanSeconds (':' :: (fixed 10 2 second ++ '.' :: (fixed 10 width number ++ ['Z']))) =
      some (second, toMicro (fixed 10 width number), ['Z']) := by
  have digits : (fixed 10 width number ++ ['Z']).takeWhile Char.isDigit =
      fixed 10 width number := by
    rw [List.takeWhile_append_of_pos (fixed_decimal width number)]
    simp [List.takeWhile]
  have rest : (fixed 10 width number ++ ['Z']).dropWhile Char.isDigit = ['Z'] := by
    rw [List.dropWhile_append_of_pos (fixed_decimal width number)]
    rfl
  have some_ : fixed 10 width number ≠ [] := by
    intro empty
    exact some_ ((length_fixed 10 width number).symm.trans (congrArg List.length empty))
  simp only [scanSeconds, scan_decimal, Option.bind_some]
  rw [Nat.zero_mul, Nat.zero_add, Nat.mod_eq_of_lt (by omega : second < 10 ^ 2), if_pos small]
  simp only [digits, some_, if_false, rest]

/-- What is written of a moment in a year of four digits is read as that moment, as far
as the fraction tells it. -/
theorem scan_with {moment : Moment} (regular : moment.Regular) {width number : Nat}
    (some_ : width ≠ 0) (fraction : toMicro (fixed 10 width number) = moment.micro) :
    scanMoment (isoWith (fixed 10 4 moment.day.year.toNat) (fixed 10 width number) moment) =
      some moment := by
  obtain ⟨⟨year, month, day⟩, hour, minute, second, micro⟩ := moment
  obtain ⟨years, ⟨months, days⟩, hours, minutes, seconds, micros⟩ := regular
  simp only at years months days hours minutes seconds micros fraction
  have back : ((year.toNat : Nat) : Int) = year := by omega
  have short : day ≤ 31 := by
    have most : monthDays year month ≤ 31 := by
      unfold monthDays
      split <;> split <;> decide
    omega
  simp only [scanMoment, isoWith, scan_decimal, expect, if_true, scan_seconds seconds some_, fraction,
    Nat.zero_mul, Nat.zero_add, Option.bind_eq_bind, Option.bind_some]
  rw [Nat.mod_eq_of_lt (by omega : month < 10 ^ 2), Nat.mod_eq_of_lt (by omega : day < 10 ^ 2),
    Nat.mod_eq_of_lt (by omega : hour < 10 ^ 2), Nat.mod_eq_of_lt (by omega : minute < 10 ^ 2),
    Nat.mod_eq_of_lt (by omega : year.toNat < 10 ^ 4), back]
  exact if_pos ⟨trivial, months, days, hours, minutes⟩

theorem scan_micros {moment : Moment} (regular : moment.Regular) (known : 1 ≤ moment.day.year) :
    scanMoment (isoMicros moment) = some moment := by
  have written : isoMicros moment =
      isoWith (fixed 10 4 moment.day.year.toNat) (fixed 10 6 moment.micro) moment := by
    have years := regular.year
    rw [isoMicros, padded, if_neg (by omega : ¬ moment.day.year ≤ 0), if_pos (by omega)]
  rw [written]
  exact scan_with regular (by decide) (to_micro_micros regular.micro)

/-- The moment without its microseconds. -/
def Moment.truncated (moment : Moment) : Moment :=
  { moment with micro := moment.micro / 1000 * 1000 }

theorem scan_millis {moment : Moment} (regular : moment.Regular) :
    scanMoment (isoMillis moment) = some moment.truncated := by
  have small := regular.micro
  have written : isoMillis moment = isoWith (fixed 10 4 moment.truncated.day.year.toNat)
      (fixed 10 3 (moment.micro / 1000)) moment.truncated := by
    rw [isoMillis, signedYear, if_pos regular.year]
    rfl
  rw [written]
  have truncated : moment.truncated.Regular := by
    refine ⟨regular.year, regular.day, regular.hour, regular.minute, regular.second, ?_⟩
    simp only [Moment.truncated]
    omega
  exact scan_with truncated (by decide) (to_micro_millis (by omega))

/-- A text that begins with the year 0000 tells a moment of the year 0. -/
theorem scan_zero {rest : List Char} {moment : Moment}
    (scanned : scanMoment ("0000-".toList ++ rest) = some moment) : moment.day.year = 0 := by
  have year : scanNumber 10 4 0 ("0000-".toList ++ rest) = some (0, '-' :: rest) := rfl
  simp only [scanMoment, year, Option.bind_eq_bind, Option.bind_some, Option.bind_eq_some_iff] at scanned
  obtain ⟨_, _, _, _, _, _, _, _, _, _, _, _, _, _, _, _, _, _, found⟩ := scanned
  split at found
  · cases found
    rfl
  · cases found

theorem truncated_micros (micros : Int) :
    toMicros (ofMicros micros).truncated = micros / 1000 * 1000 := by
  simp only [toMicros, ofMicros, Moment.truncated, to_days_of_days]
  omega

/-- A year of more digits, or before the year 0, is not read. -/
theorem scan_millis_far {moment : Moment}
    (far : ¬ (0 ≤ moment.day.year ∧ moment.day.year ≤ 9999)) :
    scanMoment (isoMillis moment) = none := by
  have sign : ∃ rest, isoMillis moment = '-' :: rest ∨ isoMillis moment = '+' :: rest := by
    rw [isoMillis, signedYear, if_neg far, isoWith]
    split
    · exact ⟨_, .inl rfl⟩
    · exact ⟨_, .inr rfl⟩
  obtain ⟨rest, starts | starts⟩ := sign
  · rw [starts]
    rfl
  · rw [starts]
    rfl

end Foc.Library.Calendar
