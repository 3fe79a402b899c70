import Foc.Library.Circle
import Foc.Supplier.Service

/-!
Opening hours (`openingHoursSchema` of `supplier-service/src/suppliers/validation.ts`). A
greedy scan of spans in minutes from Monday 00:00 accepts a list exactly when the periods,
as arcs of the circular week, are apart. Of zod's own issues only what a caller sees is
kept: where, the code and the message.
-/
namespace Foc.Supplier
open Library.Circle

/-- One entry. -/
abbrev Period := OpeningHours

/-- `Monday` first. -/
def DAYS : List Day := [.mon, .tue, .wed, .thu, .fri, .sat, .sun]

def maxPeriodsPerDay : Nat := 4

def minutesPerDay : Nat := 24 * 60

def minutesPerWeek : Nat := DAYS.length * minutesPerDay

/-- `HHMM`. -/
def isTime (time : String) : Bool :=
  match time.toList with
  | [first, second, between, third, fourth] =>
      ((first == '0' || first == '1') && second.isDigit ||
        first == '2' && decide ('0' ≤ second ∧ second ≤ '3')) &&
      between == ':' && decide ('0' ≤ third ∧ third ≤ '5') && fourth.isDigit
  | _ => false

/-- `Number` of decimal digits. -/
def number (digits : List Char) : Nat :=
  digits.foldl (fun value digit => value * 10 + (digit.toNat - '0'.toNat)) 0

def minutes (time : String) : Nat :=
  number (time.toList.take 2) * 60 + number (time.toList.drop 3)

abbrev Span := Nat × Nat

/-- Where a period falls in the week. A late Sunday is two spans. -/
def spansOfTheWeek (period : Period) : List Span :=
  let midnight := DAYS.idxOf period.day * minutesPerDay
  let opening := minutes period.opens
  let close := if period.closes = "23:59" then minutesPerDay else minutes period.closes
  let start := midnight + opening
  let finish := midnight + if close > opening then close else close + minutesPerDay
  if finish ≤ minutesPerWeek then [(start, finish)]
  else [(start, minutesPerWeek), (0, finish - minutesPerWeek)]

structure Issue where
  path : List String
  code : String
  message : String
  deriving DecidableEq, Repr

structure Seen where
  period : Period
  spans : List Span
  deriving DecidableEq, Repr

/-- Where the scan of the entries stands. -/
structure Scan where
  seen : List Seen
  issues : List Issue
  deriving DecidableEq, Repr

def overlaps (spans others : List Span) : Bool :=
  others.any fun other => spans.any fun span => decide (span.1 < other.2 ∧ other.1 < span.2)

/-- "MON 09:00–17:00". -/
def Period.text (period : Period) : String :=
  period.day.text ++ " " ++ period.opens ++ "–" ++ period.closes

def Scan.refuse (scan : Scan) (index : Nat) (code message : String) : Scan :=
  { scan with issues := scan.issues ++ [{ path := [toString index], code, message }] }

/-- One entry after those seen. A refused one is not held against those after it. -/
def Scan.check (scan : Scan) (entry : Period × Nat) : Scan :=
  let (period, index) := entry
  if period.opens = period.closes then
    scan.refuse index "EMPTY_PERIOD" (Period.text period ++ " opens and closes at the same time.")
  else
    let spans := spansOfTheWeek period
    let clash := scan.seen.find? fun other => overlaps spans other.spans
    if (scan.seen.filter (·.period.day == period.day)).length = maxPeriodsPerDay then
      scan.refuse index "TOO_MANY_PERIODS" (period.day.text ++ " can have at most " ++
        toString maxPeriodsPerDay ++ " opening periods.")
    else
      match clash with
      | some other => scan.refuse index "OVERLAPPING_HOURS"
          (Period.text period ++ " overlaps " ++ Period.text other.period ++ ".")
      | none => { scan with seen := scan.seen ++ [{ period, spans }] }

/-- The entries whose times are not HH:MM. -/
def malformed (entries : List Period) : List Issue :=
  entries.zipIdx.flatMap fun (period, index) =>
    ([("opens", period.opens), ("closes", period.closes)].filter fun field => !isTime field.2).map
      fun field => { path := [toString index, field.1], code := "INVALID_FORMAT"
                     message := "Time must be HH:MM (24-hour)." }

/-- `.max(..)`. -/
def tooMany (entries : List Period) : List Issue :=
  if entries.length ≤ DAYS.length * maxPeriodsPerDay then []
  else [{ path := [], code := "TOO_BIG", message := "Too big: expected array to have <=28 items" }]

/-- `localeCompare` is not positive. The times are of digits and a colon, which collate in the
order of their characters. -/
def localeCompare (first second : String) : Bool :=
  decide (first.toList.map Char.toNat ≤ second.toList.map Char.toNat)

/-- The order they are stored in: by day, then opening time. -/
def storedBefore (first second : Period) : Bool :=
  decide (DAYS.idxOf first.day < DAYS.idxOf second.day) ||
    DAYS.idxOf first.day == DAYS.idxOf second.day && localeCompare first.opens second.opens

/-- Of a list with a malformed time, which is refused whatever else is wrong with it, only the
times are reported here. -/
def openingHoursSchema (entries : List Period) : Except (List Issue) (List Period) :=
  if malformed entries ≠ [] then .error (malformed entries)
  else
    let issues := tooMany entries ++
      (entries.zipIdx.foldl Scan.check { seen := [], issues := [] }).issues
    if issues ≠ [] then .error issues else .ok (entries.mergeSort storedBefore)

/-! ## What is asked of the hours -/

/-- When a period ends on the clock of the day it opens: 23:59 is midnight. -/
def closing (period : Period) : Nat :=
  if period.closes = "23:59" then minutesPerDay else minutes period.closes

/-- A period's minutes, from the Monday before it. One that closes at or before it opens runs
into the next day. -/
def opensAt (period : Period) : Nat := DAYS.idxOf period.day * minutesPerDay + minutes period.opens

def closesAt (period : Period) : Nat :=
  DAYS.idxOf period.day * minutesPerDay +
    if closing period ≤ minutes period.opens then closing period + minutesPerDay else closing period

/-- The instants of the circular week in which a period is open. -/
def hours (period : Period) : Set (AddCircle (minutesPerWeek : ℝ)) :=
  arc (minutesPerWeek : ℝ) (opensAt period) (closesAt period)

structure Lawful (entries : List Period) : Prop where
  times : ∀ period ∈ entries, isTime period.opens = true ∧ isTime period.closes = true
  few : entries.length ≤ 28
  daily : ∀ day, entries.countP (·.day == day) ≤ 4
  open_ : ∀ period ∈ entries, period.opens ≠ period.closes
  apart : entries.Pairwise fun first second => Disjoint (hours first) (hours second)

/-! ## The scan -/

/-- The entries a scan has let through. -/
def held (periods : List Period) : List Seen :=
  periods.map fun period => { period, spans := spansOfTheWeek period }

/-- No two spans of the two have a minute in common. -/
def Clear (first second : Period) : Prop :=
  overlaps (spansOfTheWeek second) (spansOfTheWeek first) = false

/-- What the scan asks of the whole list. -/
structure Clean (entries : List Period) : Prop where
  open_ : ∀ period ∈ entries, period.opens ≠ period.closes
  daily : ∀ day, entries.countP (·.day == day) ≤ maxPeriodsPerDay
  clear : entries.Pairwise Clear

theorem Clean.sublist {entries fewer : List Period} (clean : Clean entries)
    (among : fewer.Sublist entries) : Clean fewer where
  open_ := fun period listed => clean.open_ period (among.subset listed)
  daily := fun day => (among.countP_le).trans (clean.daily day)
  clear := clean.clear.sublist among

/-- Whether an entry may follow those let through. -/
def Admits (before : List Period) (period : Period) : Prop :=
  period.opens ≠ period.closes ∧ before.countP (·.day == period.day) ≠ maxPeriodsPerDay ∧
    ∀ other ∈ before, Clear other period

theorem admits_iff (before : List Period) (period : Period) (clean : Clean before) :
    Admits before period ↔ Clean (before ++ [period]) := by
  constructor
  · rintro ⟨some, room, clear⟩
    refine ⟨?_, ?_, ?_⟩
    · intro other listed
      rcases List.mem_append.mp listed with earlier | last
      · exact clean.open_ other earlier
      · rw [List.mem_singleton.mp last]
        exact some
    · intro day
      have most := clean.daily day
      rw [List.countP_append, List.countP_singleton]
      by_cases same : period.day = day
      · subst same
        simp only [beq_self_eq_true, if_true]
        omega
      · simp [same, most]
    · refine List.pairwise_append.mpr ⟨clean.clear, List.pairwise_singleton _ _, ?_⟩
      intro other earlier last found
      rw [List.mem_singleton.mp found]
      exact clear other earlier
  · intro whole
    have most := whole.daily period.day
    rw [List.countP_append, List.countP_singleton] at most
    simp only [beq_self_eq_true, if_true] at most
    refine ⟨whole.open_ period (by simp), by omega, ?_⟩
    intro other earlier
    exact (List.pairwise_append.mp whole.clear).2.2 other earlier period (by simp)

theorem clash_none (before : List Period) (period : Period) :
    (held before).find? (fun other => overlaps (spansOfTheWeek period) other.spans) = none ↔
      ∀ other ∈ before, Clear other period := by
  simp [held, Clear]

theorem held_of_day (before : List Period) (day : Day) :
    ((held before).filter (·.period.day == day)).length = before.countP (·.day == day) := by
  rw [← List.countP_eq_length_filter, held, List.countP_map]
  rfl

theorem check_admitted (before : List Period) (issues : List Issue) (period : Period) (index : Nat)
    (admitted : Admits before period) :
    Scan.check { seen := held before, issues } (period, index) =
      { seen := held (before ++ [period]), issues } := by
  obtain ⟨some, room, clear⟩ := admitted
  have none_ := (clash_none before period).mpr clear
  simp [Scan.check, some, held_of_day, room, none_]
  simp [held]

/-- A refusal adds an issue and nothing else. -/
theorem check_refused (before : List Period) (issues : List Issue) (period : Period) (index : Nat)
    (refused : ¬ Admits before period) :
    ∃ issue, Scan.check { seen := held before, issues } (period, index) =
      { seen := held before, issues := issues ++ [issue] } := by
  by_cases empty : period.opens = period.closes
  · exact ⟨_, by simp only [Scan.check, empty, if_true]; rfl⟩
  by_cases full : before.countP (·.day == period.day) = maxPeriodsPerDay
  · exact ⟨_, by simp only [Scan.check, empty, if_false, held_of_day, full, if_true]; rfl⟩
  cases clash : (held before).find? fun other => overlaps (spansOfTheWeek period) other.spans with
  | none => exact absurd ⟨empty, full, (clash_none before period).mp clash⟩ refused
  | some other =>
    exact ⟨_, by simp only [Scan.check, empty, if_false, held_of_day, full, clash]; rfl⟩

/-- An issue stays. -/
theorem scan_keeps (entries : List (Period × Nat)) (before : List Period) (issues : List Issue) :
    issues <+: (entries.foldl Scan.check { seen := held before, issues }).issues := by
  induction entries generalizing before issues with
  | nil => exact List.prefix_rfl
  | cons entry rest ih =>
    obtain ⟨period, index⟩ := entry
    rw [List.foldl_cons]
    by_cases admitted : Admits before period
    · rw [check_admitted before issues period index admitted]
      exact ih _ issues
    · obtain ⟨issue, next⟩ := check_refused before issues period index admitted
      rw [next]
      exact (List.prefix_append issues [issue]).trans (ih before _)

/-- The greedy scan finds no issue exactly when there is none: with nothing refused, every entry
is held against all those before it. -/
theorem scan_clean (entries : List (Period × Nat)) (before : List Period) (clean : Clean before) :
    (entries.foldl Scan.check { seen := held before, issues := [] }).issues = [] ↔
      Clean (before ++ entries.map Prod.fst) := by
  induction entries generalizing before with
  | nil => simpa using clean
  | cons entry rest ih =>
    obtain ⟨period, index⟩ := entry
    rw [List.foldl_cons, List.map_cons]
    by_cases admitted : Admits before period
    · rw [check_admitted before [] period index admitted,
        ih _ ((admits_iff before period clean).mp admitted), List.append_assoc]
      rfl
    · obtain ⟨issue, next⟩ := check_refused before [] period index admitted
      rw [next]
      constructor
      · intro none_
        have kept := scan_keeps rest before ([] ++ [issue])
        rw [none_] at kept
        simp at kept
      · intro whole
        have first : (before ++ [period]).Sublist (before ++ period :: rest.map Prod.fst) :=
          List.Sublist.append_left (List.singleton_sublist.mpr (by simp)) before
        exact absurd ((admits_iff before period clean).mpr (whole.sublist first)) admitted

/-! ## Times -/

/-- What an HH:MM is: four digits and a colon, and the minutes they say. -/
theorem isTime_read (time : String) (valid : isTime time = true) :
    ∃ tens ones sixths units : Nat, ones ≤ 9 ∧ tens * 10 + ones < 24 ∧ sixths ≤ 5 ∧ units ≤ 9 ∧
      time.toList.map Char.toNat = [48 + tens, 48 + ones, 58, 48 + sixths, 48 + units] ∧
      minutes time = (tens * 10 + ones) * 60 + (sixths * 10 + units) := by
  unfold isTime at valid
  split at valid
  next first second between third fourth read =>
    have digit : ∀ sign : Char, sign.isDigit = true → 48 ≤ sign.toNat ∧ sign.toNat ≤ 57 := by
      intro sign among
      simp only [Char.isDigit, Bool.and_eq_true, decide_eq_true_eq] at among
      exact ⟨UInt32.le_iff_toNat_le.mp among.1, UInt32.le_iff_toNat_le.mp among.2⟩
    have upTo : ∀ low high sign : Char, low ≤ sign ∧ sign ≤ high →
        low.toNat ≤ sign.toNat ∧ sign.toNat ≤ high.toNat :=
      fun low high sign both =>
        ⟨UInt32.le_iff_toNat_le.mp both.1, UInt32.le_iff_toNat_le.mp both.2⟩
    simp only [Bool.and_eq_true, Bool.or_eq_true, beq_iff_eq, decide_eq_true_eq] at valid
    obtain ⟨⟨⟨hour, rfl⟩, tens⟩, units⟩ := valid
    have tens := upTo _ _ _ tens
    have units := digit _ units
    have hours : 48 ≤ first.toNat ∧ 48 ≤ second.toNat ∧ second.toNat ≤ 57 ∧
        (first.toNat - 48) * 10 + (second.toNat - 48) < 24 := by
      rcases hour with ⟨rfl | rfl, second⟩ | ⟨rfl, second⟩
      · have := digit _ second
        simp; omega
      · have := digit _ second
        simp; omega
      · have := upTo _ _ _ second
        simp at this ⊢; omega
    simp at tens
    refine ⟨first.toNat - 48, second.toNat - 48, third.toNat - 48, fourth.toNat - 48,
      by omega, by omega, by omega, by omega, ?_, ?_⟩
    · rw [read]
      simp
      omega
    · simp [minutes, number, read]
  next => cases valid

theorem minutes_lt (time : String) (valid : isTime time = true) : minutes time < minutesPerDay := by
  obtain ⟨tens, ones, sixths, units, -, hour, sixth, unit, -, read⟩ := isTime_read time valid
  rw [read, minutesPerDay]
  omega

/-- Times collate as they fall in the day. -/
theorem localeCompare_times (first second : String) (one : isTime first = true)
    (two : isTime second = true) :
    localeCompare first second = true ↔ minutes first ≤ minutes second := by
  obtain ⟨tens, ones, sixths, units, one_, -, sixth, unit, signs, value⟩ := isTime_read first one
  obtain ⟨tens', ones', sixths', units', two_, -, sixth', unit', signs', value'⟩ := isTime_read second two
  rw [localeCompare, decide_eq_true_eq, signs, signs', value, value']
  rw [← not_lt]
  simp only [List.cons_lt_cons_iff, lt_self_iff_false, false_or, true_and, and_false, or_false]
  omega

/-! ## The week as a circle -/

instance turn_pos : Fact ((0 : ℝ) < minutesPerWeek) where
  out := by
    simp [minutesPerWeek, minutesPerDay, DAYS]

/-- A day is over by the end of the week. -/
theorem day_fits (day : Day) :
    DAYS.idxOf day * minutesPerDay + minutesPerDay ≤ minutesPerWeek := by
  have among : DAYS.idxOf day < DAYS.length := by cases day <;> decide
  rw [← Nat.succ_mul]
  exact Nat.mul_le_mul_right _ among

def real (span : Span) : ℝ × ℝ := (span.1, span.2)

theorem closing_le (period : Period) (valid : isTime period.closes = true) :
    closing period ≤ minutesPerDay := by
  unfold closing
  split
  · exact le_refl _
  · exact (minutes_lt period.closes valid).le

theorem opensAt_lt_closesAt (period : Period) (valid : isTime period.opens = true) :
    opensAt period < closesAt period := by
  have early := minutes_lt period.opens valid
  unfold opensAt closesAt
  split <;> omega

/-- The one or two spans of a period. -/
theorem spansOfTheWeek_eq (period : Period) : spansOfTheWeek period =
    if closesAt period ≤ minutesPerWeek then [(opensAt period, closesAt period)]
    else [(opensAt period, minutesPerWeek), (0, closesAt period - minutesPerWeek)] := by
  have same : DAYS.idxOf period.day * minutesPerDay +
      (if closing period > minutes period.opens then closing period
        else closing period + minutesPerDay) = closesAt period := by
    unfold closesAt
    split <;> split <;> omega
  rw [← same]
  rfl

example : spansOfTheWeek { day := .sun, opens := "22:00", closes := "02:00" } =
    [(9960, 10080), (0, 120)] := by decide

theorem span_within (period : Period) (opens : isTime period.opens = true)
    (closes : isTime period.closes = true) :
    ∀ span ∈ spansOfTheWeek period, span.1 < span.2 ∧ span.2 ≤ minutesPerWeek := by
  have before := opensAt_lt_closesAt period opens
  have day := day_fits period.day
  have early := minutes_lt period.opens opens
  have late := closing_le period closes
  have start : opensAt period < minutesPerWeek := by
    unfold opensAt
    omega
  have finish : closesAt period ≤ minutesPerWeek + minutesPerDay := by
    unfold closesAt
    split <;> omega
  intro span listed
  rw [spansOfTheWeek_eq] at listed
  split at listed
  · rw [List.mem_singleton.mp listed]
    exact ⟨before, by assumption⟩
  · have day : minutesPerDay ≤ minutesPerWeek := Nat.le_mul_of_pos_left _ (by decide)
    rcases List.mem_pair.mp listed with rfl | rfl
    · exact ⟨start, le_refl _⟩
    · exact ⟨by simp; omega, by simp; omega⟩

/-- Cut where the week begins, a period is as long as it was. -/
theorem hours_spanned (period : Period) (opens : isTime period.opens = true)
    (closes : isTime period.closes = true) :
    hours period = spanned (minutesPerWeek : ℝ) ((spansOfTheWeek period).map real) := by
  have within := span_within period opens closes
  rw [spansOfTheWeek_eq] at within ⊢
  split at within
  next whole =>
    rw [if_pos whole, List.map_singleton, spanned_one]
    rfl
  next late =>
    have start := (within _ List.mem_cons_self).1
    have past : (minutesPerWeek : ℝ) ≤ closesAt period := by
      exact_mod_cast (not_le.mp late).le
    rw [if_neg late, hours, arc_split (by exact_mod_cast start.le) past, List.map_cons,
      List.map_singleton, spanned_two, real, real, Nat.cast_zero, Nat.cast_sub (not_le.mp late).le]

theorem clear_iff (first second : Period) (one : isTime first.opens = true ∧ isTime first.closes = true)
    (two : isTime second.opens = true ∧ isTime second.closes = true) :
    Clear first second ↔ Disjoint (hours first) (hours second) := by
  have bounds : ∀ period : Period, isTime period.opens = true ∧ isTime period.closes = true →
      ∀ span ∈ (spansOfTheWeek period).map real,
        0 ≤ span.1 ∧ span.1 < span.2 ∧ span.2 ≤ (minutesPerWeek : ℝ) := by
    intro period valid span listed
    obtain ⟨minutes, among, rfl⟩ := List.mem_map.mp listed
    have within := span_within period valid.1 valid.2 minutes among
    exact ⟨Nat.cast_nonneg _, Nat.cast_lt.mpr within.1, Nat.cast_le.mpr within.2⟩
  rw [hours_spanned first one.1 one.2, hours_spanned second two.1 two.2,
    spanned_disjoint (bounds first one) (bounds second two), Clear, overlaps]
  simp only [List.any_eq_false, List.forall_mem_map, Meets, real, Nat.cast_lt]
  simp

/-! ## What is accepted, and in what order -/

theorem malformed_iff (entries : List Period) : malformed entries = [] ↔
    ∀ period ∈ entries, isTime period.opens = true ∧ isTime period.closes = true := by
  simp only [malformed, List.flatMap_eq_nil_iff, List.map_eq_nil_iff, List.filter_eq_nil_iff]
  constructor
  · intro fine period listed
    obtain ⟨index, at_, rfl⟩ := List.mem_iff_getElem.mp listed
    have both := fine (entries[index], index) (List.mk_mem_zipIdx_iff_getElem?.mpr (by simp))
    exact ⟨by simpa using both ("opens", _) List.mem_cons_self,
      by simpa using both ("closes", _) (List.mem_cons_of_mem _ List.mem_cons_self)⟩
  · rintro valid ⟨period, index⟩ listed
    have times := valid period (List.fst_mem_of_mem_zipIdx listed)
    simp [times]

theorem lawful_iff (entries : List Period) : Lawful entries ↔
    malformed entries = [] ∧ tooMany entries = [] ∧ Clean entries := by
  have few : tooMany entries = [] ↔ entries.length ≤ 28 := by
    simp [tooMany, DAYS, maxPeriodsPerDay]
  rw [malformed_iff, few]
  constructor
  · intro lawful
    exact ⟨lawful.times, lawful.few, lawful.open_, lawful.daily,
      lawful.apart.imp_of_mem fun one two => (clear_iff _ _ (lawful.times _ one) (lawful.times _ two)).mpr⟩
  · rintro ⟨times, few, clean⟩
    exact ⟨times, few, clean.daily, clean.open_,
      clean.clear.imp_of_mem fun one two => (clear_iff _ _ (times _ one) (times _ two)).mp⟩

theorem openingHoursSchema_ok (entries stored : List Period) :
    openingHoursSchema entries = .ok stored ↔
      Lawful entries ∧ entries.mergeSort storedBefore = stored := by
  have scan := scan_clean entries.zipIdx [] ⟨by simp, by simp, List.Pairwise.nil⟩
  rw [List.nil_append, List.zipIdx_map_fst] at scan
  rw [lawful_iff, ← scan, openingHoursSchema]
  by_cases times : malformed entries = []
  · by_cases none_ : tooMany entries ++
        (entries.zipIdx.foldl Scan.check { seen := [], issues := [] }).issues = []
    · have both := List.append_eq_nil_iff.mp none_
      simp [times, held, both]
    · have either := mt List.append_eq_nil_iff.mpr none_
      simp [times, held, either]
  · simp [times]

theorem lawful_perm {entries others : List Period} (same : others.Perm entries) (lawful : Lawful entries) :
    Lawful others where
  times := fun period listed => lawful.times period (same.subset listed)
  few := same.length_eq ▸ lawful.few
  daily := fun day => same.countP_eq _ ▸ lawful.daily day
  open_ := fun period listed => lawful.open_ period (same.subset listed)
  apart := (same.pairwise_iff fun apart => apart.symm).mpr lawful.apart

theorem storedBefore_iff (first second : Period) : storedBefore first second = true ↔
    DAYS.idxOf first.day < DAYS.idxOf second.day ∨ DAYS.idxOf first.day = DAYS.idxOf second.day ∧
      first.opens.toList.map Char.toNat ≤ second.opens.toList.map Char.toNat := by
  simp [storedBefore, localeCompare]

theorem storedBefore_trans (first second third : Period) (one : storedBefore first second = true)
    (two : storedBefore second third = true) : storedBefore first third = true := by
  rw [storedBefore_iff] at one two ⊢
  rcases one with earlier | ⟨same, before⟩
  · rcases two with later | ⟨same, -⟩
    · exact .inl (earlier.trans later)
    · exact .inl (same ▸ earlier)
  · rcases two with later | ⟨again, after⟩
    · exact .inl (same ▸ later)
    · exact .inr ⟨same.trans again, before.trans after⟩

theorem storedBefore_total (first second : Period) :
    (storedBefore first second || storedBefore second first) = true := by
  rw [Bool.or_eq_true, storedBefore_iff, storedBefore_iff]
  rcases lt_trichotomy (DAYS.idxOf first.day) (DAYS.idxOf second.day) with less | same | more
  · exact .inl (.inl less)
  · rcases le_total (first.opens.toList.map Char.toNat) (second.opens.toList.map Char.toNat) with
      before | after
    · exact .inl (.inr ⟨same, before⟩)
    · exact .inr (.inr ⟨same.symm, after⟩)
  · exact .inr (.inl more)

/-- By day, then opening time. -/
def Before (first second : Period) : Prop :=
  DAYS.idxOf first.day < DAYS.idxOf second.day ∨
    first.day = second.day ∧ minutes first.opens < minutes second.opens

theorem idxOf_inj {first second : Day} (same : DAYS.idxOf first = DAYS.idxOf second) :
    first = second := by
  cases first <;> cases second <;> first | rfl | cases same

/-- Two that open at once have an instant in common. -/
theorem opens_apart {first second : Period} (one : isTime first.opens = true)
    (two : isTime second.opens = true) (apart : Disjoint (hours first) (hours second)) :
    opensAt first ≠ opensAt second := by
  intro same
  have inside : ∀ period : Period, isTime period.opens = true →
      ((opensAt period : ℝ) : AddCircle (minutesPerWeek : ℝ)) ∈ hours period := by
    intro period valid
    have later : (opensAt period : ℝ) < closesAt period := by
      exact_mod_cast opensAt_lt_closesAt period valid
    exact Set.mem_image_of_mem _ (Set.left_mem_Ico.mpr later)
  have shared := inside first one
  rw [same] at shared
  exact Set.disjoint_left.mp apart shared (inside second two)

theorem stored_sorted (entries : List Period) (lawful : Lawful entries) :
    (entries.mergeSort storedBefore).Pairwise Before := by
  have sorted := List.pairwise_mergeSort storedBefore_trans storedBefore_total entries
  have stored := lawful_perm (List.mergeSort_perm entries storedBefore) lawful
  refine (sorted.and stored.apart).imp_of_mem ?_
  rintro first second one two ⟨before, apart⟩
  have one := (stored.times first one).1
  have two := (stored.times second two).1
  rcases (by simpa [storedBefore] using before : DAYS.idxOf first.day < DAYS.idxOf second.day ∨
    DAYS.idxOf first.day = DAYS.idxOf second.day ∧ localeCompare first.opens second.opens = true)
    with earlier | ⟨day, upTo⟩
  · exact .inl earlier
  · have upTo := (localeCompare_times _ _ one two).mp upTo
    have differ := opens_apart one two apart
    refine .inr ⟨idxOf_inj day, lt_of_le_of_ne upTo fun same => differ ?_⟩
    rw [opensAt, opensAt, day, same]

theorem stored_unique {entries others : List Period} (same : others.Perm entries)
    (lawful : Lawful entries) : others.mergeSort storedBefore = entries.mergeSort storedBefore := by
  refine List.Perm.eq_of_pairwise ?_ (stored_sorted others (lawful_perm same lawful))
    (stored_sorted entries lawful)
    ((List.mergeSort_perm _ _).trans (same.trans (List.mergeSort_perm _ _).symm))
  rintro first second - - (less | ⟨day, less⟩) (more | ⟨again, more⟩)
  · exact absurd more less.asymm
  · exact absurd (congrArg DAYS.idxOf again) less.ne'
  · exact absurd (congrArg DAYS.idxOf day) more.ne'
  · exact absurd more less.asymm

/-- The scan accepts the lists whose periods are apart on the circular week, and stores the same
list for every order they come in. -/
theorem hours_stored (entries : List Period) :
    ((∃ stored, openingHoursSchema entries = .ok stored) ↔ Lawful entries) ∧
      ∀ stored, (openingHoursSchema entries = .ok stored →
          stored.Perm entries ∧ stored.Pairwise Before) ∧
        ∀ others, others.Perm entries →
          (openingHoursSchema others = .ok stored ↔ openingHoursSchema entries = .ok stored) := by
  refine ⟨?_, fun stored => ⟨?_, fun others same => ?_⟩⟩
  · simp [openingHoursSchema_ok]
  · intro accepted
    obtain ⟨lawful, rfl⟩ := (openingHoursSchema_ok entries stored).mp accepted
    exact ⟨List.mergeSort_perm _ _, stored_sorted entries lawful⟩
  · rw [openingHoursSchema_ok, openingHoursSchema_ok]
    constructor
    · rintro ⟨lawful, rfl⟩
      exact ⟨lawful_perm same.symm lawful, stored_unique same.symm lawful⟩
    · rintro ⟨lawful, rfl⟩
      exact ⟨lawful_perm same lawful, stored_unique same lawful⟩

end Foc.Supplier
