import Mathlib

/-!
# Timestamps

A `datetime` is a civil time with an optional distance from UTC.  Two aware
times are compared by the instants they name, counted in microseconds.
`isoformat` writes the civil fields in a fixed layout, so that the texts of
two different times differ; what else `fromisoformat` reads is left open.
-/

namespace KairosDeploy.Library.Timestamp

/-! ## Civil times -/

/-- Whether a year has a 29th of February. -/
def IsLeap (year : Nat) : Prop :=
  year % 4 = 0 ∧ (year % 100 ≠ 0 ∨ year % 400 = 0)

instance (year : Nat) : Decidable (IsLeap year) :=
  inferInstanceAs (Decidable (_ ∧ _))

/-- The number of days of a month. -/
def daysInMonth (year month : Nat) : Nat :=
  if month = 2 then
    if IsLeap year then 29 else 28
  else if month = 4 ∨ month = 6 ∨ month = 9 ∨ month = 11 then
    30
  else
    31

/-- The condition under which `datetime` accepts its arguments. -/
abbrev ValidFields
    (year month day hour minute second microsecond : Nat) : Prop :=
  1 ≤ year ∧ year ≤ 9999 ∧ 1 ≤ month ∧ month ≤ 12 ∧ 1 ≤ day ∧
    day ≤ daysInMonth year month ∧ hour < 24 ∧ minute < 60 ∧
    second < 60 ∧ microsecond < 1000000

/-- A date and a time of day, as `datetime` stores them. -/
structure CivilTime where
  year : Nat
  month : Nat
  day : Nat
  hour : Nat
  minute : Nat
  second : Nat
  microsecond : Nat
  valid : ValidFields year month day hour minute second microsecond
deriving DecidableEq

/-- The days of the months before `month`. -/
def daysBeforeMonth (year month : Nat) : Nat :=
  ((List.range month).drop 1).foldl
    (fun days earlier => days + daysInMonth year earlier) 0

/-- `toordinal`: day 1 is the first of January of year 1. -/
def CivilTime.ordinal (time : CivilTime) : Nat :=
  let before := time.year - 1
  before * 365 + before / 4 - before / 100 + before / 400 +
    daysBeforeMonth time.year time.month + time.day

/-- Microseconds since the beginning of day 0. -/
def CivilTime.microseconds (time : CivilTime) : Int :=
  (((time.ordinal * 24 + time.hour) * 60 + time.minute) * 60 +
      time.second) * 1000000 + time.microsecond

/--
Year, month and day of a count of days from the first of March of year 0.
Years are counted from March, in cycles of 400 years.
-/
def civilDate (days : Int) : Int × Int × Int :=
  let cycle := days % 146097
  let yearOfCycle :=
    (cycle - cycle / 1460 + cycle / 36524 - cycle / 146096) / 365
  let dayOfYear :=
    cycle - (365 * yearOfCycle + yearOfCycle / 4 - yearOfCycle / 100)
  let march := (5 * dayOfYear + 2) / 153
  let month := if march < 10 then march + 3 else march - 9
  let year :=
    yearOfCycle + days / 146097 * 400 + (if month ≤ 2 then 1 else 0)
  (year, month, dayOfYear - (153 * march + 2) / 5 + 1)

/--
The civil time of a count of microseconds, absent outside the years 1 to 9999.
-/
def CivilTime.ofMicroseconds (value : Int) : Option CivilTime :=
  let date := civilDate (value / 86400000000 + 305)
  let rest := (value % 86400000000).toNat
  if valid :
      ValidFields date.1.toNat date.2.1.toNat date.2.2.toNat
        (rest / 3600000000) (rest / 60000000 % 60) (rest / 1000000 % 60)
        (rest % 1000000) then
    some
      ⟨date.1.toNat, date.2.1.toNat, date.2.2.toNat, rest / 3600000000,
        rest / 60000000 % 60, rest / 1000000 % 60, rest % 1000000, valid⟩
  else
    none

/-- A distance from UTC: less than a day, in microseconds. -/
abbrev Offset :=
  {offset : Int // -86400000000 < offset ∧ offset < 86400000000}

/-- UTC itself. -/
def utcOffset : Offset := ⟨0, by decide⟩

/-- A `datetime`: a civil time and, when aware, its distance from UTC. -/
structure Datetime where
  civil : CivilTime
  offset : Option Offset
deriving DecidableEq

/-- The instant of an aware time. -/
def Datetime.instant (time : Datetime) : Option Int :=
  time.offset.map fun offset => time.civil.microseconds - offset.1

/--
`astimezone(UTC)` of an aware time; a time in UTC is returned as it is, and it
raises outside the years.
-/
def Datetime.astimezone (time : Datetime) : Option CivilTime :=
  match time.offset with
  | none => none
  | some offset =>
      if offset.1 = 0 then
        some time.civil
      else
        CivilTime.ofMicroseconds (time.civil.microseconds - offset.1)

/-- The last microsecond of a leap day. -/
def leapDay : CivilTime where
  year := 2024
  month := 2
  day := 29
  hour := 23
  minute := 59
  second := 59
  microsecond := 999999
  valid := by decide

example :
    CivilTime.ofMicroseconds leapDay.microseconds = some leapDay := by
  decide

/-! ## Civil times and instants -/

/-- The year within a cycle, and that the day within it is not negative. -/
theorem yearOfCycle_spec
    {cycle : Int} (nonnegative : 0 ≤ cycle) (less : cycle < 146097) :
    let year :=
      (cycle - cycle / 1460 + cycle / 36524 - cycle / 146096) / 365
    0 ≤ year ∧ year < 400 ∧
      0 ≤ cycle - (365 * year + year / 4 - year / 100) ∧
        cycle - (365 * year + year / 4 - year / 100) ≤ 365 := by
  intro year
  have century :
      cycle / 36524 = 0 ∨ cycle / 36524 = 1 ∨ cycle / 36524 = 2 ∨
        cycle / 36524 = 3 ∨ cycle / 36524 = 4 := by
    omega
  have leapDays : year / 4 ≤ cycle / 1460 := by omega
  have centuries : cycle / 36524 - cycle / 146096 ≤ year / 100 := by
    rcases century with found | found | found | found | found <;> omega
  have upper :
      cycle - (365 * year + year / 4 - year / 100) ≤ 365 := by
    rcases century with found | found | found | found | found <;> omega
  refine ⟨by omega, by omega, by omega, upper⟩

/-- Leap days of the years up to a year. -/
def leapDays (year : Int) : Int :=
  year / 4 - year / 100 + year / 400

theorem leapDays_succ (before : Nat) :
    leapDays (before + 1 : Nat) =
      leapDays before + if IsLeap (before + 1) then 1 else 0 := by
  unfold leapDays IsLeap
  split_ifs <;> omega

/-- Days before a month, counted from the first of March. -/
theorem daysBeforeMonth_eq
    (year : Nat) {month : Nat} (first : 1 ≤ month) (last : month ≤ 12) :
    (daysBeforeMonth year month : Int) =
      if month ≤ 2 then
        (153 * (month + 9 : Int) + 2) / 5 - 306
      else
        (153 * (month - 3 : Int) + 2) / 5 + 59 +
          if IsLeap year then 1 else 0 := by
  have february :
      daysInMonth year 2 = 28 + if IsLeap year then 1 else 0 := by
    unfold daysInMonth
    rw [if_pos rfl]
    split_ifs <;> rfl
  have others :
      ∀ other, other ≠ 2 →
        daysInMonth year other =
          if other = 4 ∨ other = 6 ∨ other = 9 ∨ other = 11 then 30
          else 31 := by
    intro other apart
    unfold daysInMonth
    rw [if_neg apart]
  unfold daysBeforeMonth
  interval_cases month <;>
    simp [List.range_succ, february, others] <;> split_ifs <;> omega

/-- A day, counted from the first of March of year 0. -/
theorem CivilTime.ordinal_eq (time : CivilTime) :
    (time.ordinal : Int) =
      if time.month ≤ 2 then
        365 * ((time.year : Int) - 1) + leapDays ((time.year : Int) - 1) +
          (153 * ((time.month : Int) + 9) + 2) / 5 + time.day - 306
      else
        365 * (time.year : Int) + leapDays time.year +
          (153 * ((time.month : Int) - 3) + 2) / 5 + time.day - 306 := by
  have valid := time.valid
  have months := daysBeforeMonth_eq time.year valid.2.2.1 valid.2.2.2.1
  obtain ⟨before, year⟩ : ∃ before, time.year = before + 1 :=
    ⟨time.year - 1, by omega⟩
  have leap := leapDays_succ before
  have days :
      (time.ordinal : Int) =
        365 * before + leapDays before +
          daysBeforeMonth time.year time.month + time.day := by
    unfold CivilTime.ordinal leapDays
    simp only [year, Nat.add_sub_cancel]
    omega
  have previous : (time.year : Int) - 1 = before := by omega
  rw [days, months, previous]
  by_cases early : time.month ≤ 2
  · rw [if_pos early, if_pos early]
    ring
  · rw [if_neg early, if_neg early, year, leap]
    push_cast
    ring

/-- The fields of a date name its day. -/
theorem civilDate_spec {days year month day : Int}
    (found : civilDate days = (year, month, day)) :
    1 ≤ month ∧ month ≤ 12 ∧
      days =
        (if month ≤ 2 then
          365 * (year - 1) + leapDays (year - 1) +
            (153 * (month + 9) + 2) / 5
        else
          365 * year + leapDays year + (153 * (month - 3) + 2) / 5) +
          day - 1 := by
  unfold civilDate at found
  simp only [Prod.mk.injEq] at found
  obtain ⟨cycle, cycleEq⟩ : ∃ cycle, cycle = days % 146097 := ⟨_, rfl⟩
  have spec := yearOfCycle_spec (show 0 ≤ cycle by omega) (by omega)
  simp only at spec
  rw [← cycleEq] at found
  obtain ⟨within, withinEq⟩ :
      ∃ within,
        within =
          (cycle - cycle / 1460 + cycle / 36524 - cycle / 146096) / 365 :=
    ⟨_, rfl⟩
  rw [← withinEq] at found spec
  obtain ⟨dayOfYear, dayOfYearEq⟩ :
      ∃ dayOfYear,
        dayOfYear = cycle - (365 * within + within / 4 - within / 100) :=
    ⟨_, rfl⟩
  rw [← dayOfYearEq] at found spec
  obtain ⟨era, eraEq⟩ : ∃ era, era = days / 146097 := ⟨_, rfl⟩
  rw [← eraEq] at found
  have counted :
      days =
        365 * (within + era * 400) + leapDays (within + era * 400) +
          dayOfYear := by
    have fourth : (within + era * 400) / 4 = within / 4 + era * 100 := by
      omega
    have hundredth : (within + era * 400) / 100 = within / 100 + era * 4 := by
      omega
    have cycles : (within + era * 400) / 400 = era := by omega
    unfold leapDays
    rw [fourth, hundredth, cycles, dayOfYearEq, cycleEq, eraEq]
    omega
  obtain ⟨march, marchEq⟩ : ∃ march, march = (5 * dayOfYear + 2) / 153 :=
    ⟨_, rfl⟩
  rw [← marchEq] at found
  have early : 0 ≤ march ∧ march ≤ 11 := by
    clear counted found
    omega
  obtain ⟨yearEq, monthEq, dayEq⟩ := found
  by_cases first : march < 10
  · rw [if_pos first] at monthEq yearEq
    rw [if_neg (by omega), add_zero] at yearEq
    rw [if_neg (by omega), ← yearEq, ← monthEq, ← dayEq, counted]
    clear counted spec withinEq yearEq eraEq cycleEq
    refine ⟨by omega, by omega, ?_⟩
    rw [show march + 3 - 3 = march by ring]
    ring
  · rw [if_neg first] at monthEq yearEq
    rw [if_pos (by omega)] at yearEq
    rw [if_pos (by omega), ← yearEq, ← monthEq, ← dayEq, counted]
    clear counted spec withinEq yearEq eraEq cycleEq
    refine ⟨by omega, by omega, ?_⟩
    rw [show march - 9 + 9 = march by ring, add_sub_cancel_right]
    ring

/-- The civil time of an instant names that instant. -/
theorem microseconds_of_ofMicroseconds
    {value : Int} {time : CivilTime}
    (found : CivilTime.ofMicroseconds value = some time) :
    time.microseconds = value := by
  obtain ⟨days, daysEq⟩ : ∃ days, days = value / 86400000000 + 305 :=
    ⟨_, rfl⟩
  rcases date : civilDate days with ⟨year, month, day⟩
  have spec := civilDate_spec date
  unfold CivilTime.ofMicroseconds at found
  simp only [← daysEq, date] at found
  split_ifs at found with valid
  have civil := Option.some.inj found
  have counted := time.ordinal_eq
  have fields :
      (time.year : Int) = year ∧ (time.month : Int) = month ∧
        (time.day : Int) = day := by
    rw [← civil]
    simp only
    omega
  have clock :
      (((time.hour : Int) * 60 + time.minute) * 60 + time.second) *
          1000000 + time.microsecond =
        value % 86400000000 := by
    rw [← civil]
    simp only
    omega
  have ordinal : (time.ordinal : Int) = days - 305 := by
    rw [counted, spec.2.2, fields.1, fields.2.1, fields.2.2]
    by_cases early : time.month ≤ 2
    · rw [if_pos early, if_pos (by omega)]
      ring
    · rw [if_neg early, if_neg (by omega)]
      ring
  unfold CivilTime.microseconds
  rw [ordinal]
  omega

/-- All civil times lie within an exabyte of microseconds. -/
theorem microseconds_bounds (time : CivilTime) :
    0 ≤ time.microseconds ∧ time.microseconds < 10 ^ 18 := by
  have valid := time.valid
  have month : daysInMonth time.year time.month ≤ 31 := by
    unfold daysInMonth
    split_ifs <;> decide
  have ordinal : (time.ordinal : Int) < 4000000 := by
    rw [time.ordinal_eq]
    unfold leapDays
    split_ifs <;> omega
  constructor
  · unfold CivilTime.microseconds
    positivity
  · unfold CivilTime.microseconds
    omega

/-! ## Texts -/

/-- A number in a fixed count of digits. -/
def padded : Nat → Nat → List Char
  | 0, _ => []
  | width + 1, value =>
      padded width (value / 10) ++ [Nat.digitChar (value % 10)]

/-- The date and time of day of `isoformat`. -/
def isoFields (time : CivilTime) : List Char :=
  padded 4 time.year ++ '-' :: padded 2 time.month ++
    '-' :: padded 2 time.day ++ 'T' :: padded 2 time.hour ++
    ':' :: padded 2 time.minute ++ ':' :: padded 2 time.second ++
    (if time.microsecond = 0 then [] else '.' :: padded 6 time.microsecond)

/-- `+00:00`. -/
def zeroOffset : List Char :=
  ['+', '0', '0', ':', '0', '0']

/-- `isoformat` of a time in UTC. -/
def isoformat (time : CivilTime) : String :=
  String.ofList (isoFields time ++ zeroOffset)

/--
`datetime.fromisoformat`.  It reads many layouts; of these only the one that
`isoformat` writes is fixed.
-/
structure IsoReader where
  fromisoformat : String → Option Datetime
  fromisoformat_isoformat :
    ∀ time, fromisoformat (isoformat time) = some ⟨time, some utcOffset⟩

/-! ## Replacing parts of texts -/

/-- `replace`, with a count of characters that are still to be dropped. -/
def replaceFrom (old new : List Char) : Nat → List Char → List Char
  | _, [] => []
  | skip + 1, _ :: rest => replaceFrom old new skip rest
  | 0, character :: rest =>
      if old.isPrefixOf (character :: rest) then
        new ++ replaceFrom old new (old.length - 1) rest
      else
        character :: replaceFrom old new 0 rest

/-- `text.replace(old, new)` for a text `old` that is not empty. -/
def replaceAll (old new : List Char) (text : String) : String :=
  String.ofList (replaceFrom old new 0 text.toList)

/-- Characters that no match starts with are kept. -/
theorem replaceFrom_append
    {old new front : List Char} (rest : List Char)
    (apart : ∀ character ∈ front, old.head? ≠ some character)
    (nonempty : old ≠ []) :
    replaceFrom old new 0 (front ++ rest) =
      front ++ replaceFrom old new 0 rest := by
  induction front with
  | nil => rfl
  | cons head tail induction =>
      rw [List.forall_mem_cons] at apart
      rcases List.exists_cons_of_ne_nil nonempty with ⟨first, others, split⟩
      have different : first ≠ head := by
        intro equal
        exact apart.1 (by rw [split, equal]; rfl)
      have noMatch : old.isPrefixOf (head :: (tail ++ rest)) = false := by
        rw [split, List.isPrefixOf, beq_eq_false_iff_ne.2 different]
        rfl
      rw [List.cons_append, replaceFrom, noMatch, if_neg Bool.false_ne_true,
        induction apart.2, List.cons_append]

/-- The characters of a written number. -/
theorem isDigit_of_mem_padded
    {width value : Nat} {character : Char}
    (member : character ∈ padded width value) :
    character.isDigit = true := by
  induction width generalizing value with
  | zero => cases member
  | succ width induction =>
      rcases List.mem_append.1 member with inFront | isLast
      · exact induction inFront
      · rw [List.mem_singleton.1 isLast]
        have small : value % 10 < 10 := Nat.mod_lt _ (by decide)
        generalize value % 10 = digit at small
        revert digit
        decide

/-- The date and time of day have neither a `Z` nor a plus sign. -/
theorem isoFields_apart
    {time : CivilTime} {character : Char}
    (member : character ∈ isoFields time) :
    character ≠ 'Z' ∧ character ≠ '+' := by
  have digits :
      ∀ width value, character ∈ padded width value →
        character ≠ 'Z' ∧ character ≠ '+' := by
    intro width value inNumber
    have digit := isDigit_of_mem_padded inNumber
    constructor <;> rintro rfl <;> simp at digit
  have marks :
      character = '-' ∨ character = 'T' ∨ character = ':' ∨
          character = '.' →
        character ≠ 'Z' ∧ character ≠ '+' := by
    rintro (rfl | rfl | rfl | rfl) <;> decide
  unfold isoFields at member
  split_ifs at member
  all_goals
    simp only [List.mem_append, List.mem_cons, List.not_mem_nil] at member
    grind

/-- Written with a `Z` and read with an offset, a UTC text is unchanged. -/
theorem replace_zulu_isoformat (time : CivilTime) :
    replaceAll ['Z'] zeroOffset (replaceAll zeroOffset ['Z']
        (isoformat time)) =
      isoformat time := by
  have written :
      replaceFrom zeroOffset ['Z'] 0 (isoFields time ++ zeroOffset) =
        isoFields time ++ ['Z'] := by
    rw [replaceFrom_append zeroOffset _ (by decide)]
    · rfl
    · intro character member equal
      exact (isoFields_apart member).2 (Option.some.inj equal).symm
  have read :
      replaceFrom ['Z'] zeroOffset 0 (isoFields time ++ ['Z']) =
        isoFields time ++ zeroOffset := by
    rw [replaceFrom_append ['Z'] _ (by decide)]
    · rfl
    · intro character member equal
      exact (isoFields_apart member).1 (Option.some.inj equal).symm
  unfold replaceAll isoformat
  rw [String.toList_ofList, String.toList_ofList, written, read]

/-- A UTC text without a `Z` is unchanged. -/
theorem replace_zulu_of_isoformat (time : CivilTime) :
    replaceAll ['Z'] zeroOffset (isoformat time) = isoformat time := by
  have kept :
      replaceFrom ['Z'] zeroOffset 0 (isoFields time ++ zeroOffset) =
        isoFields time ++ zeroOffset := by
    rw [replaceFrom_append zeroOffset _ (by decide)]
    · rfl
    · intro character member equal
      exact (isoFields_apart member).1 (Option.some.inj equal).symm
  unfold replaceAll isoformat
  rw [String.toList_ofList, kept]

/-! ## A reader of the layout that `isoformat` writes -/

/-- A number of a fixed count of digits. -/
def readPadded (width : Nat) (text : List Char) : Option (Nat × List Char) :=
  if (text.take width).length = width ∧
      (text.take width).all Char.isDigit = true then
    some (Nat.ofDigitChars 10 (text.take width) 0, text.drop width)
  else
    none

/-- One fixed character. -/
def expect (character : Char) : List Char → Option (List Char)
  | [] => none
  | head :: rest => if head = character then some rest else none

/-- The fraction of a second. -/
def readMicrosecond : List Char → Option (Nat × List Char)
  | '.' :: rest => readPadded 6 rest
  | text => some (0, text)

/-- The fields of a civil time. -/
def readIsoFields (text : List Char) : Option (CivilTime × List Char) := do
  let (year, text) ← readPadded 4 text
  let text ← expect '-' text
  let (month, text) ← readPadded 2 text
  let text ← expect '-' text
  let (day, text) ← readPadded 2 text
  let text ← expect 'T' text
  let (hour, text) ← readPadded 2 text
  let text ← expect ':' text
  let (minute, text) ← readPadded 2 text
  let text ← expect ':' text
  let (second, text) ← readPadded 2 text
  let (microsecond, text) ← readMicrosecond text
  if valid :
      ValidFields year month day hour minute second microsecond then
    some (⟨year, month, day, hour, minute, second, microsecond, valid⟩, text)
  else
    none

theorem length_padded (width value : Nat) :
    (padded width value).length = width := by
  induction width generalizing value with
  | zero => rfl
  | succ width induction => simp [padded, induction]

theorem ofDigitChars_padded
    {width value : Nat} (fits : value < 10 ^ width) :
    Nat.ofDigitChars 10 (padded width value) 0 = value := by
  induction width generalizing value with
  | zero =>
      have zero : value = 0 := by simpa using fits
      rw [zero]
      rfl
  | succ width induction =>
      have smaller : value / 10 < 10 ^ width := by
        rw [Nat.div_lt_iff_lt_mul (by decide), ← pow_succ]
        exact fits
      have digit : value % 10 < 10 := Nat.mod_lt _ (by decide)
      rw [padded, Nat.ofDigitChars_append, induction smaller,
        Nat.ofDigitChars_cons_digitChar_of_lt_ten digit,
        Nat.ofDigitChars_nil]
      omega

/-- A padded number is read back. -/
theorem readPadded_append
    {width value : Nat} (fits : value < 10 ^ width) (rest : List Char) :
    readPadded width (padded width value ++ rest) = some (value, rest) := by
  have length := length_padded width value
  have front : (padded width value ++ rest).take width = padded width value :=
    List.take_left' length
  have back : (padded width value ++ rest).drop width = rest :=
    List.drop_left' length
  unfold readPadded
  rw [front, back, if_pos, ofDigitChars_padded fits]
  refine ⟨length, List.all_eq_true.2 ?_⟩
  intro character member
  exact isDigit_of_mem_padded member

theorem readMicrosecond_append
    {microsecond : Nat} (fits : microsecond < 1000000) :
    readMicrosecond
        ((if microsecond = 0 then [] else '.' :: padded 6 microsecond) ++
          zeroOffset) =
      some (microsecond, zeroOffset) := by
  split_ifs with zero
  · rw [zero]
    rfl
  · exact readPadded_append fits zeroOffset

theorem bind_of_eq_some
    {First Result : Type} {read : Option First} {value : First}
    {next : First → Option Result} {result : Option Result}
    (found : read = some value) (continued : next value = result) :
    (read >>= next) = result := by
  rw [found]
  exact continued

theorem readIsoFields_isoFields (time : CivilTime) :
    readIsoFields (isoFields time ++ zeroOffset) =
      some (time, zeroOffset) := by
  have valid := time.valid
  have days : time.day < 10 ^ 2 := by
    have bound : daysInMonth time.year time.month ≤ 31 := by
      unfold daysInMonth
      split_ifs <;> decide
    omega
  rw [isoFields]
  simp only [List.append_assoc, List.cons_append]
  -- The fields are read one after the other, each up to its separator.
  apply bind_of_eq_some (readPadded_append (by omega) _)
  apply bind_of_eq_some rfl
  apply bind_of_eq_some (readPadded_append (by omega) _)
  apply bind_of_eq_some rfl
  apply bind_of_eq_some (readPadded_append days _)
  apply bind_of_eq_some rfl
  apply bind_of_eq_some (readPadded_append (by omega) _)
  apply bind_of_eq_some rfl
  apply bind_of_eq_some (readPadded_append (by omega) _)
  apply bind_of_eq_some rfl
  apply bind_of_eq_some (readPadded_append (by omega) _)
  apply
    bind_of_eq_some (readMicrosecond_append valid.2.2.2.2.2.2.2.2.2)
  exact dif_pos valid

/-- The reader that reads this layout and no other. -/
def isoReader : IsoReader where
  fromisoformat text :=
    match readIsoFields text.toList with
    | some (civil, rest) =>
        if rest = zeroOffset then some ⟨civil, some utcOffset⟩ else none
    | none => none
  fromisoformat_isoformat := by
    intro time
    simp only [isoformat, String.toList_ofList, readIsoFields_isoFields,
      if_true]

end KairosDeploy.Library.Timestamp
