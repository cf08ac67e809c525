/-!
The calendar: days by number and by date, and points in time taken apart.

Time is counted in milliseconds from the start of 1970; a day has no leap seconds.
-/
namespace ScriptBridge.Time

def msPerDay : Int := 86400000

/-- Days from the start of 1970 to the first of a month, counted from March in years of 400. -/
def daysFromCivil (year month day : Int) : Int :=
  let y := if month ≤ 2 then year - 1 else year
  let era := y.fdiv 400
  let yearOfEra := y - era * 400
  let shifted := if month > 2 then month - 3 else month + 9
  let dayOfYear := (153 * shifted + 2) / 5 + day - 1
  era * 146097 + (yearOfEra * 365 + yearOfEra / 4 - yearOfEra / 100 + dayOfYear) - 719468

structure Civil where
  year : Int
  month : Int
  day : Int
  deriving Repr

/-- The date of a day number; the inverse of `daysFromCivil`. -/
def civilFromDays (days : Int) : Civil :=
  let z := days + 719468
  let era := z.fdiv 146097
  let dayOfEra := z - era * 146097
  let yearOfEra := (dayOfEra - dayOfEra / 1460 + dayOfEra / 36524 - dayOfEra / 146096) / 365
  let dayOfYear := dayOfEra - (365 * yearOfEra + yearOfEra / 4 - yearOfEra / 100)
  let shifted := (5 * dayOfYear + 2) / 153
  let month := if shifted < 10 then shifted + 3 else shifted - 9
  let year := yearOfEra + era * 400 + if month ≤ 2 then 1 else 0
  ⟨year, month, dayOfYear - (153 * shifted + 2) / 5 + 1⟩

/-- A point in time taken apart. -/
structure Moment where
  date : Civil
  hours : Int
  minutes : Int
  seconds : Int
  milliseconds : Int
  weekday : Int

def momentOf (t : Int) : Moment :=
  let days := t.fdiv msPerDay
  let rest := t - days * msPerDay
  ⟨civilFromDays days, rest / 3600000, rest / 60000 % 60, rest / 1000 % 60, rest % 1000,
   (days + 4).emod 7⟩

/-- The time of parts that may lie outside their ranges; months count from zero. -/
def timeOfParts (year month day hours minutes seconds ms : Int) : Int :=
  let y := year + month.fdiv 12
  let m := month.emod 12
  (daysFromCivil y (m + 1) 1 + day - 1) * msPerDay + hours * 3600000 + minutes * 60000
    + seconds * 1000 + ms

/-- The parts of a moment from the year, with months from zero, to the milliseconds. -/
def Moment.parts (m : Moment) : List Int :=
  [m.date.year, m.date.month - 1, m.date.day, m.hours, m.minutes, m.seconds, m.milliseconds]

/-- The time of such a list of parts. -/
def timeOfList (ps : List Int) : Int :=
  let p (i : Nat) : Int := ps.getD i 0
  timeOfParts (p 0) (p 1) (p 2) (p 3) (p 4) (p 5) (p 6)

end ScriptBridge.Time
