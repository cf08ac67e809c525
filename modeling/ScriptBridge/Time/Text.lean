import ScriptBridge.Number.Text
import ScriptBridge.Time.Calendar

/-!
Points in time as text: the interchange form, the forms for readers, and their parts.
-/
namespace ScriptBridge.Time

def padded (width : Nat) (n : Int) : String :=
  let digits := String.ofList (Number.digitChars n.natAbs)
  "".pushn '0' (width - digits.length) ++ digits

def dayName (d : Int) : String :=
  ["Sun", "Mon", "Tue", "Wed", "Thu", "Fri", "Sat"].getD d.toNat ""

def monthName (m : Int) : String :=
  ["Jan", "Feb", "Mar", "Apr", "May", "Jun", "Jul", "Aug", "Sep", "Oct", "Nov", "Dec"].getD
    (m - 1).toNat ""

def yearText (y : Int) : String :=
  if 0 ≤ y then padded 4 y else "-" ++ padded 6 y

def isoText (t : Int) : String :=
  let m := momentOf t
  let y := m.date.year
  let year := if 0 ≤ y && y ≤ 9999 then padded 4 y
    else (if y < 0 then "-" else "+") ++ padded 6 y
  year ++ "-" ++ padded 2 m.date.month ++ "-" ++ padded 2 m.date.day ++ "T" ++ padded 2 m.hours
    ++ ":" ++ padded 2 m.minutes ++ ":" ++ padded 2 m.seconds ++ "." ++ padded 3 m.milliseconds ++ "Z"

def clockText (m : Moment) : String :=
  padded 2 m.hours ++ ":" ++ padded 2 m.minutes ++ ":" ++ padded 2 m.seconds

def dateText (m : Moment) : String :=
  dayName m.weekday ++ " " ++ monthName m.date.month ++ " " ++ padded 2 m.date.day ++ " "
    ++ yearText m.date.year

def timeText (m : Moment) : String := clockText m ++ " GMT+0000"

def fullText (t : Int) : String :=
  let m := momentOf t
  dateText m ++ " " ++ timeText m

def utcText (t : Int) : String :=
  let m := momentOf t
  dayName m.weekday ++ ", " ++ padded 2 m.date.day ++ " " ++ monthName m.date.month ++ " "
    ++ yearText m.date.year ++ " " ++ clockText m ++ " GMT"

def localeDate (m : Moment) : String :=
  padded 2 m.date.month ++ "/" ++ padded 2 m.date.day ++ "/" ++ yearText m.date.year

def localeTime (m : Moment) : String :=
  let half := if m.hours < 12 then "AM" else "PM"
  let hour := if m.hours % 12 == 0 then 12 else m.hours % 12
  padded 2 hour ++ ":" ++ padded 2 m.minutes ++ ":" ++ padded 2 m.seconds ++ " " ++ half

def localeText (t : Int) : String :=
  let m := momentOf t
  localeDate m ++ ", " ++ localeTime m

end ScriptBridge.Time
