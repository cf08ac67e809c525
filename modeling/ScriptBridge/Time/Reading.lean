import ScriptBridge.Text.Units
import ScriptBridge.Time.Calendar

/-!
Reading points in time.

`Written.ofUnits?` reads the interchange form, and what is not in that form in a lenient one: words
and numbers in any order, numbers of up to two digits being month, day and year in the order that
is usual in America.  Only the first characters count, and a zero ends the text.
-/
namespace ScriptBridge.Time

open Text

/-- The parts of a point in time as they are written; months and days count from one. -/
structure Written where
  year : Int
  month : Int
  day : Int
  hours : Int
  minutes : Int
  seconds : Int
  milliseconds : Int
  /-- minutes that the clock is ahead of universal time -/
  offset : Int
  deriving Repr, DecidableEq

namespace Written

/-- Are all parts in their ranges?  A day may end at 24 o'clock sharp. -/
def isValid (w : Written) : Bool :=
  w.month ≤ 12 && w.day ≤ 31 && w.hours ≤ 24 && w.minutes ≤ 59 && w.seconds ≤ 59
    && (w.hours != 24 || (w.minutes == 0 && w.seconds == 0 && w.milliseconds == 0))

/-- The time that the clock shows. -/
def localTime (w : Written) : Int :=
  timeOfParts w.year (w.month - 1) w.day w.hours w.minutes w.seconds w.milliseconds

end Written

/-! ### Characters -/

/-- The characters that are looked at. -/
def readable (u : Units) : List Char :=
  let one (c : UInt16) : Char :=
    if c ≤ 255 then Char.ofNat c.toNat else if c == 0x2212 then '-' else 'x'
  ((u.take 127).map one).takeWhile (· != '\x00')

/-- A number of at least `least` digits and at most `most`, where that is not zero; more than nine
digits are no number. -/
def readDigits (least most : Nat) (cs : List Char) : Option (Nat × List Char) :=
  let all := cs.takeWhile Char.isDigit
  let ds := if most == 0 then all else all.take most
  let n := ds.foldl (fun n c => n * 10 + (c.toNat - 48)) 0
  if ds.length < least || n ≥ 1000000000 then none else some (n, cs.drop ds.length)

/-- The rest behind one character. -/
def after? (mark : Char) : List Char → Option (List Char)
  | c :: rest => if c == mark then some rest else none
  | [] => none

/-- Milliseconds of a fraction, if there is one. -/
def readFraction (cs : List Char) : Nat × List Char :=
  match cs with
  | c :: rest =>
    let ds := (rest.takeWhile Char.isDigit).take 9
    if (c == '.' || c == ',') && !ds.isEmpty then
      ((ds ++ ['0', '0', '0']).take 3 |>.foldl (fun n c => n * 10 + (c.toNat - 48)) 0,
       rest.drop ds.length)
    else (0, cs)
  | [] => (0, cs)

/-- Keeps the first three or four digits of a number of `count` digits. -/
def shorten : Nat → (count n : Nat) → Nat × Nat
  | 0, count, n => (count, n)
  | k + 1, count, n => if count > 4 then shorten k (count - 2) (n / 100) else (count, n)

/-- Minutes of an offset such as `+01:30`; a strict one has two or four digits before a colon. -/
def readOffset (strict : Bool) (cs : List Char) : Option (Int × List Char) :=
  match cs with
  | 'Z' :: rest => some (0, rest)
  | sign :: rest =>
    if sign != '+' && sign != '-' then none
    else do
      let (n, more) ← readDigits 1 0 rest
      let count := rest.length - more.length
      if strict && count != 2 && count != 4 then none
      let (count, n) := shorten count count n
      let (h, m, more) ←
        if count > 2 then some (n / 100, n % 100, more)
        else
          match after? ':' more with
          | some behind => do
            let (m, behind) ← readDigits 2 2 behind
            some (n, m, behind)
          | none => some (n, 0, more)
      if h > 23 || m > 59 then none
      let minutes : Int := h * 60 + m
      some (if sign == '+' then minutes else -minutes, more)
  | [] => none

/-! ### The interchange form -/

def readYear (cs : List Char) : Option (Int × List Char) :=
  match cs with
  | '+' :: rest => do
    let (y, rest) ← readDigits 6 6 rest
    some (y, rest)
  | '-' :: rest => do
    let (y, rest) ← readDigits 6 6 rest
    if y == 0 then none else some (-y, rest)
  | cs => do
    let (y, rest) ← readDigits 4 4 cs
    some (y, rest)

/-- A month or day of two digits behind a hyphen; it is the first where there is no hyphen. -/
def readTwo (cs : List Char) : Option (Int × List Char) :=
  match after? '-' cs with
  | none => some (1, cs)
  | some rest => do
    let (n, rest) ← readDigits 2 2 rest
    if n < 1 then none else some (n, rest)

/-- A time behind `T`.  One without minutes is no time at all: hour 100 makes the text invalid. -/
def readClock (w : Written) (cs : List Char) : Option (Written × List Char) :=
  let start : Option (Nat × Nat × List Char) := do
    let (h, rest) ← readDigits 2 2 cs
    let (m, rest) ← readDigits 2 2 (← after? ':' rest)
    some (h, m, rest)
  match start with
  | none => some ({ w with hours := 100 }, [])
  | some (h, m, rest) =>
    let w := { w with hours := h, minutes := m }
    match after? ':' rest with
    | none => some (w, rest)
    | some rest => do
      let (s, rest) ← readDigits 2 2 rest
      let (ms, rest) := readFraction rest
      some ({ w with seconds := s, milliseconds := ms }, rest)

/-- Reads the interchange form: a date, perhaps with a time, perhaps with an offset. -/
def readInterchange (cs : List Char) : Option Written := do
  let (year, rest) ← readYear cs
  let (month, behindMonth) ← readTwo rest
  let (day, rest) ← if behindMonth.length == rest.length then some (1, rest) else readTwo behindMonth
  let w : Written := ⟨year, month, day, 0, 0, 0, 0, 0⟩
  let (w, rest) ← match after? 'T' rest with
    | some rest => readClock w rest
    | none => some (w, rest)
  if rest.isEmpty then return w
  let (offset, rest) ← readOffset true rest
  if rest.isEmpty then return { w with offset := offset } else none

/-! ### The lenient form -/

/-- The rest behind a word in any case. -/
def afterWord (word : String) (cs : List Char) : Option (List Char) :=
  let n := word.length
  if (cs.take n).map Char.toUpper == word.toList then some (cs.drop n) else none

/-- The month that starts here by its first three letters. -/
def readMonth (cs : List Char) : Option (Nat × List Char) :=
  let names := ["JAN", "FEB", "MAR", "APR", "MAY", "JUN", "JUL", "AUG", "SEP", "OCT", "NOV", "DEC"]
  names.zipIdx.findSome? fun (name, i) => (afterWord name cs).map fun rest => (i + 1, rest)

/-- Names of zones with their offsets in hours; the first that fits counts. -/
def zones : List (String × Int) :=
  [("GMT", 0), ("UTC", 0), ("UT", 0), ("Z", 0), ("EDT", -4), ("EST", -5), ("CDT", -5), ("CST", -6),
   ("MDT", -6), ("MST", -7), ("PDT", -7), ("PST", -8), ("WET", 0), ("WEST", 1), ("CET", 1),
   ("CEST", 2), ("EET", 2), ("EEST", 3)]

def readZone (cs : List Char) : Option (Int × List Char) :=
  zones.findSome? fun (name, hours) => (afterWord name cs).map fun rest => (hours * 60, rest)

/-- A year of one or two digits. -/
def fullYear (n : Nat) : Int :=
  n + (if n < 100 then 1900 else 0) + (if n < 50 then 100 else 0)

/-- The rest behind a phrase in parentheses, which may hold others. -/
def skipPhrase : Nat → List Char → Option (List Char)
  | depth, c :: rest =>
    let depth := if c == '(' then depth + 1 else if c == ')' then depth - 1 else depth
    if depth == 0 then some rest else skipPhrase depth rest
  | _, [] => none

/-- What has been read of the lenient form. -/
structure Loose where
  written : Written
  hasYear : Bool
  hasMonth : Bool
  hasTime : Bool
  /-- numbers of up to two digits, in order -/
  numbers : List Nat

namespace Loose

def empty : Loose := ⟨⟨2001, 1, 1, 0, 0, 0, 0, 0⟩, false, false, false, []⟩

/-- A number: a time with a colon behind it, a year, or a part of a date. -/
def number (s : Loose) (n digits : Nat) (cs : List Char) : Option (Loose × List Char) :=
  match after? ':' cs with
  | some rest => do
    let (m, rest) ← readDigits 1 2 rest
    let w := { s.written with hours := n, minutes := m }
    match after? ':' rest with
    | some rest =>
      let (sec, rest) ← readDigits 1 2 rest
      let (ms, rest) := readFraction rest
      some ({ s with written := { w with seconds := sec, milliseconds := ms }, hasTime := true }, rest)
    | none =>
      if rest.isEmpty || rest.head? == some ' ' then
        some ({ s with written := w, hasTime := true }, rest)
      else none
  | none =>
    if digits > 2 then
      some ({ s with written := { s.written with year := n }, hasYear := true }, cs)
    else if n < 1 || n > 31 then
      some ({ s with written := { s.written with year := fullYear n }, hasYear := true }, cs)
    else if s.numbers.length == 3 then none
    else some ({ s with numbers := s.numbers ++ [n] }, cs)

/-- A sign: an offset behind a time, or else a year. -/
def signed (s : Loose) (negative : Bool) (cs : List Char) : Option (Loose × List Char) :=
  match if s.hasTime then readOffset false cs else none with
  | some (offset, rest) => some ({ s with written := { s.written with offset := offset } }, rest)
  | none =>
    match readDigits 1 0 cs.tail with
    | some (n, rest) =>
      if negative && n == 0 then none
      else
        let year : Int := if negative then -n else n
        some ({ s with written := { s.written with year := year }, hasYear := true }, rest)
    | none => some (s, cs.tail)

def isSeparator (c : Char) : Bool := c == '-' || c == '/' || c == '.' || c == ','

def skipSeparators (r : Loose × List Char) : Loose × List Char := (r.1, r.2.dropWhile isSeparator)

/-- A word that is no number: a month, a half of the day, a zone, a phrase in parentheses, or
something that may stand in front of all else. -/
def word (s : Loose) (cs : List Char) : Option (Loose × List Char) :=
  let stops (list : String) (cs : List Char) := cs.dropWhile fun c => !list.toList.contains c
  let hours := s.written.hours
  match readMonth cs with
  | some (m, rest) =>
    some (skipSeparators
      ({ s with written := { s.written with month := m }, hasMonth := true }, stops "0123456789 -/(" rest))
  | none =>
    match if s.hasTime then afterWord "PM" cs else none with
    | some rest =>
      let h := if hours == 12 then hours else hours + 12
      some ({ s with written := { s.written with hours := h } }, rest)
    | none =>
      match if s.hasTime then afterWord "AM" cs else none with
      | some rest =>
        if hours > 12 then none
        else
          let h := if hours == 12 then 0 else hours
          some ({ s with written := { s.written with hours := h } }, rest)
      | none =>
        match readZone cs with
        | some (offset, rest) => some ({ s with written := { s.written with offset := offset } }, rest)
        | none =>
          if cs.head? == some '(' then (skipPhrase 0 cs).map fun rest => skipSeparators (s, rest)
          else if cs.head? == some ')' || s.hasYear || s.hasMonth || s.hasTime || !s.numbers.isEmpty then
            none
          else some (skipSeparators (s, stops " -/(" cs))

/-- Reads word after word; each takes at least one character. -/
def readAll : Nat → Loose → List Char → Option Loose
  | 0, s, _ => some s
  | n + 1, s, cs =>
    match cs.dropWhile (· == ' ') with
    | [] => some s
    | c :: rest =>
      let cs := c :: rest
      let step :=
        if c == '+' || c == '-' then (s.signed (c == '-') cs).map skipSeparators
        else
          match readDigits 1 0 cs with
          | some (k, behind) => (s.number k (cs.length - behind.length) behind).map skipSeparators
          | none => s.word cs
      step.bind fun r => readAll n r.1 r.2

/-- Gives the numbers of up to two digits their places. -/
def settle (s : Loose) : Option Written :=
  let w := s.written
  let count := s.numbers.length + s.hasYear.toNat + s.hasMonth.toNat
  if count > 3 then none
  else
    let w? : Option Written :=
      match s.numbers with
      | [] => if s.hasYear then some w else none
      | [a] => some (if s.hasMonth then { w with day := a } else { w with month := a })
      | [a, b] =>
        some (if !s.hasYear && s.hasMonth then { w with year := fullYear b, day := a }
          else { w with month := a, day := b })
      | a :: b :: c :: _ => some { w with year := fullYear c, month := a, day := b }
    w?.bind fun w => if w.month < 1 || w.day < 1 then none else some w

end Loose

/-- The parts that a text tells, if they are in their ranges. -/
def Written.ofUnits? (u : Units) : Option Written :=
  let cs := readable u
  let w? := match readInterchange cs with
    | some w => some w
    | none => (Loose.readAll (cs.length + 1) .empty cs).bind Loose.settle
  w?.filter Written.isValid

end ScriptBridge.Time
