import ScriptBridge.Script.Builtin.Object
import ScriptBridge.Time.Reading
import ScriptBridge.Time.Text

/-!
`Date`: points in time, counted in milliseconds from the start of 1970, and their parts.

Local time is universal time, and the clock of an engine without a host clock stands at zero.
-/
namespace ScriptBridge.Script.Builtins

open Text Script Time

variable {ρ α : Type}

def limitTime (t : Int) : Float :=
  if t.natAbs ≤ 8640000000000000 then Numeral.floatOfInt t else Number.nan

/-- The time that a text tells, read from its first 127 units. -/
def parseDate (u : Units) : Float :=
  match Written.ofUnits? u with
  | some w => limitTime w.localTime - Numeral.floatOfInt (w.offset * 60000)
  | none => Number.nan

/-! ### Members -/

def thisTime (this : Value) : Script ρ Float := do
  match this with
  | .object r =>
    match ← payload r with
    | .date t => return t
    | _ => throwType "not a Date object"
  | _ => throwType "not a Date object"

/-- The whole parts of arguments, up to the first that is no finite number: those behind it are not
even converted. -/
def wholeParts : List Value → Script ρ (Option (List Int))
  | [] => pure (some [])
  | v :: rest => do
    match Number.truncate? (← toFloat v) with
    | none => return none
    | some i => return (← wholeParts rest).map (i :: ·)

/-- A year of the last century may be given by two digits. -/
def centuryYear (y : Int) : Int := if 0 ≤ y && y ≤ 99 then y + 1900 else y

/-- The time of the arguments year, month, day and so on. -/
def timeOfArguments (args : List Value) : Script ρ Float := do
  match ← wholeParts (args.take 7) with
  | none | some [] => return Number.nan
  | some (y :: parts) =>
    let p (i : Nat) (default : Int) : Int := parts.getD i default
    return limitTime (timeOfParts (centuryYear y) (p 0 0) (p 1 1) (p 2 0) (p 3 0) (p 4 0) (p 5 0))

def constructDate (args : List Value) (newTarget : Option Ref) : Script ρ Value := do
  match newTarget with
  | none => return Value.text (fullText 0)
  | some t =>
    let time ← match args with
      | [] => pure 0.0
      | [v] => do
        let inner ← do
          match v with
          | .object r =>
            match ← payload r with
            | .date t => pure (some t)
            | _ => pure none
          | _ => pure none
        match inner with
        | some t => pure t
        | none =>
          match ← toPrimitive .none v with
          | .string u _ => pure (parseDate u)
          | v => do
            match Number.truncate? (← toFloat v) with
            | some i => pure (limitTime i)
            | none => pure Number.nan
      | args => timeOfArguments args
    let proto ← prototypeOf t .datePrototype
    return .object (← request (.make (some proto) (.date time) []))

/-- Sets a part and those below it that have arguments; a date that is none has only its year
set. -/
def setParts (part : DatePart) (time : Float) (args : List Value) : Script ρ Float := do
  let given ← mapEach toFloat ((arg args 0 :: args.tail).take part.reach)
  let start := match Number.truncate? time with
    | some t => some t
    | none => if part == DatePart.year then some 0 else none
  match start, given.mapM Number.truncate? with
  | some t, some new =>
    let old := (momentOf t).parts
    return limitTime
      (timeOfList (old.take part.index ++ new ++ old.drop (part.index + new.length)))
  | _, _ => return Number.nan

def dateCall (f : DateFn) (this : Value) (args : List Value) (newTarget : Option Ref) :
    Script ρ Value := do
  let text (g : Int → String) : Script ρ Value := do
    match Number.truncate? (← thisTime this) with
    | some t => newText (Units.ofString (g t))
    | none => newText (Units.ofString "Invalid Date")
  match f with
  | .constructor => constructDate args newTarget
  | .now => return .int 0
  | .parse => return .double (parseDate (← toUnits (arg args 0)))
  | .utc => return .double (← timeOfArguments args)
  | .valueOf | .getTime => return .double (← thisTime this)
  | .toString => text fullText
  | .toUTCString => text utcText
  | .toDateString => text fun t => dateText (momentOf t)
  | .toTimeString => text fun t => timeText (momentOf t)
  | .toLocaleString => text localeText
  | .toLocaleDateString => text fun t => localeDate (momentOf t)
  | .toLocaleTimeString => text fun t => localeTime (momentOf t)
  | .set part _ => change part args
  | .setYear =>
    discard (thisTime this)
    let x ← toFloat (arg args 0)
    match Number.truncate? x with
    | some y => change .year [.ofInt (centuryYear y)]
    | none => change .year [.double x]
  | .toISOString =>
    match Number.truncate? (← thisTime this) with
    | some t => newText (Units.ofString (isoText t))
    | none => throwRange "Date value is NaN"
  | .toJSON =>
    let r ← toObject this
    let p ← toPrimitive .number (.object r)
    if p.float?.any (fun x => !Number.isFinite x) then return .null
    let method ← r.getNamed "toISOString"
    if ← isCallable method then callValue method (.object r) []
    else throwType "object needs toISOString method"
  | .toPrimitive =>
    let r ← needObject this
    let hint := match arg args 0 with
      | .string u _ => u.toLossy
      | _ => ""
    let text := hint == "string" || hint == "default"
    if !text && hint != "number" && hint != "integer" then throwType "invalid hint"
    let (first, second) := if text then ("toString", "valueOf") else ("valueOf", "toString")
    match ← primitiveBy r first with
    | some v => return v
    | none =>
      match ← primitiveBy r second with
      | some v => return v
      | none => throwType "toPrimitive"
  | .getTimezoneOffset =>
    let t ← thisTime this
    return if Number.isNaN t then .double t else .int 0
  | .setTime =>
    let r ← needObject this
    discard (thisTime this)
    let t ← do
      match Number.truncate? (← toFloat (arg args 0)) with
      | some i => pure (limitTime i)
      | none => pure Number.nan
    request (.revise r (.date t))
    return .double t
  | .getYear => number fun m => m.date.year - 1900
  | .getDay _ => number Moment.weekday
  | .get part _ => number fun m => m.parts.getD part.index 0
where
  change (part : DatePart) (args : List Value) : Script ρ Value := do
    let t ← setParts part (← thisTime this) args
    match this with
    | .object r => request (.revise r (.date t))
    | _ => pure ()
    return .double t
  number (g : Moment → Int) : Script ρ Value := do
    match Number.truncate? (← thisTime this) with
    | some t => return .ofInt (g (momentOf t))
    | none => return .double Number.nan

end ScriptBridge.Script.Builtins
