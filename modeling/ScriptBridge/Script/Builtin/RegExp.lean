import ScriptBridge.Script.Builtin.Array
import ScriptBridge.Script.Builtin.Text
import ScriptBridge.Script.Regular.Matcher
import ScriptBridge.Script.Regular.Reader

/-!
`RegExp` and its members.
-/
namespace ScriptBridge.Script.Builtins

open Text Script

variable {ρ α : Type}

def lastIndexKey : Key := Key.ofString "lastIndex"

structure RegExpData where
  ref : Ref
  source : Units
  flags : Units

def regexpData? (v : Value) : Script ρ (Option RegExpData) := do
  match v with
  | .object r =>
    match ← payload r with
    | .regexp source flags => return some ⟨r, source, flags⟩
    | _ => return none
  | _ => return none

def thisRegExp (this : Value) : Script ρ RegExpData := do
  match ← regexpData? this with
  | some d => return d
  | none => throwType "RegExp object expected"

def hasFlag (flags : Units) (c : Char) : Bool := flags.contains (UInt16.ofNat c.toNat)

def optionsOf (flags : Units) : Regular.Options :=
  ⟨hasFlag flags 'i', hasFlag flags 'm', hasFlag flags 's', hasFlag flags 'u'⟩

def RegExpData.pattern? (d : RegExpData) : Option Regular.Pattern :=
  (Regular.Pattern.ofUnits? d.source (optionsOf d.flags)).toOption

def makeRegExp (source flags : Units) (target : Ref) : Script ρ Value := do
  if !Regular.validFlags flags then throwWorded .syntaxError "invalid regular expression flags"
  match Regular.Pattern.ofUnits? source (optionsOf flags) with
  | .error e => throwWorded .syntaxError e.message
  | .ok _ =>
    let proto ← prototypeOf target .regexpPrototype
    return .object (← request (.make (some proto) (.regexp source flags)
      [(lastIndexKey, .data (.int 0) true false false)]))

def unitsOr (default : Units) (v : Value) : Script ρ Units :=
  if v.isUndefined then pure default else toUnits v

/-- Makes a regular expression of a pattern and flags; a plain call gives an expression back that
the same constructor has made. -/
def constructRegExp (args : List Value) (newTarget : Option Ref) : Script ρ Value := do
  let pattern := arg args 0
  let flags := arg args 1
  let looksLikeOne ← isRegExp pattern
  let constructor : Ref := .builtin (.function (.regexp .constructor))
  let target := newTarget.getD constructor
  let kept ← if newTarget.isNone && looksLikeOne && flags.isUndefined then do
      pure (Value.same false (← getMemberNamed pattern "constructor") (.object constructor))
    else pure false
  if kept then return pattern
  match ← regexpData? pattern with
  | some d => makeRegExp d.source (← unitsOr d.flags flags) target
  | none =>
    let (pattern, flags) ← if looksLikeOne then do
        let source ← getMemberNamed pattern "source"
        let flags ← if flags.isUndefined then getMemberNamed pattern "flags" else pure flags
        pure (source, flags)
      else pure (pattern, flags)
    let source ← unitsOr [] pattern
    makeRegExp source (← unitsOr [] flags) target

/-- The members that say which flags are set, in the order in which the flags are shown. -/
def flagMembers : List (String × UInt16) :=
  [("hasIndices", 100), ("global", 103), ("ignoreCase", 105), ("multiline", 109), ("dotAll", 115),
   ("unicode", 117), ("unicodeSets", 118), ("sticky", 121)]

/-- The flags as the members of the object tell them. -/
def shownFlags (r : Ref) : Script ρ Units := do
  let one (m : String × UInt16) : Script ρ Units := do
    return if (← r.getNamed m.1).truthy then [m.2] else []
  return (← mapEach one flagMembers).flatten

/-- Source as it stands between slashes: slashes outside of classes and line ends are escaped. -/
def escapedSource : Bool → Units → Units
  | _, [] => []
  | inClass, 92 :: c :: rest => 92 :: c :: escapedSource inClass rest
  | false, 91 :: 93 :: rest => 91 :: 93 :: escapedSource true rest
  | inClass, c :: rest =>
    if c == 10 then 92 :: 110 :: escapedSource inClass rest
    else if c == 13 then 92 :: 114 :: escapedSource inClass rest
    else if c == 47 && !inClass then 92 :: 47 :: escapedSource inClass rest
    else if c == 91 then c :: escapedSource true rest
    else if c == 93 then c :: escapedSource false rest
    else c :: escapedSource inClass rest

def sourceText (source : Units) : Units :=
  if source.isEmpty then Units.ofString "(?:)" else escapedSource false source

/-- An object with one member for each named group, if there are any. -/
def namedMembers (groups : List (Option Units)) (values : List Value) : Script ρ Value := do
  let named := (groups.zip values).filterMap fun g => g.1.map fun n => (n, g.2)
  if named.isEmpty then return .undefined
  return .object (← request (.make none .ordinary (named.map fun g => (Key.ofUnits g.1, .plain g.2))))

/-- First and last position of every group, as arrays. -/
def indicesArray (groups : List (Option Units)) (spans : List (Option (Nat × Nat))) :
    Script ρ Value := do
  let one (span : Option (Nat × Nat)) : Script ρ Value := do
    match span with
    | some (a, b) => return .object (← newArray [.ofNat a, .ofNat b])
    | none => return .undefined
  let values ← mapEach one spans
  let r ← newArray values
  r.create (Key.ofString "groups") (← namedMembers groups values.tail)
  return .object r

/-- Runs a regular expression on a text; the result is the array of a match, or null. -/
def execute (d : RegExpData) (whole : Value) : Script ρ Value := do
  let text := whole.units
  let moves := hasFlag d.flags 'g' || hasFlag d.flags 'y'
  let start ← toLength (← d.ref.get lastIndexKey)
  let start := if moves then start else 0
  let fail : Script ρ Value := do
    if moves then d.ref.set lastIndexKey (.int 0)
    return .null
  match d.pattern? with
  | none => fail
  | some p =>
    if start > text.length then fail
    else
      let places := if hasFlag d.flags 'y' then 1 else text.length - start + 1
      match p.search (p.subject text) places start with
      | none => fail
      | some (from_, m) =>
        if moves then d.ref.set lastIndexKey (.ofNat m.position)
        let cut (span : Option (Nat × Nat)) : Script ρ Value :=
          match span with
          | some (a, b) => textFrom whole ((text.drop a).take (b - a))
          | none => pure .undefined
        let spans := some (from_, m.position) :: m.captures
        let texts ← mapEach cut spans
        let r ← newArray texts
        r.create (Key.ofString "index") (.ofNat from_)
        r.create (Key.ofString "input") whole
        r.create (Key.ofString "groups") (← namedMembers p.groups texts.tail)
        if hasFlag d.flags 'd' then
          r.create (Key.ofString "indices") (← indicesArray p.groups spans)
        return .object r

/-- Runs the `exec` of any value that has one. -/
def execOf (v text : Value) : Script ρ Value := do
  let f ← getMemberNamed v "exec"
  if ← isCallable f then
    match ← callValue f v [text] with
    | .object o => return .object o
    | .null => return .null
    | _ => throwType "RegExp exec method must return an object or null"
  else execute (← thisRegExp v) (← toText text)

def runExec (r : Ref) (whole : Value) : Script ρ Value := execOf (.object r) whole

/-- Position behind the character at `i`. -/
def nextPosition (text : Units) (unicode : Bool) (i : Nat) : Nat :=
  match text.drop i with
  | u :: v :: _ => if unicode && Units.isHigh u && Units.isLow v then i + 2 else i + 1
  | _ => i + 1

/-- Steps over an empty match. -/
def advance (r : Ref) (text matched : Units) (unicode : Bool) : Script ρ Unit := do
  if matched.isEmpty then
    let i ← toLength (← r.get lastIndexKey)
    r.set lastIndexKey (.ofNat (nextPosition text unicode i))

/-- All matches of a global expression with their texts, or the first of another. -/
def allMatches (r : Ref) (whole : Value) (flags : Units) : Nat → Script ρ (List (Ref × Value))
  | 0 => return []
  | n + 1 => do
    match ← runExec r whole with
    | .object m =>
      if !hasFlag flags 'g' then return [(m, .spelled [])]
      let matched ← toText (← m.get (.index 0))
      advance r whole.units matched.units (hasFlag flags 'u')
      return (m, matched) :: (← allMatches r whole flags n)
    | _ => return []

def flagsOf (r : Ref) : Script ρ Units := do toUnits (← r.getNamed "flags")

/-- The captures of a match as texts, where they took part. -/
def captureValues (m : Ref) (count : Nat) : Script ρ (List Value) := do
  let one (i : Nat) : Script ρ Value := do
    match ← m.get (Key.ofInt (i + 1)) with
    | .undefined => return .undefined
    | v => toText v
  mapEach one (List.range (count - 1))

def regexpReplace (r : Ref) (whole : Value) (f : Value) : Script ρ Value := do
  let text := whole.units
  let callable ← isCallable f
  let f ← if callable then pure f else toText f
  let flags ← flagsOf r
  if hasFlag flags 'g' then r.set lastIndexKey (.int 0)
  let found ← allMatches r whole flags loopLimit
  let piece (state : Nat × Units) (m : Ref × Value) : Script ρ (Nat × Units) := do
    let (done, out) := state
    let m := m.1
    let count ← lengthOf m
    let matched ← toUnits (← m.get (.index 0))
    let position ← toInteger (← m.getNamed "index")
    let position := min position.toNat text.length
    let captures ← captureValues m count
    let named ← m.getNamed "groups"
    let named ← if named.isUndefined || callable then pure named
      else do pure (Value.object (← toObject named))
    let filling ← replacementFor f callable ⟨text, position, matched, captures, named⟩
    if position < done then return state
    return (position + matched.length, out ++ (text.drop done).take (position - done) ++ filling)
  let (done, out) ← foldEach piece (0, []) found
  newText (out ++ text.drop done)

/-- Pieces of a text between the matches of `splitter`, from the piece at `done` and a search at
`i` on; `room` pieces are still wanted. -/
def splitFrom (splitter : Ref) (whole : Value) (unicode : Bool) :
    Nat → (room done i : Nat) → Script ρ (List Value)
  | 0, _, _, _ => return []
  | n + 1, room, done, i => do
    let text := whole.units
    let cut (a b : Nat) : Script ρ Value := textFrom whole ((text.drop a).take (b - a))
    if i ≥ text.length then return [← cut done text.length]
    splitter.set lastIndexKey (.ofNat i)
    match ← runExec splitter whole with
    | .object m =>
      let stop ← toLength (← splitter.get lastIndexKey)
      let stop := min stop text.length
      if stop == done then splitFrom splitter whole unicode n room done (nextPosition text unicode i)
      else if room ≤ 1 then return [← cut done i]
      else
        let count ← lengthOf m
        let wanted := min (count - 1) (room - 1)
        let groups ← mapEach (fun (g : Nat) => m.get (Key.ofInt (g + 1))) (List.range wanted)
        let pieces := (← cut done i) :: groups
        if pieces.length ≥ room then return pieces
        return pieces ++ (← splitFrom splitter whole unicode n (room - pieces.length) stop stop)
    | _ => splitFrom splitter whole unicode n room done (nextPosition text unicode i)

def regexpSplit (r : Ref) (whole limit : Value) : Script ρ Value := do
  let constructor ← speciesOf r (.regexp .constructor)
  let flags ← flagsOf r
  let sticky := if hasFlag flags 'y' then flags else flags ++ [121]
  let splitter ← needObject (← constructValue constructor [.object r, .spelled sticky])
  let limit ← if limit.isUndefined then pure 4294967295 else do pure (← toUInt32 limit).toNat
  if limit == 0 then return .object (← newArray [])
  if whole.units.isEmpty then
    match ← runExec splitter whole with
    | .object _ => return .object (← newArray [])
    | _ => return .object (← newArray [.spelled []])
  return .object (← newArray (← splitFrom splitter whole (hasFlag flags 'u') loopLimit limit 0 0))

def flagGetter (f : RegExpFn) : Option Char :=
  match f with
  | .global => some 'g'
  | .ignoreCase => some 'i'
  | .multiline => some 'm'
  | .dotAll => some 's'
  | .unicode => some 'u'
  | .sticky => some 'y'
  | .hasIndices => some 'd'
  | .unicodeSets => some 'v'
  | _ => none

/-- The next match of an iterator over matches. -/
def regexpNext (it r : Ref) (text flags : Units) (done : Bool) : Script ρ Value := do
  if done then return ← iterResult .undefined true
  match ← runExec r (.spelled text) with
  | .object m =>
    if hasFlag flags 'g' then
      advance r text (← toUnits (← m.get (.index 0))) (hasFlag flags 'u')
    else request (.revise it (.regexpIterator r text flags true))
    iterResult (.object m) false
  | _ =>
    request (.revise it (.regexpIterator r text flags true))
    iterResult .undefined true

def regexpMatchAll (r : Ref) (text : Units) : Script ρ Value := do
  let constructor ← speciesOf r (.regexp .constructor)
  let flags ← flagsOf r
  let copy ← needObject (← constructValue constructor [.object r, .spelled flags])
  let start ← toLength (← r.get lastIndexKey)
  copy.set lastIndexKey (.ofNat start)
  return .object (← request (.make (some (.builtin (.object .regexpIteratorPrototype)))
    (.regexpIterator copy text flags false) []))

/-- Position of the first match; the place to search from is left as it was. -/
def regexpSearch (r : Ref) (whole : Value) : Script ρ Value := do
  let before ← r.get lastIndexKey
  if !Value.same false before (.int 0) then r.set lastIndexKey (.int 0)
  let result ← runExec r whole
  let after ← r.get lastIndexKey
  if !Value.same false after before then r.set lastIndexKey before
  match result with
  | .object m => m.getNamed "index"
  | _ => return .int (-1)

def regexpMatch (r : Ref) (whole : Value) : Script ρ Value := do
  let flags ← flagsOf r
  if !hasFlag flags 'g' then runExec r whole
  else
    r.set lastIndexKey (.int 0)
    let found ← allMatches r whole flags loopLimit
    if found.isEmpty then return .null
    return .object (← newArray (found.map Prod.snd))

/-- The prototype itself is no regular expression and answers as an empty one. -/
def isRegExpPrototype (r : Ref) : Bool := r == .builtin (.object .regexpPrototype)

def regexpCall (f : RegExpFn) (this : Value) (args : List Value) (newTarget : Option Ref) :
    Script ρ Value := do
  let a := arg args 0
  match f with
  | .constructor => constructRegExp args newTarget
  | .species => return this
  | .exec => execute (← thisRegExp this) (← toText a)
  | .test =>
    match ← execOf this a with
    | .null => return .bool false
    | _ => return .bool true
  | .compile =>
    let d ← thisRegExp this
    let (source, flags) ← match ← regexpData? a with
      | some given => do
        if !(arg args 1).isUndefined then throwType "flags must be undefined"
        pure (given.source, given.flags)
      | none => do
        let source ← unitsOr [] a
        pure (source, ← unitsOr [] (arg args 1))
    if !Regular.validFlags flags then throwWorded .syntaxError "invalid regular expression flags"
    match Regular.Pattern.ofUnits? source (optionsOf flags) with
    | .error e => throwWorded .syntaxError e.message
    | .ok _ =>
      request (.revise d.ref (.regexp source flags))
      d.ref.set lastIndexKey (.int 0)
      return this
  | f =>
    let r ← needObject this
    match f with
    | .flags => newText (← shownFlags r)
    | .source =>
      if isRegExpPrototype r then return Value.text "(?:)"
      newText (sourceText (← thisRegExp this).source)
    | .toString =>
      let source ← toUnits (← r.getNamed "source")
      newText (47 :: source ++ [47] ++ (← flagsOf r))
    | .replace => regexpReplace r (← toText a) (arg args 1)
    | .matchText => regexpMatch r (← toText a)
    | .matchAll => regexpMatchAll r (← toUnits a)
    | .search => regexpSearch r (← toText a)
    | .split => regexpSplit r (← toText a) (arg args 1)
    | f =>
      match flagGetter f with
      | some c =>
        if isRegExpPrototype r then return .undefined
        return .bool (hasFlag (← thisRegExp this).flags c)
      | none => return .undefined

end ScriptBridge.Script.Builtins
