import ScriptBridge.Script.Builtin.Object
import ScriptBridge.Text.Case
import ScriptBridge.Text.Normal

/-!
`String`, `Symbol` and their members.

Positions count 16-bit units; changes of case work on code points.
-/
namespace ScriptBridge.Script.Builtins

open Text Script

variable {ρ α : Type}

/-! ### Search -/

def lastIndexOf (needle text : Units) : Nat → Option Nat
  | 0 => if Units.startsWith text needle then some 0 else none
  | i + 1 => if Units.startsWith (text.drop (i + 1)) needle then some (i + 1) else lastIndexOf needle text i

def indexOf (needle text : Units) (from_ : Nat) : Option Nat :=
  if from_ > text.length then none else Units.indexFrom needle (text.drop from_) from_

/-- Positions of `needle`, none inside another. -/
def occurrences (needle text : Units) : Nat → Nat → List Nat
  | 0, _ => []
  | fuel + 1, i =>
    match indexOf needle text i with
    | some p => p :: occurrences needle text fuel (p + max 1 needle.length)
    | none => []

/-- Pieces between occurrences of `sep`. -/
def splitUnits (sep text : Units) : List Units :=
  if sep.isEmpty then text.map fun u => [u]
  else pieces 0 (occurrences sep text (text.length + 1) 0)
where
  pieces (from_ : Nat) : List Nat → List Units
    | [] => [text.drop from_]
    | p :: rest => (text.drop from_).take (p - from_) :: pieces (p + sep.length) rest

/-! ### Replacement -/

/-- What a replacement text refers to. -/
structure MatchInfo where
  text : Units
  position : Nat
  matched : Units
  captures : List Value
  named : Value

/-- Fills in the references of a replacement text. -/
def expandTemplate (m : MatchInfo) : Nat → Units → Script ρ Units
  | 0, u => pure u
  | _ + 1, [] => pure []
  | n + 1, 36 :: rest => do
    match rest with
    | 36 :: more => return 36 :: (← expandTemplate m n more)
    | 38 :: more => return m.matched ++ (← expandTemplate m n more)
    | 96 :: more => return m.text.take m.position ++ (← expandTemplate m n more)
    | 39 :: more => return m.text.drop (m.position + m.matched.length) ++ (← expandTemplate m n more)
    | 60 :: more =>
      let name := more.takeWhile (· != 62)
      if m.named.isUndefined || name.length == more.length then
        return 36 :: (← expandTemplate m n rest)
      let v ← getMember m.named (Key.ofUnits name)
      let t ← if v.isUndefined then pure [] else toUnits v
      return t ++ (← expandTemplate m n (more.drop (name.length + 1)))
    | d :: more =>
      if !Units.isDigit d then return 36 :: (← expandTemplate m n rest)
      let one := d.toNat - 48
      let two := match more with
        | e :: _ => if Units.isDigit e then some (one * 10 + (e.toNat - 48)) else none
        | [] => none
      let (index, after) := match two with
        | some k => if 0 < k && k ≤ m.captures.length then (k, more.drop 1) else (one, more)
        | none => (one, more)
      if 0 < index && index ≤ m.captures.length then
        let v := arg m.captures (index - 1)
        let t ← if v.isUndefined then pure [] else toUnits v
        return t ++ (← expandTemplate m n after)
      else return 36 :: (← expandTemplate m n rest)
    | [] => return [36]
  | n + 1, u :: rest => do return u :: (← expandTemplate m n rest)

/-- The text that takes the place of a match. -/
def replacementFor (f : Value) (callable : Bool) (m : MatchInfo) : Script ρ Units := do
  if callable then
    let tail := if m.named.isUndefined then [] else [m.named]
    toUnits (← callValue f .undefined
      ([.spelled m.matched] ++ m.captures ++ [.ofNat m.position, .spelled m.text] ++ tail))
  else
    let template ← toUnits f
    expandTemplate m (template.length + 1) template

def replaceAt (text needle : Units) (f : Value) (positions : List Nat) : Script ρ Units := do
  let callable ← isCallable f
  let f ← if callable then pure f else toText f
  let piece (state : Nat × Units) (p : Nat) : Script ρ (Nat × Units) := do
    let (done, out) := state
    let r ← replacementFor f callable ⟨text, p, needle, [], .undefined⟩
    return (p + needle.length, out ++ (text.drop done).take (p - done) ++ r)
  let (done, out) ← foldEach piece (0, []) positions
  return out ++ text.drop done

/-- Replaces a text at some places; where there are none it stays the value that it is. -/
def replaceIn (whole : Value) (needle : Units) (f : Value) (positions : List Nat) :
    Script ρ Value := do
  let out ← replaceAt whole.units needle f positions
  if positions.isEmpty then return whole else newText out

/-- A method under a symbol of the pattern, when it has one. -/
def delegateTo (pattern : Value) (s : Symbol) (args : List Value) : Script ρ (Option Value) := do
  if pattern.isNullish then return none
  match ← getMember pattern (.symbol s) with
  | .undefined | .null => return none
  | m => return some (← callValue m pattern args)

/-- Is the value to be taken for a regular expression? -/
def isRegExp (v : Value) : Script ρ Bool := do
  match v with
  | .object r =>
    match ← r.get (.symbol symMatch) with
    | .undefined =>
      match ← payload r with
      | .regexp .. => return true
      | _ => return false
    | m => return m.truthy
  | _ => return false

/-- A regular expression that is to find all matches must say so. -/
def needGlobal (pattern : Value) : Script ρ Unit := do
  if ← isRegExp pattern then
    let flags ← getMemberNamed pattern "flags"
    if flags.isNullish then throwType "cannot convert to object"
    if !(← toUnits flags).contains 103 then throwType "regexp must have the 'g' flag"

/-! ### Members -/

/-- No text has more units than this. -/
def longestText : Nat := 1073741823

def pad (whole : Value) (args : List Value) (atStart : Bool) : Script ρ Value := do
  let this := whole.units
  let n ← toLength (arg args 0)
  if n ≤ this.length then return whole
  let filler ← if (arg args 1).isUndefined then pure [32] else toUnits (arg args 1)
  if filler.isEmpty then return whole
  if n > longestText then throwRange "invalid string length"
  let count := n - this.length
  let fill := ((List.replicate (count / filler.length + 1) filler).flatten).take count
  newText (if atStart then fill ++ this else this ++ fill)

def textOf (this : Value) : Script ρ Value := do
  if this.isNullish then throwType "null or undefined are forbidden" else toText this

/-- The text that is searched for, which must not be a regular expression. -/
def searchText (v : Value) : Script ρ Units := do
  if ← isRegExp v then throwType "regexp not supported"
  toUnits v

def isWellFormed (u : Units) : Bool := (Units.codePoints u).all fun n => !Units.isSurrogate n

def newRegExp (pattern flags : Value) : Script ρ Value :=
  Script.construct (.builtin (.function (.regexp .constructor))) [pattern, flags]
    (.builtin (.function (.regexp .constructor)))

def stringMember (f : StringFn) (this : Value) (args : List Value) : Script ρ Value := do
  let a := arg args 0
  let b := arg args 1
  let delegates := [StringFn.replace, .replaceAll, .split, .matchText, .matchAll, .search].contains f
  if delegates && this.isNullish then throwType "cannot convert to object"
  match f with
  | .replace =>
    match ← delegateTo a symReplace [this, b] with
    | some v => return v
    | none =>
      let whole ← textOf this
      let needle ← toUnits a
      replaceIn whole needle b (indexOf needle whole.units 0).toList
  | .replaceAll =>
    needGlobal a
    match ← delegateTo a symReplace [this, b] with
    | some v => return v
    | none =>
      let whole ← textOf this
      let needle ← toUnits a
      replaceIn whole needle b (occurrences needle whole.units (whole.units.length + 2) 0)
  | .split =>
    match ← delegateTo a symSplit [this, b] with
    | some v => return v
    | none =>
      let whole ← textOf this
      let text := whole.units
      let limit ← if b.isUndefined then pure 4294967295 else do pure (← toUInt32 b).toNat
      if a.isUndefined then
        return .object (← newArray (if limit == 0 then [] else [whole]))
      let sep ← toUnits a
      if text.isEmpty then
        return .object (← newArray (if limit == 0 || sep.isEmpty then [] else [.spelled []]))
      let pieces ← mapEach (textFrom whole) ((splitUnits sep text).take limit)
      return .object (← newArray pieces)
  | .matchText | .matchAll | .search =>
    let s := match f with
      | .matchText => symMatch
      | .matchAll => symMatchAll
      | _ => symSearch
    let method ← if a.isNullish then pure Value.undefined else getMember a (.symbol s)
    if f == .matchAll && !a.isNullish then needGlobal a
    if !method.isNullish then callValue method a [this]
    else
      let whole ← textOf this
      let r ← newRegExp a (if f == .matchAll then Value.text "g" else .undefined)
      callValue (← getMember r (.symbol s)) r [whole]
  | f =>
    let whole ← textOf this
    let text := whole.units
    match f with
    | .at =>
      let i ← toInteger a
      let i := if i < 0 then i + text.length else i
      if i < 0 then return .undefined
      match text[i.toNat]? with
      | some u => textFrom whole [u]
      | none => return .undefined
    | .charCodeAt =>
      let i ← toInteger a
      if i < 0 then return .double Number.nan
      match text[i.toNat]? with
      | some u => return .ofNat u.toNat
      | none => return .double Number.nan
    | .charAt =>
      let i ← toInteger a
      if i < 0 then return .spelled []
      match text[i.toNat]? with
      | some u => textFrom whole [u]
      | none => return .spelled []
    | .codePointAt =>
      let i ← toInteger a
      if i < 0 then return .undefined
      match Units.codePoints ((text.drop i.toNat).take 2) with
      | n :: _ => return .ofNat n
      | [] => return .undefined
    | .concat =>
      foldEach (fun out v => do joinTexts out (← toText v)) whole args
    | .isWellFormed => return .bool (isWellFormed text)
    | .toWellFormed => textFrom whole (Units.ofString (Units.toLossy text))
    | .indexOf =>
      let needle ← toUnits a
      let i ← toInteger b
      return match indexOf needle text (min i.toNat text.length) with
        | some i => .ofNat i
        | none => .int (-1)
    | .lastIndexOf =>
      let needle ← toUnits a
      let x ← toFloat b
      let start := if Number.isNaN x then text.length
        else match Number.truncate? x with
          | some i => min i.toNat text.length
          | none => if Number.isNegative x then 0 else text.length
      return match lastIndexOf needle text start with
        | some i => .ofNat i
        | none => .int (-1)
    | .includes =>
      let needle ← searchText a
      let i ← toInteger b
      return .bool (indexOf needle text (min i.toNat text.length)).isSome
    | .startsWith =>
      let needle ← searchText a
      let i ← toInteger b
      return .bool (Units.startsWith (text.drop i.toNat) needle)
    | .endsWith =>
      let needle ← searchText a
      let stop ← if b.isUndefined then pure text.length else do
        let i ← toInteger b
        pure (min i.toNat text.length)
      let front := text.take stop
      return .bool (needle.length ≤ front.length
        && front.drop (front.length - needle.length) == needle)
    | .substring =>
      let clamp (v : Value) (default : Nat) : Script ρ Nat := do
        if v.isUndefined then return default
        let i ← toInteger v
        return min i.toNat text.length
      let x ← clamp a 0
      let y ← clamp b text.length
      textFrom whole ((text.drop (min x y)).take (max x y - min x y))
    | .substr =>
      let start ← toPosition a text.length 0
      let count ← if b.isUndefined then pure (text.length - start) else do
        let i ← toInteger b
        pure (min i.toNat (text.length - start))
      textFrom whole ((text.drop start).take count)
    | .slice =>
      let start ← toPosition a text.length 0
      let stop ← toPosition b text.length text.length
      textFrom whole ((text.drop start).take (stop - start))
    | .repeatText =>
      let n ← toInteger a
      if n < 0 || n > 2147483647 then throwRange "invalid repeat count"
      if text.isEmpty || n == 1 then return whole
      if n.toNat * text.length > longestText then throwRange "invalid string length"
      newText (List.replicate n.toNat text).flatten
    | .padEnd => pad whole args false
    | .padStart => pad whole args true
    | .trim => textFrom whole (Numeral.trim text)
    | .trimEnd => textFrom whole (Numeral.trimEnd text)
    | .trimStart => textFrom whole (Numeral.trimStart text)
    | .localeCompare =>
      let other ← toUnits a
      return .int (match NormalForm.compareTexts text other with
        | .lt => -1
        | .eq => 0
        | .gt => 1)
    | .normalize =>
      if a.isUndefined then return ← newText (NormalForm.apply ⟨true, false⟩ text)
      match NormalForm.ofName? (← toUnits a) with
      | some form => newText (form.apply text)
      | none => throwRange "bad normalization form"
    | .toLowerCase | .toLocaleLowerCase => newText (Units.toLower text)
    | .toUpperCase | .toLocaleUpperCase => newText (Units.toUpper text)
    | .iterator =>
      return .object (← request (.make (some (.builtin (.object .stringIteratorPrototype)))
        (.stringIterator text) []))
    | _ => return whole

/-- The text that a string value or a wrapped string is. -/
def thisString (this : Value) : Script ρ Value := do
  match this with
  | .string _ _ => return this
  | .object r =>
    match ← payload r with
    | .primitive (.string u m) => return .string u m
    | _ => throwType "not a string"
  | _ => throwType "not a string"

def wrapPrimitive (v : Value) (newTarget : Ref) (default : BuiltinObject) : Script ρ Value := do
  let proto ← prototypeOf newTarget default
  let members := match v with
    | .string u _ => [(lengthKey, Property.fixed (.ofNat u.length))]
    | _ => []
  return .object (← request (.make (some proto) (.primitive v) members))

def rawTemplate (args : List Value) : Script ρ Units := do
  let raw ← toObject (← (← toObject (arg args 0)).getNamed "raw")
  let n ← lengthOf raw
  let piece (i : Nat) : Script ρ Units := do
    let text ← toUnits (← raw.get (Key.ofInt i))
    let filling ← if i + 1 < n && i + 1 < args.length then toUnits (arg args (i + 1)) else pure []
    return text ++ filling
  return (← mapEach piece (List.range n)).flatten

def symbolText (s : Symbol) : Units :=
  Units.ofString "Symbol(" ++ s.description.getD [] ++ [41]

def stringCall (f : StringFn) (this : Value) (args : List Value) (newTarget : Option Ref) :
    Script ρ Value := do
  match f with
  | .constructor =>
    let v ← match args.head? with
      | none => pure (Value.spelled [])
      | some (.symbol s) =>
        if newTarget.isNone then newText (symbolText s)
        else throwType "cannot convert symbol to string"
      | some v => toText v
    match newTarget with
    | some t => wrapPrimitive v t .stringPrototype
    | none => return v
  | .fromCharCode =>
    let one (v : Value) : Script ρ UInt16 := do return UInt16.ofNat (← toUInt32 v).toNat
    newText (← mapEach one args)
  | .fromCodePoint =>
    let one (v : Value) : Script ρ Units := do
      match Number.whole? (← toFloat v) with
      | some i =>
        if i < 0 || i > 0x10FFFF then throwRange "invalid code point"
        return Units.ofCodePoint i.toNat
      | none => throwRange "invalid code point"
    newText (← mapEach one args).flatten
  | .raw => newText (← rawTemplate args)
  | .toString | .valueOf => thisString this
  | f => stringMember f this args

/-! ### `Symbol` -/

def thisSymbol (this : Value) : Script ρ Symbol := do
  match this with
  | .symbol s => return s
  | .object r =>
    match ← payload r with
    | .primitive (.symbol s) => return s
    | _ => throwType "not a symbol"
  | _ => throwType "not a symbol"

def symbolCall (f : SymbolFn) (this : Value) (args : List Value) (newTarget : Option Ref) :
    Script ρ Value := do
  let a := arg args 0
  match f with
  | .constructor =>
    if newTarget.isSome then throwType "not a constructor"
    let description ← if a.isUndefined then pure none else do pure (some (← toUnits a))
    return .symbol (← request (.newSymbol description none))
  | .forKey => return .symbol (← request (.symbolFor (← toUnits a)))
  | .keyFor =>
    match a with
    | .symbol s =>
      match ← request (.symbolKey s) with
      | some u => return .spelled u
      | none => return .undefined
    | _ => throwType "not a symbol"
  | .toString => newText (symbolText (← thisSymbol this))
  | .valueOf | .toPrimitive => return .symbol (← thisSymbol this)
  | .description =>
    match (← thisSymbol this).description with
    | some u => return .spelled u
    | none => return .undefined

end ScriptBridge.Script.Builtins
