import ScriptBridge.Script.Builtin.Object
import ScriptBridge.Script.Builtin.Order

/-!
`Array` and its members.

Every member works on any object with a length: it reads and writes elements through the
operations that all objects answer, in rising order unless its name says otherwise.
-/
namespace ScriptBridge.Script.Builtins

open Text Script

variable {ρ α β : Type}

/-! ### Walking -/

/-- Does `f` for `count` positions from `i` on. -/
def eachIndex (f : Nat → Script ρ Unit) : Nat → Nat → Script ρ Unit
  | 0, _ => pure ()
  | n + 1, i => do
    f i
    eachIndex f n (i + 1)

/-- The first result among `count` positions from `i` on. -/
def firstIndex (f : Nat → Script ρ (Option β)) : Nat → Nat → Script ρ (Option β)
  | 0, _ => pure none
  | n + 1, i => do
    match ← f i with
    | some b => return some b
    | none => firstIndex f n (i + 1)

/-- The last result among the positions below `n`. -/
def lastIndex (f : Nat → Script ρ (Option β)) : Nat → Script ρ (Option β)
  | 0 => pure none
  | n + 1 => do
    match ← f n with
    | some b => return some b
    | none => lastIndex f n

def ifPresent (r : Ref) (i : Nat) (f : Value → Script ρ Unit) : Script ρ Unit := do
  let k := Key.ofInt i
  if ← r.has k then f (← r.get k)

def setLength (r : Ref) (n : Nat) : Script ρ Unit := r.set lengthKey (.ofNat n)

def deleteIndex (r : Ref) (i : Nat) : Script ρ Unit := do
  if !(← r.delete (Key.ofInt i)) then refuse .notDeletable

/-- Moves one element, or the hole in its place. -/
def moveElement (r : Ref) (from_ goal : Nat) : Script ρ Unit := do
  let k := Key.ofInt from_
  if ← r.has k then r.set (Key.ofInt goal) (← r.get k) else deleteIndex r goal

/-- The element at a position, `undefined` where there is none. -/
def element (r : Ref) (i : Nat) : Script ρ Value := do
  let k := Key.ofInt i
  if ← r.has k then r.get k else return .undefined

def elements (r : Ref) (positions : List Nat) : Script ρ (List Value) := mapEach (element r) positions

/-- An array of its own, for the methods that leave their receiver as it is. -/
def checkCopyLength (n : Int) : Script ρ Unit := do
  if n > 2147483647 then throwRange "Invalid array length"

/-- The length that an object grows to, which stays a safe integer. -/
def checkGrowth (n : Int) : Script ρ Unit := do
  if n > 9007199254740991 then throwType "Array loo long"

/-! ### Results -/

/-- The object that results of a method of `r` go into. -/
def speciesArray (r : Ref) (length : Nat) : Script ρ Ref := do
  if !(← isArray (.object r)) then return ← newArrayOfLength length
  let c ← r.getNamed "constructor"
  let c ← match c with
    | .object cr => do
      let s ← cr.get (.symbol symSpecies)
      pure (if s.isNullish then Value.undefined else s)
    | v => pure v
  if c.isUndefined || Value.strictEq c (Value.native (.array .constructor)) then
    newArrayOfLength length
  else needObject (← constructValue c [.ofNat length])
where
  newArrayOfLength (n : Nat) : Script ρ Ref := do
    if n > 4294967295 then throwRange "invalid array length"
    request (.make (some (.builtin (.object .arrayPrototype))) .array
      [(lengthKey, Property.data (.ofNat n) true false false)])

/-! ### Order -/

def checkComparator (f : Value) : Script ρ Unit := do
  if !f.isUndefined then needFunction f

/-- Sorts in place: first what has an order, then each `undefined`, then holes.  An element that
keeps its place is not written. -/
def sortElements (r : Ref) (f : Value) : Script ρ Unit := do
  let n ← lengthOf r
  let present (i : Nat) : Script ρ (List (Value × Nat)) := do
    let k := Key.ofInt i
    if ← r.has k then return [(← r.get k, i)] else return []
  let items := (← mapEach present (List.range n)).flatten
  let (absent, items) := items.partition (·.1.isUndefined)
  let sorted ← sortPlaced f items
  sorted.zipIdx |> forEach fun x => do
    if x.1.2 != x.2 then r.set (Key.ofInt x.2) x.1.1
  let count := sorted.length
  eachIndex (fun i => r.set (Key.ofInt i) .undefined) absent.length count
  let filled := count + absent.length
  eachIndex (deleteIndex r) (n - filled) filled

/-! ### Joining and flattening -/

/-- Texts of the elements with a separator between them, a comma unless one is given. -/
def joinElements (r : Ref) (separator : Value) (local_ : Bool) : Script ρ Units := do
  let n ← lengthOf r
  let sep ← if separator.isUndefined then pure [44] else toUnits separator
  let text (i : Nat) : Script ρ Units := do
    let v ← r.get (Key.ofInt i)
    if v.isNullish then return []
    if local_ then toUnits (← invoke v "toLocaleString" []) else toUnits v
  return Units.join sep (← mapEach text (List.range n))

/-- Appends the elements of `r` to `target` from `at_` on, and in their place the elements of those
that are arrays themselves, down to `depth`; gives the position behind the last. -/
def flattenInto (n : Nat) (target : Ref) (visit : Nat → Value → Script ρ Value) (depth : Int)
    (r : Ref) (at_ length : Nat) : Script ρ Nat :=
  match n with
  | 0 => throwDeep
  | n + 1 => do
    let add (at_ i : Nat) : Script ρ Nat := do
      let k := Key.ofInt i
      if !(← r.has k) then return at_
      let v ← visit i (← r.get k)
      match v, ← (if depth > 0 then isArray v else pure false) with
      | .object inner, true =>
        flattenInto n target (fun _ v => pure v) (depth - 1) inner at_ (← lengthOf inner)
      | v, _ =>
        target.create (Key.ofInt at_) v
        return at_ + 1
    foldEach add at_ (List.range length)

/-- Does `concat` spread this value? -/
def isSpreadable (v : Value) : Script ρ Bool := do
  match v with
  | .object r =>
    match ← r.get (.symbol symConcatSpreadable) with
    | .undefined => isArray v
    | s => return s.truthy
  | _ => return false

def concatAll (r : Ref) (items : List Value) : Script ρ Value := do
  let result ← speciesArray r 0
  let add (n : Nat) (v : Value) : Script ρ Nat := do
    match v, ← isSpreadable v with
    | .object source, true =>
      let count ← lengthOf source
      checkGrowth (n + count)
      eachIndex (fun i => ifPresent source i fun x => result.create (Key.ofInt (n + i)) x) count 0
      return n + count
    | v, _ =>
      result.create (Key.ofInt n) v
      return n + 1
  let n ← foldEach add 0 items
  setLength result n
  return .object result

/-! ### Splicing -/

structure SpliceRange where
  start : Nat
  count : Nat
  length : Nat

def spliceRange (r : Ref) (args : List Value) : Script ρ SpliceRange := do
  let length ← lengthOf r
  let start ← toPosition (arg args 0) length 0
  let count ← match args.length with
    | 0 => pure 0
    | 1 => pure (length - start)
    | _ => do
      let n ← toInteger (arg args 1)
      pure (min n.toNat (length - start))
  return ⟨start, count, length⟩

def splice (r : Ref) (args : List Value) : Script ρ Value := do
  let s ← spliceRange r args
  let items := args.drop 2
  checkGrowth (s.length + items.length - s.count)
  let removed ← speciesArray r s.count
  eachIndex (fun i => ifPresent r (s.start + i) fun v => removed.create (Key.ofInt i) v) s.count 0
  setLength removed s.count
  let tail := s.length - s.start - s.count
  if items.length < s.count then
    eachIndex (fun i => moveElement r (s.start + s.count + i) (s.start + items.length + i)) tail 0
    let newLength := s.length - s.count + items.length
    eachIndex (fun i => deleteIndex r (s.length - 1 - i)) (s.length - newLength) 0
  else if items.length > s.count then
    eachIndex (fun i =>
      moveElement r (s.start + s.count + (tail - 1 - i)) (s.start + items.length + (tail - 1 - i))) tail 0
  items.zipIdx |> forEach fun x => r.set (Key.ofInt (s.start + x.2)) x.1
  setLength r (s.length - s.count + items.length)
  return .object removed

/-! ### Construction -/

def newArrayFor (newTarget : Option Ref) : Script ρ Ref := do
  let proto ← match newTarget with
    | some t => prototypeOf t .arrayPrototype
    | none => pure (.builtin (.object .arrayPrototype))
  request (.make (some proto) .array [(lengthKey, Property.data (.int 0) true false false)])

def constructArray (args : List Value) (newTarget : Option Ref) : Script ρ Value := do
  let r ← newArrayFor newTarget
  match args with
  | [v] =>
    match v.float? with
    | some _ =>
      match lengthOf? v with
      | some n => setLength r n
      | none => throwRange "invalid array length"
    | none => r.create (.index 0) v
  | items => items.zipIdx |> forEach fun x => r.create (.index x.2) x.1
  return .object r

/-- A new object of the receiver's making, for functions called on constructors. -/
def madeBy (this : Value) (args : List Value) : Script ρ Ref := do
  if ← isConstructor this then needObject (← constructValue this args)
  else
    match ← constructArray args none with
    | .object r => return r
    | _ => throwDeep

def fromItems (this source f thisArg : Value) : Script ρ Value := do
  if !f.isUndefined then needFunction f
  let mapped (v : Value) (i : Nat) : Script ρ Value := do
    if f.isUndefined then return v else callValue f thisArg [v, .ofNat i]
  let method ← getMember source (.symbol symIterator)
  if !method.isNullish then
    if !(← isCallable method) then throwType "value is not iterable"
    let r ← madeBy this []
    let it ← Iteration.ofIterator (← iteratorWith method source)
    let n ← it.foldAll (fun _ i v => do
      r.create (Key.ofInt i) (← mapped v i)
      return i + 1) 0
    setLength r n
    return .object r
  else
    let s ← toObject source
    let n ← lengthOf s
    let r ← madeBy this [.ofNat n]
    eachIndex (fun i => do
      r.create (Key.ofInt i) (← mapped (← s.get (Key.ofInt i)) i)) n 0
    setLength r n
    return .object r

/-! ### Reducing -/

def reduce (r : Ref) (args : List Value) (backwards : Bool) : Script ρ Value := do
  let f := arg args 0
  let n ← lengthOf r
  needFunction f
  let order := if backwards then (List.range n).reverse else List.range n
  let step (acc : Option Value) (i : Nat) : Script ρ (Option Value) := do
    let k := Key.ofInt i
    if !(← r.has k) then return acc
    let v ← r.get k
    match acc with
    | none => return some v
    | some a => return some (← callValue f .undefined [a, v, .ofNat i, .object r])
  let start := if args.length > 1 then some (arg args 1) else none
  match ← foldEach step start order with
  | some v => return v
  | none => throwType "empty array"

/-! ### All members -/

def newArrayIterator (this : Value) (kind : IterationKind) : Script ρ Value := do
  let r ← toObject this
  return .object (← request (.make (some (.builtin (.object .arrayIteratorPrototype)))
    (.arrayIterator (some r) 0 kind) []))

/-- Members that call a function for each element. -/
def visitElements (f : ArrayFn) (r : Ref) (args : List Value) : Script ρ Value := do
  let fn := arg args 0
  let thisArg := arg args 1
  let n ← lengthOf r
  needFunction fn
  let ask (i : Nat) (v : Value) : Script ρ Value := callValue fn thisArg [v, .ofNat i, .object r]
  match f with
  | .forEach =>
    eachIndex (fun i => ifPresent r i fun v => discard (ask i v)) n 0
    return .undefined
  | .map =>
    let result ← speciesArray r n
    eachIndex (fun i => ifPresent r i fun v => do result.create (Key.ofInt i) (← ask i v)) n 0
    return .object result
  | .filter =>
    let result ← speciesArray r 0
    let keep (count i : Nat) : Script ρ Nat := do
      let k := Key.ofInt i
      if !(← r.has k) then return count
      let v ← r.get k
      if (← ask i v).truthy then
        result.create (Key.ofInt count) v
        return count + 1
      else return count
    discard (foldEach keep 0 (List.range n))
    return .object result
  | .every =>
    let failed ← firstIndex (fun i => do
      if !(← r.has (Key.ofInt i)) then return none
      if (← ask i (← r.get (Key.ofInt i))).truthy then return none else return some ()) n 0
    return .bool failed.isNone
  | .some =>
    let found ← firstIndex (fun i => do
      if !(← r.has (Key.ofInt i)) then return none
      if (← ask i (← r.get (Key.ofInt i))).truthy then return some () else return none) n 0
    return .bool found.isSome
  | _ =>
    let test (i : Nat) : Script ρ (Option (Nat × Value)) := do
      let v ← r.get (Key.ofInt i)
      if (← ask i v).truthy then return some (i, v) else return none
    let found ← if f == .findLast || f == .findLastIndex then lastIndex test n else firstIndex test n 0
    match f == .find || f == .findLast, found with
    | true, some (_, v) => return v
    | true, none => return .undefined
    | false, some (i, _) => return .ofNat i
    | false, none => return .int (-1)

/-- Where a search starts; nothing is asked for when there is nothing to search. -/
def searchStart (args : List Value) (n : Nat) : Script ρ Nat :=
  if n == 0 then pure 0 else toPosition (arg args 1) n 0

def arrayMember (f : ArrayFn) (r : Ref) (args : List Value) : Script ρ Value := do
  let a := arg args 0
  match f with
  | .at =>
    let n ← lengthOf r
    let i ← toInteger a
    let i := if i < 0 then i + n else i
    if i < 0 || i ≥ n then return .undefined else r.get (Key.ofInt i)
  | .withItem =>
    let n ← lengthOf r
    let i ← toWord64 a
    let i := if i < 0 then i + n else i
    if i < 0 || i ≥ n then throwRange ("invalid array index: " ++ toString i)
    checkCopyLength n
    let before ← elements r (List.range i.toNat)
    let behind ← elements r (List.range' (i.toNat + 1) (n - i.toNat - 1))
    return .object (← newArray (before ++ arg args 1 :: behind))
  | .concat => concatAll r (.object r :: args)
  | .reduce => reduce r args false
  | .reduceRight => reduce r args true
  | .fill =>
    let n ← lengthOf r
    let start ← toPosition (arg args 1) n 0
    let stop ← toPosition (arg args 2) n n
    eachIndex (fun i => r.set (Key.ofInt i) a) (stop - start) start
    return .object r
  | .indexOf =>
    let n ← lengthOf r
    let start ← searchStart args n
    let found ← firstIndex (fun i => do
      if !(← r.has (Key.ofInt i)) then return none
      return if Value.strictEq a (← r.get (Key.ofInt i)) then some i else none) (n - start) start
    return match found with
      | some i => .ofNat i
      | none => .int (-1)
  | .lastIndexOf =>
    let n ← lengthOf r
    let stop ← if n > 0 && args.length > 1 then do
        let i ← toInteger (arg args 1)
        pure (if i < 0 then (i + n + 1).toNat else min (i.toNat + 1) n)
      else pure n
    let found ← lastIndex (fun i => do
      if !(← r.has (Key.ofInt i)) then return none
      return if Value.strictEq a (← r.get (Key.ofInt i)) then some i else none) stop
    return match found with
      | some i => .ofNat i
      | none => .int (-1)
  | .includes =>
    let n ← lengthOf r
    let start ← searchStart args n
    let found ← firstIndex (fun i => do
      return if Value.same true a (← r.get (Key.ofInt i)) then some () else none) (n - start) start
    return .bool found.isSome
  | .join => newText (← joinElements r a false)
  | .toString =>
    let join ← r.getNamed "join"
    if ← isCallable join then callValue join (.object r) []
    else newText (← toStringTag (.object r))
  | .toLocaleString => newText (← joinElements r .undefined true)
  | .pop =>
    let n ← lengthOf r
    if n == 0 then
      setLength r 0
      return .undefined
    let v ← r.get (Key.ofInt (n - 1))
    deleteIndex r (n - 1)
    setLength r (n - 1)
    return v
  | .push =>
    let n ← lengthOf r
    checkGrowth (n + args.length)
    args.zipIdx |> forEach fun x => r.set (Key.ofInt (n + x.2)) x.1
    setLength r (n + args.length)
    return .ofNat (n + args.length)
  | .shift =>
    let n ← lengthOf r
    if n == 0 then
      setLength r 0
      return .undefined
    let v ← r.get (.index 0)
    eachIndex (fun i => moveElement r i (i - 1)) (n - 1) 1
    deleteIndex r (n - 1)
    setLength r (n - 1)
    return v
  | .unshift =>
    let n ← lengthOf r
    checkGrowth (n + args.length)
    if !args.isEmpty then
      eachIndex (fun i => moveElement r (n - 1 - i) (n - 1 - i + args.length)) n 0
      args.zipIdx |> forEach fun x => r.set (Key.ofInt x.2) x.1
    setLength r (n + args.length)
    return .ofNat (n + args.length)
  | .reverse =>
    let n ← lengthOf r
    eachIndex (fun i => do
      let low := Key.ofInt i
      let high := Key.ofInt (n - 1 - i)
      let hasLow ← r.has low
      let x ← if hasLow then r.get low else pure .undefined
      let hasHigh ← r.has high
      let y ← if hasHigh then r.get high else pure .undefined
      if hasHigh then r.set low y else if hasLow then deleteIndex r i
      if hasLow then r.set high x else if hasHigh then deleteIndex r (n - 1 - i)) (n / 2) 0
    return .object r
  | .toReversed =>
    let n ← lengthOf r
    checkCopyLength n
    return .object (← newArray (← elements r (List.range n).reverse))
  | .sort =>
    checkComparator a
    sortElements r a
    return .object r
  | .toSorted =>
    checkComparator a
    let n ← lengthOf r
    checkCopyLength n
    let sorted ← newArray (← elements r (List.range n))
    sortElements sorted a
    return .object sorted
  | .slice =>
    let n ← lengthOf r
    let start ← toPosition a n 0
    let stop ← toPosition (arg args 1) n n
    let result ← speciesArray r (stop - start)
    eachIndex (fun i => ifPresent r i fun v => result.create (Key.ofInt (i - start)) v) (stop - start) start
    setLength result (stop - start)
    return .object result
  | .splice => splice r args
  | .toSpliced =>
    let s ← spliceRange r args
    let items := args.drop 2
    let n : Int := s.length + items.length - s.count
    if n > 9007199254740991 then throwType "invalid array length"
    checkCopyLength n
    let before ← elements r (List.range s.start)
    let next := s.start + s.count
    let behind ← elements r (List.range' next (s.length - next))
    return .object (← newArray (before ++ items ++ behind))
  | .copyWithin =>
    let n ← lengthOf r
    let goal ← toPosition a n 0
    let from_ ← toPosition (arg args 1) n 0
    let stop ← toPosition (arg args 2) n n
    let count := min (stop - from_) (n - goal)
    if from_ < goal && goal < from_ + count then
      eachIndex (fun i => moveElement r (from_ + (count - 1 - i)) (goal + (count - 1 - i))) count 0
    else eachIndex (fun i => moveElement r (from_ + i) (goal + i)) count 0
    return .object r
  | .flat =>
    let n ← lengthOf r
    let depth ← if a.isUndefined then pure 1 else toInteger a
    let result ← speciesArray r 0
    discard (flattenInto chainLimit result (fun _ v => pure v) depth r 0 n)
    return .object result
  | .flatMap =>
    let n ← lengthOf r
    needFunction a
    let result ← speciesArray r 0
    discard (flattenInto chainLimit result
      (fun i v => callValue a (arg args 1) [v, .ofNat i, .object r]) 1 r 0 n)
    return .object result
  | f => visitElements f r args

def arrayCall (f : ArrayFn) (this : Value) (args : List Value) (newTarget : Option Ref) :
    Script ρ Value := do
  match f with
  | .constructor => constructArray args newTarget
  | .isArray => return .bool (← isArray (arg args 0))
  | .ofItems =>
    let r ← madeBy this [.ofNat args.length]
    args.zipIdx |> forEach fun x => r.create (Key.ofInt x.2) x.1
    setLength r args.length
    return .object r
  | .fromItems => fromItems this (arg args 0) (arg args 1) (arg args 2)
  | .species => return this
  | .values => newArrayIterator this .values
  | .keys => newArrayIterator this .keys
  | .entries => newArrayIterator this .entries
  | f => arrayMember f (← toObject this) args

end ScriptBridge.Script.Builtins
