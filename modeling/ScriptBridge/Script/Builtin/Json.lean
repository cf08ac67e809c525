import ScriptBridge.Script.Builtin.Array
import ScriptBridge.Script.Builtin.JsonTree

/-!
`JSON`: trees as text and back.

Reading is a function of the text alone and gives a tree, which then becomes objects; writing
asks the objects for their members in order.
-/
namespace ScriptBridge.Script.Builtins

open Text Script

variable {ρ α : Type}

/-! ### Reading -/

/-- The value of a tree. -/
def buildJson (n : Nat) (t : JsonTree) : Script ρ Value :=
  match n with
  | 0 => throwDeep
  | n + 1 => do
    match t with
    | .null => return .null
    | .bool b => return .bool b
    | .number x => return .double x
    | .string u => newText u
    | .array items => return .object (← newArray (← mapEach (fun i => buildJson n i) items))
    | .object members =>
      let r ← newObject []
      members |> forEach fun m => do
        let v ← buildJson n m.2
        r.create (Key.ofUnits m.1) v
      return .object r

/-- Lets a function replace every value, the inner ones first. -/
def reviveJson (n : Nat) (f : Value) (holder : Ref) (k : Key) : Script ρ Value :=
  match n with
  | 0 => throwDeep
  | n + 1 => do
    let v ← holder.get k
    match v with
    | .object r =>
      let keys ← if ← isArray v then do pure ((List.range (← lengthOf r)).map fun (i : Nat) => Key.ofInt i)
        else do
          let keep (k : Key) : Script ρ (List Key) := do
            if k.isSymbol then return []
            match ← r.getOwn k with
            | some p => return if p.enumerable then [k] else []
            | none => return []
          pure (← mapEach keep (← r.ownKeys)).flatten
      keys |> forEach fun k => do
        match ← reviveJson n f r k with
        | .undefined => discard (r.delete k)
        | x => discard (r.defineOwn k (Change.ofProperty (.plain x)))
    | _ => pure ()
    callValue f (.object holder) [.spelled k.units, v]

/-! ### Writing -/

def quotedUnits : Units → Units
  | [] => []
  | u :: rest =>
    if u == 34 then 92 :: 34 :: quotedUnits rest
    else if u == 92 then 92 :: 92 :: quotedUnits rest
    else if u == 8 then 92 :: 98 :: quotedUnits rest
    else if u == 12 then 92 :: 102 :: quotedUnits rest
    else if u == 10 then 92 :: 110 :: quotedUnits rest
    else if u == 13 then 92 :: 114 :: quotedUnits rest
    else if u == 9 then 92 :: 116 :: quotedUnits rest
    else if u < 32 || Units.isLow u then [92, 117] ++ JsonTree.hex4 u.toNat ++ quotedUnits rest
    else if Units.isHigh u then
      match rest with
      | v :: more =>
        if Units.isLow v then u :: v :: quotedUnits more
        else [92, 117] ++ JsonTree.hex4 u.toNat ++ quotedUnits (v :: more)
      | [] => [92, 117] ++ JsonTree.hex4 u.toNat
    else u :: quotedUnits rest

def quoteUnits (u : Units) : Units := 34 :: quotedUnits u ++ [34]

structure JsonStyle where
  replacer : Value
  allowed : Option (List Key)
  gap : Units

/-- The value that is written for a member: `toJSON` and the replacer have their say. -/
def jsonMember (s : JsonStyle) (holder : Ref) (k : Key) (v : Value) : Script ρ Value := do
  let v ← do
    match v with
    | .object _ | .bigint _ _ =>
      let f ← getMemberNamed v "toJSON"
      if ← isCallable f then callValue f v [.spelled k.units] else pure v
    | v => pure v
  let v ← if s.replacer.isUndefined then pure v
    else callValue s.replacer (.object holder) [.spelled k.units, v]
  match v with
  | .object r =>
    match ← payload r with
    | .primitive p =>
      match p with
      | .int _ | .double _ => toNumber v
      | .string _ _ => toText v
      | .bool _ | .bigint _ _ => return p
      | _ => return v
    | _ => return v
  | v => return v

def wrapLines (opening closing : UInt16) (gap indent : Units) (parts : List Units) : Units :=
  if parts.isEmpty then [opening, closing]
  else if gap.isEmpty then opening :: Units.join [44] parts ++ [closing]
  else
    let inner := 10 :: indent ++ gap
    opening :: inner ++ Units.join (44 :: inner) parts ++ (10 :: indent) ++ [closing]

/-- Text of a value, or `none` when it has none. -/
def jsonText (n : Nat) (s : JsonStyle) (indent : Units) (above : List Ref) (v : Value) :
    Script ρ (Option Units) :=
  match n with
  | 0 => throwDeep
  | n + 1 => do
    match v with
    | .null => return some (Units.ofString "null")
    | .bool b => return some (Units.ofString (if b then "true" else "false"))
    | .int i => return some (Units.ofInt i.toInt)
    | .double x => return some (if Number.isFinite x then Numeral.floatUnits x else Units.ofString "null")
    | .string u _ => return some (quoteUnits u)
    | .bigint _ _ => throwType "BigInt are forbidden in JSON.stringify"
    | .undefined | .symbol _ => return none
    | .object r =>
      if ← isCallable v then return none
      if above.contains r then throwType "circular reference"
      let above := r :: above
      let deeper := indent ++ s.gap
      if ← isArray v then
        let item (i : Nat) : Script ρ Units := do
          let k := Key.ofInt i
          let v ← jsonMember s r k (← r.get k)
          return (← jsonText n s deeper above v).getD (Units.ofString "null")
        let parts ← mapEach item (List.range (← lengthOf r))
        return some (wrapLines 91 93 s.gap indent parts)
      else
        let keys ← match s.allowed with
          | some keys => pure keys
          | none => do
            let keep (k : Key) : Script ρ (List Key) := do
              if k.isSymbol then return []
              match ← r.getOwn k with
              | some p => return if p.enumerable then [k] else []
              | none => return []
            pure (← mapEach keep (← r.ownKeys)).flatten
        let member (k : Key) : Script ρ (List Units) := do
          let v ← jsonMember s r k (← r.get k)
          match ← jsonText n s deeper above v with
          | some t =>
            return [quoteUnits k.units ++ (if s.gap.isEmpty then [58] else [58, 32]) ++ t]
          | none => return []
        let parts := (← mapEach member keys).flatten
        return some (wrapLines 123 125 s.gap indent parts)

/-- Keys that a list of names lets through. -/
def allowedKeys (r : Ref) : Script ρ (List Key) := do
  let one (v : Value) : Script ρ (List Key) := do
    match v with
    | .string u _ => return [Key.ofUnits u]
    | .int _ | .double _ => return [Key.ofUnits (← toUnits v)]
    | .object o =>
      match ← payload o with
      | .primitive p =>
        match p with
        | .string _ _ | .int _ | .double _ => return [Key.ofUnits (← toUnits v)]
        | _ => return []
      | _ => return []
    | _ => return []
  return (← mapEach one (← itemsFrom r (← lengthOf r) 0)).flatten.eraseDups

def jsonGap (space : Value) : Script ρ Units := do
  let space ← match space with
    | .object r => do
      match ← payload r with
      | .primitive p =>
        match p with
        | .string _ _ => toText space
        | .int _ | .double _ => toNumber space
        | _ => pure space
      | _ => pure space
    | v => pure v
  match space with
  | .string u _ => return u.take 10
  | v =>
    match v.float? with
    | some _ => do
      let n ← toInteger v
      return List.replicate (min n.toNat 10) 32
    | none => return []

def jsonCall (f : JsonFn) (args : List Value) : Script ρ Value := do
  let a := arg args 0
  let b := arg args 1
  match f with
  | .parse =>
    let u ← toUnits a
    match JsonTree.ofUnits? u with
    | .error message => throwUnits .syntaxError message
    | .ok t =>
      let v ← buildJson (2 * u.length + 2) t
      if ← isCallable b then
        let holder ← newObject [(.name [], .plain v)]
        reviveJson (2 * u.length + 4) b holder (.name [])
      else return v
  | .stringify =>
    let callable ← isCallable b
    let allowed ← match b with
      | .object r => do
        if !callable && (← isArray b) then pure (some (← allowedKeys r)) else pure none
      | _ => pure none
    let gap ← jsonGap (arg args 2)
    let style : JsonStyle := ⟨if callable then b else .undefined, allowed, gap⟩
    let holder ← newObject [(.name [], .plain a)]
    let v ← jsonMember style holder (.name []) a
    match ← jsonText chainLimit style [] [] v with
    | some t => newText t
    | none => return .undefined

end ScriptBridge.Script.Builtins
