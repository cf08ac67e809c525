import ScriptBridge.Script.Eval.Program

/-!
Modules: reading, linking and evaluating.

Reading a module reads what it asks for, depth first.  Linking gives every import the variable
that it stands for.  Evaluation goes through the same graph in the same order and ends with the
promise of the module that was asked for; modules that wait are counted by those that need them.
-/
namespace ScriptBridge.Script

open Text Script

/-- How many modules a walk may meet. -/
def moduleLimit : Nat := 10000

def readModule (id : Nat) : Eval ModuleRecord := do
  match ← request (.readModule id) with
  | some m => return m
  | none => throwReference "module not found"

def updateModule (id : Nat) (f : ModuleRecord → ModuleRecord) : Eval Unit := do
  match ← request (.readModule id) with
  | some m => request (.writeModule id (f m))
  | none => return ()

/-! ### Reading -/

/-- Variables of a module under their names, before any of its text has run. -/
def moduleCells (p : ModuleProgram) : Eval (List (Name × NodeId)) := do
  let cell (v : Option Value) (n : Name) : Eval (Name × NodeId) := do
    return (n, ← request (.newCell v))
  let vars ← mapEach (cell (some .undefined)) p.varNames
  let lexical ← mapEach (cell none) (p.lexical.map LexicalName.name)
  return vars ++ lexical

def linkTo (m : ModuleRecord) (name : String) : Nat := (m.links.lookup name).getD 0

mutual

/-- Reads the text of a module and then the modules that it asks for. -/
def declareModule (n : Nat) (name : String) (source : List Char) : Eval Nat :=
  match n with
  | 0 => throwDeep
  | n + 1 => do
    match ModuleProgram.parse? source with
    | .error f => throwSyntax f
    | .ok p =>
      let cells ← moduleCells p
      let id ← request (.addModule
        { name := name, program := p, resolved := false, links := [], cells := cells, env := []
          namespace_ := none, status := .unlinked, failure := none, promise := none
          resolve := .undefined, reject := .undefined, place := 0, lowest := 0, root := 0, turn := none
          waitingFor := 0, parents := [] })
      try resolveModule n id
      catch e =>
        request (.dropModule id)
        throwValue e
      return id
termination_by structural n

/-- Finds the modules that a module asks for. -/
def resolveModule (n : Nat) (id : Nat) : Eval Unit :=
  match n with
  | 0 => throwDeep
  | n + 1 => do
    let m ← readModule id
    if m.resolved then return ()
    request (.writeModule id { m with resolved := true })
    m.program.requests |> forEach fun r => do
      let target ← importedModule n m.name r
      updateModule id fun m => { m with links := m.links ++ [(r, target)] }
      resolveModule n target
termination_by structural n

/-- The module that `name` means in `base`: known already, or read now. -/
def importedModule (n : Nat) (base name : String) : Eval Nat :=
  match n with
  | 0 => throwDeep
  | n + 1 => do
    let path ← orThrow (← request (.resolveName base name))
    match ← request (.findModule path) with
    | some id => return id
    | none =>
      let source ← orThrow (← request (.loadSource path))
      declareModule n path source.toList
termination_by structural n

end

/-! ### Exports -/

/-- What an exported name stands for. -/
inductive Resolved where
  | cell (module : Nat) (n : Name)
  | namespaceOf (module : Nat)
  | missing | circular | ambiguous
  deriving Repr, DecidableEq

def findExport (name : Name) : List ExportBinding → Option ExportBinding
  | [] => none
  | e :: rest => if exportedName e == some name then some e else findExport name rest

/-- Joins what two `export *` clauses found. -/
def joinResolved (a b : Resolved) : Resolved :=
  match a, b with
  | .ambiguous, _ | _, .ambiguous => .ambiguous
  | .missing, b => b
  | .circular, .missing => .circular
  | .circular, b => b
  | a, .missing | a, .circular => a
  | a, b => if a == b then a else .ambiguous

def resolveExport? (n : Nat) (id : Nat) (name : Name) (seen : List (Nat × Name)) : Eval Resolved :=
  match n with
  | 0 => throwDeep
  | n + 1 => do
    if seen.contains (id, name) then return .circular
    let seen := (id, name) :: seen
    let m ← readModule id
    match findExport name m.program.exports with
    | some (.fromLocal _ local_) => return .cell id local_
    | some (.indirect _ r imported) => resolveExport? n (linkTo m r) imported seen
    | some (.namespaceOf _ r) => return .namespaceOf (linkTo m r)
    | _ =>
      if name == "default" then return .missing
      let star (found : Resolved) (e : ExportBinding) : Eval Resolved := do
        match e with
        | .star r => return joinResolved found (← resolveExport? n (linkTo m r) name seen)
        | _ => return found
      foldEach star .missing m.program.exports

/-- The exported names of a module, without the default of modules that it passes on. -/
def exportNames (n : Nat) (id : Nat) (seen : List Nat) : Eval (List Name) :=
  match n with
  | 0 => throwDeep
  | n + 1 => do
    if seen.contains id then return []
    let m ← readModule id
    let names (e : ExportBinding) : Eval (List Name) := do
      match e with
      | .star r => return (← exportNames n (linkTo m r) (id :: seen)).filter (· != "default")
      | e => return (exportedName e).toList
    return (← mapEach names m.program.exports).flatten.eraseDups

def exportFault {α : Type} (module : Nat) (name : Name) (r : Resolved) : Eval α := do
  let m ← readModule module
  let place := Units.shownName name ++ "' in module '" ++ Units.shownName m.name ++ "'"
  match r with
  | .circular => throwWorded .syntaxError ("circular reference when looking for export '" ++ place)
  | .ambiguous => throwWorded .syntaxError ("export '" ++ place ++ " is ambiguous")
  | _ => throwWorded .syntaxError ("Could not find export '" ++ place)

/-! ### Namespaces -/

/-- Puts a member where its name belongs in the order of names. -/
def insertByName (x : Units × NodeId) : List (Units × NodeId) → List (Units × NodeId)
  | [] => [x]
  | y :: rest => if Units.lt x.1 y.1 then x :: y :: rest else y :: insertByName x rest

def makeNamespace (members : List (Units × NodeId)) : Eval Ref := do
  let r ← request (.make none (.namespace (members.foldl (fun l x => insertByName x l) []))
    [(.symbol symToStringTag, .fixed (Value.text "Module"))])
  request (.close r)
  return r

/-- The namespace object of a module; names that lead nowhere are left out. -/
def namespaceObject (n : Nat) (id : Nat) : Eval Ref :=
  match n with
  | 0 => throwDeep
  | n + 1 => do
    let m ← readModule id
    match m.namespace_ with
    | some r => return r
    | none =>
      let member (name : Name) : Eval (List (Units × NodeId)) := do
        match ← resolveExport? moduleLimit id name [] with
        | .cell target local_ =>
          match (← readModule target).cells.lookup local_ with
          | some c => return [(Units.ofString name, c)]
          | none => return []
        | .namespaceOf target =>
          let r ← namespaceObject n target
          let c ← request (.newCell (some (.object r)))
          return [(Units.ofString name, c)]
        | _ => return []
      let r ← makeNamespace (← mapEach member (← exportNames moduleLimit id [])).flatten
      updateModule id fun m => { m with namespace_ := some r }
      return r

/-! ### Linking -/

def ownBindings (p : ModuleProgram) (cells : List (Name × NodeId)) : Env :=
  cells.map fun c =>
    let constant := p.lexical.any fun l => l.name == c.1 && l.constant
    .variable c.1 c.2 (if constant then .constant else .mutable)

def bindImports (id : Nat) (m : ModuleRecord) : List ImportBinding → Eval Env
  | [] => pure []
  | i :: rest => do
    let target := linkTo m i.request
    let cell ← match i.imported with
      | none => do
        let r ← namespaceObject moduleLimit target
        request (.newCell (some (.object r)))
      | some name => do
        match ← resolveExport? moduleLimit target name [] with
        | .cell module local_ =>
          match (← readModule module).cells.lookup local_ with
          | some c => pure c
          | none => exportFault target name .missing
        | .namespaceOf module =>
          let r ← namespaceObject moduleLimit module
          request (.newCell (some (.object r)))
        | r => exportFault target name r
    return .variable i.localName cell .constant :: (← bindImports id m rest)

def checkIndirect (id : Nat) (m : ModuleRecord) : List ExportBinding → Eval Unit
  | [] => pure ()
  | .indirect exported _ _ :: rest => do
    match ← resolveExport? moduleLimit id exported [] with
    | .cell .. | .namespaceOf _ => pure ()
    | r => exportFault id exported r
    checkIndirect id m rest
  | _ :: rest => checkIndirect id m rest

def moduleFrame (m : ModuleRecord) (task : Option NodeId) (leave : Value → Prog Value) : Frame :=
  { env := m.env, scope := m.env, strict := true, origin := m.name, isAsync := true
    isGenerator := false, task := task, held := [], result := none, leave := leave }

/-- Binds the names of a module and makes its functions. -/
def linkOne (id : Nat) : Eval Unit := do
  let m ← readModule id
  checkIndirect id m m.program.exports
  let imports ← bindImports id m m.program.imports
  let this ← request (.newCell (some .undefined))
  let about ← request (.make none .ordinary [])
  let aboutCell ← request (.newCell (some (.object about)))
  let env := ownBindings m.program m.cells ++ imports
    ++ [.variable "this" this .constant, .variable "import.meta" aboutCell .constant]
  updateModule id fun m => { m with env := env }
  let m ← readModule id
  hoistFunctions (moduleFrame m none .done) (declaredFunctions m.program.body)

/-- Links a module and those it needs; a failure leaves all of them as they were. -/
def linkModule (n : Nat) (id : Nat) : Eval Unit :=
  match n with
  | 0 => throwDeep
  | n + 1 => do
    let m ← readModule id
    if m.status != .unlinked then return ()
    request (.writeModule id { m with status := .linking })
    try
      m.program.requests |> forEach fun r => linkModule n (linkTo m r)
      linkOne id
    catch e =>
      updateModule id fun m => { m with status := .unlinked }
      throwValue e
    updateModule id fun m => { m with status := .linked }

/-! ### Evaluation -/

/-- The body of a module, as an activation that may wait. -/
def runModuleBody (task : NodeId) (id : Nat) : Eval Value := fun k e =>
  let body : Eval Value := do
    let m ← readModule id
    discard (evaluator.statements (moduleFrame m (some task) k) m.program.body)
    return .undefined
  body k e

/-- Starts the body of a module; the answer is the promise of its end. -/
def startModule (id : Nat) : Eval Ref := do
  let cap ← ownCapability
  let task ← newTask none (some id) false [] cap.resolve cap.reject
  asyncStep task (.next .undefined)
  match cap.promise with
  | .object r => return r
  | _ => throwDeep

/-- Runs a module that does not wait. -/
def runSync (id : Nat) : Eval (Except Value Unit) := do
  match ← promiseData? (← startModule id) with
  | some p =>
    match p.state with
    | .fulfilled _ => return .ok ()
    | .rejected e => return .error e
    | .pending =>
      return .error (.object (← newError .typeError (Units.ofString "promise is pending")))
  | none => return .ok ()

/-- Starts a module that waits; its end is told to the modules that need it. -/
def runAsync (id : Nat) : Eval Unit := do
  let p ← startModule id
  let onFulfilled ← newHelper (.moduleDone id false) 0
  let onRejected ← newHelper (.moduleDone id true) 1
  performThen p (.object onFulfilled) (.object onRejected) .undefined .undefined

/-- The next turn among evaluations that do not end at once; fresh marks tell the order. -/
def nextTurn : Eval Nat := request .newMark

/-- Walk state: the next place, and the modules whose cycle is not closed yet. -/
structure Walk where
  next : Nat
  stack : List Nat

def closeCycle (id : Nat) : List Nat → Eval (List Nat)
  | [] => pure []
  | top :: rest => do
    updateModule top fun m =>
      { m with status := if m.turn.isSome then .waiting else .evaluated, root := id }
    if top == id then return rest else closeCycle id rest

/-- Notes what a module owes to one that it needs and that has been walked through.  A module that
has once waited for another keeps its turn when it has run, and those that need it later wait for
ever; only the turn of a module that waits by itself is over with its body. -/
def countDependency (id target : Nat) : Eval (Except Value Unit) := do
  let t ← readModule target
  let source ← if t.status == .evaluating then do
      updateModule id fun m => { m with lowest := min m.lowest t.lowest }
      pure target
    else pure t.root
  let s ← readModule source
  match s.failure with
  | some e => return .error e
  | none =>
    if s.turn.isSome then
      updateModule id fun m => { m with waitingFor := m.waitingFor + 1 }
      updateModule source fun m => { m with parents := m.parents ++ [id] }
    return .ok ()

def evaluateFrom (n : Nat) (id : Nat) (w : Walk) : Eval (Except Value Unit × Walk) :=
  match n with
  | 0 => throwDeep
  | n + 1 => do
    let m ← readModule id
    match m.status with
    | .waiting | .evaluated =>
      match m.failure with
      | some e => return (.error e, w)
      | none => return (.ok (), w)
    | .evaluating => return (.ok (), w)
    | _ =>
      request (.writeModule id
        { m with status := .evaluating, place := w.next, lowest := w.next, waitingFor := 0 })
      let w : Walk := { next := w.next + 1, stack := id :: w.stack }
      let visit (state : Except Value Unit × Walk) (r : String) : Eval (Except Value Unit × Walk) := do
        match state with
        | (.error e, w) => return (.error e, w)
        | (.ok _, w) =>
          let target := linkTo m r
          let (result, w) ← evaluateFrom n target w
          match result with
          | .error e => return (.error e, w)
          | .ok _ =>
            let failure ← countDependency id target
            return (failure, w)
      let (result, w) ← foldEach visit (.ok (), w) m.program.requests
      match result with
      | .error e => return (.error e, w)
      | .ok _ =>
        let now ← readModule id
        let ran ← do
          if now.waitingFor > 0 then
            let turn ← nextTurn
            updateModule id fun m => { m with turn := some turn }
            pure (Except.ok ())
          else if m.program.awaits then
            let turn ← nextTurn
            updateModule id fun m => { m with turn := some turn }
            runAsync id
            pure (Except.ok ())
          else runSync id
        match ran with
        | .error e => return (.error e, w)
        | .ok _ =>
          let now ← readModule id
          if now.lowest == now.place then
            let stack ← closeCycle id w.stack
            return (.ok (), { w with stack := stack })
          else return (.ok (), w)

def failAll (id : Nat) (e : Value) : List Nat → Eval Unit
  | [] => pure ()
  | m :: rest => do
    updateModule m fun m => { m with status := .evaluated, failure := some e, root := id }
    failAll id e rest

def settleModule (id : Nat) (result : Except Value Unit) : Eval Unit := do
  let m ← readModule id
  if m.promise.isSome then
    match result with
    | .ok _ => discard (callValue m.resolve .undefined [.undefined])
    | .error e => discard (callValue m.reject .undefined [e])

/-- Evaluates a linked module; the answer is the promise of its evaluation. -/
def evaluateModule (id : Nat) : Eval Ref := do
  let m ← readModule id
  let id := match m.status with
    | .waiting | .evaluated => m.root
    | _ => id
  let m ← readModule id
  match m.promise with
  | some p => return p
  | none =>
    let cap ← ownCapability
    updateModule id fun m =>
      { m with promise := cap.promise.object?, resolve := cap.resolve, reject := cap.reject }
    let (result, w) ← evaluateFrom moduleLimit id ⟨0, []⟩
    match result with
    | .error e =>
      failAll id e w.stack
      settleModule id (.error e)
    | .ok _ =>
      if (← readModule id).turn.isNone then settleModule id (.ok ())
    match cap.promise with
    | .object r => return r
    | _ => throwDeep

/-! ### Modules that wait -/

/-- Parents that nothing else holds back any more. -/
def readyParents (n : Nat) (id : Nat) (found : List Nat) : Eval (List Nat) :=
  match n with
  | 0 => pure found
  | n + 1 => do
    let m ← readModule id
    let visit (found : List Nat) (p : Nat) : Eval (List Nat) := do
      let pm ← readModule p
      let root ← readModule pm.root
      if found.contains p || root.failure.isSome then return found
      updateModule p fun m => { m with waitingFor := m.waitingFor - 1 }
      if pm.waitingFor != 1 then return found
      let found := found ++ [p]
      if pm.program.awaits then return found else readyParents n p found
    foldEach visit found m.parents

def moduleRejected (n : Nat) (id : Nat) (e : Value) : Eval Unit :=
  match n with
  | 0 => pure ()
  | n + 1 => do
    let m ← readModule id
    if m.status == .evaluated then return ()
    request (.writeModule id { m with failure := some e, status := .evaluated })
    m.parents |> forEach fun p => moduleRejected n p e
    settleModule id (.error e)

/-- Puts the module with the earliest turn first. -/
def insertByTurn (x : Nat × Nat) : List (Nat × Nat) → List (Nat × Nat)
  | [] => [x]
  | y :: rest => if x.1 < y.1 then x :: y :: rest else y :: insertByTurn x rest

def sortByTurn (ids : List Nat) : Eval (List Nat) := do
  let turn (i : Nat) : Eval (Nat × Nat) := do
    return ((← readModule i).turn.getD 0, i)
  return ((← mapEach turn ids).foldl (fun l x => insertByTurn x l) []).map Prod.snd

def runReady : List Nat → Eval Unit
  | [] => pure ()
  | id :: rest => do
    let m ← readModule id
    if m.status != .evaluated then
      if m.program.awaits then runAsync id
      else
        match ← runSync id with
        | .error e => moduleRejected moduleLimit id e
        | .ok _ =>
          updateModule id fun m => { m with status := .evaluated }
          settleModule id (.ok ())
    runReady rest

/-- The body of a waiting module has ended. -/
def moduleFulfilled (id : Nat) : Eval Unit := do
  let m ← readModule id
  if m.status == .evaluated then return ()
  request (.writeModule id { m with status := .evaluated, turn := none })
  settleModule id (.ok ())
  runReady (← sortByTurn (← readyParents moduleLimit id []))

/-! ### Modules asked for by scripts -/

/-- Reads, links and evaluates a module for a script that waits for it. -/
def runImport (resolve reject : Value) (base : String) (specifier : Value) : Eval Unit := do
  let load : Eval Unit := do
    let name ← toUnits specifier
    let id ← importedModule moduleLimit base name.toLossy
    resolveModule moduleLimit id
    linkModule moduleLimit id
    let p ← evaluateModule id
    let onFulfilled ← newHelper (.importDone resolve id) 1
    performThen p (.object onFulfilled) reject .undefined .undefined
  try load catch e => discard (callValue reject .undefined [e])

end ScriptBridge.Script
