import ScriptBridge.Script.Builtin.Catalog
import ScriptBridge.Script.Request

/-!
The engine: the heap and what else a running script can change, and the answers to every
request that needs neither another script nor the host.

`Engine.answer` is the only place where the heap changes.  Objects of kind `host` are made by
`Engine.allocate` alone, and no request of a script makes one or turns one into another.
-/
namespace ScriptBridge.Script

open Data Text

structure Engine where
  nodes : NatMap Node
  next : NodeId
  /-- built-in objects that a script has changed -/
  patched : List (Builtin × Obj)
  /-- global `let`, `const` and `class` -/
  lexical : List (Name × NodeId × Bool)
  nextSymbol : Nat
  /-- symbols that are shared by key -/
  shared : List (Units × Symbol)
  /-- how each suspended activation goes on -/
  suspended : NatMap (Resumption → Prog Value)
  jobs : List Job
  modules : NatMap ModuleRecord
  nextModule : Nat
  nextMark : Mark

namespace Engine

def fresh : Engine :=
  ⟨.empty, 0, [], [], firstFreeSymbol, [], .empty, [], .empty, 0, 1⟩

/-! ### Objects -/

def obj (e : Engine) : Ref → Obj
  | .builtin b =>
    match e.patched.lookup b with
    | some o => o
    | none => b.initial
  | .made n =>
    match e.nodes.get? n with
    | some (.object o) => o
    | _ => default

def replacePatch (b : Builtin) (o : Obj) : List (Builtin × Obj) → List (Builtin × Obj)
  | [] => [(b, o)]
  | e :: rest => if e.1 == b then (b, o) :: rest else e :: replacePatch b o rest

/-- Replaces an object; one that is gone stays gone. -/
def setObj (e : Engine) (r : Ref) (o : Obj) : Engine :=
  match r with
  | .builtin b => { e with patched := replacePatch b o e.patched }
  | .made n =>
    match e.nodes.get? n with
    | some (.object _) => { e with nodes := e.nodes.insert n (.object o) }
    | _ => e

/-- Places a node on the heap. -/
def allocate (e : Engine) (n : Node) : NodeId × Engine :=
  (e.next, { e with nodes := e.nodes.insert e.next n, next := e.next + 1 })

def allocateObj (e : Engine) (o : Obj) : Ref × Engine :=
  let (n, e) := e.allocate (.object o)
  (.made n, e)

def prototypeKey : Key := .name (Units.ofString "prototype")

/-- The object that a function's `prototype` becomes when somebody looks. -/
def prototypeFor (r : Ref) (o : Obj) : Obj :=
  let plain (proto : BuiltinObject) (members : List (Key × Property)) : Obj :=
    { proto := some (.builtin (.object proto)), extensible := true, kind := .script .ordinary
      elements := .empty, members := members }
  match o.kind with
  | .script (.closure c) =>
    if c.code.info.isGenerator then
      plain (if c.code.info.isAsync then .asyncGeneratorPrototype else .generatorPrototype) []
    else plain .objectPrototype [(Key.ofString "constructor", .hidden (.object r))]
  | _ => plain .objectPrototype [(Key.ofString "constructor", .hidden (.object r))]

def readCell (e : Engine) (c : NodeId) : Option Value :=
  match e.nodes.get? c with
  | some (.cell v) => v
  | _ => none

def writeCell (e : Engine) (c : NodeId) (v : Option Value) : Engine :=
  match e.nodes.get? c with
  | some (.cell _) => { e with nodes := e.nodes.insert c (.cell v) }
  | _ => e

/-- The variable that an element of an arguments object is one with. -/
def sharedCell (o : Obj) (k : Key) : Option NodeId :=
  match o.kind, k with
  | .script (.arguments shared), .index n => shared.lookup n
  | _, _ => none

/-- An element that is one with a variable has the value of the variable. -/
def withShared (e : Engine) (o : Obj) (k : Key) (p : Property) : Property :=
  match sharedCell o k, p with
  | some c, .data _ w en co => .data ((e.readCell c).getD .undefined) w en co
  | _, p => p

/-- The object with an element of its own under `k`. -/
def unshare (o : Obj) (k : Key) : Obj :=
  match o.kind, k with
  | .script (.arguments shared), .index n =>
    { o with kind := .script (.arguments (shared.filter fun s => s.1 != n)) }
  | _, _ => o

/-- Own property under `k`; a pending prototype is made on the way. -/
def own (e : Engine) (r : Ref) (k : Key) : Option Property × Engine :=
  let o := e.obj r
  match o.find? k with
  | some .pendingPrototype =>
    let (p, e) := e.allocateObj (prototypeFor r o)
    let property := Property.data (.object p) true false false
    (some property, e.setObj r (o.put k property))
  | some p => (some (e.withShared o k p), e)
  | none => (none, e)

/-- The number of elements that an array object shows. -/
def arrayLength (o : Obj) : Nat × Bool :=
  match o.find? (.name (Units.ofString "length")) with
  | some (.data v w _ _) =>
    match v with
    | .int i => (i.toInt.toNat, w)
    | .double x => (((Number.whole? x).getD 0).toNat, w)
    | _ => (0, w)
  | _ => (0, false)

/-- Removes elements from `length` on, the last first, up to one that must stay. -/
def truncateElements (length : Nat) (elements : NatMap Property) :
    List (Nat × Property) → NatMap Property × Nat
  | [] => (elements, length)
  | (i, p) :: rest =>
    if i < length then (elements, length)
    else if p.configurable then truncateElements length (elements.erase i) rest
    else (elements, i + 1)

def lengthNat (v : Value) : Option Nat :=
  match v with
  | .int i => some i.toInt.toNat
  | .double x => (Number.whole? x).map Int.toNat
  | _ => none

/-- Changes the length of an array, within what its properties allow. -/
def defineLength (e : Engine) (r : Ref) (o : Obj) (k : Key) (c : Change) (p : Property) :
    Bool × Engine :=
  match c.value.bind lengthNat with
  | some wanted =>
    let (current, _) := arrayLength o
    if current ≤ wanted then (true, e.setObj r (o.put k (c.applyTo p)))
    else
      let (elements, reached) := truncateElements wanted o.elements o.elements.toList.reverse
      let c := { c with value := some (.ofNat reached) }
      (reached == wanted, e.setObj r ({ o with elements := elements }.put k (c.applyTo p)))
  | none => (true, e.setObj r (o.put k (c.applyTo p)))

def isArrayKind : Kind → Bool
  | .script .array => true
  | _ => false

/-- Adds an element to an array and keeps its length above every index. -/
def addElement (e : Engine) (r : Ref) (o : Obj) (n : Nat) (p : Property) : Bool × Engine :=
  let (length, writable) := arrayLength o
  if n < length then (true, e.setObj r (o.put (.index n) p))
  else if !writable then (false, e)
  else
    let o := (o.put (.index n) p).put (.name (Units.ofString "length"))
      (.data (.ofNat (n + 1)) true false false)
    (true, e.setObj r o)

/-- Puts a changed property in place.  A shared element hands its value on to the variable, and
stops being shared when it can no longer be assigned. -/
def update (e : Engine) (r : Ref) (o : Obj) (k : Key) (p : Property) : Engine :=
  match sharedCell o k, p with
  | some c, .data v true en co =>
    (e.setObj r (o.put k (.data .undefined true en co))).writeCell c (some v)
  | some c, .data v false en co =>
    (e.setObj r ((unshare o k).put k (.data v false en co))).writeCell c (some v)
  | _, p => e.setObj r ((unshare o k).put k p)

/-- Defines an own property, when object and property admit it. -/
def define (e : Engine) (r : Ref) (k : Key) (c : Change) : Bool × Engine :=
  let (found, e) := e.own r k
  let o := e.obj r
  match found with
  | some p =>
    if !c.admits p then (false, e)
    else if isArrayKind o.kind && k == .name (Units.ofString "length") then e.defineLength r o k c p
    else (true, e.update r o k (c.applyTo p))
  | none =>
    if !o.extensible && !k.isSecret then (false, e)
    else
      match isArrayKind o.kind, k with
      | true, .index n => e.addElement r o n c.toProperty
      | _, _ => (true, e.setObj r (o.put k c.toProperty))

def delete (e : Engine) (r : Ref) (k : Key) : Bool × Engine :=
  let o := e.obj r
  match o.find? k with
  | some p =>
    match p with
    | .pendingPrototype => (false, e)
    | p => if p.configurable then (true, e.setObj r ((unshare o k).remove k)) else (false, e)
  | none => (true, e)

/-- Is `target` among the ancestors of `r`, itself included? -/
def descends (e : Engine) (target : Ref) : Nat → Option Ref → Bool
  | 0, _ => false
  | _ + 1, none => false
  | n + 1, some r =>
    if r == target then true
    else
      match (e.obj r).kind with
      | .script (.proxy ..) => false
      | _ => e.descends target n (e.obj r).proto

def reparent (e : Engine) (r : Ref) (proto : Option Ref) : Bool × Engine :=
  if e.descends r (e.next + 200) proto then (false, e)
  else (true, e.setObj r { e.obj r with proto := proto })

/-- A new object of a script. -/
def make (e : Engine) (proto : Option Ref) (p : Payload) (members : List (Key × Property)) :
    Ref × Engine :=
  let empty : Obj := ⟨proto, true, .script p, .empty, []⟩
  e.allocateObj (members.foldl (fun o m => o.put m.1 m.2) empty)

/-- Gives an object of a script another inside. -/
def revise (e : Engine) (r : Ref) (p : Payload) : Engine :=
  let o := e.obj r
  match o.kind with
  | .script _ => e.setObj r { o with kind := .script p }
  | .host _ => e

/-! ### Other nodes -/

def readTask (e : Engine) (id : NodeId) : Option Task :=
  match e.nodes.get? id with
  | some (.task t) => some t
  | _ => none

def writeTask (e : Engine) (id : NodeId) (t : Task) : Engine :=
  match e.nodes.get? id with
  | some (.task _) => { e with nodes := e.nodes.insert id (.task t) }
  | _ => e

def findGlobal (e : Engine) (n : Name) : Option (NodeId × Bool) := e.lexical.lookup n

def declareGlobal (e : Engine) (n : Name) (constant : Bool) : NodeId × Engine :=
  let (c, e) := e.allocate (.cell none)
  (c, { e with lexical := e.lexical ++ [(n, c, constant)] })

def newSymbol (e : Engine) (description : Option Units) (secret : Option Secret) : Symbol × Engine :=
  (⟨e.nextSymbol, description, secret⟩, { e with nextSymbol := e.nextSymbol + 1 })

/-- A mark that no value has yet. -/
def newMark (e : Engine) : Mark × Engine := (e.nextMark, { e with nextMark := e.nextMark + 1 })

def symbolFor (e : Engine) (key : Units) : Symbol × Engine :=
  match e.shared.lookup key with
  | some s => (s, e)
  | none =>
    let (s, e) := e.newSymbol (some key) none
    (s, { e with shared := e.shared ++ [(key, s)] })

def symbolKey (e : Engine) (s : Symbol) : Option Units :=
  (e.shared.find? fun x => x.2.id == s.id).map Prod.fst

def findModule (e : Engine) (name : String) : Option Nat :=
  (e.modules.toList.find? fun m => m.2.name == name).map Prod.fst

/-! ### Answers -/

/-- The answer to a request that concerns the engine alone; the others are not its to answer and
leave it as it is. -/
def answer (e : Engine) : (q : Request) → q.Answer × Engine
  | .look r =>
    let o := e.obj r
    (⟨o.proto, o.extensible, o.kind⟩, e)
  | .own r k => e.own r k
  | .keys r => ((e.obj r).keys, e)
  | .define r k c => e.define r k c
  | .delete r k => e.delete r k
  | .reparent r proto => e.reparent r proto
  | .close r => ((), e.setObj r { e.obj r with extensible := false })
  | .make proto p members => e.make proto p members
  | .revise r p => ((), e.revise r p)
  | .newCell v => e.allocate (.cell v)
  | .readCell c => (e.readCell c, e)
  | .writeCell c v => ((), e.writeCell c v)
  | .findGlobal n => (e.findGlobal n, e)
  | .declareGlobal n constant => e.declareGlobal n constant
  | .newSymbol d secret => e.newSymbol d secret
  | .newMark => e.newMark
  | .symbolFor key => e.symbolFor key
  | .symbolKey s => (e.symbolKey s, e)
  | .newTask t => e.allocate (.task t)
  | .readTask id => (e.readTask id, e)
  | .writeTask id t => ((), e.writeTask id t)
  | .enqueue j => ((), { e with jobs := e.jobs ++ [j] })
  | .findModule name => (e.findModule name, e)
  | .addModule m =>
    (e.nextModule, { e with modules := e.modules.insert e.nextModule m, nextModule := e.nextModule + 1 })
  | .readModule id => (e.modules.get? id, e)
  | .writeModule id m => ((), { e with modules := e.modules.insert id m })
  | .dropModule id => ((), { e with modules := e.modules.erase id })
  | .call _ _ _ => (.ok .undefined, e)
  | .construct _ _ _ => (.ok .undefined, e)
  | .suspend _ _ => (.next .undefined, e)
  | .resume _ _ => (.finished .undefined, e)
  | .rejection _ _ _ => ((), e)
  | .resolveName _ name => (.ok name, e)
  | .loadSource _ => (.ok "", e)

end Engine

end ScriptBridge.Script
