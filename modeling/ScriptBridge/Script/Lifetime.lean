import ScriptBridge.Script.Engine

/-!
Lifetimes.

A node dies with its last reference.  `Engine.release` removes every node that no chain of last
references holds any more: it counts references and follows the counts down, so what is held
only by a cycle stays.  `Engine.collect` keeps what the roots reach, cycles or not.  Both return
the tokens of the host's objects that died.
-/
namespace ScriptBridge.Script

open Data Text

namespace Engine

/-- What the engine itself refers to. -/
def roots (e : Engine) : List NodeId :=
  e.patched.flatMap (fun p => p.2.nodes)
    ++ e.lexical.map (fun l => l.2.1)
    ++ e.jobs.flatMap Job.nodes
    ++ e.modules.entries.flatMap fun m => m.2.nodes

def countRefs (counts : NatMap Nat) (refs : List NodeId) : NatMap Nat :=
  refs.foldl (fun counts n => counts.insert n ((counts.get? n).getD 0 + 1)) counts

/-- The token of a host object that says when it dies. -/
def Node.token? : Node → Option UInt64
  | .object o =>
    match o.kind with
    | .host (.instance _ token) => some token
    | .host (.wrapped token) => some token
    | _ => none
  | _ => none

/-- A sweep in progress: nodes left, counts, nodes to remove, tokens found so far. -/
structure Sweep where
  nodes : NatMap Node
  suspended : NatMap (Resumption → Prog Value)
  counts : NatMap Nat
  doomed : List NodeId
  tokens : List UInt64
  /-- jobs that deaths have given rise to -/
  jobs : List Job

namespace Sweep

/-- One reference to each of `refs` goes. -/
def dropRefs (s : Sweep) (refs : List NodeId) : Sweep :=
  refs.foldl (fun s n =>
    let c := (s.counts.get? n).getD 0
    let s := { s with counts := s.counts.insert n (c - 1) }
    if c ≤ 1 then { s with doomed := n :: s.doomed } else s) s

/-- Removes doomed nodes until none is left; `fuel` bounds their number. -/
def drain : Nat → Sweep → Sweep
  | 0, s => s
  | fuel + 1, s =>
    match s.doomed with
    | [] => s
    | n :: rest =>
      let s := { s with doomed := rest }
      match s.nodes.get? n with
      | none => drain fuel s
      | some node =>
        let s := { s with nodes := s.nodes.erase n, suspended := s.suspended.erase n }
        let s := match Node.token? node with
          | some t => { s with tokens := t :: s.tokens }
          | none => s
        drain fuel (s.dropRefs node.references)

def isDead (nodes : NatMap Node) : Value → Bool
  | .object (.made n) => !nodes.contains n
  | _ => false

/-- One reference to each of `refs` comes. -/
def addRefs (s : Sweep) (refs : List NodeId) : Sweep := { s with counts := countRefs s.counts refs }

/-- A registry puts a job for each of its dead in the queue and forgets them. -/
def reportDead (s : Sweep) (callback : Ref) (dead : List RegistryEntry) : Sweep :=
  dead.foldl (fun s d =>
    let s := { s with jobs := s.jobs ++ [Job.cleanup callback d.held] }
    (s.addRefs callback.nodes).dropRefs d.token.nodes) s

/-- Entries of weak collections whose key has died lose their value, weak references their target,
and registries report. -/
def purgeWeak (s : Sweep) : Sweep :=
  s.nodes.entries.foldl (fun s e =>
    match e.2 with
    | .object o =>
      match o.kind with
      | .script (.weak isMap items) =>
        let (dead, live) := items.partition fun i => isDead s.nodes i.1
        if dead.isEmpty then s
        else
          let o := { o with kind := .script (.weak isMap live) }
          { s with nodes := s.nodes.insert e.1 (.object o) }.dropRefs (dead.flatMap fun (i : Value × Value) => i.2.nodes)
      | .script (.weakRef v) =>
        if isDead s.nodes v then
          { s with nodes := s.nodes.insert e.1 (.object { o with kind := .script (.weakRef .undefined) }) }
        else s
      | .script (.registry callback entries) =>
        let (dead, live) := entries.partition fun i => isDead s.nodes i.target
        if dead.isEmpty then s
        else
          let o := { o with kind := .script (.registry callback live) }
          { s with nodes := s.nodes.insert e.1 (.object o) }.reportDead callback dead
      | _ => s
    | _ => s) s

/-- Removal and purging in turn, until nothing more dies. -/
def finish (fuel : Nat) : Nat → Sweep → Sweep
  | 0, s => s
  | rounds + 1, s =>
    let s := purgeWeak (drain fuel s)
    if s.doomed.isEmpty then s else finish fuel rounds s

end Sweep

/-- Removes what has lost its last reference; `held` are the references of the host's side. -/
def release (e : Engine) (held : List NodeId) : Engine × List UInt64 :=
  let all := e.nodes.entries
  let counts := all.foldl (fun counts n => countRefs counts n.2.references)
    (countRefs (countRefs .empty held) e.roots)
  let doomed := all.filterMap fun n => if (counts.get? n.1).getD 0 == 0 then some n.1 else none
  let edges := all.foldl (fun k n => k + n.2.references.length) all.length
  let s := Sweep.finish (edges + held.length + 1) (all.length + 1)
    ⟨e.nodes, e.suspended, counts, doomed, [], []⟩
  ({ e with nodes := s.nodes, suspended := s.suspended, jobs := e.jobs ++ s.jobs }, s.tokens)

/-- Nodes reached from `todo`; `fuel` bounds the number of edges. -/
def reach (nodes : NatMap Node) : Nat → List NodeId → NatMap Unit → NatMap Unit
  | 0, _, seen => seen
  | _ + 1, [], seen => seen
  | fuel + 1, n :: rest, seen =>
    if seen.contains n then reach nodes fuel rest seen
    else
      match nodes.get? n with
      | some node => reach nodes fuel (node.references ++ rest) (seen.insert n ())
      | none => reach nodes fuel rest (seen.insert n ())

/-- Keeps what the roots reach. -/
def collect (e : Engine) (held : List NodeId) : Engine × List UInt64 :=
  let all := e.nodes.entries
  let start := held ++ e.roots
  let edges := all.foldl (fun k n => k + n.2.references.length) (all.length + start.length)
  let seen := reach e.nodes (edges + 1) start .empty
  let dead := all.filter fun n => !seen.contains n.1
  let s : Sweep :=
    { nodes := dead.foldl (fun t n => t.erase n.1) e.nodes
      suspended := dead.foldl (fun t n => t.erase n.1) e.suspended
      counts := .empty, doomed := [], tokens := dead.filterMap fun n => Node.token? n.2, jobs := [] }
  let s := s.purgeWeak
  let e := { e with nodes := s.nodes, suspended := s.suspended, jobs := e.jobs ++ s.jobs }
  let (e, more) := e.release held
  (e, s.tokens ++ more)

end Engine

end ScriptBridge.Script
