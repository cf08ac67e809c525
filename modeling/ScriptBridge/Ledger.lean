import ScriptBridge.Data.NatMap
import ScriptBridge.Protocol.Fault
import ScriptBridge.Protocol.Slot

/-!
The ledger: values that the host refers to by handle, with a count of references each.

A new value is either held by its counts alone, or staged: then one of its references belongs to
the callback frame on top, or to the cache when no callback is running.  Ending a frame or
clearing the cache gives back one reference of each handle listed there.  A value leaves the
ledger, and is handed out, with its last reference.
-/
namespace ScriptBridge

open Data

structure LedgerEntry (α : Type) where
  value : α
  refs : UInt32

structure Ledger (α : Type) where
  entries : NatMap (LedgerEntry α)
  next : UInt32
  /-- staged handles outside of callbacks, in order -/
  cache : List Handle
  /-- staged handles of the callbacks under way, the innermost callback first -/
  frames : List (List Handle)

namespace Ledger

variable {α : Type}

def empty : Ledger α := ⟨.empty, 1, [], []⟩

instance : Inhabited (Ledger α) := ⟨empty⟩

def entry? (l : Ledger α) (h : Handle) : Option (LedgerEntry α) := l.entries.get? h.id.toNat

def contains (l : Ledger α) (h : Handle) : Bool := (l.entry? h).isSome

def refs? (l : Ledger α) (h : Handle) : Option UInt32 := (l.entry? h).map LedgerEntry.refs

def size (l : Ledger α) : Nat := l.entries.size

def cacheSize (l : Ledger α) : Nat := l.cache.length

def depth (l : Ledger α) : Nat := l.frames.length

/-- Values in the ledger, by rising handle. -/
def values (l : Ledger α) : List α := l.entries.toList.map fun e => e.2.value

/-- The number after `n`; zero is left out. -/
def following (n : UInt32) : UInt32 := if n + 1 == 0 then 1 else n + 1

/-- A new entry with its own handle. -/
def insert (l : Ledger α) (v : α) (refs : UInt32) : Handle × Ledger α :=
  (⟨l.next⟩, { l with entries := l.entries.insert l.next.toNat ⟨v, refs⟩, next := following l.next })

/-- A new entry whose one reference belongs to the frame on top, or to the cache. -/
def stage (l : Ledger α) (v : α) : Handle × Ledger α :=
  let (h, l) := l.insert v 1
  match l.frames with
  | [] => (h, { l with cache := l.cache ++ [h] })
  | frame :: rest => (h, { l with frames := (frame ++ [h]) :: rest })

def get (l : Ledger α) (h : Handle) : Except BridgeFault α :=
  match l.entry? h with
  | some e => .ok e.value
  | none => .error (.invalidHandle h.id)

def addRef (l : Ledger α) (h : Handle) : Except BridgeFault (Ledger α) :=
  match l.entry? h with
  | some e => .ok { l with entries := l.entries.insert h.id.toNat { e with refs := e.refs + 1 } }
  | none => .error (.invalidHandle h.id)

/-- Gives one reference back; with the last one the value is handed out. -/
def release (l : Ledger α) (h : Handle) : Except BridgeFault (Option α × Ledger α) :=
  match l.entry? h with
  | some e =>
    let refs := e.refs - 1
    if refs == 0 then .ok (some e.value, { l with entries := l.entries.erase h.id.toNat })
    else .ok (none, { l with entries := l.entries.insert h.id.toNat { e with refs := refs } })
  | none => .error (.invalidHandle h.id)

/-- Gives one reference of each handle back; handles that are gone are passed over. -/
def releaseAll (l : Ledger α) : List Handle → List α × Ledger α
  | [] => ([], l)
  | h :: rest =>
    match l.release h with
    | .ok (freed, l) =>
      let (more, l) := l.releaseAll rest
      (freed.toList ++ more, l)
    | .error _ => l.releaseAll rest

def clearCache (l : Ledger α) : List α × Ledger α := { l with cache := [] }.releaseAll l.cache

def pushFrame (l : Ledger α) : Ledger α := { l with frames := [] :: l.frames }

/-- Ends the frame on top. -/
def popFrame (l : Ledger α) : List α × Ledger α :=
  match l.frames with
  | [] => ([], l)
  | frame :: rest => { l with frames := rest }.releaseAll frame

/-- Hands out everything at once. -/
def drain (l : Ledger α) : List α × Ledger α :=
  (l.values, { l with entries := .empty, cache := [], frames := [] })

end Ledger

end ScriptBridge
