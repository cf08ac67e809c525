import ScriptBridge.Script.Convert

/-!
The order of an array's items.

Items are compared by a function of the script's own, which may answer anything, or by their
texts.  Where it calls two items equal, the one that stood first stays first; so no two items are
equal, and a function that contradicts itself still gets every item placed once.  A script can
watch which pairs are compared, so the strategy is part of what an array promises: short spans
are sorted by insertion, longer ones are split around a middle value, and a span that was split
too often becomes a heap.
-/
namespace ScriptBridge.Script.Builtins

open Text Script

variable {ρ : Type}

/-- An item with the place that it came from and, once somebody asked, its text. -/
structure Placed where
  value : Value
  place : Nat
  text : Option Units
  deriving Inhabited

/-- Sorting works on the items in place. -/
abbrev Sorting (ρ : Type) := StateT (Array Placed) (Script ρ)

namespace Sorting

def item (i : Nat) : Sorting ρ Placed := fun a => pure (a.getD i default, a)

def exchange (i j : Nat) : Sorting ρ Unit := modify fun a => a.swapIfInBounds i j

/-- The text of the item at `i`, asked for once. -/
def textAt (i : Nat) : Sorting ρ Units := do
  let x ← item i
  match x.text with
  | some t => return t
  | none =>
    let t ← (toUnits x.value : Script ρ Units)
    modify fun a => a.setIfInBounds i { x with text := some t }
    return t

/-- The order that a comparison function finds; it is not asked about a value and itself. -/
def asked (f : Value) (a b : Value) : Script ρ Ordering := do
  if Value.identical a b then return .eq
  let x ← toFloat (← callValue f .undefined [a, b])
  return if x < 0.0 then .lt else if x > 0.0 then .gt else .eq

/-- The order of the items at `i` and `j`: by the function, or by text when there is none. -/
def order (f : Value) (i j : Nat) : Sorting ρ Ordering := do
  let a ← item i
  let b ← item j
  let found ← if f.isUndefined then do
      let s ← textAt i
      let t ← textAt j
      pure (if Units.lt s t then .lt else if Units.lt t s then .gt else .eq)
    else (asked f a.value b.value : Script ρ Ordering)
  return found.then (compare a.place b.place)

/-! ### Short spans -/

/-- Moves the item at `start + n` back to behind the nearest item that is not greater. -/
def sink (f : Value) (start : Nat) : Nat → Sorting ρ Unit
  | 0 => pure ()
  | n + 1 => do
    if (← order f (start + n) (start + n + 1)) == .gt then
      exchange (start + n) (start + n + 1)
      sink f start n

/-- Sorts `done + n` items by insertion, the first `done` being in order already. -/
def insertAll (f : Value) (start : Nat) : Nat → Nat → Sorting ρ Unit
  | 0, _ => pure ()
  | n + 1, done => do
    sink f start done
    insertAll f start n (done + 1)

/-! ### Heaps -/

/-- Moves the item at `r` down a heap of `count` items. -/
def sift (f : Value) (start count : Nat) : Nat → Nat → Sorting ρ Unit
  | 0, _ => pure ()
  | n + 1, r => do
    let c := 2 * r + 1
    if c < count then
      let second ← if c + 1 < count then do
          pure ((← order f (start + c) (start + c + 1)) != .gt)
        else pure false
      let c := if second then c + 1 else c
      if (← order f (start + r) (start + c)) != .gt then
        exchange (start + r) (start + c)
        sift f start count n c

def buildHeap (f : Value) (start count : Nat) : Nat → Sorting ρ Unit
  | 0 => pure ()
  | i + 1 => do
    sift f start count count i
    buildHeap f start count i

/-- Takes the greatest of the first `i + 1` items to their end, until one item is left. -/
def emptyHeap (f : Value) (start : Nat) : Nat → Sorting ρ Unit
  | 0 => pure ()
  | i + 1 => do
    exchange start (start + i + 1)
    sift f start (i + 1) (i + 1) 0
    emptyHeap f start i

def heapSort (f : Value) (start count : Nat) : Sorting ρ Unit := do
  buildHeap f start count (count / 2)
  emptyHeap f start (count - 1)

/-! ### Long spans -/

/-- The place whose item is the middle one of three. -/
def middle (f : Value) (a b c : Nat) : Sorting ρ Nat := do
  if (← order f a b) == .lt then
    if (← order f b c) == .lt then return b
    if (← order f a c) == .lt then return c else return a
  else
    if (← order f b c) == .gt then return b
    if (← order f a c) == .lt then return a else return c

/-- The first place from `i` on, before `j`, whose item is greater than the one at `pivot`. -/
def passLow (f : Value) (pivot : Nat) : Nat → Nat → Nat → Sorting ρ Nat
  | 0, i, _ => pure i
  | n + 1, i, j => do
    if i < j && (← order f pivot i) != .lt then passLow f pivot n (i + 1) j else return i

/-- The last place before `j`, after `i`, whose item is less than the one at `pivot`. -/
def passHigh (f : Value) (pivot : Nat) : Nat → Nat → Nat → Sorting ρ Nat
  | 0, _, j => pure j
  | n + 1, i, j => do
    let j := j - 1
    if i < j && (← order f pivot j) != .gt then passHigh f pivot n i j else return j

/-- Divides the places from `i` to `j` into those of lesser and of greater items; the first
place of a greater one. -/
def divide (f : Value) (pivot : Nat) : Nat → Nat → Nat → Sorting ρ Nat
  | 0, i, _ => pure i
  | n + 1, i, j => do
    let i ← passLow f pivot (j - i + 1) i j
    let j ← passHigh f pivot (j - i + 1) i j
    if i ≥ j then return i
    exchange i j
    divide f pivot n (i + 1) j

/-- Sorts `count` items from `start` on; `levels` bounds how often a span is split. -/
def sortSpan (f : Value) : Nat → Nat → Nat → Sorting ρ Unit
  | levels, start, count =>
    if count ≤ 6 then insertAll f start (count - 1) 1
    else
      match levels with
      | 0 => heapSort f start count
      | n + 1 => do
        let quarter := count / 4
        let m ← middle f (start + quarter) (start + 2 * quarter) (start + 3 * quarter)
        exchange start m
        let i ← divide f start count (start + 1) (start + count)
        exchange start (i - 1)
        let low := i - 1 - start
        let high := start + count - i
        if low > high then
          sortSpan f n i high
          sortSpan f n start low
        else
          sortSpan f n start low
          sortSpan f n i high

end Sorting

/-- Items in the order of `f`, or of their texts when that is `undefined`; each with its place. -/
def sortPlaced (f : Value) (items : List (Value × Nat)) : Script ρ (List (Value × Nat)) := do
  let start := items.toArray.map fun x => { value := x.1, place := x.2, text := none }
  let (_, sorted) ← (Sorting.sortSpan f 50 0 start.size).run start
  return sorted.toList.map fun x => (x.value, x.place)

end ScriptBridge.Script.Builtins
