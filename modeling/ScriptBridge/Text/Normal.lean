import ScriptBridge.Text.Decomposition
import ScriptBridge.Text.Units

/-!
Normal forms of text.

A text is decomposed into parts that do not decompose further, marks that combine with the same
character are put in the order of their classes, and for the composed forms parts are put together
again.  Hangul syllables are decomposed and composed by arithmetic.
-/
namespace ScriptBridge.Text

structure NormalForm where
  /-- parts are put together again -/
  composed : Bool
  /-- characters that are mere variants of others lose their form -/
  compatible : Bool
  deriving Repr, DecidableEq

namespace NormalForm

def ofName? (u : Units) : Option NormalForm :=
  if u == Units.ofString "NFC" then some ⟨true, false⟩
  else if u == Units.ofString "NFD" then some ⟨false, false⟩
  else if u == Units.ofString "NFKC" then some ⟨true, true⟩
  else if u == Units.ofString "NFKD" then some ⟨false, true⟩
  else none

/-! ### Decomposition -/

/-- The jamo of a Hangul syllable. -/
def syllableParts (n : Nat) : List Nat :=
  let i := n - 0xAC00
  let front := [0x1100 + i / 588, 0x1161 + i % 588 / 28]
  if i % 28 == 0 then front else front ++ [0x11A7 + i % 28]

/-- What a code point consists of; `fuel` bounds the depth. -/
def parts (compatible : Bool) : Nat → Nat → List Nat
  | 0, n => [n]
  | fuel + 1, n =>
    if n < 0xA0 then [n]
    else if 0xAC00 ≤ n && n ≤ 0xD7A3 then syllableParts n
    else
      match Decomposition.find? n with
      | some e =>
        if e.kind == .compatible && !compatible then [n]
        else (e.partsAt n).flatMap (parts compatible fuel)
      | none => [n]

/-! ### Order of marks -/

/-- Puts a mark behind those of its class or a lower one. -/
def insertMark (m : Nat × Nat) : List (Nat × Nat) → List (Nat × Nat)
  | [] => [m]
  | x :: rest => if m.2 < x.2 then m :: x :: rest else x :: insertMark m rest

/-- Sorts the marks that follow one another, `marks` being those read last. -/
def orderMarks : List (Nat × Nat) → List (Nat × Nat) → List (Nat × Nat)
  | [], marks => marks
  | p :: rest, marks =>
    if p.2 == 0 then marks ++ p :: orderMarks rest [] else orderMarks rest (insertMark p marks)

/-! ### Composition -/

def composePair (a b : Nat) : Option Nat :=
  if 0x1100 ≤ a && a < 0x1113 && 0x1161 ≤ b && b < 0x1176 then
    some (0xAC00 + ((a - 0x1100) * 21 + (b - 0x1161)) * 28)
  else if 0xAC00 ≤ a && a ≤ 0xD7A3 && (a - 0xAC00) % 28 == 0 && 0x11A8 ≤ b && b < 0x11C3 then
    some (a + (b - 0x11A7))
  else if b < 0x300 then none
  else (Decomposition.compositions.find? fun c => c.1 == a && c.2.1 == b).map fun c => c.2.2

/-- Composes with the character `start`, behind which `kept` stands in reverse order. -/
def composeFrom (start : Nat) (kept : List (Nat × Nat)) : List (Nat × Nat) → List Nat
  | [] => start :: (kept.reverse.map Prod.fst)
  | p :: rest =>
    let open_ := match kept with
      | [] => true
      | last :: _ => last.2 < p.2
    match if open_ then composePair start p.1 else none with
    | some c => composeFrom c kept rest
    | none =>
      if p.2 == 0 then start :: (kept.reverse.map Prod.fst) ++ composeFrom p.1 [] rest
      else composeFrom start (p :: kept) rest

def compose : List (Nat × Nat) → List Nat
  | [] => []
  | p :: rest => if p.2 == 0 then composeFrom p.1 [] rest else p.1 :: compose rest

/-! ### Forms -/

def points (f : NormalForm) (ns : List Nat) : List Nat :=
  let decomposed := (ns.flatMap (parts f.compatible 8)).map fun n =>
    (n, Decomposition.combiningClass n)
  let ordered := orderMarks decomposed []
  if f.composed then compose ordered else ordered.map Prod.fst

/-- `u` in the form `f`. -/
def apply (f : NormalForm) (u : Units) : Units :=
  if u.all (· < 0x80) then u else Units.ofCodePoints (f.points (Units.codePoints u))

/-- Which of two texts comes first by the code points of their composed forms. -/
def compareTexts (u v : Units) : Ordering :=
  let form : NormalForm := ⟨true, false⟩
  compareLists (form.points (Units.codePoints u)) (form.points (Units.codePoints v))
where
  compareLists : List Nat → List Nat → Ordering
    | [], [] => .eq
    | [], _ :: _ => .lt
    | _ :: _, [] => .gt
    | a :: as, b :: bs => if a == b then compareLists as bs else compare a b

end NormalForm

end ScriptBridge.Text
