import ScriptBridge.Number.Base
import ScriptBridge.Script.Value

/-!
Numbers as scripts read and write them.

Text becomes a number when the whole of it, without blanks around it, is one numeral; the empty
text is zero.  A number becomes text by the layout of scripts.
-/
namespace ScriptBridge.Script.Numeral

open Text

def isBlank (u : UInt16) : Bool :=
  (9 ≤ u && u ≤ 13) || u == 32 || u == 0xA0 || u == 0x1680 || (0x2000 ≤ u && u ≤ 0x200A)
    || u == 0x2028 || u == 0x2029 || u == 0x202F || u == 0x205F || u == 0x3000 || u == 0xFEFF

def trimStart (u : Units) : Units := u.dropWhile isBlank

def trimEnd (u : Units) : Units := (u.reverse.dropWhile isBlank).reverse

def trim (u : Units) : Units := trimEnd (trimStart u)

/-- Units as characters, for texts of which only the plain ones matter. -/
def plainChars (u : Units) : List Char := u.map fun x => Char.ofNat x.toNat

/-- A numeral with a base mark at its front. -/
def based? : List Char → Option (Nat × List Char)
  | '0' :: mark :: rest =>
    if mark == 'x' || mark == 'X' then some (16, rest)
    else if mark == 'o' || mark == 'O' then some (8, rest)
    else if mark == 'b' || mark == 'B' then some (2, rest)
    else none
  | _ => none

/-- All of the text as digits of `base`. -/
def allDigits? (base : Nat) (cs : List Char) : Option Nat :=
  match Number.takeDigits base cs 0 0 with
  | (n, count, []) => if count == 0 then none else some n
  | _ => none

def unsigned? (cs : List Char) : Option Float :=
  if cs == "Infinity".toList then some Number.infinity
  else
    match Number.takeDecimal cs with
    | some (x, []) => some x
    | _ => none

/-- The number that a text is, or not-a-number. -/
def ofUnits (u : Units) : Float :=
  match plainChars (trim u) with
  | [] => 0.0
  | cs =>
    match based? cs with
    | some (base, digits) =>
      match Number.takeInBase base digits with
      | (x, count, rest) =>
        if count != 0 && (Number.skipFraction base rest).isEmpty then x else Number.nan
    | none =>
      match cs with
      | '-' :: rest =>
        match unsigned? rest with
        | some x => -x
        | none => Number.nan
      | '+' :: rest => (unsigned? rest).getD Number.nan
      | rest => (unsigned? rest).getD Number.nan

/-- The integer that a text is, with a base mark or a sign, but not with both. -/
def bigOfUnits? (u : Units) : Option Int :=
  match plainChars (trim u) with
  | [] => some 0
  | cs =>
    match based? cs with
    | some (base, digits) => (allDigits? base digits).map Int.ofNat
    | none =>
      match cs with
      | '-' :: rest => (allDigits? 10 rest).map fun n => -(n : Int)
      | '+' :: rest => (allDigits? 10 rest).map Int.ofNat
      | rest => (allDigits? 10 rest).map Int.ofNat

def unitsOfChars (cs : List Char) : Units := Units.ofChars cs

def floatUnits (x : Float) : Units := Units.ofChars (Number.scriptLayout.chars x)

/-- The double nearest to an integer. -/
def floatOfInt (i : Int) : Float :=
  let x := Number.ofDecimal i.natAbs 0
  if i < 0 then -x else x

end ScriptBridge.Script.Numeral
