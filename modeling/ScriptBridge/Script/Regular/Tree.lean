import ScriptBridge.Script.Numeral
import ScriptBridge.Text.Case

/-!
Regular expressions as trees.

A tree is read and matched over code points when the expression says so, over 16-bit units
otherwise; `Options` holds what its flags decide.
-/
namespace ScriptBridge.Script.Regular

open Text

structure Options where
  ignoreCase : Bool
  multiline : Bool
  dotAll : Bool
  /-- a surrogate pair counts as one character -/
  unicode : Bool
  deriving Repr, DecidableEq

inductive ClassItem where
  | range (low high : Nat)
  | digit (negated : Bool)
  | word (negated : Bool)
  | blank (negated : Bool)
  deriving Repr, DecidableEq

inductive Tree where
  | empty
  | char (c : Nat)
  | any
  | set (negated : Bool) (items : List ClassItem)
  | both (a b : Tree)
  | either (a b : Tree)
  /-- groups count from 0 -/
  | capture (index : Nat) (t : Tree)
  | look (ahead negated : Bool) (t : Tree)
  /-- the groups inside `t` are the `count` ones from `first` on -/
  | repeated (low : Nat) (high : Option Nat) (greedy : Bool) (first count : Nat) (t : Tree)
  | backReference (index : Nat)
  | start
  | stop
  | boundary (negated : Bool)
  deriving Repr

structure Pattern where
  tree : Tree
  /-- capturing groups, with their names -/
  groups : List (Option Units)
  options : Options

/-- Flags are known letters, none twice. -/
def validFlags (flags : Units) : Bool :=
  flags.all (fun u => (Units.ofString "dgimsuy").contains u) && flags.eraseDups.length == flags.length

/-! ### Characters -/

def isLineEnd (n : Nat) : Bool := n == 10 || n == 13 || n == 0x2028 || n == 0x2029

def isDigitCode (n : Nat) : Bool := 48 ≤ n && n ≤ 57

def isWordCode (n : Nat) : Bool :=
  isDigitCode n || (65 ≤ n && n ≤ 90) || (97 ≤ n && n ≤ 122) || n == 95

def isBlankCode (n : Nat) : Bool := n < 0x10000 && Numeral.isBlank (UInt16.ofNat n)

def ClassItem.holds (c : Nat) : ClassItem → Bool
  | .range low high => low ≤ c && c ≤ high
  | .digit negated => isDigitCode c != negated
  | .word negated => isWordCode c != negated
  | .blank negated => isBlankCode c != negated

/-- The representative of all cases of a character; one beyond ASCII never stands for one
inside, unless code points are matched. -/
def Options.fold (o : Options) (n : Nat) : Nat :=
  if !o.ignoreCase then n
  else
    let upper := upperPoint n
    if o.unicode then lowerPoint upper
    else if n ≥ 128 && upper < 128 then n
    else upper

def Options.setHolds (o : Options) (negated : Bool) (items : List ClassItem) (c : Nat) : Bool :=
  let cases := if o.ignoreCase then [c, o.fold c, lowerPoint c, upperPoint c] else [c]
  (cases.any fun d => o.fold d == o.fold c && items.any fun i => i.holds d) != negated

end ScriptBridge.Script.Regular
