/-!
Script text as 16-bit units.

A script string is any sequence of units, so a surrogate may stand alone.  `ofString` is the
encoding of host text, `toChars` the decoding, which names the first byte of the eight-bit form
at which a lone surrogate stands.
-/
namespace ScriptBridge.Text

/-- Script text: units of 16 bits, with lone surrogates allowed. -/
abbrev Units := List UInt16

namespace Units

/-! ### Encoding host text -/

/-- A scalar above the 16-bit range becomes a surrogate pair. -/
def ofChar (c : Char) : Units :=
  if c.toNat < 0x10000 then [UInt16.ofNat c.toNat]
  else
    [UInt16.ofNat (0xD800 + (c.toNat - 0x10000) / 0x400),
     UInt16.ofNat (0xDC00 + (c.toNat - 0x10000) % 0x400)]

def ofChars : List Char → Units
  | [] => []
  | c :: rest => ofChar c ++ ofChars rest

def ofString (s : String) : Units := ofChars s.toList

/-- Units of any code point; a surrogate stays alone. -/
def ofCodePoint (n : Nat) : Units :=
  if n < 0x10000 then [UInt16.ofNat n]
  else [UInt16.ofNat (0xD800 + (n - 0x10000) / 0x400), UInt16.ofNat (0xDC00 + (n - 0x10000) % 0x400)]

def ofCodePoints (ns : List Nat) : Units := ns.flatMap ofCodePoint

/-! ### Decoding -/

def isHigh (u : UInt16) : Bool := 0xD800 ≤ u && u ≤ 0xDBFF

def isLow (u : UInt16) : Bool := 0xDC00 ≤ u && u ≤ 0xDFFF

/-- The scalar that a surrogate pair stands for. -/
def pairChar (high low : UInt16) : Char :=
  Char.ofNat (0x10000 + (high.toNat - 0xD800) * 0x400 + (low.toNat - 0xDC00))

/-- Code points in order; a lone surrogate stays a number. -/
def codePoints : Units → List Nat
  | [] => []
  | [u] => [u.toNat]
  | u :: v :: rest =>
    if isHigh u && isLow v then (pairChar u v).toNat :: codePoints rest
    else u.toNat :: codePoints (v :: rest)

/-- Bytes that a code point takes in the eight-bit form. -/
def byteWidth (n : Nat) : Nat :=
  if n < 0x80 then 1 else if n < 0x800 then 2 else if n < 0x10000 then 3 else 4

def isSurrogate (n : Nat) : Bool := 0xD800 ≤ n && n ≤ 0xDFFF

/-- Scalars of `points`, or the byte position of the first lone surrogate. -/
def scalarsFrom (at_ : Nat) : List Nat → Except Nat (List Char)
  | [] => .ok []
  | n :: rest =>
    if isSurrogate n then .error at_
    else
      match scalarsFrom (at_ + byteWidth n) rest with
      | .ok cs => .ok (Char.ofNat n :: cs)
      | .error e => .error e

/-- Host text of `u`, or the byte position of its first lone surrogate. -/
def toChars (u : Units) : Except Nat (List Char) := scalarsFrom 0 (codePoints u)

def toText (u : Units) : Except Nat String := (toChars u).map String.ofList

/-- Host text with every lone surrogate replaced, for names in messages. -/
def toLossy (u : Units) : String :=
  String.ofList ((codePoints u).map fun n => if isSurrogate n then '\uFFFD' else Char.ofNat n)

/-! ### Bounded text -/

/-- The code points that fit into `room` bytes, with the bytes that are left where one was cut. -/
def fitting : Nat → List Nat → List Nat × Nat
  | _, [] => ([], 0)
  | room, n :: rest =>
    if byteWidth n ≤ room then
      let (ns, left) := fitting (room - byteWidth n) rest
      (n :: ns, left)
    else ([], room)

/-- The longest start within `room` bytes; each byte of a code point that was cut shows as one
replacement character. -/
def bounded (room : Nat) (u : Units) : Units :=
  let (ns, left) := fitting room (codePoints u)
  ofCodePoints (ns ++ List.replicate left 0xFFFD)

/-- A name as messages show it: one in ASCII whole, any other within 63 bytes. -/
def shown (u : Units) : Units :=
  if u.all (· < 0x80) then u else ofCodePoints (fitting 63 (codePoints u)).1

/-- The same for a name that is host text. -/
def shownName (name : String) : String := toLossy (shown (ofString name))

/-! ### Order and search -/

/-- Order by units, the shorter text first when it begins the other. -/
def lt : Units → Units → Bool
  | _, [] => false
  | [], _ :: _ => true
  | a :: as, b :: bs => if a == b then lt as bs else a < b

def startsWith : Units → Units → Bool
  | _, [] => true
  | [], _ :: _ => false
  | a :: as, b :: bs => a == b && startsWith as bs

/-- First position at or after `at_` where `needle` stands in `text`. -/
def indexFrom (needle : Units) : Units → Nat → Option Nat
  | [], at_ => if needle.isEmpty then some at_ else none
  | u :: rest, at_ =>
    if startsWith (u :: rest) needle then some at_ else indexFrom needle rest (at_ + 1)

/-- `pieces` joined with `sep` between neighbours. -/
def join (sep : Units) : List Units → Units
  | [] => []
  | [u] => u
  | u :: rest => u ++ sep ++ join sep rest

/-! ### Array indices -/

def isDigit (u : UInt16) : Bool := 48 ≤ u && u ≤ 57

def digitsValue (u : Units) : Nat := u.foldl (fun n d => n * 10 + (d.toNat - 48)) 0

/-- The index that `u` names: canonical decimal digits below `2^32 - 1`. -/
def arrayIndex? : Units → Option Nat
  | [] => none
  | [d] => if isDigit d then some (d.toNat - 48) else none
  | d :: rest =>
    if d == 48 || !isDigit d || rest.length > 9 || !rest.all isDigit then none
    else
      let n := digitsValue (d :: rest)
      if n < 4294967295 then some n else none

def ofNat (n : Nat) : Units := (Nat.toDigits 10 n).map fun c => UInt16.ofNat c.toNat

def ofInt (i : Int) : Units :=
  match i with
  | .ofNat n => ofNat n
  | .negSucc n => 45 :: ofNat (n + 1)

end Units

end ScriptBridge.Text
