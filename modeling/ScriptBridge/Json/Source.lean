import ScriptBridge.Json.Tree

/-!
Text to be read, piece by piece: a character, or a byte that belongs to none.

Pieces that are no character may stand in a message; they matter only inside quotes, where they
spoil the text.
-/
namespace ScriptBridge

abbrev Source := List (Option Char)

namespace Source

def ofText (text : String) : Source := text.toList.map some

/-! ### Bytes -/

def isTrailing (b : UInt8) : Bool := b.toNat / 64 == 2

def tail6 (b : UInt8) : Nat := b.toNat % 64

/-- The character that well-formed bytes begin with, and how many bytes follow its first. -/
def charAt? : List UInt8 → Option (Char × Nat)
  | [] => none
  | a :: rest =>
    let n := a.toNat
    let code : Option (Nat × Nat × Nat) :=
      if n < 0x80 then some (n, 0, 0)
      else if n < 0xE0 then
        match rest with
        | b :: _ => if isTrailing b then some ((n - 0xC0) * 64 + tail6 b, 1, 0x80) else none
        | _ => none
      else if n < 0xF0 then
        match rest with
        | b :: c :: _ =>
          if isTrailing b && isTrailing c then
            some (((n - 0xE0) * 64 + tail6 b) * 64 + tail6 c, 2, 0x800)
          else none
        | _ => none
      else if n < 0xF8 then
        match rest with
        | b :: c :: d :: _ =>
          if isTrailing b && isTrailing c && isTrailing d then
            some ((((n - 0xF0) * 64 + tail6 b) * 64 + tail6 c) * 64 + tail6 d, 3, 0x10000)
          else none
        | _ => none
      else none
    match code with
    | some (point, more, least) =>
      if (n < 0x80 || 0xC0 ≤ n) && least ≤ point && point.isValidChar then
        some (Char.ofNat point, more)
      else none
    | none => none

/-- Pieces of bytes, when `skip` bytes still belong to the character before. -/
def ofBytesAfter : Nat → List UInt8 → Source
  | _, [] => []
  | skip + 1, _ :: rest => ofBytesAfter skip rest
  | 0, b :: rest =>
    match charAt? (b :: rest) with
    | some (c, more) => some c :: ofBytesAfter more rest
    | none => none :: ofBytesAfter 0 rest

def ofBytes (bytes : List UInt8) : Source := ofBytesAfter 0 bytes

/-- Bytes of a piece. -/
def pieceWidth : Option Char → Nat
  | some c => c.utf8Size
  | none => 1

/-! ### Blanks and brackets -/

def isBlank (p : Option Char) : Bool :=
  p == some ' ' || p == some '\n' || p == some '\t' || p == some '\r'

def skipBlanks (s : Source) : Source := s.dropWhile isBlank

/-- The rest after the letters of a word. -/
def word : List Char → Source → Except JsonFault Source
  | [], s => .ok s
  | _ :: _, [] => .error .endInValue
  | c :: more, p :: rest => if p == some c then word more rest else .error .expectedWord

def isDigit (p : Option Char) : Bool :=
  match p with
  | some c => '0' ≤ c && c ≤ '9'
  | none => false

def digitValue (p : Option Char) : Nat :=
  match p with
  | some c => c.toNat - 48
  | none => 0

/-! ### Between items -/

/-- Where the next item of a list begins; `none` before the closing bracket. -/
def nextItem (first : Bool) (s : Source) : Except JsonFault (Option Source) :=
  match skipBlanks s with
  | [] => .error .endInList
  | some ']' :: _ => .ok none
  | p :: rest =>
    if first then .ok (some (p :: rest))
    else if p == some ',' then
      match skipBlanks rest with
      | [] => .error .endInValue
      | some ']' :: _ => .error .trailingComma
      | more => .ok (some more)
    else .error .expectedListEnd

/-- The rest after the closing bracket of a list. -/
def endList (s : Source) : Except JsonFault Source :=
  match skipBlanks s with
  | [] => .error .endInList
  | some ']' :: rest => .ok rest
  | some ',' :: rest =>
    match skipBlanks rest with
    | some ']' :: _ => .error .trailingComma
    | _ => .error .trailingCharacters
  | _ => .error .trailingCharacters

/-- What follows the quote of the next key of an object; `none` before the closing bracket. -/
def nextKey (first : Bool) (s : Source) : Except JsonFault (Option Source) :=
  match skipBlanks s with
  | [] => .error .endInObject
  | some '\x7d' :: _ => .ok none
  | p :: rest =>
    if first then
      if p == some '"' then .ok (some rest) else .error .keyNotText
    else if p == some ',' then
      match skipBlanks rest with
      | [] => .error .endInValue
      | some '\x7d' :: _ => .error .trailingComma
      | some '"' :: more => .ok (some more)
      | _ => .error .keyNotText
    else .error .expectedObjectEnd

def endObject (s : Source) : Except JsonFault Source :=
  match skipBlanks s with
  | [] => .error .endInObject
  | some '\x7d' :: rest => .ok rest
  | some ',' :: _ => .error .trailingComma
  | _ => .error .trailingCharacters

def colon (s : Source) : Except JsonFault Source :=
  match skipBlanks s with
  | [] => .error .endInObject
  | some ':' :: rest => .ok rest
  | _ => .error .expectedColon

/-- Nothing but blanks is left. -/
def finish (s : Source) : Except JsonFault Unit :=
  if (skipBlanks s).isEmpty then .ok () else .error .trailingCharacters

end Source

end ScriptBridge
