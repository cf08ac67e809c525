import ScriptBridge.Json.Tree

/-!
Trees as text: the compact form without blanks, and the form with one item on each line.
-/
namespace ScriptBridge.JsonTree

def hexDigit (n : Nat) : Char := Char.ofNat (if n < 10 then 48 + n else 87 + n)

/-- A character between quotes.  Quotes, backslashes and controls are escaped, by a letter where
there is one. -/
def escapedChar (c : Char) : List Char :=
  match c with
  | '"' => ['\\', '"']
  | '\\' => ['\\', '\\']
  | '\x08' => ['\\', 'b']
  | '\x0c' => ['\\', 'f']
  | '\n' => ['\\', 'n']
  | '\r' => ['\\', 'r']
  | '\t' => ['\\', 't']
  | c =>
    if c.toNat < 32 then
      ['\\', 'u', '0', '0', hexDigit (c.toNat / 16), hexDigit (c.toNat % 16)]
    else [c]

def quotedChars (cs : List Char) : List Char := '"' :: cs.flatMap escapedChar ++ ['"']

def boolChars (b : Bool) : List Char :=
  if b then ['t', 'r', 'u', 'e'] else ['f', 'a', 'l', 's', 'e']

/-! ### Compact -/

mutual

/-- The tree without blanks. -/
def chars : JsonTree → List Char
  | .null => ['n', 'u', 'l', 'l']
  | .bool b => boolChars b
  | .number n => n.chars
  | .text s => quotedChars s.toList
  | .list items => '[' :: itemChars items ++ [']']
  | .object members => '\x7b' :: memberChars members ++ ['\x7d']

/-- Items with a comma between each two. -/
def itemChars : List JsonTree → List Char
  | [] => []
  | t :: rest => t.chars ++ moreItemChars rest

/-- Items with a comma before each. -/
def moreItemChars : List JsonTree → List Char
  | [] => []
  | t :: rest => ',' :: t.chars ++ moreItemChars rest

def memberChars : List (String × JsonTree) → List Char
  | [] => []
  | (k, t) :: rest => quotedChars k.toList ++ ':' :: t.chars ++ moreMemberChars rest

def moreMemberChars : List (String × JsonTree) → List Char
  | [] => []
  | (k, t) :: rest => ',' :: quotedChars k.toList ++ ':' :: t.chars ++ moreMemberChars rest

end

def compact (t : JsonTree) : String := String.ofList t.chars

/-! ### On lines -/

/-- A new line at a level of nesting, two blanks to the level. -/
def newLine (level : Nat) : List Char := '\n' :: List.replicate (2 * level) ' '

mutual

/-- The tree with each item and member on a line of its own. -/
def lineChars (level : Nat) : JsonTree → List Char
  | .null => ['n', 'u', 'l', 'l']
  | .bool b => boolChars b
  | .number n => n.chars
  | .text s => quotedChars s.toList
  | .list [] => ['[', ']']
  | .list (t :: rest) =>
    '[' :: newLine (level + 1) ++ lineChars (level + 1) t ++ moreItemLines (level + 1) rest
      ++ newLine level ++ [']']
  | .object [] => ['\x7b', '\x7d']
  | .object ((k, t) :: rest) =>
    '\x7b' :: newLine (level + 1) ++ quotedChars k.toList ++ ':' :: ' ' :: lineChars (level + 1) t
      ++ moreMemberLines (level + 1) rest ++ newLine level ++ ['\x7d']

def moreItemLines (level : Nat) : List JsonTree → List Char
  | [] => []
  | t :: rest => ',' :: newLine level ++ lineChars level t ++ moreItemLines level rest

def moreMemberLines (level : Nat) : List (String × JsonTree) → List Char
  | [] => []
  | (k, t) :: rest =>
    ',' :: newLine level ++ quotedChars k.toList ++ ':' :: ' ' :: lineChars level t
      ++ moreMemberLines level rest

end

def onLines (t : JsonTree) : String := String.ofList (lineChars 0 t)

end ScriptBridge.JsonTree
