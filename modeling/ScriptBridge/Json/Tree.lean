import ScriptBridge.Text.Visible
import ScriptBridge.Number.Text

/-!
Interchange trees: the values that JSON text can hold, and what can be wrong with such text.

A numeral keeps apart the whole numbers that fit a word and those that had to become doubles.
The members of an object are a list; reading free text leaves them in the order of their keys,
each key once.
-/
namespace ScriptBridge

inductive JsonNumeral where
  | unsigned (n : UInt64)
  /-- a whole number below zero -/
  | negative (n : Int64)
  | float (x : Float)
  deriving Repr

inductive JsonTree where
  | null
  | bool (b : Bool)
  | number (n : JsonNumeral)
  | text (s : String)
  | list (items : List JsonTree)
  | object (members : List (String × JsonTree))

instance : Inhabited JsonTree := ⟨.null⟩

/-- How a value begins: all of it, or the bracket that opens it. -/
inductive JsonHead where
  | null
  | bool (b : Bool)
  | number (n : JsonNumeral)
  | text (s : String)
  | list
  | object
  deriving Repr

/-- What can be wrong with text, or with a value for its place. -/
inductive JsonFault where
  | endInValue
  | endInText
  | endInList
  | endInObject
  | expectedColon
  | expectedListEnd
  | expectedObjectEnd
  | expectedWord
  | expectedValue
  | invalidEscape
  | invalidNumber
  | numberOutOfRange
  | invalidCodePoint
  | controlCharacter
  | keyNotText
  | loneSurrogate
  | halfSurrogatePair
  | trailingComma
  | trailingCharacters
  | tooDeep
  | wrongType (found : JsonHead) (expected : String)
  | outOfRange (found : JsonNumeral) (expected : String)
  | wrongLength (length : Nat) (expected : String)
  /-- a variant without the content that it needs -/
  | bareVariant (expected : String)
  | unknownVariant (name : String) (known : List String)
  | missingField (name : String)
  | duplicateField (name : String)
  deriving Repr

namespace JsonNumeral

def chars : JsonNumeral → List Char
  | .unsigned n => Number.digitChars n.toNat
  | .negative n => Number.intChars n.toInt
  | .float x => Number.interchangeLayout.chars x

/-- The whole number, if it is kept as one. -/
def int? : JsonNumeral → Option Int
  | .unsigned n => some n.toNat
  | .negative n => some n.toInt
  | .float _ => none

/-- The numeral as a double. -/
def toFloat : JsonNumeral → Float
  | .unsigned n => Float.ofNat n.toNat
  | .negative n => Float.ofInt n.toInt
  | .float x => x

/-- The numeral of a whole number in the range of words. -/
def ofInt : Int → JsonNumeral
  | .ofNat n => .unsigned (UInt64.ofNat n)
  | .negSucc n => .negative (Int64.ofInt (.negSucc n))

def describe (n : JsonNumeral) : String :=
  let kind := match n with
    | .float _ => "floating point "
    | _ => "integer "
  kind ++ "\x60" ++ String.ofList n.chars ++ "\x60"

end JsonNumeral

def JsonHead.describe : JsonHead → String
  | .null => "null"
  | .bool b => "boolean \x60" ++ (if b then "true" else "false") ++ "\x60"
  | .number n => n.describe
  | .text s => "string " ++ Text.visible s
  | .list => "sequence"
  | .object => "map"

namespace JsonTree

def head : JsonTree → JsonHead
  | .null => .null
  | .bool b => .bool b
  | .number n => .number n
  | .text s => .text s
  | .list _ => .list
  | .object _ => .object

def ofNat (n : Nat) : JsonTree := .number (.unsigned (UInt64.ofNat n))

def ofInt (i : Int) : JsonTree := .number (.ofInt i)

/-! ### Keys in order -/

/-- Order of keys, by their characters. -/
def keyBefore : List Char → List Char → Bool
  | [], [] => false
  | [], _ :: _ => true
  | _ :: _, [] => false
  | a :: as, b :: bs => if a == b then keyBefore as bs else a.toNat < b.toNat

/-- Enters a member at the place of its key, in the stead of a member of the same key. -/
def enter (key : String) (value : JsonTree) : List (String × JsonTree) → List (String × JsonTree)
  | [] => [(key, value)]
  | (k, v) :: rest =>
    if k == key then (key, value) :: rest
    else if keyBefore key.toList k.toList then (key, value) :: (k, v) :: rest
    else (k, v) :: enter key value rest

/-- An object of members in the order in which they were written. -/
def ofMembers (members : List (String × JsonTree)) : JsonTree :=
  .object (members.foldl (fun sorted m => enter m.1 m.2 sorted) [])

end JsonTree

namespace JsonFault

private def quoted (s : String) : String := "\x60" ++ s ++ "\x60"

/-- Alternatives in words: one, two, or a list. -/
def alternatives : List String → String
  | [] => "nothing"
  | [a] => quoted a
  | [a, b] => quoted a ++ " or " ++ quoted b
  | many => "one of " ++ ", ".intercalate (many.map quoted)

def message : JsonFault → String
  | .endInValue => "EOF while parsing a value"
  | .endInText => "EOF while parsing a string"
  | .endInList => "EOF while parsing a list"
  | .endInObject => "EOF while parsing an object"
  | .expectedColon => "expected \x60:\x60"
  | .expectedListEnd => "expected \x60,\x60 or \x60]\x60"
  | .expectedObjectEnd => "expected \x60,\x60 or \x60\x7d\x60"
  | .expectedWord => "expected ident"
  | .expectedValue => "expected value"
  | .invalidEscape => "invalid escape"
  | .invalidNumber => "invalid number"
  | .numberOutOfRange => "number out of range"
  | .invalidCodePoint => "invalid unicode code point"
  | .controlCharacter =>
    "control character (\\u0000-\\u001F) found while parsing a string"
  | .keyNotText => "key must be a string"
  | .loneSurrogate => "lone leading surrogate in hex escape"
  | .halfSurrogatePair => "unexpected end of hex escape"
  | .trailingComma => "trailing comma"
  | .trailingCharacters => "trailing characters"
  | .tooDeep => "recursion limit exceeded"
  | .wrongType found expected => "invalid type: " ++ found.describe ++ ", expected " ++ expected
  | .outOfRange found expected => "invalid value: " ++ found.describe ++ ", expected " ++ expected
  | .wrongLength n expected => "invalid length " ++ toString n ++ ", expected " ++ expected
  | .bareVariant expected => "invalid type: unit variant, expected " ++ expected
  | .unknownVariant name known =>
    "unknown variant " ++ quoted name
      ++ (if known.isEmpty then ", there are no variants" else ", expected " ++ alternatives known)
  | .missingField name => "missing field " ++ quoted name
  | .duplicateField name => "duplicate field " ++ quoted name

end JsonFault

end ScriptBridge
