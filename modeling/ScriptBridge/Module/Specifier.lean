import ScriptBridge.Text.Cut

/-!
Module specifiers.

A specifier that starts with a dot is relative to the directory of the module that asks; any
other is a name in itself.  Only text is involved.
-/
namespace ScriptBridge.Specifier

open Text

/-- The text before the last slash; nothing without a slash. -/
def directory (path : List Char) : List Char :=
  match cutLast? '/' path with
  | some (dir, _) => dir
  | none => []

/-- One step along a path. -/
def combine (path segment : List Char) : List Char :=
  if segment.isEmpty || segment == ['.'] then path
  else if segment == ['.', '.'] then directory (dropTrailing '/' path)
  else if path.isEmpty || path.getLast? == some '/' then path ++ segment
  else path ++ '/' :: segment

/-- The name that a specifier stands for in the module `base`. -/
def normalizeChars (base name : List Char) : List Char :=
  if name.head? != some '.' then name
  else
    let path := (name.splitOn '/').foldl combine (directory base)
    if base.head? == some '/' && path.head? != some '/' then '/' :: path else path

def normalize (base name : String) : String :=
  String.ofList (normalizeChars base.toList name.toList)

end ScriptBridge.Specifier
