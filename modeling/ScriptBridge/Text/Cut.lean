/-!
Text cut from its end.

The last occurrence of a character parts a text in two, and characters that only fill the end of a text can be
dropped.
-/
namespace ScriptBridge.Text

/-- The text before the last `sep` and the text after it, or `none` without one. -/
def cutLast? (sep : Char) : List Char → Option (List Char × List Char)
  | [] => none
  | c :: text =>
    match cutLast? sep text with
    | some (before, after) => some (c :: before, after)
    | none => if c == sep then some ([], text) else none

/-- The text without the `c`s at its end. -/
def dropTrailing (c : Char) (text : List Char) : List Char := (text.reverse.dropWhile (· == c)).reverse

end ScriptBridge.Text
