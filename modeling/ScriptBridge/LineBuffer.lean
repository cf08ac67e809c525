import ScriptBridge.Text.Cut

/-!
Line buffering.

Fragments of text go in; complete lines come out, without the line feed that ends them and
without the carriage returns before it.  What follows the last line feed waits for more.
-/
namespace ScriptBridge

open Text

/-- The text after the last line feed. -/
structure LineBuffer where
  pending : List Char
  deriving Repr, DecidableEq

namespace LineBuffer

def empty : LineBuffer := ⟨[]⟩

instance : Inhabited LineBuffer := ⟨empty⟩

/-- Adds a fragment.  As far as the last line feed the text is handed out, line by line. -/
def write (b : LineBuffer) (fragment : String) : List String × LineBuffer :=
  let text := b.pending ++ fragment.toList
  match cutLast? '\n' text with
  | none => ([], ⟨text⟩)
  | some (complete, rest) =>
    ((complete.splitOn '\n').map fun line => String.ofList (dropTrailing '\r' line), ⟨rest⟩)

/-- Hands out what waits, if anything does. -/
def flush (b : LineBuffer) : Option String × LineBuffer :=
  match b.pending with
  | [] => (none, empty)
  | text => (some (String.ofList text), empty)

end LineBuffer

end ScriptBridge
