import ScriptBridge.Bridge.Projection

/-!
What scripts find from the start besides the language itself: `console`, whose functions print
for the host, and the read-only name `global` for the global object.
-/
namespace ScriptBridge

open Data Text Script Script.Script

namespace Runner

variable {σ : Type} (run : Runner σ)

/-- Texts of the arguments with commas between them. -/
def joinArguments : List Value → Act σ String
  | [] => pure ""
  | [v] => do run.orThrowFault (hostText (← run.script (toUnits v)))
  | v :: rest => do
    let first ← run.orThrowFault (hostText (← run.script (toUnits v)))
    return first ++ "," ++ (← joinArguments rest)

/-- What a function of `console` runs. -/
def printArguments (host : Host σ) (level : PrintLevel) (args : List Value) : Act σ Value := do
  print host level (← joinArguments run args)
  return .undefined

def consoleLevels : List (String × PrintLevel) := [("log", .log), ("warn", .warn), ("error", .error)]

def installLevels (console : Ref) : List (String × PrintLevel) → Act σ Unit
  | [] => pure ()
  | (name, level) :: rest => do
    let f ← makeHostFunction (.print level) (some name)
    run.script (console.setNamed name (.object f))
    installLevels console rest

def installConsole : Act σ Unit := do
  let console ← run.script (newObject [] : Script Ref Ref)
  installLevels run console consoleLevels
  run.script (globalObject.setNamed "console" (.object console))
  let reader ← makeHostFunction .globalReader none
  run.script (do
    orRefuse (← globalObject.defineOwn (Key.ofString "global")
      (Change.ofProperty (.accessor (some reader) none false false))))

/-- Keeps the script objects that the bridge itself needs. -/
def installIntrinsics : Act σ Unit := do
  let sentinel ← run.script (newObject [] : Script Ref Ref)
  let promises ← asObject run (← run.script (globalObject.getNamed "Promise"))
  let resolve ← asFunction run (← run.script (promises.getNamed "resolve"))
  let b ← Act.bridge
  Act.setBridge { b with intrinsics := some ⟨.object sentinel, .object promises, .object resolve⟩ }

end Runner

end ScriptBridge
