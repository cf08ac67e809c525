/-!
Faults: every way in which the bridge can refuse or fail, as causes.

`BridgeFault.message` is the text that the host reads, and `BridgeFault.kind` the class of the
failure.  Nothing else words a failure.
-/
namespace ScriptBridge

/-- What goes wrong with a module's name or text. -/
inductive ModuleFault where
  | notFound (name : String)
  | unresolved (base name : String)
  | invalidName (text : String)
  deriving Repr, DecidableEq

namespace ModuleFault

def message : ModuleFault → String
  | .notFound name => "Module not found: " ++ name
  | .unresolved base name => "Cannot resolve module '" ++ name ++ "' from '" ++ base ++ "'"
  | .invalidName text => "Module name is not a string: " ++ text

end ModuleFault

/-- Failures at the border between script values and the host's data. -/
inductive EngineFault where
  /-- a script exception that nobody has taken yet -/
  | unsettled
  /-- a zero byte in text that must not have one -/
  | nulByte (position : Nat)
  /-- a lone surrogate in text for the host, at a byte position -/
  | illFormed (position : Nat)
  /-- a value of one type where another is needed -/
  | conversion (source target : String)
  | resolving (base name text : String)
  | loading (name text : String)
  /-- no memory for the built-in objects -/
  | noRoom
  deriving Repr, DecidableEq

namespace EngineFault

def message : EngineFault → String
  | .unsettled => "Exception generated by QuickJS"
  | .nulByte n =>
    "String contained internal null bytes: nul byte found in provided data at position: " ++ toString n
  | .illFormed n =>
    "Conversion from string failed: invalid utf-8 sequence of 1 bytes from index " ++ toString n
  | .conversion source target =>
    "Error converting from js '" ++ source ++ "' into type '" ++ target ++ "'"
  | .resolving base name text =>
    "Error resolving module '" ++ name ++ "' from '" ++ base ++ "': " ++ text
  | .loading name text => "Error loading module '" ++ name ++ "': " ++ text
  | .noRoom => "Allocation failed while creating object"

end EngineFault

inductive BridgeFault where
  | wrongArguments
  | notImplemented (code : Int32)
  | tooManyArguments (count : Nat)
  | notConstructor
  | notFunction
  | wrongResult
  | invalidHandle (id : UInt32)
  | promiseNotPending (id : UInt32)
  | duplicateClass (id : Int32)
  | hostBusy
  /-- a thrown value, as text -/
  | exception (text : String)
  | module (fault : ModuleFault)
  | engine (fault : EngineFault)
  | init (text : String)
  deriving Repr, DecidableEq

/-- The class of a failure. -/
inductive FaultKind where
  | protocol | exception | failure | exhaustion
  deriving Repr, DecidableEq

def FaultKind.name : FaultKind → String
  | .protocol => "Protocol"
  | .exception => "Exception"
  | .failure => "Failure"
  | .exhaustion => "Exhaustion"

namespace BridgeFault

def message : BridgeFault → String
  | .wrongArguments => "WrongArguments"
  | .notImplemented _ => "NotImplement"
  | .tooManyArguments n => "Too many arguments (" ++ toString n ++ ")"
  | .notConstructor => "Object is not constructor"
  | .notFunction => "Object is not function"
  | .wrongResult => "Wrong result"
  | .invalidHandle id => "Invalid handle (" ++ toString id.toNat ++ ")"
  | .promiseNotPending id => "Promise is not pending (" ++ toString id.toNat ++ ")"
  | .duplicateClass id => "Class id " ++ toString id.toInt ++ " is already registered"
  | .hostBusy => "Host handler is busy"
  | .exception text => text
  | .module fault => "Script error: " ++ fault.message
  | .engine fault => "Engine error: " ++ fault.message
  | .init text => "Initialization error: " ++ text

def kind : BridgeFault → FaultKind
  | .notImplemented _ => .failure
  | .tooManyArguments _ => .exhaustion
  | .exception _ | .engine _ | .module _ => .exception
  | _ => .protocol

/-- The name of the cause. -/
def name : BridgeFault → String
  | .wrongArguments => "WrongArguments"
  | .notImplemented _ => "NotImplemented"
  | .tooManyArguments _ => "TooManyArguments"
  | .notConstructor => "NotConstructor"
  | .notFunction => "NotFunction"
  | .wrongResult => "WrongResult"
  | .invalidHandle _ => "InvalidHandle"
  | .promiseNotPending _ => "PromiseNotPending"
  | .duplicateClass _ => "DuplicateClass"
  | .hostBusy => "HostBusy"
  | .exception _ => "Exception"
  | .module _ => "Script"
  | .engine _ => "Engine"
  | .init _ => "Init"

end BridgeFault

end ScriptBridge
