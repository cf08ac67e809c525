import ScriptBridge.Protocol.Slot

/-!
Actions: what the host asks of the engine, what the engine asks of the host, and the codes that
name them on the wire.
-/
namespace ScriptBridge

/-- What the host asks for. -/
inductive Action where
  | eval | toString | set | get | invoke | bind | promiseComplete | wrapFunction | call
  | run | runPromise | propertyNames | newObject | isArray | isFunction | isConstructor
  deriving Repr, DecidableEq

namespace Action

def all : List Action :=
  [.eval, .toString, .set, .get, .invoke, .bind, .promiseComplete, .wrapFunction, .call,
   .run, .runPromise, .propertyNames, .newObject, .isArray, .isFunction, .isConstructor]

def code : Action → Int
  | .eval => 1
  | .toString => 2
  | .set => 3
  | .get => 4
  | .invoke => 5
  | .bind => 6
  | .promiseComplete => 7
  | .wrapFunction => 8
  | .call => 9
  | .run => 10
  | .runPromise => 11
  | .propertyNames => 12
  | .newObject => 13
  | .isArray => 100
  | .isFunction => 101
  | .isConstructor => 102

def ofCode? (n : Int) : Option Action := all.find? fun a => a.code == n

def name : Action → String
  | .eval => "Eval"
  | .toString => "ToString"
  | .set => "Set"
  | .get => "Get"
  | .invoke => "Invoke"
  | .bind => "Bind"
  | .promiseComplete => "PromiseComplete"
  | .wrapFunction => "WrapFunction"
  | .call => "Call"
  | .run => "Run"
  | .runPromise => "RunPromise"
  | .propertyNames => "PropertyNames"
  | .newObject => "NewObject"
  | .isArray => "IsArray"
  | .isFunction => "IsFunction"
  | .isConstructor => "IsConstructor"

end Action

/-- What the engine asks of the host. -/
inductive Callback where
  | constructor | call | delete | callFunction | moduleName | loadModule
  deriving Repr, DecidableEq

namespace Callback

def all : List Callback := [.constructor, .call, .delete, .callFunction, .moduleName, .loadModule]

/-- Callbacks are numbered from one in the order of `all`. -/
def code : Callback → Int
  | .constructor => 1
  | .call => 2
  | .delete => 3
  | .callFunction => 4
  | .moduleName => 5
  | .loadModule => 6

def name : Callback → String
  | .constructor => "Constructor"
  | .call => "Call"
  | .delete => "Delete"
  | .callFunction => "CallFunction"
  | .moduleName => "ModuleName"
  | .loadModule => "LoadModule"

end Callback

/-- The host's answer to a callback. -/
inductive Reply where
  /-- the script receives `undefined` -/
  | done
  | value (s : Slot)
  | throw (s : Slot)
  /-- any other result code -/
  | failure (code : Int32)
  deriving Repr

namespace Reply

def code : Reply → Int
  | .done => 0
  | .value _ => 1
  | .throw _ => -1
  | .failure c => c.toInt

end Reply

inductive PrintLevel where
  | log | warn | error
  deriving Repr, DecidableEq

namespace PrintLevel

def all : List PrintLevel := [.log, .warn, .error]

def code : PrintLevel → Int
  | .log => 0
  | .warn => 1
  | .error => 2

def name : PrintLevel → String
  | .log => "Log"
  | .warn => "Warn"
  | .error => "Error"

end PrintLevel

/-- How the host ends a promise. -/
inductive Outcome where
  | reject | resolve | resolveNull
  deriving Repr, DecidableEq

namespace Outcome

/-- Every code but those of `reject` and `resolve` resolves with null. -/
def ofCode (n : Int) : Outcome :=
  if n == 0 then .reject else if n == 1 then .resolve else .resolveNull

def name : Outcome → String
  | .reject => "Reject"
  | .resolve => "Resolve"
  | .resolveNull => "ResolveNull"

end Outcome

end ScriptBridge
