import ScriptBridge.Json.Printer
import ScriptBridge.Json.Record

/-!
Messages of the host's channels: calls of methods, and what they are answered.

A call is a record.  A response is an object that says under `status` which kind it is, with its
content beside that.
-/
namespace ScriptBridge

open Source JsonReader

/-! ### Calls -/

structure MethodCall where
  method : String
  arguments : JsonTree

namespace MethodCall

def toTree (c : MethodCall) : JsonTree :=
  .object [("method", .text c.method), ("arguments", c.arguments)]

structure Given where
  method : Option String
  arguments : Option JsonTree

/-- A call without arguments has the argument null. -/
def reader : JsonReader MethodCall :=
  record (σ := Given) {
    expected := "struct MethodCall"
    fields :=
      [⟨"method", fun g => g.method.isSome,
        map (fun n (g : Given) => { g with method := some n }) JsonReader.text⟩,
       ⟨"arguments", fun g => g.arguments.isSome,
        map (fun t (g : Given) => { g with arguments := some t }) tree⟩]
    start := ⟨none, none⟩
    build := fun g => do return ⟨← required "method" g.method, g.arguments.getD .null⟩ }

def encode (c : MethodCall) : String := c.toTree.compact

def decode (message : List UInt8) : Except JsonFault MethodCall :=
  run reader (Source.ofBytes message)

end MethodCall

/-! ### Responses -/

inductive Response where
  | success (result : JsonTree)
  | error (code message : String)
  | notImplemented

namespace Response

/-- The kind of a response. -/
inductive Status where
  | success | error | notImplemented
  deriving Repr, DecidableEq

namespace Status

def all : List Status := [.success, .error, .notImplemented]

def name : Status → String
  | .success => "success"
  | .error => "error"
  | .notImplemented => "not_implemented"

/-- The kind that a name in the text stands for. -/
def reader : JsonReader Status := fun depth s => do
  let (name, rest) ← variantName depth s
  match all.find? fun st => st.name == name with
  | some st => return (st, rest)
  | none => .error (.unknownVariant name (all.map Status.name))

end Status

def toTree : Response → JsonTree
  | .success result => .object [("status", .text Status.success.name), ("result", result)]
  | .error code message =>
    .object [("status", .text Status.error.name), ("code", .text code), ("message", .text message)]
  | .notImplemented => .object [("status", .text Status.notImplemented.name)]

/-- What the text holds: the status, and what stands beside it by name or by place. -/
inductive Body where
  | members (status : Status) (others : List (String × JsonTree))
  | items (status : Status) (others : List JsonTree)

/-- Members up to the closing bracket: the status, and the others in the order of the text. -/
def bodyMembers (depth : Nat) :
    Nat → Bool → Option Status → Source →
      Except JsonFault (Option Status × List (String × JsonTree) × Source)
  | 0, _, _, _ => .error .endInObject
  | fuel + 1, first, status, s => do
    match ← nextKey first s with
    | none => return (status, [], s)
    | some s =>
      let (key, rest) ← quoted s
      if key == "status" then
        if status.isSome then .error (.duplicateField "status")
        else
          let (st, rest) ← Status.reader depth (← colon rest)
          bodyMembers depth fuel false (some st) rest
      else
        let (t, rest) ← tree depth (← colon rest)
        let (status, more, rest) ← bodyMembers depth fuel false status rest
        return (status, (key, t) :: more, rest)

def bodyReader : JsonReader Body := fun depth s => do
  match ← head s with
  | (.object, rest) =>
    let depth ← descend depth
    let (status, others, rest) ← bodyMembers depth (rest.length + 1) true none rest
    match status with
    | some st => return (.members st others, ← endObject rest)
    | none => .error (.missingField "status")
  | (.list, rest) =>
    let depth ← descend depth
    match ← nextItem true rest with
    | none => .error (.missingField "status")
    | some rest =>
      let (st, rest) ← Status.reader depth rest
      let (others, rest) ← itemsOf tree depth (rest.length + 1) false rest
      return (.items st others, ← endList rest)
  | (h, _) => .error (.wrongType h "internally tagged enum MethodResponse")

/-- The text in a tree. -/
def textOf : JsonTree → Except JsonFault String
  | .text s => .ok s
  | t => .error (.wrongType t.head "a string")

def given {α : Type} (name : String) : Option α → Except JsonFault α
  | some a => .ok a
  | none => .error (.missingField name)

/-- The result among members, which may give it once. -/
def resultOf (result : Option JsonTree) : List (String × JsonTree) → Except JsonFault JsonTree
  | [] => given "result" result
  | (k, t) :: rest =>
    if k == "result" then
      if result.isSome then .error (.duplicateField k) else resultOf (some t) rest
    else resultOf result rest

/-- Code and message among members, which may give each once. -/
def errorOf (code message : Option String) :
    List (String × JsonTree) → Except JsonFault (String × String)
  | [] => do return (← given "code" code, ← given "message" message)
  | (k, t) :: rest =>
    if k == "code" then
      if code.isSome then .error (.duplicateField k)
      else do errorOf (some (← textOf t)) message rest
    else if k == "message" then
      if message.isSome then .error (.duplicateField k)
      else do errorOf code (some (← textOf t)) rest
    else errorOf code message rest

/-- There are `length` items where `taken` are wanted. -/
def tooLong (length taken : Nat) : JsonFault :=
  .wrongLength length (countOf taken "element" ++ " in sequence")

def tooShort (length wanted : Nat) (variant : String) : JsonFault :=
  .wrongLength length ("struct variant MethodResponse::" ++ variant ++ " with "
    ++ countOf wanted "element")

def ofBody : Body → Except JsonFault Response
  | .members .success others => return .success (← resultOf none others)
  | .members .error others => do
    let (code, message) ← errorOf none none others
    return .error code message
  | .members .notImplemented _ => return .notImplemented
  | .items .success others =>
    match others with
    | [] => .error (tooShort 0 1 "Success")
    | [t] => .ok (.success t)
    | _ => .error (tooLong others.length 1)
  | .items .error others =>
    match others with
    | [] => .error (tooShort 0 2 "Error")
    | [c] => do
      let _ ← textOf c
      .error (tooShort 1 2 "Error")
    | c :: m :: more => do
      let code ← textOf c
      let message ← textOf m
      if more.isEmpty then .ok (.error code message) else .error (tooLong others.length 2)
  | .items .notImplemented others =>
    if others.isEmpty then .ok .notImplemented else .error (tooLong others.length 0)

def reader : JsonReader Response := fun depth s => do
  let (body, rest) ← bodyReader depth s
  return (← ofBody body, rest)

def encode (r : Response) : String := r.toTree.compact

end Response

end ScriptBridge
