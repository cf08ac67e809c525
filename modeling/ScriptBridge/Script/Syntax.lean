import ScriptBridge.Text.Units

/-!
Programs as trees.

Every function carries what the evaluator must know before it runs: which names it declares,
which it takes from outside (`captures`), and whether it mentions `this` or `arguments`.  A
closure keeps alive exactly the variables that it captures, so these lists decide when values
die.
-/
namespace ScriptBridge.Script

open Text

abbrev Name := String

inductive UnaryOp where
  | plus | minus | not | bitNot | typeOf | void
  deriving Repr, DecidableEq

inductive BinaryOp where
  | add | sub | mul | div | rem | pow
  | shiftLeft | shiftRight | shiftRightZero
  | bitAnd | bitOr | bitXor
  | looseEq | looseNe | strictEq | strictNe
  | less | greater | lessEq | greaterEq
  | instanceOf | within
  deriving Repr, DecidableEq

inductive LogicalOp where
  | and | or | nullish
  deriving Repr, DecidableEq

inductive DeclarationKind where
  | var | letKind | constKind
  deriving Repr, DecidableEq

/-- Name and whether assignment to it is refused. -/
structure LexicalName where
  name : Name
  constant : Bool
  deriving Repr, DecidableEq

inductive FunctionKind where
  | normal | arrow | method | getter | setter | classConstructor | derivedConstructor
  deriving Repr, DecidableEq

structure FunctionInfo where
  name : Name
  kind : FunctionKind
  isAsync : Bool
  isGenerator : Bool
  strict : Bool
  /-- parameters before the first default or rest -/
  length : Nat
  /-- parameters are plain names -/
  simple : Bool
  parameterNames : List Name
  /-- names declared by `var` and by functions of the body -/
  varNames : List Name
  lexical : List LexicalName
  /-- names taken from the enclosing scopes; `none` when all may be -/
  captures : Option (List Name)
  usesThis : Bool
  usesNewTarget : Bool
  usesSuper : Bool
  usesArguments : Bool
  /-- a function expression that mentions its own name -/
  usesSelf : Bool
  source : String
  deriving Repr

namespace FunctionInfo

def isConstructor (i : FunctionInfo) : Bool :=
  match i.kind with
  | .normal => !i.isAsync && !i.isGenerator
  | .classConstructor | .derivedConstructor => true
  | _ => false

/-- Functions of this kind are made with a `prototype`. -/
def hasPrototype (i : FunctionInfo) : Bool := i.isGenerator || (i.kind == .normal && !i.isAsync)

def isClass (i : FunctionInfo) : Bool :=
  match i.kind with
  | .classConstructor | .derivedConstructor => true
  | _ => false

end FunctionInfo

mutual

inductive Expr where
  | undefined
  | null
  | bool (b : Bool)
  | number (x : Float)
  | bigint (n : Nat)
  | string (u : Units)
  | regexp (pattern flags : Units)
  /-- texts before, between and after the values -/
  | template (texts : List Units) (values : List Expr)
  | taggedTemplate (tag : Expr) (cooked : List (Option Units)) (raw : List Units)
      (values : List Expr)
  | ident (n : Name)
  | this
  | newTarget
  | importMeta
  | importCall (e : Expr)
  | superMember (key : Expr)
  | superCall (args : List Item)
  | array (items : List Item)
  | object (members : List Member)
  | function (f : FunctionNode)
  | classExpr (c : ClassNode)
  | unary (op : UnaryOp) (e : Expr)
  | delete (e : Expr)
  | binary (op : BinaryOp) (l r : Expr)
  | logical (op : LogicalOp) (l r : Expr)
  | privateIn (n : Name) (e : Expr)
  | conditional (test yes no : Expr)
  | sequence (l r : Expr)
  | update (before increment : Bool) (target : Expr)
  | assign (target : Pattern) (e : Expr)
  | compound (op : BinaryOp) (target e : Expr)
  | logicalAssign (op : LogicalOp) (target e : Expr)
  /-- a member under a name written in the text -/
  | dot (object : Expr) (name : Units)
  | member (object key : Expr)
  | privateMember (object : Expr) (n : Name)
  | call (callee : Expr) (args : List Item)
  | newCall (callee : Expr) (args : List Item)
  | chain (e : Expr)
  | optionalMember (object key : Expr)
  | optionalSecret (object : Expr) (n : Name)
  | optionalCall (callee : Expr) (args : List Item)
  | yield (e : Option Expr)
  | yieldAll (e : Expr)
  | await (e : Expr)
  /-- the whole value of a place; a function or class without a name takes that of the place -/
  | placed (name : Units) (e : Expr)

/-- An element of an array literal or an argument list. -/
inductive Item where
  | hole
  | single (e : Expr)
  | spread (e : Expr)

inductive PropertyName where
  | fixed (u : Units)
  | computed (e : Expr)
  | secret (n : Name)

inductive Member where
  | property (key : PropertyName) (value : Expr)
  | prototype (value : Expr)
  | method (key : PropertyName) (f : FunctionNode)
  | spread (e : Expr)

/-- A place that takes a value: a name, a property, or a structure of such places. -/
inductive Pattern where
  | target (e : Expr)
  | array (items : List PatternItem)
  | object (properties : List PatternProperty)

inductive PatternItem where
  | hole
  | single (p : Pattern) (default : Option Expr)
  | rest (p : Pattern)

inductive PatternProperty where
  | single (key : PropertyName) (p : Pattern) (default : Option Expr)
  | rest (p : Pattern)

inductive FunctionNode where
  | mk (info : FunctionInfo) (parameters : List PatternItem) (body : List Stmt)

inductive ClassNode where
  | mk (name : Name) (source : String) (parent : Option Expr) (constructor : FunctionNode)
      (secrets : List Name) (elements : List ClassElement)

inductive ClassElement where
  | method (isStatic : Bool) (key : PropertyName) (f : FunctionNode)
  | field (isStatic : Bool) (key : PropertyName) (init : FunctionNode)
  | block (f : FunctionNode)

inductive Declarator where
  | mk (p : Pattern) (init : Option Expr)

inductive ForInit where
  | none
  | expr (e : Expr)
  | declare (kind : DeclarationKind) (names : List LexicalName) (decls : List Declarator)

inductive ForTarget where
  | assign (p : Pattern)
  | declare (kind : DeclarationKind) (names : List LexicalName) (p : Pattern)

/-- What a `try` statement does with a thrown value. -/
inductive Handler where
  | none
  | plain (body : Stmt)
  | bind (p : Pattern) (names : List LexicalName) (body : Stmt)

inductive SwitchCase where
  | mk (test : Option Expr) (body : List Stmt)

inductive Stmt where
  | empty
  | expr (e : Expr)
  | declare (kind : DeclarationKind) (names : List Name) (decls : List Declarator)
  | function (f : FunctionNode)
  /-- the function of a block becomes the value of the variable of its name -/
  | exposeFunction (n : Name)
  | classDeclaration (c : ClassNode)
  | block (names : List LexicalName) (body : List Stmt)
  | ifElse (test : Expr) (yes no : Stmt)
  | whileLoop (test : Expr) (body : Stmt)
  | doWhile (body : Stmt) (test : Expr)
  | forLoop (init : ForInit) (test update : Option Expr) (body : Stmt)
  | forIn (target : ForTarget) (e : Expr) (body : Stmt)
  | forOf (awaits : Bool) (target : ForTarget) (e : Expr) (body : Stmt)
  | returnValue (e : Option Expr)
  | breakTo (label : Option Name)
  | continueTo (label : Option Name)
  | throwValue (e : Expr)
  /-- the finalizer is `empty` when there is none -/
  | tryBlock (body : Stmt) (handler : Handler) (finalizer : Stmt)
  | switchOn (e : Expr) (names : List LexicalName) (cases : List SwitchCase)
  | labeled (l : Name) (s : Stmt)
  | withObject (e : Expr) (s : Stmt)

end

instance : Inhabited Expr := ⟨.undefined⟩
instance : Inhabited Stmt := ⟨.empty⟩
instance : Inhabited Pattern := ⟨.target .undefined⟩

def FunctionNode.info : FunctionNode → FunctionInfo
  | .mk i _ _ => i

def ClassNode.name : ClassNode → Name
  | .mk n .. => n

/-- Names bound directly in `body` by `let`, `const` and `class`. -/
def lexicalNames (body : List Stmt) : List LexicalName :=
  body.flatMap fun s =>
    match s with
    | .declare .letKind names _ => names.map fun n => ⟨n, false⟩
    | .declare .constKind names _ => names.map fun n => ⟨n, true⟩
    | .classDeclaration c => [⟨c.name, false⟩]
    | _ => []

/-- Function declarations directly in `body`, in order. -/
def declaredFunctions (body : List Stmt) : List FunctionNode :=
  body.filterMap fun s =>
    match s with
    | .function f => some f
    | _ => none

/-! ### Programs -/

/-- Text run against the global scope. -/
structure Program where
  strict : Bool
  varNames : List Name
  lexical : List LexicalName
  body : List Stmt

/-- `imported` is the exported name, or `none` for the whole namespace. -/
structure ImportBinding where
  request : String
  imported : Option Name
  localName : Name
  deriving Repr

inductive ExportBinding where
  | fromLocal (exported localName : Name)
  | indirect (exported : Name) (request : String) (imported : Name)
  | namespaceOf (exported : Name) (request : String)
  | star (request : String)
  deriving Repr

structure ModuleProgram where
  requests : List String
  imports : List ImportBinding
  «exports» : List ExportBinding
  varNames : List Name
  lexical : List LexicalName
  body : List Stmt
  awaits : Bool

end ScriptBridge.Script
