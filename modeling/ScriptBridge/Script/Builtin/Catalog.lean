import ScriptBridge.Script.Object

/-!
The objects that every script starts with.

`Builtin.initial` gives each of them as it is before any script has run.  They are not on the
heap: the engine keeps a copy of one only after a script has changed it.
-/
namespace ScriptBridge.Script

open Data Text

/-! ### Members -/

abbrev Members := List (Key × Property)

private def under (name : String) (p : Property) : Key × Property := (Key.ofString name, p)

/-- A method under the name that its signature shows. -/
private def method (f : NativeFn) : Key × Property :=
  under f.signature.name (.hidden (.native f))

/-- A method under a symbol. -/
private def symbolic (s : Symbol) (f : NativeFn) (writable : Bool) : Key × Property :=
  (.symbol s, .data (.native f) writable false true)

/-- A getter under `name`. -/
private def getter (name : String) (f : NativeFn) : Key × Property :=
  under name (.accessor (some (.builtin (.function f))) none false true)

private def speciesGetter (f : NativeFn) : Key × Property :=
  (.symbol symSpecies, .accessor (some (.builtin (.function f))) none false true)

private def tag (name : String) : Key × Property :=
  (.symbol symToStringTag, .data (Value.text name) false false true)

private def constant (name : String) (v : Value) : Key × Property := under name (.fixed v)

private def constructorMember (f : NativeFn) : Key × Property :=
  under "constructor" (.hidden (.native f))

private def prototypeMember (o : BuiltinObject) : Key × Property :=
  under "prototype" (.fixed (.builtin o))

/-! ### Constructors -/

/-- The prototype that a built-in constructor gives its instances. -/
def NativeFn.prototype? : NativeFn → Option BuiltinObject
  | .object .constructor => some .objectPrototype
  | .function .constructor => some .functionPrototype
  | .function .generatorConstructor => some .generatorFunctionPrototype
  | .function .asyncConstructor => some .asyncFunctionPrototype
  | .function .asyncGeneratorConstructor => some .asyncGeneratorFunctionPrototype
  | .array .constructor => some .arrayPrototype
  | .string .constructor => some .stringPrototype
  | .number .constructor => some .numberPrototype
  | .boolean .constructor => some .booleanPrototype
  | .symbol .constructor => some .symbolPrototype
  | .bigint .constructor => some .bigintPrototype
  | .promise .constructor => some .promisePrototype
  | .map .constructor => some .mapPrototype
  | .set .constructor => some .setPrototype
  | .weak .mapConstructor => some .weakMapPrototype
  | .weak .setConstructor => some .weakSetPrototype
  | .weak .refConstructor => some .weakRefPrototype
  | .weak .registryConstructor => some .registryPrototype
  | .date .constructor => some .datePrototype
  | .regexp .constructor => some .regexpPrototype
  | .errorConstructor c => some (.errorPrototype c)
  | _ => none

private def objectStatics : Members :=
  [.create, .getPrototypeOf, .setPrototypeOf, .defineProperty, .defineProperties,
   .getOwnPropertyNames, .getOwnPropertySymbols, .groupBy, .keys, .values, .entries, .isExtensible,
   .preventExtensions, .getOwnPropertyDescriptor, .getOwnPropertyDescriptors, .is, .assign, .seal,
   .freeze, .isSealed, .isFrozen, .fromEntries, .hasOwn].map fun f => method (.object f)

private def symbolStatics : Members :=
  [method (.symbol .forKey), method (.symbol .keyFor),
   constant "toPrimitive" (.symbol symToPrimitive), constant "iterator" (.symbol symIterator),
   constant "match" (.symbol symMatch), constant "matchAll" (.symbol symMatchAll),
   constant "replace" (.symbol symReplace), constant "search" (.symbol symSearch),
   constant "split" (.symbol symSplit), constant "toStringTag" (.symbol symToStringTag),
   constant "isConcatSpreadable" (.symbol symConcatSpreadable),
   constant "hasInstance" (.symbol symHasInstance), constant "species" (.symbol symSpecies),
   constant "unscopables" (.symbol symUnscopables),
   constant "asyncIterator" (.symbol symAsyncIterator)]

private def numberStatics : Members :=
  [under "parseInt" (.hidden (.native (.global .parseInt))),
   under "parseFloat" (.hidden (.native (.global .parseFloat))),
   method (.number .isNaN), method (.number .isFinite), method (.number .isInteger),
   method (.number .isSafeInteger),
   constant "MAX_VALUE" (.double (Float.ofBits 0x7FEFFFFFFFFFFFFF)),
   constant "MIN_VALUE" (.double (Float.ofBits 1)),
   constant "NaN" (.double Number.nan),
   constant "NEGATIVE_INFINITY" (.double (-Number.infinity)),
   constant "POSITIVE_INFINITY" (.double Number.infinity),
   constant "EPSILON" (.double (Float.ofBits 0x3CB0000000000000)),
   constant "MAX_SAFE_INTEGER" (.double 9007199254740991.0),
   constant "MIN_SAFE_INTEGER" (.double (-9007199254740991.0))]

private def promiseStatics : Members :=
  [.resolve, .reject, .all, .allSettled, .any, .race, .withResolvers].map (fun f => method (.promise f))
    ++ [speciesGetter (.promise .species)]

/-- Members of a built-in function beyond name, length and prototype. -/
private def NativeFn.statics : NativeFn → Members
  | .object .constructor => objectStatics
  | .array .constructor =>
    [method (.array .isArray), method (.array .fromItems), method (.array .ofItems),
     speciesGetter (.array .species)]
  | .string .constructor =>
    [method (.string .fromCharCode), method (.string .fromCodePoint), method (.string .raw)]
  | .number .constructor => numberStatics
  | .symbol .constructor => symbolStatics
  | .bigint .constructor => [method (.bigint .asIntN), method (.bigint .asUintN)]
  | .promise .constructor => promiseStatics
  | .map .constructor => [method (.map .groupBy), speciesGetter (.map .species)]
  | .set .constructor => [speciesGetter (.set .species)]
  | .proxy .constructor => [method (.proxy .revocable)]
  | .date .constructor => [method (.date .now), method (.date .parse), method (.date .utc)]
  | .regexp .constructor => [speciesGetter (.regexp .species)]
  | _ => []

/-- Constructors whose prototype is the last of their members. -/
private def NativeFn.staticsFirst : NativeFn → Bool
  | .promise .constructor | .map .constructor | .set .constructor => true
  | _ => false

private def NativeFn.parent : NativeFn → Builtin
  | .errorConstructor c =>
    if c == .error then .object .functionPrototype else .function (.errorConstructor .error)
  | .function .generatorConstructor | .function .asyncConstructor
  | .function .asyncGeneratorConstructor => .function (.function .constructor)
  | _ => .object .functionPrototype

private def objectOf (proto : Option BuiltinObject) (p : Payload) (members : Members) : Obj :=
  { proto := proto.map fun o => .builtin (.object o)
    extensible := true
    kind := .script p
    elements := .empty
    members := members }

def NativeFn.initial (f : NativeFn) : Obj :=
  let s := f.signature
  let shown : Members :=
    [under "length" (.data (.ofNat s.length) false false true),
     under "name" (.data (Value.text s.name) false false true)]
  let own := match f.prototype? with
    | some o => [prototypeMember o]
    | none => []
  let members := if f.staticsFirst then f.statics ++ own else own ++ f.statics
  { objectOf none (.native f) (shown ++ members) with proto := some (.builtin f.parent) }

/-! ### Prototypes and namespaces -/

private def plainObject (p : Payload) (members : Members) : Obj := objectOf (some .objectPrototype) p members

/-- The prototype of what `f` constructs; the constructor is the last of its members. -/
private def prototypeObject (f : NativeFn) (p : Payload) (members : Members) : Obj :=
  plainObject p (members ++ [constructorMember f])

private def globalTable : Obj :=
  let functions : List GlobalFn :=
    [.parseInt, .parseFloat, .isNaN, .isFinite, .queueMicrotask, .decodeURI, .decodeURIComponent,
     .encodeURI, .encodeURIComponent, .escape, .unescape]
  let constructors : List NativeFn :=
    [.object .constructor, .function .constructor, .errorConstructor .error]
    ++ [ErrorClass.evalError, .rangeError, .referenceError, .syntaxError, .typeError, .uriError,
        .internalError, .aggregateError].map .errorConstructor
    ++ [.array .constructor]
  let later : List NativeFn :=
    [.number .constructor, .boolean .constructor, .string .constructor]
  let others : List NativeFn :=
    [.symbol .constructor, .bigint .constructor, .date .constructor, .regexp .constructor,
     .proxy .constructor, .map .constructor, .set .constructor, .weak .mapConstructor,
     .weak .setConstructor, .promise .constructor, .weak .refConstructor,
     .weak .registryConstructor]
  plainObject .ordinary
    (constructors.map method
      ++ functions.map (fun f => method (.global f))
      ++ [constant "Infinity" (.double Number.infinity), constant "NaN" (.double Number.nan),
          constant "undefined" .undefined, tag "global"]
      ++ later.map method
      ++ [under "Math" (.hidden (.builtin .math)), under "Reflect" (.hidden (.builtin .reflect))]
      ++ [under "globalThis" (.hidden (.builtin .globalObject)), method (.global .evaluate),
          under "JSON" (.hidden (.builtin .json))]
      ++ others.map method)

private def objectPrototypeTable : Obj :=
  let functions : List ObjectFn :=
    [.toString, .toLocaleString, .valueOf, .hasOwnProperty, .isPrototypeOf, .propertyIsEnumerable]
  let more : List ObjectFn := [.defineGetter, .defineSetter, .lookupGetter, .lookupSetter]
  objectOf none .ordinary
    (constructorMember (.object .constructor) :: functions.map (fun f => method (.object f))
      ++ [under "__proto__" (.accessor (some (.builtin (.function (.object .getProto))))
            (some (.builtin (.function (.object .setProto)))) false true)]
      ++ more.map fun f => method (.object f))

private def functionPrototypeTable : Obj :=
  let refused : Property :=
    .accessor (some (.builtin (.function .throwTypeError))) (some (.builtin (.function .throwTypeError)))
      false true
  prototypeObject (.function .constructor) (.native (.function .empty))
    [under "length" (.data (.int 0) false false true), under "name" (.data (.spelled []) false false true),
     under "caller" refused, under "arguments" refused, method (.function .call), method (.function .apply),
     method (.function .bind), method (.function .toString),
     (.symbol symHasInstance, .fixed (.native (.function .hasInstance)))]

private def arrayPrototypeTable : Obj :=
  let functions : List ArrayFn :=
    [.at, .withItem, .concat, .every, .some, .forEach, .map, .filter, .reduce, .reduceRight, .fill,
     .find, .findIndex, .findLast, .findLastIndex, .indexOf, .lastIndexOf, .includes, .join,
     .toString, .toLocaleString, .pop, .push, .shift, .unshift, .reverse, .toReversed, .sort,
     .toSorted, .slice, .splice, .toSpliced, .copyWithin, .flatMap, .flat, .values, .keys, .entries]
  prototypeObject (.array .constructor) .array
    (under "length" (.data (.int 0) true false false) :: functions.map (fun f => method (.array f))
      ++ [symbolic symIterator (.array .values) true,
          (.symbol symUnscopables, .data (.builtin .unscopables) false false true)])

private def stringPrototypeTable : Obj :=
  let functions : List StringFn :=
    [.at, .charCodeAt, .charAt, .concat, .codePointAt, .isWellFormed, .toWellFormed, .indexOf,
     .lastIndexOf, .includes, .endsWith, .startsWith, .matchText, .matchAll, .search, .split,
     .substring, .substr, .slice, .repeatText, .replace, .replaceAll, .padEnd, .padStart, .trim,
     .trimEnd, .trimStart, .toString, .valueOf, .localeCompare, .normalize, .toLowerCase,
     .toUpperCase, .toLocaleLowerCase, .toLocaleUpperCase]
  prototypeObject (.string .constructor) (.primitive (.spelled []))
    (under "length" (.fixed (.int 0)) :: functions.map (fun f => method (.string f))
      ++ [symbolic symIterator (.string .iterator) true])

private def numberPrototypeTable : Obj :=
  let functions : List NumberFn :=
    [.toExponential, .toFixed, .toPrecision, .toString, .toLocaleString, .valueOf]
  prototypeObject (.number .constructor) (.primitive (.int 0))
    (functions.map fun f => method (.number f))

private def errorPrototypeTable (c : ErrorClass) : Obj :=
  objectOf (some (if c == .error then .objectPrototype else .errorPrototype .error)) .ordinary
    ((if c == .error then [method .errorToString] else [])
      ++ [under "name" (.hidden (Value.text c.name)), under "message" (.hidden (.spelled [])),
          constructorMember (.errorConstructor c)])

private def promisePrototypeTable : Obj :=
  prototypeObject (.promise .constructor) .ordinary
    [method (.promise .then), method (.promise .catchError), method (.promise .finallyDo),
     tag "Promise"]

private def mapPrototypeTable : Obj :=
  let functions : List MapFn := [.set, .get, .has, .delete, .clear]
  prototypeObject (.map .constructor) .ordinary
    (functions.map (fun f => method (.map f))
      ++ [getter "size" (.map .size), method (.map .forEach), method (.map .values), method (.map .keys),
          method (.map .entries), symbolic symIterator (.map .entries) true, tag "Map"])

private def setPrototypeTable : Obj :=
  let functions : List SetFn := [.add, .has, .delete, .clear]
  prototypeObject (.set .constructor) .ordinary
    (functions.map (fun f => method (.set f))
      ++ [getter "size" (.set .size), method (.set .forEach), method (.set .values),
          under "keys" (.hidden (.native (.set .values))), symbolic symIterator (.set .values) true,
          method (.set .entries), tag "Set"])

private def datePrototypeTable : Obj :=
  let both (f : Bool → DateFn) : List DateFn := [f false, f true]
  let texts : List DateFn :=
    [.toISOString, .toDateString, .toTimeString, .toLocaleString, .toLocaleDateString,
     .toLocaleTimeString, .getTimezoneOffset, .getTime, .getYear]
  let parts : List DatePart := [.year, .month, .day, .hours, .minutes, .seconds, .milliseconds]
  let getters := parts.flatMap (fun p => both (.get p)) ++ both .getDay
  let setters := (parts.drop 1).reverse.flatMap (fun p => both (.set p))
  let methods (fs : List DateFn) : Members := fs.map fun f => method (.date f)
  prototypeObject (.date .constructor) .ordinary
    (methods [.valueOf, .toString, .toUTCString]
      ++ [under "toGMTString" (.hidden (.native (.date .toUTCString)))]
      ++ methods (texts ++ getters ++ [.setTime] ++ setters ++ [.setYear] ++ both (.set .year) ++ [.toJSON])
      ++ [symbolic symToPrimitive (.date .toPrimitive) false])

private def regexpPrototypeTable : Obj :=
  let getters : List (String × RegExpFn) :=
    [("flags", .flags), ("source", .source), ("global", .global), ("ignoreCase", .ignoreCase),
     ("multiline", .multiline), ("dotAll", .dotAll), ("unicode", .unicode),
     ("unicodeSets", .unicodeSets), ("sticky", .sticky), ("hasIndices", .hasIndices)]
  prototypeObject (.regexp .constructor) .ordinary
    (getters.map (fun x => getter x.1 (.regexp x.2))
      ++ [method (.regexp .exec), method (.regexp .compile), method (.regexp .test),
          method (.regexp .toString),
          symbolic symReplace (.regexp .replace) true, symbolic symMatch (.regexp .matchText) true,
          symbolic symMatchAll (.regexp .matchAll) true, symbolic symSearch (.regexp .search) true,
          symbolic symSplit (.regexp .split) true])

private def mathTable : Obj :=
  let functions : List MathFn :=
    [.min, .max, .abs, .floor, .ceil, .round, .sqrt, .acos, .asin, .atan, .atan2, .cos, .exp, .log,
     .pow, .sin, .tan, .trunc, .sign, .cosh, .sinh, .tanh, .acosh, .asinh, .atanh, .expm1, .log1p,
     .log2, .log10, .cbrt, .hypot, .random, .fround, .imul, .clz32]
  plainObject .ordinary
    (functions.map (fun f => method (.math f))
      ++ [tag "Math",
          constant "E" (.double 2.718281828459045), constant "LN10" (.double 2.302585092994046),
          constant "LN2" (.double 0.6931471805599453), constant "LOG2E" (.double 1.4426950408889634),
          constant "LOG10E" (.double 0.4342944819032518), constant "PI" (.double 3.141592653589793),
          constant "SQRT1_2" (.double 0.7071067811865476), constant "SQRT2" (.double 1.4142135623730951)])

private def reflectTable : Obj :=
  let functions : List ReflectFn :=
    [.apply, .construct, .defineProperty, .deleteProperty, .get, .getOwnPropertyDescriptor,
     .getPrototypeOf, .has, .isExtensible, .ownKeys, .preventExtensions, .set, .setPrototypeOf]
  plainObject .ordinary (functions.map (fun f => method (.reflect f)) ++ [tag "Reflect"])

private def unscopablesTable : Obj :=
  objectOf none .ordinary
    (["at", "copyWithin", "entries", "fill", "find", "findIndex", "findLast", "findLastIndex", "flat",
      "flatMap", "includes", "keys", "toReversed", "toSorted", "toSpliced", "values"].map fun n =>
      under n (.plain (.bool true)))

private def iteratorTable (name : String) (next : IteratorFn) : Obj :=
  objectOf (some .iteratorPrototype) .ordinary [method (.iterator next), tag name]

/-- The object that functions of one of the special kinds inherit from. -/
private def functionFamily (name : String) (f : FunctionFn) (instances : Option BuiltinObject) : Obj :=
  objectOf (some .functionPrototype) .ordinary
    ([under "constructor" (.data (.native (.function f)) false false true)]
      ++ (match instances with
        | some o => [under "prototype" (.data (.builtin o) false false true)]
        | none => [])
      ++ [tag name])

private def weakMembers (constructor : WeakFn) (functions : List WeakFn) (name : String) : Obj :=
  prototypeObject (.weak constructor) .ordinary
    (functions.map (fun f => method (.weak f)) ++ [tag name])

def BuiltinObject.initial : BuiltinObject → Obj
  | .globalObject => globalTable
  | .objectPrototype => objectPrototypeTable
  | .functionPrototype => functionPrototypeTable
  | .arrayPrototype => arrayPrototypeTable
  | .stringPrototype => stringPrototypeTable
  | .numberPrototype => numberPrototypeTable
  | .booleanPrototype =>
    prototypeObject (.boolean .constructor) (.primitive (.bool false))
      [method (.boolean .toString), method (.boolean .valueOf)]
  | .symbolPrototype =>
    prototypeObject (.symbol .constructor) .ordinary
      [method (.symbol .toString), method (.symbol .valueOf),
       symbolic symToPrimitive (.symbol .toPrimitive) false, tag "Symbol",
       getter "description" (.symbol .description)]
  | .bigintPrototype =>
    prototypeObject (.bigint .constructor) .ordinary
      [method (.bigint .toString), method (.bigint .valueOf), tag "BigInt"]
  | .errorPrototype c => errorPrototypeTable c
  | .iteratorPrototype => plainObject .ordinary [symbolic symIterator (.iterator .self) true]
  | .asyncIteratorPrototype => plainObject .ordinary [symbolic symAsyncIterator (.iterator .asyncSelf) true]
  | .arrayIteratorPrototype => iteratorTable "Array Iterator" .arrayNext
  | .stringIteratorPrototype => iteratorTable "String Iterator" .stringNext
  | .mapIteratorPrototype => iteratorTable "Map Iterator" .mapNext
  | .setIteratorPrototype => iteratorTable "Set Iterator" .setNext
  | .regexpIteratorPrototype => iteratorTable "RegExp String Iterator" .regexpNext
  | .generatorPrototype =>
    objectOf (some .iteratorPrototype) .ordinary
      [method (.iterator .generatorNext), method (.iterator .generatorReturn),
       method (.iterator .generatorThrow), tag "Generator",
       under "constructor" (.data (.builtin .generatorFunctionPrototype) false false true)]
  | .asyncGeneratorPrototype =>
    objectOf (some .asyncIteratorPrototype) .ordinary
      [method (.iterator .asyncNext), method (.iterator .asyncReturn), method (.iterator .asyncThrow),
       tag "AsyncGenerator",
       under "constructor" (.data (.builtin .asyncGeneratorFunctionPrototype) false false true)]
  | .generatorFunctionPrototype =>
    functionFamily "GeneratorFunction" .generatorConstructor (some .generatorPrototype)
  | .asyncFunctionPrototype => functionFamily "AsyncFunction" .asyncConstructor none
  | .asyncGeneratorFunctionPrototype =>
    functionFamily "AsyncGeneratorFunction" .asyncGeneratorConstructor (some .asyncGeneratorPrototype)
  | .promisePrototype => promisePrototypeTable
  | .mapPrototype => mapPrototypeTable
  | .setPrototype => setPrototypeTable
  | .weakMapPrototype => weakMembers .mapConstructor [.mapSet, .mapGet, .mapHas, .mapDelete] "WeakMap"
  | .weakSetPrototype => weakMembers .setConstructor [.setAdd, .setHas, .setDelete] "WeakSet"
  | .weakRefPrototype => weakMembers .refConstructor [.deref] "WeakRef"
  | .registryPrototype =>
    weakMembers .registryConstructor [.register, .unregister] "FinalizationRegistry"
  | .datePrototype => datePrototypeTable
  | .regexpPrototype => regexpPrototypeTable
  | .math => mathTable
  | .json => plainObject .ordinary [method (.json .parse), method (.json .stringify), tag "JSON"]
  | .reflect => reflectTable
  | .unscopables => unscopablesTable

def Builtin.initial : Builtin → Obj
  | .object o => o.initial
  | .function f => f.initial

end ScriptBridge.Script
