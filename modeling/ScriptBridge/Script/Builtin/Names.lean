/-!
Names of the objects that a script finds when it starts.

Every built-in function is a constructor of a small enumeration, one for each family, with the
name and parameter count that a script can read off it.  What the functions do is said in the
module of their family.
-/
namespace ScriptBridge.Script

/-- The name and parameter count that a built-in function shows. -/
structure Signature where
  name : String
  length : Nat
  deriving Repr, DecidableEq

/-- Functions of the global object. -/
inductive GlobalFn where
  | parseInt | parseFloat | isNaN | isFinite | queueMicrotask | decodeURI | decodeURIComponent
  | encodeURI | encodeURIComponent | escape | unescape | evaluate
  deriving Repr, DecidableEq

def GlobalFn.signature : GlobalFn → Signature
  | .parseInt => ⟨"parseInt", 2⟩
  | .parseFloat => ⟨"parseFloat", 1⟩
  | .isNaN => ⟨"isNaN", 1⟩
  | .isFinite => ⟨"isFinite", 1⟩
  | .queueMicrotask => ⟨"queueMicrotask", 1⟩
  | .decodeURI => ⟨"decodeURI", 1⟩
  | .decodeURIComponent => ⟨"decodeURIComponent", 1⟩
  | .encodeURI => ⟨"encodeURI", 1⟩
  | .encodeURIComponent => ⟨"encodeURIComponent", 1⟩
  | .escape => ⟨"escape", 1⟩
  | .unescape => ⟨"unescape", 1⟩
  | .evaluate => ⟨"eval", 1⟩

/-- `Object` and its members. -/
inductive ObjectFn where
  | constructor | create | getPrototypeOf | setPrototypeOf | defineProperty | defineProperties
  | getOwnPropertyNames | getOwnPropertySymbols | groupBy | keys | values | entries
  | isExtensible | preventExtensions | getOwnPropertyDescriptor | getOwnPropertyDescriptors | is
  | assign | seal | freeze | isSealed | isFrozen | fromEntries | hasOwn | toString
  | toLocaleString | valueOf | hasOwnProperty | isPrototypeOf | propertyIsEnumerable | getProto
  | setProto | defineGetter | defineSetter | lookupGetter | lookupSetter
  deriving Repr, DecidableEq

def ObjectFn.signature : ObjectFn → Signature
  | .constructor => ⟨"Object", 1⟩
  | .create => ⟨"create", 2⟩
  | .getPrototypeOf => ⟨"getPrototypeOf", 1⟩
  | .setPrototypeOf => ⟨"setPrototypeOf", 2⟩
  | .defineProperty => ⟨"defineProperty", 3⟩
  | .defineProperties => ⟨"defineProperties", 2⟩
  | .getOwnPropertyNames => ⟨"getOwnPropertyNames", 1⟩
  | .getOwnPropertySymbols => ⟨"getOwnPropertySymbols", 1⟩
  | .groupBy => ⟨"groupBy", 2⟩
  | .keys => ⟨"keys", 1⟩
  | .values => ⟨"values", 1⟩
  | .entries => ⟨"entries", 1⟩
  | .isExtensible => ⟨"isExtensible", 1⟩
  | .preventExtensions => ⟨"preventExtensions", 1⟩
  | .getOwnPropertyDescriptor => ⟨"getOwnPropertyDescriptor", 2⟩
  | .getOwnPropertyDescriptors => ⟨"getOwnPropertyDescriptors", 1⟩
  | .is => ⟨"is", 2⟩
  | .assign => ⟨"assign", 2⟩
  | .seal => ⟨"seal", 1⟩
  | .freeze => ⟨"freeze", 1⟩
  | .isSealed => ⟨"isSealed", 1⟩
  | .isFrozen => ⟨"isFrozen", 1⟩
  | .fromEntries => ⟨"fromEntries", 1⟩
  | .hasOwn => ⟨"hasOwn", 2⟩
  | .toString => ⟨"toString", 0⟩
  | .toLocaleString => ⟨"toLocaleString", 0⟩
  | .valueOf => ⟨"valueOf", 0⟩
  | .hasOwnProperty => ⟨"hasOwnProperty", 1⟩
  | .isPrototypeOf => ⟨"isPrototypeOf", 1⟩
  | .propertyIsEnumerable => ⟨"propertyIsEnumerable", 1⟩
  | .getProto => ⟨"get __proto__", 0⟩
  | .setProto => ⟨"set __proto__", 1⟩
  | .defineGetter => ⟨"__defineGetter__", 2⟩
  | .defineSetter => ⟨"__defineSetter__", 2⟩
  | .lookupGetter => ⟨"__lookupGetter__", 1⟩
  | .lookupSetter => ⟨"__lookupSetter__", 1⟩

/-- `Function` and its members. -/
inductive FunctionFn where
  | constructor | generatorConstructor | asyncConstructor | asyncGeneratorConstructor | empty
  | call | apply | bind | toString | hasInstance
  deriving Repr, DecidableEq

def FunctionFn.signature : FunctionFn → Signature
  | .constructor => ⟨"Function", 1⟩
  | .generatorConstructor => ⟨"GeneratorFunction", 1⟩
  | .asyncConstructor => ⟨"AsyncFunction", 1⟩
  | .asyncGeneratorConstructor => ⟨"AsyncGeneratorFunction", 1⟩
  | .empty => ⟨"", 0⟩
  | .call => ⟨"call", 1⟩
  | .apply => ⟨"apply", 2⟩
  | .bind => ⟨"bind", 1⟩
  | .toString => ⟨"toString", 0⟩
  | .hasInstance => ⟨"[Symbol.hasInstance]", 1⟩

/-- `Array` and its members. -/
inductive ArrayFn where
  | constructor | isArray | ofItems | fromItems | species | at | withItem | concat | every | some
  | forEach | map | filter | reduce | reduceRight | fill | find | findIndex | findLast
  | findLastIndex | indexOf | lastIndexOf | includes | join | toString | toLocaleString | pop
  | push | shift | unshift | reverse | toReversed | sort | toSorted | slice | splice | toSpliced
  | copyWithin | flatMap | flat | values | keys | entries
  deriving Repr, DecidableEq

def ArrayFn.signature : ArrayFn → Signature
  | .constructor => ⟨"Array", 1⟩
  | .isArray => ⟨"isArray", 1⟩
  | .ofItems => ⟨"of", 0⟩
  | .fromItems => ⟨"from", 1⟩
  | .species => ⟨"get [Symbol.species]", 0⟩
  | .at => ⟨"at", 1⟩
  | .withItem => ⟨"with", 2⟩
  | .concat => ⟨"concat", 1⟩
  | .every => ⟨"every", 1⟩
  | .some => ⟨"some", 1⟩
  | .forEach => ⟨"forEach", 1⟩
  | .map => ⟨"map", 1⟩
  | .filter => ⟨"filter", 1⟩
  | .reduce => ⟨"reduce", 1⟩
  | .reduceRight => ⟨"reduceRight", 1⟩
  | .fill => ⟨"fill", 1⟩
  | .find => ⟨"find", 1⟩
  | .findIndex => ⟨"findIndex", 1⟩
  | .findLast => ⟨"findLast", 1⟩
  | .findLastIndex => ⟨"findLastIndex", 1⟩
  | .indexOf => ⟨"indexOf", 1⟩
  | .lastIndexOf => ⟨"lastIndexOf", 1⟩
  | .includes => ⟨"includes", 1⟩
  | .join => ⟨"join", 1⟩
  | .toString => ⟨"toString", 0⟩
  | .toLocaleString => ⟨"toLocaleString", 0⟩
  | .pop => ⟨"pop", 0⟩
  | .push => ⟨"push", 1⟩
  | .shift => ⟨"shift", 0⟩
  | .unshift => ⟨"unshift", 1⟩
  | .reverse => ⟨"reverse", 0⟩
  | .toReversed => ⟨"toReversed", 0⟩
  | .sort => ⟨"sort", 1⟩
  | .toSorted => ⟨"toSorted", 1⟩
  | .slice => ⟨"slice", 2⟩
  | .splice => ⟨"splice", 2⟩
  | .toSpliced => ⟨"toSpliced", 2⟩
  | .copyWithin => ⟨"copyWithin", 2⟩
  | .flatMap => ⟨"flatMap", 1⟩
  | .flat => ⟨"flat", 0⟩
  | .values => ⟨"values", 0⟩
  | .keys => ⟨"keys", 0⟩
  | .entries => ⟨"entries", 0⟩

/-- Members of iterator prototypes. -/
inductive IteratorFn where
  | self | asyncSelf | arrayNext | stringNext | mapNext | setNext | regexpNext | generatorNext
  | generatorReturn | generatorThrow | asyncNext | asyncReturn | asyncThrow
  deriving Repr, DecidableEq

def IteratorFn.signature : IteratorFn → Signature
  | .self => ⟨"[Symbol.iterator]", 0⟩
  | .asyncSelf => ⟨"[Symbol.asyncIterator]", 0⟩
  | .arrayNext => ⟨"next", 0⟩
  | .stringNext => ⟨"next", 0⟩
  | .mapNext => ⟨"next", 0⟩
  | .setNext => ⟨"next", 0⟩
  | .regexpNext => ⟨"next", 0⟩
  | .generatorNext => ⟨"next", 1⟩
  | .generatorReturn => ⟨"return", 1⟩
  | .generatorThrow => ⟨"throw", 1⟩
  | .asyncNext => ⟨"next", 1⟩
  | .asyncReturn => ⟨"return", 1⟩
  | .asyncThrow => ⟨"throw", 1⟩

/-- `String` and its members. -/
inductive StringFn where
  | constructor | fromCharCode | fromCodePoint | raw | at | charCodeAt | charAt | concat
  | codePointAt | isWellFormed | toWellFormed | indexOf | lastIndexOf | includes | endsWith
  | startsWith | matchText | matchAll | search | split | substring | substr | slice | repeatText
  | replace | replaceAll | padEnd | padStart | trim | trimEnd | trimStart | toString | valueOf
  | localeCompare | normalize | toLowerCase | toUpperCase | toLocaleLowerCase | toLocaleUpperCase
  | iterator
  deriving Repr, DecidableEq

def StringFn.signature : StringFn → Signature
  | .constructor => ⟨"String", 1⟩
  | .fromCharCode => ⟨"fromCharCode", 1⟩
  | .fromCodePoint => ⟨"fromCodePoint", 1⟩
  | .raw => ⟨"raw", 1⟩
  | .at => ⟨"at", 1⟩
  | .charCodeAt => ⟨"charCodeAt", 1⟩
  | .charAt => ⟨"charAt", 1⟩
  | .concat => ⟨"concat", 1⟩
  | .codePointAt => ⟨"codePointAt", 1⟩
  | .isWellFormed => ⟨"isWellFormed", 0⟩
  | .toWellFormed => ⟨"toWellFormed", 0⟩
  | .indexOf => ⟨"indexOf", 1⟩
  | .lastIndexOf => ⟨"lastIndexOf", 1⟩
  | .includes => ⟨"includes", 1⟩
  | .endsWith => ⟨"endsWith", 1⟩
  | .startsWith => ⟨"startsWith", 1⟩
  | .matchText => ⟨"match", 1⟩
  | .matchAll => ⟨"matchAll", 1⟩
  | .search => ⟨"search", 1⟩
  | .split => ⟨"split", 2⟩
  | .substring => ⟨"substring", 2⟩
  | .substr => ⟨"substr", 2⟩
  | .slice => ⟨"slice", 2⟩
  | .repeatText => ⟨"repeat", 1⟩
  | .replace => ⟨"replace", 2⟩
  | .replaceAll => ⟨"replaceAll", 2⟩
  | .padEnd => ⟨"padEnd", 1⟩
  | .padStart => ⟨"padStart", 1⟩
  | .trim => ⟨"trim", 0⟩
  | .trimEnd => ⟨"trimEnd", 0⟩
  | .trimStart => ⟨"trimStart", 0⟩
  | .toString => ⟨"toString", 0⟩
  | .valueOf => ⟨"valueOf", 0⟩
  | .localeCompare => ⟨"localeCompare", 1⟩
  | .normalize => ⟨"normalize", 0⟩
  | .toLowerCase => ⟨"toLowerCase", 0⟩
  | .toUpperCase => ⟨"toUpperCase", 0⟩
  | .toLocaleLowerCase => ⟨"toLocaleLowerCase", 0⟩
  | .toLocaleUpperCase => ⟨"toLocaleUpperCase", 0⟩
  | .iterator => ⟨"[Symbol.iterator]", 0⟩

/-- `Number` and its members. -/
inductive NumberFn where
  | constructor | isNaN | isFinite | isInteger | isSafeInteger | toExponential | toFixed
  | toPrecision | toString | toLocaleString | valueOf
  deriving Repr, DecidableEq

def NumberFn.signature : NumberFn → Signature
  | .constructor => ⟨"Number", 1⟩
  | .isNaN => ⟨"isNaN", 1⟩
  | .isFinite => ⟨"isFinite", 1⟩
  | .isInteger => ⟨"isInteger", 1⟩
  | .isSafeInteger => ⟨"isSafeInteger", 1⟩
  | .toExponential => ⟨"toExponential", 1⟩
  | .toFixed => ⟨"toFixed", 1⟩
  | .toPrecision => ⟨"toPrecision", 1⟩
  | .toString => ⟨"toString", 1⟩
  | .toLocaleString => ⟨"toLocaleString", 0⟩
  | .valueOf => ⟨"valueOf", 0⟩

/-- `Boolean` and its members. -/
inductive BooleanFn where
  | constructor | toString | valueOf
  deriving Repr, DecidableEq

def BooleanFn.signature : BooleanFn → Signature
  | .constructor => ⟨"Boolean", 1⟩
  | .toString => ⟨"toString", 0⟩
  | .valueOf => ⟨"valueOf", 0⟩

/-- `Symbol` and its members. -/
inductive SymbolFn where
  | constructor | forKey | keyFor | toString | valueOf | toPrimitive | description
  deriving Repr, DecidableEq

def SymbolFn.signature : SymbolFn → Signature
  | .constructor => ⟨"Symbol", 0⟩
  | .forKey => ⟨"for", 1⟩
  | .keyFor => ⟨"keyFor", 1⟩
  | .toString => ⟨"toString", 0⟩
  | .valueOf => ⟨"valueOf", 0⟩
  | .toPrimitive => ⟨"[Symbol.toPrimitive]", 1⟩
  | .description => ⟨"get description", 0⟩

/-- `BigInt` and its members. -/
inductive BigIntFn where
  | constructor | asIntN | asUintN | toString | toLocaleString | valueOf
  deriving Repr, DecidableEq

def BigIntFn.signature : BigIntFn → Signature
  | .constructor => ⟨"BigInt", 1⟩
  | .asIntN => ⟨"asIntN", 2⟩
  | .asUintN => ⟨"asUintN", 2⟩
  | .toString => ⟨"toString", 0⟩
  | .toLocaleString => ⟨"toLocaleString", 0⟩
  | .valueOf => ⟨"valueOf", 0⟩

/-- Members of `Math`. -/
inductive MathFn where
  | min | max | abs | floor | ceil | round | sqrt | acos | asin | atan | atan2 | cos | exp | log
  | pow | sin | tan | trunc | sign | cosh | sinh | tanh | acosh | asinh | atanh | expm1 | log1p
  | log2 | log10 | cbrt | hypot | random | fround | imul | clz32
  deriving Repr, DecidableEq

def MathFn.signature : MathFn → Signature
  | .min => ⟨"min", 2⟩
  | .max => ⟨"max", 2⟩
  | .abs => ⟨"abs", 1⟩
  | .floor => ⟨"floor", 1⟩
  | .ceil => ⟨"ceil", 1⟩
  | .round => ⟨"round", 1⟩
  | .sqrt => ⟨"sqrt", 1⟩
  | .acos => ⟨"acos", 1⟩
  | .asin => ⟨"asin", 1⟩
  | .atan => ⟨"atan", 1⟩
  | .atan2 => ⟨"atan2", 2⟩
  | .cos => ⟨"cos", 1⟩
  | .exp => ⟨"exp", 1⟩
  | .log => ⟨"log", 1⟩
  | .pow => ⟨"pow", 2⟩
  | .sin => ⟨"sin", 1⟩
  | .tan => ⟨"tan", 1⟩
  | .trunc => ⟨"trunc", 1⟩
  | .sign => ⟨"sign", 1⟩
  | .cosh => ⟨"cosh", 1⟩
  | .sinh => ⟨"sinh", 1⟩
  | .tanh => ⟨"tanh", 1⟩
  | .acosh => ⟨"acosh", 1⟩
  | .asinh => ⟨"asinh", 1⟩
  | .atanh => ⟨"atanh", 1⟩
  | .expm1 => ⟨"expm1", 1⟩
  | .log1p => ⟨"log1p", 1⟩
  | .log2 => ⟨"log2", 1⟩
  | .log10 => ⟨"log10", 1⟩
  | .cbrt => ⟨"cbrt", 1⟩
  | .hypot => ⟨"hypot", 2⟩
  | .random => ⟨"random", 0⟩
  | .fround => ⟨"fround", 1⟩
  | .imul => ⟨"imul", 2⟩
  | .clz32 => ⟨"clz32", 1⟩

/-- Members of `JSON`. -/
inductive JsonFn where
  | parse | stringify
  deriving Repr, DecidableEq

def JsonFn.signature : JsonFn → Signature
  | .parse => ⟨"parse", 2⟩
  | .stringify => ⟨"stringify", 3⟩

/-- Members of `Reflect`. -/
inductive ReflectFn where
  | apply | construct | defineProperty | deleteProperty | get | getOwnPropertyDescriptor
  | getPrototypeOf | has | isExtensible | ownKeys | preventExtensions | set | setPrototypeOf
  deriving Repr, DecidableEq

def ReflectFn.signature : ReflectFn → Signature
  | .apply => ⟨"apply", 3⟩
  | .construct => ⟨"construct", 2⟩
  | .defineProperty => ⟨"defineProperty", 3⟩
  | .deleteProperty => ⟨"deleteProperty", 2⟩
  | .get => ⟨"get", 2⟩
  | .getOwnPropertyDescriptor => ⟨"getOwnPropertyDescriptor", 2⟩
  | .getPrototypeOf => ⟨"getPrototypeOf", 1⟩
  | .has => ⟨"has", 2⟩
  | .isExtensible => ⟨"isExtensible", 1⟩
  | .ownKeys => ⟨"ownKeys", 1⟩
  | .preventExtensions => ⟨"preventExtensions", 1⟩
  | .set => ⟨"set", 3⟩
  | .setPrototypeOf => ⟨"setPrototypeOf", 2⟩

/-- `Proxy` and its members. -/
inductive ProxyFn where
  | constructor | revocable
  deriving Repr, DecidableEq

def ProxyFn.signature : ProxyFn → Signature
  | .constructor => ⟨"Proxy", 2⟩
  | .revocable => ⟨"revocable", 2⟩

/-- `Promise` and its members. -/
inductive PromiseFn where
  | constructor | resolve | reject | all | allSettled | any | race | withResolvers | species
  | then | catchError | finallyDo
  deriving Repr, DecidableEq

def PromiseFn.signature : PromiseFn → Signature
  | .constructor => ⟨"Promise", 1⟩
  | .resolve => ⟨"resolve", 1⟩
  | .reject => ⟨"reject", 1⟩
  | .all => ⟨"all", 1⟩
  | .allSettled => ⟨"allSettled", 1⟩
  | .any => ⟨"any", 1⟩
  | .race => ⟨"race", 1⟩
  | .withResolvers => ⟨"withResolvers", 0⟩
  | .species => ⟨"get [Symbol.species]", 0⟩
  | .then => ⟨"then", 2⟩
  | .catchError => ⟨"catch", 1⟩
  | .finallyDo => ⟨"finally", 1⟩

/-- `Map` and its members. -/
inductive MapFn where
  | constructor | groupBy | species | set | get | has | delete | clear | size | forEach | values
  | keys | entries
  deriving Repr, DecidableEq

def MapFn.signature : MapFn → Signature
  | .constructor => ⟨"Map", 0⟩
  | .groupBy => ⟨"groupBy", 2⟩
  | .species => ⟨"get [Symbol.species]", 0⟩
  | .set => ⟨"set", 2⟩
  | .get => ⟨"get", 1⟩
  | .has => ⟨"has", 1⟩
  | .delete => ⟨"delete", 1⟩
  | .clear => ⟨"clear", 0⟩
  | .size => ⟨"get size", 0⟩
  | .forEach => ⟨"forEach", 1⟩
  | .values => ⟨"values", 0⟩
  | .keys => ⟨"keys", 0⟩
  | .entries => ⟨"entries", 0⟩

/-- `Set` and its members. -/
inductive SetFn where
  | constructor | species | add | has | delete | clear | size | forEach | values | entries
  deriving Repr, DecidableEq

def SetFn.signature : SetFn → Signature
  | .constructor => ⟨"Set", 0⟩
  | .species => ⟨"get [Symbol.species]", 0⟩
  | .add => ⟨"add", 1⟩
  | .has => ⟨"has", 1⟩
  | .delete => ⟨"delete", 1⟩
  | .clear => ⟨"clear", 0⟩
  | .size => ⟨"get size", 0⟩
  | .forEach => ⟨"forEach", 1⟩
  | .values => ⟨"values", 0⟩
  | .entries => ⟨"entries", 0⟩

/-- The weak collections and their members. -/
inductive WeakFn where
  | mapConstructor | mapSet | mapGet | mapHas | mapDelete | setConstructor | setAdd | setHas
  | setDelete | refConstructor | deref | registryConstructor | register | unregister
  deriving Repr, DecidableEq

def WeakFn.signature : WeakFn → Signature
  | .mapConstructor => ⟨"WeakMap", 0⟩
  | .mapSet => ⟨"set", 2⟩
  | .mapGet => ⟨"get", 1⟩
  | .mapHas => ⟨"has", 1⟩
  | .mapDelete => ⟨"delete", 1⟩
  | .setConstructor => ⟨"WeakSet", 0⟩
  | .setAdd => ⟨"add", 1⟩
  | .setHas => ⟨"has", 1⟩
  | .setDelete => ⟨"delete", 1⟩
  | .refConstructor => ⟨"WeakRef", 1⟩
  | .deref => ⟨"deref", 0⟩
  | .registryConstructor => ⟨"FinalizationRegistry", 1⟩
  | .register => ⟨"register", 2⟩
  | .unregister => ⟨"unregister", 1⟩

/-- Parts of a date, from the greatest to the least. -/
inductive DatePart where
  | year | month | day | hours | minutes | seconds | milliseconds
  deriving Repr, DecidableEq

namespace DatePart

def index : DatePart → Nat
  | .year => 0
  | .month => 1
  | .day => 2
  | .hours => 3
  | .minutes => 4
  | .seconds => 5
  | .milliseconds => 6

/-- How many parts one call may set: a date, or a time. -/
def reach (p : DatePart) : Nat := if p.index < 3 then 3 - p.index else 7 - p.index

def label : DatePart → String
  | .year => "FullYear"
  | .month => "Month"
  | .day => "Date"
  | .hours => "Hours"
  | .minutes => "Minutes"
  | .seconds => "Seconds"
  | .milliseconds => "Milliseconds"

end DatePart

/-- `Date` and its members; those of universal time say so. -/
inductive DateFn where
  | constructor | now | parse | utc | valueOf | toString | toPrimitive | toUTCString
  | toISOString | toDateString | toTimeString | toLocaleString | toLocaleDateString
  | toLocaleTimeString | getTimezoneOffset | getTime | getYear
  | get (p : DatePart) (universal : Bool)
  | getDay (universal : Bool)
  | setTime
  /-- sets one part and, with more arguments, the parts below it -/
  | set (p : DatePart) (universal : Bool)
  | setYear | toJSON
  deriving Repr, DecidableEq

def DateFn.signature : DateFn → Signature
  | .constructor => ⟨"Date", 7⟩
  | .now => ⟨"now", 0⟩
  | .parse => ⟨"parse", 1⟩
  | .utc => ⟨"UTC", 7⟩
  | .valueOf => ⟨"valueOf", 0⟩
  | .toString => ⟨"toString", 0⟩
  | .toPrimitive => ⟨"[Symbol.toPrimitive]", 1⟩
  | .toUTCString => ⟨"toUTCString", 0⟩
  | .toISOString => ⟨"toISOString", 0⟩
  | .toDateString => ⟨"toDateString", 0⟩
  | .toTimeString => ⟨"toTimeString", 0⟩
  | .toLocaleString => ⟨"toLocaleString", 0⟩
  | .toLocaleDateString => ⟨"toLocaleDateString", 0⟩
  | .toLocaleTimeString => ⟨"toLocaleTimeString", 0⟩
  | .getTimezoneOffset => ⟨"getTimezoneOffset", 0⟩
  | .getTime => ⟨"getTime", 0⟩
  | .getYear => ⟨"getYear", 0⟩
  | .get p universal => ⟨"get" ++ (if universal then "UTC" else "") ++ p.label, 0⟩
  | .getDay universal => ⟨if universal then "getUTCDay" else "getDay", 0⟩
  | .setTime => ⟨"setTime", 1⟩
  | .set p universal => ⟨"set" ++ (if universal then "UTC" else "") ++ p.label, p.reach⟩
  | .setYear => ⟨"setYear", 1⟩
  | .toJSON => ⟨"toJSON", 1⟩

/-- `RegExp` and its members. -/
inductive RegExpFn where
  | constructor | species | flags | source | global | ignoreCase | multiline | dotAll | unicode
  | unicodeSets | hasIndices | sticky | exec | compile | test | toString | replace | matchText | matchAll | search | split
  deriving Repr, DecidableEq

def RegExpFn.signature : RegExpFn → Signature
  | .constructor => ⟨"RegExp", 2⟩
  | .species => ⟨"get [Symbol.species]", 0⟩
  | .flags => ⟨"get flags", 0⟩
  | .source => ⟨"get source", 0⟩
  | .global => ⟨"get global", 0⟩
  | .ignoreCase => ⟨"get ignoreCase", 0⟩
  | .multiline => ⟨"get multiline", 0⟩
  | .dotAll => ⟨"get dotAll", 0⟩
  | .unicode => ⟨"get unicode", 0⟩
  | .unicodeSets => ⟨"get unicodeSets", 0⟩
  | .hasIndices => ⟨"get hasIndices", 0⟩
  | .sticky => ⟨"get sticky", 0⟩
  | .exec => ⟨"exec", 1⟩
  | .compile => ⟨"compile", 2⟩
  | .test => ⟨"test", 1⟩
  | .toString => ⟨"toString", 0⟩
  | .replace => ⟨"[Symbol.replace]", 2⟩
  | .matchText => ⟨"[Symbol.match]", 1⟩
  | .matchAll => ⟨"[Symbol.matchAll]", 1⟩
  | .search => ⟨"[Symbol.search]", 1⟩
  | .split => ⟨"[Symbol.split]", 2⟩

/-- The families of error objects. -/
inductive ErrorClass where
  | error | evalError | rangeError | referenceError | syntaxError | typeError | uriError
  | internalError | aggregateError
  deriving Repr, DecidableEq

namespace ErrorClass

def all : List ErrorClass :=
  [.error, .evalError, .rangeError, .referenceError, .syntaxError, .typeError, .uriError,
   .internalError, .aggregateError]

def name : ErrorClass → String
  | .error => "Error"
  | .evalError => "EvalError"
  | .rangeError => "RangeError"
  | .referenceError => "ReferenceError"
  | .syntaxError => "SyntaxError"
  | .typeError => "TypeError"
  | .uriError => "URIError"
  | .internalError => "InternalError"
  | .aggregateError => "AggregateError"

end ErrorClass

/-- A built-in function. -/
inductive NativeFn where
  | global (f : GlobalFn)
  | object (f : ObjectFn)
  | function (f : FunctionFn)
  | array (f : ArrayFn)
  | iterator (f : IteratorFn)
  | string (f : StringFn)
  | number (f : NumberFn)
  | boolean (f : BooleanFn)
  | symbol (f : SymbolFn)
  | bigint (f : BigIntFn)
  | math (f : MathFn)
  | json (f : JsonFn)
  | reflect (f : ReflectFn)
  | proxy (f : ProxyFn)
  | promise (f : PromiseFn)
  | map (f : MapFn)
  | set (f : SetFn)
  | weak (f : WeakFn)
  | date (f : DateFn)
  | regexp (f : RegExpFn)
  | errorConstructor (c : ErrorClass)
  | errorToString
  | throwTypeError
  deriving Repr, DecidableEq

def NativeFn.signature : NativeFn → Signature
  | .global f => f.signature
  | .object f => f.signature
  | .function f => f.signature
  | .array f => f.signature
  | .iterator f => f.signature
  | .string f => f.signature
  | .number f => f.signature
  | .boolean f => f.signature
  | .symbol f => f.signature
  | .bigint f => f.signature
  | .math f => f.signature
  | .json f => f.signature
  | .reflect f => f.signature
  | .proxy f => f.signature
  | .promise f => f.signature
  | .map f => f.signature
  | .set f => f.signature
  | .weak f => f.signature
  | .date f => f.signature
  | .regexp f => f.signature
  | .errorConstructor c => ⟨c.name, if c == .aggregateError then 2 else 1⟩
  | .errorToString => ⟨"toString", 0⟩
  | .throwTypeError => ⟨"", 0⟩

/-- Built-in objects that are no functions, and the prototypes. -/
inductive BuiltinObject where
  | globalObject
  | objectPrototype | functionPrototype | arrayPrototype | stringPrototype | numberPrototype
  | booleanPrototype | symbolPrototype | bigintPrototype
  | errorPrototype (c : ErrorClass)
  | iteratorPrototype | asyncIteratorPrototype | arrayIteratorPrototype | stringIteratorPrototype
  | mapIteratorPrototype | setIteratorPrototype | regexpIteratorPrototype
  | generatorPrototype | asyncGeneratorPrototype
  | generatorFunctionPrototype | asyncFunctionPrototype | asyncGeneratorFunctionPrototype
  | promisePrototype | mapPrototype | setPrototype | weakMapPrototype | weakSetPrototype
  | weakRefPrototype | registryPrototype | datePrototype | regexpPrototype
  | math | json | reflect | unscopables
  deriving Repr, DecidableEq

inductive Builtin where
  | object (o : BuiltinObject)
  | function (f : NativeFn)
  deriving Repr, DecidableEq

end ScriptBridge.Script
