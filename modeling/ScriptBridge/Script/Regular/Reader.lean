import ScriptBridge.Script.Regular.Tree
import ScriptBridge.Number.Text

/-!
Reading regular expressions.

`Pattern.ofUnits?` gives the tree or the fault.  Two tolerances hold outside of code point
matching: a brace or bracket that means nothing stands for itself, and so does an escape that
means nothing.
-/
namespace ScriptBridge.Script.Regular

open Text

inductive PatternFault where
  | unexpectedEnd
  | expecting (c : Char)
  | nothingToRepeat
  | repetition
  | classRange
  | groupForm
  | groupName
  | groupNameMissing
  | groupNameTwice
  | groupUnknown
  | backReference
  | decimalEscape
  | escape
  | propertyName
  | stray
  | extraneous
  | tooDeep
  deriving Repr, DecidableEq

def PatternFault.message : PatternFault → String
  | .unexpectedEnd => "unexpected end"
  | .expecting c => String.ofList ("expecting '".toList ++ [c, '\''])
  | .nothingToRepeat => "nothing to repeat"
  | .repetition => "invalid repetition count"
  | .classRange => "invalid class range"
  | .groupForm => "invalid group"
  | .groupName => "invalid group name"
  | .groupNameMissing => "expecting group name"
  | .groupNameTwice => "duplicate group name"
  | .groupUnknown => "group name not defined"
  | .backReference => "back reference out of range in regular expression"
  | .decimalEscape => "invalid decimal escape in regular expression"
  | .escape => "invalid escape sequence in regular expression"
  | .propertyName => "unknown unicode property name"
  | .stray => "syntax error"
  | .extraneous => "extraneous characters at the end"
  | .tooDeep => "stack overflow"

/-! ### What the whole text says -/

/-- Names of all groups in order, found before the reading begins. -/
def groupsOf : Bool → List Nat → List (Option Units)
  | _, [] => []
  | inClass, 92 :: rest =>
    match rest with
    | _ :: more => groupsOf inClass more
    | [] => []
  | true, c :: rest => groupsOf (c != 93) rest
  | false, 91 :: rest => groupsOf true rest
  | false, 40 :: 63 :: 60 :: c :: rest =>
    if c == 61 || c == 33 then groupsOf false rest
    else some (Units.ofCodePoints ((c :: rest).takeWhile (· != 62))) :: groupsOf false rest
  | false, 40 :: 63 :: rest => groupsOf false rest
  | false, 40 :: rest => none :: groupsOf false rest
  | false, _ :: rest => groupsOf false rest

/-- What holds during one reading. -/
structure Scope where
  unicode : Bool
  groups : List (Option Units)

def Scope.named (s : Scope) : Bool := s.groups.any Option.isSome

/-- Rest of the text, and how many groups are open or closed before it. -/
structure Reading where
  rest : List Nat
  opened : Nat

abbrev Reader (α : Type) := Reading → Except PatternFault (α × Reading)

/-! ### Numbers and escapes -/

def number? (cs : List Nat) : Option (Nat × List Nat) :=
  let ds := cs.takeWhile isDigitCode
  if ds.isEmpty then none
  else some (ds.foldl (fun n d => n * 10 + (d - 48)) 0, cs.drop ds.length)

def isOctal (c : Nat) : Bool := 48 ≤ c && c ≤ 55

/-- Up to `limit` octal digits. -/
def octal (limit : Nat) (cs : List Nat) : Nat × List Nat :=
  let ds := (cs.take limit).takeWhile isOctal
  (ds.foldl (fun n d => n * 8 + (d - 48)) 0, cs.drop ds.length)

def hex? (count : Nat) (cs : List Nat) : Option (Nat × List Nat) :=
  let values := (cs.take count).map fun d => Number.digitValue? (Char.ofNat d)
  if values.length == count && count != 0 && values.all fun v => v.any (· < 16) then
    some (values.foldl (fun n v => n * 16 + v.getD 0) 0, cs.drop count)
  else none

/-- After `u`: a code point in braces, a surrogate pair in two escapes, or four digits. -/
def unicodeEscape? (unicode : Bool) (cs : List Nat) : Option (Nat × List Nat) :=
  match cs with
  | 123 :: more =>
    if !unicode then none
    else
      let digits := more.takeWhile (· != 125)
      match hex? digits.length digits, more.drop digits.length with
      | some (n, _), _ :: after => if n ≤ 0x10FFFF then some (n, after) else none
      | _, _ => none
  | cs =>
    match hex? 4 cs with
    | none => none
    | some (high, after) =>
      match unicode && Units.isHigh (UInt16.ofNat high), after with
      | true, 92 :: 117 :: more =>
        match hex? 4 more with
        | some (low, rest) =>
          if Units.isLow (UInt16.ofNat low) then
            some ((Units.pairChar (UInt16.ofNat high) (UInt16.ofNat low)).toNat, rest)
          else some (high, after)
        | none => some (high, after)
      | _, _ => some (high, after)

/-- Characters that may always be escaped. -/
def isSyntaxCharacter (c : Nat) : Bool :=
  ("^$\\.*+?()[]\x7b\x7d|/".toList.map Char.toNat).contains c

def classEscape? (c : Nat) : Option ClassItem :=
  match Char.ofNat c with
  | 'd' => some (.digit false)
  | 'D' => some (.digit true)
  | 'w' => some (.word false)
  | 'W' => some (.word true)
  | 's' => some (.blank false)
  | 'S' => some (.blank true)
  | _ => none

/-- The ranges, in order, behind a property name in braces. -/
def propertyRanges? (name : List Nat) : Option (List (Nat × Nat)) :=
  match String.ofList (name.map Char.ofNat) with
  | "Any" => some [(0, 0x10FFFF)]
  | "ASCII" => some [(0, 127)]
  | "ASCII_Hex_Digit" | "AHex" => some [(48, 57), (65, 70), (97, 102)]
  | _ => none

/-- What lies between ranges in order, from `low` on. -/
def gaps (low : Nat) : List (Nat × Nat) → List (Nat × Nat)
  | [] => if low ≤ 0x10FFFF then [(low, 0x10FFFF)] else []
  | (a, b) :: rest => (if low < a then [(low, a - 1)] else []) ++ gaps (b + 1) rest

/-- A character, or a set of them. -/
inductive Atom where
  | char (c : Nat)
  | set (items : List ClassItem)

/-- What an escape stands for, after the backslash. -/
def escaped (unicode inClass : Bool) (cs : List Nat) : Except PatternFault (Atom × List Nat) :=
  match cs with
  | [] => .error .unexpectedEnd
  | c :: rest =>
    let plain : Except PatternFault (Atom × List Nat) :=
      if unicode && !isSyntaxCharacter c && !(inClass && c == 45) then .error .escape
      else .ok (.char c, rest)
    match classEscape? c with
    | some item => .ok (.set [item], rest)
    | none =>
      match Char.ofNat c with
      | 'b' => .ok (.char 8, rest)
      | 'f' => .ok (.char 12, rest)
      | 'n' => .ok (.char 10, rest)
      | 'r' => .ok (.char 13, rest)
      | 't' => .ok (.char 9, rest)
      | 'v' => .ok (.char 11, rest)
      | 'c' =>
        match rest with
        | d :: more =>
          let isLetter := (65 ≤ d && d ≤ 90) || (97 ≤ d && d ≤ 122)
          if isLetter || (inClass && !unicode && (isDigitCode d || d == 95)) then
            .ok (.char (d % 32), more)
          else if unicode then .error .escape
          else .ok (.char 92, cs)
        | [] => if unicode then .error .escape else .ok (.char 92, cs)
      | 'x' =>
        match hex? 2 rest with
        | some (n, more) => .ok (.char n, more)
        | none => plain
      | 'u' =>
        match unicodeEscape? unicode rest with
        | some (n, more) => .ok (.char n, more)
        | none => plain
      | 'p' | 'P' =>
        if !unicode then plain
        else
          match rest with
          | 123 :: more =>
            let name := more.takeWhile (· != 125)
            match propertyRanges? name with
            | some ranges =>
              let ranges := if c == 80 then gaps 0 ranges else ranges
              .ok (.set (ranges.map fun r => .range r.1 r.2), more.drop (name.length + 1))
            | none => .error .propertyName
          | _ => .error .escape
      | _ =>
        if isOctal c then
          if unicode then
            if c == 48 && !rest.head?.any isDigitCode then .ok (.char 0, rest) else .error .escape
          else
            let (n, more) := octal (if c ≤ 51 then 3 else 2) cs
            .ok (.char n, more)
        else plain

def classAtom (unicode : Bool) (cs : List Nat) : Except PatternFault (Atom × List Nat) :=
  match cs with
  | 92 :: rest => escaped unicode true rest
  | c :: rest => .ok (.char c, rest)
  | [] => .error .unexpectedEnd

def Atom.items : Atom → List ClassItem
  | .char c => [.range c c]
  | .set items => items

/-- Members of a class up to its closing bracket. -/
def classItems (unicode : Bool) :
    Nat → List Nat → List ClassItem → Except PatternFault (List ClassItem × List Nat)
  | 0, _, _ => .error .tooDeep
  | n + 1, cs, acc =>
    match cs with
    | 93 :: rest => .ok (acc.reverse, rest)
    | cs =>
      match classAtom unicode cs with
      | .error e => .error e
      | .ok (first, rest) =>
        let alone : Except PatternFault (List ClassItem × List Nat) :=
          classItems unicode n rest (first.items.reverse ++ acc)
        match rest with
        | 45 :: 93 :: _ => alone
        | 45 :: more =>
          match first with
          | .set _ => if unicode then .error .classRange else alone
          | .char low =>
            match classAtom unicode more with
            | .error e => .error e
            | .ok (.set _, _) => if unicode then .error .classRange else alone
            | .ok (.char high, after) =>
              if high < low then .error .classRange
              else classItems unicode n after (.range low high :: acc)
        | _ => alone

/-! ### Repetition -/

/-- Bounds in braces, or `none` when the braces mean nothing. -/
def bounds? (cs : List Nat) : Option (Nat × Option Nat × List Nat) :=
  match number? cs with
  | none => none
  | some (low, rest) =>
    match rest with
    | 125 :: after => some (low, some low, after)
    | 44 :: 125 :: after => some (low, none, after)
    | 44 :: more =>
      match number? more with
      | some (high, 125 :: after) => some (low, some high, after)
      | _ => none
    | _ => none

/-- A repetition of `t`, if one follows; its groups are those opened since `before`. -/
def quantified (unicode : Bool) (before : Nat) (t : Tree) : Reader Tree := fun r =>
  let found : Except PatternFault (Option (Nat × Option Nat × List Nat)) :=
    match r.rest with
    | 42 :: rest => .ok (some (0, none, rest))
    | 43 :: rest => .ok (some (1, none, rest))
    | 63 :: rest => .ok (some (0, some 1, rest))
    | 123 :: rest =>
      match bounds? rest with
      | some b => .ok (some b)
      | none => if unicode then .error .repetition else .ok none
    | _ => .ok none
  match found with
  | .error e => .error e
  | .ok none => .ok (t, r)
  | .ok (some (low, high, rest)) =>
    if high.any (· < low) then .error .repetition
    else
      let (greedy, rest) := match rest with
        | 63 :: after => (false, after)
        | rest => (true, rest)
      .ok (.repeated low high greedy before (r.opened - before) t, { r with rest := rest })

/-! ### Terms -/

def groupName? (cs : List Nat) : Option (Units × List Nat) :=
  let name := cs.takeWhile (· != 62)
  let starts := match name with
    | c :: _ => !isDigitCode c
    | [] => false
  let letters := name.all fun c => isWordCode c || c == 36 || c ≥ 128
  if starts && letters && name.length < cs.length then
    some (Units.ofCodePoints name, cs.drop (name.length + 1))
  else none

/-- A reference by name, after `k`. -/
def namedReference (s : Scope) (cs : List Nat) : Except PatternFault (Tree × List Nat) :=
  let strict := s.unicode || s.named
  let plain (e : PatternFault) : Except PatternFault (Tree × List Nat) :=
    if strict then .error e else .ok (.char 107, cs)
  match cs with
  | 60 :: rest =>
    match groupName? rest with
    | none => plain .groupName
    | some (name, after) =>
      match s.groups.findIdx? (· == some name) with
      | some i => .ok (.backReference i, after)
      | none => plain .groupUnknown
  | _ => plain .groupNameMissing

/-- A decimal escape names a group if there are so many; else it is octal. -/
def decimalReference (s : Scope) (cs : List Nat) : Except PatternFault (Tree × List Nat) :=
  match number? cs with
  | none => .error .escape
  | some (k, after) =>
    if k ≤ s.groups.length then .ok (.backReference (k - 1), after)
    else if s.unicode then .error .backReference
    else
      match cs with
      | c :: rest =>
        if isOctal c then
          let (n, more) := octal (if c ≤ 51 then 3 else 2) cs
          .ok (.char n, more)
        else .ok (.char c, rest)
      | [] => .error .escape

def atomTree : Atom → Tree
  | .char c => .char c
  | .set items => .set false items

/-- Does an opening brace look like a repetition? -/
def isRepetition (cs : List Nat) : Bool := (bounds? cs).isSome

mutual

def alternatives (s : Scope) (n : Nat) : Reader Tree := fun r =>
  match n with
  | 0 => .error .tooDeep
  | n + 1 =>
    match sequence s n .empty r with
    | .error e => .error e
    | .ok (t, r) =>
      match r.rest with
      | 124 :: rest =>
        match alternatives s n { r with rest := rest } with
        | .ok (u, r) => .ok (.either t u, r)
        | .error e => .error e
      | _ => .ok (t, r)
termination_by structural n

def sequence (s : Scope) (n : Nat) (done : Tree) : Reader Tree := fun r =>
  match n with
  | 0 => .error .tooDeep
  | n + 1 =>
    match r.rest with
    | [] | 124 :: _ | 41 :: _ => .ok (done, r)
    | _ =>
      match term s n r with
      | .error e => .error e
      | .ok ((t, repeats), r') =>
        let whole := if repeats then quantified s.unicode r.opened t r' else .ok (t, r')
        match whole with
        | .error e => .error e
        | .ok (t, r) => sequence s n (.both done t) r
termination_by structural n

/-- A group after its opening, up to the closing parenthesis. -/
def group (s : Scope) (n : Nat) (wrap : Tree → Tree) : Reader Tree := fun r =>
  match n with
  | 0 => .error .tooDeep
  | n + 1 =>
    match alternatives s n r with
    | .error e => .error e
    | .ok (t, r) =>
      match r.rest with
      | 41 :: rest => .ok (wrap t, { r with rest := rest })
      | _ => .error (.expecting ')')
termination_by structural n

/-- One term, and whether a repetition may follow it. -/
def term (s : Scope) (n : Nat) : Reader (Tree × Bool) := fun r =>
  match n with
  | 0 => .error .tooDeep
  | n + 1 =>
    let inside (repeats : Bool) (wrap : Tree → Tree) (r : Reading) :
        Except PatternFault ((Tree × Bool) × Reading) :=
      match group s n wrap r with
      | .ok (t, r) => .ok ((t, repeats), r)
      | .error e => .error e
    let atom (found : Except PatternFault (Tree × List Nat)) :
        Except PatternFault ((Tree × Bool) × Reading) :=
      match found with
      | .ok (t, rest) => .ok ((t, true), { r with rest := rest })
      | .error e => .error e
    match r.rest with
    | [] => .error .unexpectedEnd
    | c :: rest =>
      let still (t : Tree) : Except PatternFault ((Tree × Bool) × Reading) :=
        .ok ((t, false), { r with rest := rest })
      match Char.ofNat c with
      | '^' => still .start
      | '$' => still .stop
      | '.' => atom (.ok (.any, rest))
      | '*' | '+' | '?' => .error .nothingToRepeat
      | '(' =>
        match rest with
        | 63 :: 58 :: more => inside true id { r with rest := more }
        | 63 :: 61 :: more => inside (!s.unicode) (.look true false) { r with rest := more }
        | 63 :: 33 :: more => inside (!s.unicode) (.look true true) { r with rest := more }
        | 63 :: 60 :: 61 :: more => inside false (.look false false) { r with rest := more }
        | 63 :: 60 :: 33 :: more => inside false (.look false true) { r with rest := more }
        | 63 :: 60 :: more =>
          match groupName? more with
          | none => .error .groupName
          | some (name, after) =>
            if (s.groups.take r.opened).contains (some name) then .error .groupNameTwice
            else inside true (.capture r.opened) { rest := after, opened := r.opened + 1 }
        | 63 :: _ => .error .groupForm
        | rest => inside true (.capture r.opened) { rest := rest, opened := r.opened + 1 }
      | '[' =>
        let (negated, body) := match rest with
          | 94 :: more => (true, more)
          | more => (false, more)
        match classItems s.unicode (body.length + 1) body [] with
        | .ok (items, after) => .ok ((.set negated items, true), { r with rest := after })
        | .error e => .error e
      | '\x7b' =>
        if s.unicode then .error .stray
        else if isRepetition rest then .error .nothingToRepeat
        else atom (.ok (.char c, rest))
      | ']' | '\x7d' =>
        if s.unicode then .error .stray else atom (.ok (.char c, rest))
      | '\\' =>
        match rest with
        | [] => .error .unexpectedEnd
        | e :: more =>
          if e == 98 then .ok ((.boundary false, false), { r with rest := more })
          else if e == 66 then .ok ((.boundary true, false), { r with rest := more })
          else if e == 107 then atom (namedReference s more)
          else if e == 48 && s.unicode && more.head?.any isDigitCode then .error .decimalEscape
          else if 49 ≤ e && e ≤ 57 then atom (decimalReference s rest)
          else
            match escaped s.unicode false rest with
            | .ok (a, after) => .ok ((atomTree a, true), { r with rest := after })
            | .error e => .error e
      | _ => atom (.ok (.char c, rest))
termination_by structural n

end

/-- The expression that `u` spells. -/
def Pattern.ofUnits? (u : Units) (o : Options) : Except PatternFault Pattern :=
  let cs := if o.unicode then Units.codePoints u else u.map UInt16.toNat
  let s : Scope := ⟨o.unicode, groupsOf false cs⟩
  match alternatives s (8 * cs.length + 8) ⟨cs, 0⟩ with
  | .error e => .error e
  | .ok (t, r) => if r.rest.isEmpty then .ok ⟨t, s.groups, o⟩ else .error .extraneous

end ScriptBridge.Script.Regular
