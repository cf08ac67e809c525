import ScriptBridge.Script.Regular.Tree

/-!
Matching a regular expression against text.

Alternatives are tried in order with a continuation for what follows, so the first way to match
the whole is the one that is found.
-/
namespace ScriptBridge.Script.Regular

open Text

structure Subject where
  units : Array UInt16
  options : Options

/-- Where a match stands: the position in units, and what each group has captured. -/
structure Mark where
  position : Nat
  captures : List (Option (Nat × Nat))

namespace Subject

def unit? (s : Subject) (i : Nat) : Option UInt16 := s.units[i]?

def at? (s : Subject) (i : Nat) : Option Nat := s.units[i]?.map UInt16.toNat

def wordAt (s : Subject) (i : Nat) : Bool := (s.at? i).any isWordCode

/-- The character read next, ahead of the position, with the position behind it. -/
def ahead (s : Subject) (i : Nat) : Option (Nat × Nat) :=
  match s.unit? i, s.unit? (i + 1) with
  | some u, some v =>
    if s.options.unicode && Units.isHigh u && Units.isLow v then
      some ((Units.pairChar u v).toNat, i + 2)
    else some (u.toNat, i + 1)
  | some u, none => some (u.toNat, i + 1)
  | none, _ => none

/-- The character before the position, with the position in front of it. -/
def behind (s : Subject) (i : Nat) : Option (Nat × Nat) :=
  match i with
  | 0 => none
  | i + 1 =>
    match s.unit? i with
    | none => none
    | some v =>
      match i with
      | 0 => some (v.toNat, 0)
      | j + 1 =>
        match s.unit? j with
        | some u =>
          if s.options.unicode && Units.isHigh u && Units.isLow v then
            some ((Units.pairChar u v).toNat, j)
          else some (v.toNat, i)
        | none => some (v.toNat, i)

def next (s : Subject) (forward : Bool) (m : Mark) : Option (Nat × Mark) :=
  (if forward then s.ahead m.position else s.behind m.position).map fun (c, i) =>
    (c, { m with position := i })

/-- Do `n` units from `a` and from `b` agree up to case? -/
def agree (s : Subject) (a b : Nat) : Nat → Bool
  | 0 => true
  | n + 1 =>
    match s.at? (a + n), s.at? (b + n) with
    | some x, some y => s.options.fold x == s.options.fold y && s.agree a b n
    | _, _ => false

/-- Matches what a group has captured once more. -/
def again (s : Subject) (forward : Bool) (index : Nat) (m : Mark) : Option Mark :=
  match (m.captures[index]?).join with
  | none => some m
  | some (a, b) =>
    let width := b - a
    if forward then
      if s.agree a m.position width then some { m with position := m.position + width } else none
    else if m.position < width then none
    else if s.agree a (m.position - width) width then some { m with position := m.position - width }
    else none

end Subject

/-- Forgets what the `count` groups from `first` on have captured. -/
def Mark.forget (m : Mark) (first count : Nat) : Mark :=
  if count == 0 then m
  else
    { m with
      captures := m.captures.take first ++ List.replicate count none
        ++ m.captures.drop (first + count) }

/-- Tries to match `t` at a mark and then whatever `k` asks for. -/
def matchTree (n : Nat) (s : Subject) (forward : Bool) (t : Tree) (m : Mark)
    (k : Mark → Option Mark) : Option Mark :=
  match n with
  | 0 => none
  | n + 1 =>
    let one (holds : Nat → Bool) : Option Mark :=
      match s.next forward m with
      | some (d, m) => if holds d then k m else none
      | none => none
    match t with
    | .empty => k m
    | .char c => one fun d => s.options.fold c == s.options.fold d
    | .any => one fun d => s.options.dotAll || !isLineEnd d
    | .set negated items => one fun d => s.options.setHolds negated items d
    | .both a b =>
      if forward then matchTree n s forward a m fun m => matchTree n s forward b m k
      else matchTree n s forward b m fun m => matchTree n s forward a m k
    | .either a b =>
      match matchTree n s forward a m k with
      | some r => some r
      | none => matchTree n s forward b m k
    | .capture index t =>
      let start := m.position
      matchTree n s forward t m fun m =>
        let span := if forward then (start, m.position) else (m.position, start)
        k { m with captures := m.captures.set index (some span) }
    | .look ahead negated t =>
      match matchTree n s ahead t m some with
      | some r => if negated then none else k { m with captures := r.captures }
      | none => if negated then k m else none
    | .repeated low high greedy first count t =>
      let more (_ : Unit) : Option Mark :=
        if high == some 0 then none
        else
          matchTree n s forward t (m.forget first count) fun after =>
            if after.position == m.position && low == 0 then none
            else
              matchTree n s forward
                (.repeated (low - 1) (high.map (· - 1)) greedy first count t) after k
      if low > 0 then more ()
      else if greedy then
        match more () with
        | some r => some r
        | none => k m
      else
        match k m with
        | some r => some r
        | none => more ()
    | .backReference index => (s.again forward index m).bind k
    | .start =>
      let here := m.position == 0
        || (s.options.multiline && (s.at? (m.position - 1)).any isLineEnd)
      if here then k m else none
    | .stop =>
      let here := m.position == s.units.size
        || (s.options.multiline && (s.at? m.position).any isLineEnd)
      if here then k m else none
    | .boundary negated =>
      let before := m.position > 0 && s.wordAt (m.position - 1)
      if (before != s.wordAt m.position) != negated then k m else none

/-- How deep one attempt may go. -/
def matchLimit : Nat := 1000000

namespace Pattern

def subject (p : Pattern) (u : Units) : Subject := ⟨u.toArray, p.options⟩

/-- The match that starts at `position`. -/
def matchAt (p : Pattern) (s : Subject) (position : Nat) : Option Mark :=
  matchTree matchLimit s true p.tree ⟨position, p.groups.map fun _ => none⟩ some

/-- The first match that starts at or after `position`, among `count` places. -/
def search (p : Pattern) (s : Subject) : Nat → Nat → Option (Nat × Mark)
  | 0, _ => none
  | n + 1, i =>
    match p.matchAt s i with
    | some m => some (i, m)
    | none => p.search s n (i + 1)

end Pattern

end ScriptBridge.Script.Regular
