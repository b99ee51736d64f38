import SeriesSql.Regex.CharSet

/-!
# Regular expressions and what they match

A regular expression is matched against a text of characters between two positions.  Which of
several matches is preferred plays no part here: only whether there is one.
-/

namespace SeriesSql.Regex

/-- Conditions on a position that take up no character. -/
inductive Look where
  | textStart
  | textStop
  | lineStart
  | lineStop
  /-- The start of a line, where a carriage return with or without a line feed ends one too. -/
  | breakStart
  /-- The end of a line, before a carriage return with or without a line feed. -/
  | breakStop
  | wordEdge
  | notWordEdge
  | wordStart
  | wordStop
  | wordStartHalf
  | wordStopHalf
deriving Repr, DecidableEq

inductive Node where
  | empty
  | one (set : CharSet)
  | look (l : Look)
  | seq (first second : Node)
  | alt (first second : Node)
  /-- At least `least` and, if given, at most `most` matches of `inner` in a row. -/
  | rep (least : Nat) (most : Option Nat) (inner : Node)
deriving Repr, DecidableEq

/-! ## Positions -/

/-- The character before position `i`. -/
def charBefore? (text : Array Char) : Nat → Option Char
  | 0 => none
  | i + 1 => text[i]?

def Look.holds (text : Array Char) (i : Nat) (l : Look) : Bool :=
  let before := (charBefore? text i).any Text.isWord
  let after := text[i]?.any Text.isWord
  match l with
  | .textStart => i == 0
  | .textStop => i == text.size
  | .lineStart => i == 0 || charBefore? text i == some '\n'
  | .lineStop => i == text.size || text[i]? == some '\n'
  | .breakStart =>
    i == 0 || charBefore? text i == some '\n' ||
      (charBefore? text i == some '\r' && text[i]? != some '\n')
  | .breakStop =>
    i == text.size || text[i]? == some '\r' ||
      (text[i]? == some '\n' && charBefore? text i != some '\r')
  | .wordEdge => before != after
  | .notWordEdge => before == after
  | .wordStart => !before && after
  | .wordStop => before && !after
  | .wordStartHalf => !before
  | .wordStopHalf => !after

/-! ## Sets of positions

A set of positions is a list without repetitions. -/

def addPositions (seen more : List Nat) : List Nat :=
  more.foldl (fun acc i => if acc.contains i then acc else acc ++ [i]) seen

/-- `f` applied `n` times; stops early at a set that `f` keeps. -/
def applyTimes (f : List Nat → List Nat) : Nat → List Nat → List Nat
  | 0, positions => positions
  | n + 1, positions =>
    let next := f positions
    if next == positions then positions else applyTimes f n next

/-- The positions reached from `frontier` by at most `n` applications of `f`, added to `seen`.
Only positions that are new are followed further. -/
def applyUpTo (f : List Nat → List Nat) : (n : Nat) → (seen frontier : List Nat) → List Nat
  | 0, seen, _ => seen
  | n + 1, seen, frontier =>
    let fresh := (f frontier).filter fun i => !seen.contains i
    if fresh.isEmpty then seen else applyUpTo f n (addPositions seen fresh) fresh

/-- The positions at which a match that starts at one of the given positions can stop. -/
def Node.stops (text : Array Char) : Node → List Nat → List Nat
  | empty, starts => starts
  | one set, starts =>
    addPositions [] (starts.filterMap fun i =>
      if text[i]?.any set.contains then some (i + 1) else none)
  | look l, starts => starts.filter fun i => l.holds text i
  | seq first second, starts => second.stops text (first.stops text starts)
  | alt first second, starts => addPositions (first.stops text starts) (second.stops text starts)
  | rep least most inner, starts =>
    let reached := applyTimes (inner.stops text) least starts
    -- Each further round that matters reaches a new position, and there are `text.size + 1`.
    let rounds := (most.map (· - least)).getD (text.size + 1)
    applyUpTo (inner.stops text) rounds reached reached

/-- Whether the expression matches somewhere in `text`. -/
def Node.isMatch (node : Node) (text : String) : Bool :=
  let chars := text.toList.toArray
  !(node.stops chars (List.range (chars.size + 1))).isEmpty

end SeriesSql.Regex
