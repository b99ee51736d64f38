import SeriesSql.Regex.Token

/-!
# Reading a regular expression

Tokens are put together on a stack with one level for every group that is still open.  Flags set
inside a group last until the group is closed.

Two parts of the language are left out and make a pattern unreadable: classes of characters by a
property, such as `\p{Greek}`, and the switch `(?-u)` from characters to bytes.  There is no limit
on how deep groups are nested or on how large the expression becomes when its repetitions are
written out.
-/

namespace SeriesSql.Regex

/-- The part of a group read so far: the alternatives before the last bar, the latest first, and the
sequence after it, where the last item is kept apart if an operator may repeat it. -/
structure Level where
  alternatives : List Node
  front : Node
  last : Option Node
deriving Repr

namespace Level

def start : Level := ⟨[], .empty, none⟩

def sequence (l : Level) : Node :=
  match l.last with
  | none => l.front
  | some node => .seq l.front node

def node (l : Level) : Node :=
  l.alternatives.foldl (fun acc earlier => .alt earlier acc) l.sequence

def push (l : Level) (node : Node) : Level :=
  { l with front := l.sequence, last := some node }

/-- Ends the sequence where no operator may repeat what comes before. -/
def sealed (l : Level) : Level :=
  { l with front := l.sequence, last := none }

def bar (l : Level) : Level :=
  ⟨l.sequence :: l.alternatives, .empty, none⟩

def repeat? (l : Level) (least : Nat) (most : Option Nat) : Option Level :=
  l.last.map fun node => { l with last := some (.rep least most node) }

end Level

structure State where
  flags : Flags
  /-- Names of the groups so far; no two groups have the same. -/
  names : List String
  level : Level
  /-- The enclosing levels with the flags that hold there again, innermost first. -/
  outer : List (Level × Flags)
deriving Repr

namespace State

def start : State := ⟨.none, [], .start, []⟩

def step (st : State) : Token → Option State
  | .item node => some { st with level := st.level.push node }
  | .repetition least most => (st.level.repeat? least most).map fun l => { st with level := l }
  | .bar => some { st with level := st.level.bar }
  | .setFlags flags => some { st with flags, level := st.level.sealed }
  | .openGroup inner name =>
    if name.any st.names.contains then
      none
    else
      some
        { flags := inner
          names := name.toList ++ st.names
          level := .start
          outer := (st.level, st.flags) :: st.outer }
  | .closeGroup =>
    match st.outer with
    | [] => none
    | (parent, flags) :: outer =>
      some { st with flags, level := parent.push st.level.node, outer }

/-- Reads all of `cs`; every token takes at least one character, so `cs.length` is enough fuel. -/
def run : (fuel : Nat) → State → List Char → Option State
  | fuel, st, cs =>
    match st.flags.skip cs with
    | [] => some st
    | rest =>
      match fuel with
      | 0 => none
      | fuel + 1 => do
        let (token, rest) ← readToken st.flags rest
        run fuel (← st.step token) rest

/-- The whole expression, if every group is closed. -/
def finish? (st : State) : Option Node :=
  if st.outer.isEmpty then some st.level.node else none

end State

/-- The expression that a pattern stands for, if it is one.  Its size and depth are not limited. -/
def parse? (pattern : String) : Option Node := do
  (← State.run pattern.toList.length .start pattern.toList).finish?

/-- The pattern that matches the texts which `pattern` matches from end to end. -/
def anchored (pattern : String) : String :=
  "^(?:" ++ pattern ++ ")$"

end SeriesSql.Regex
