import SeriesSql.Text.Blank

/-!
# Values of SQL

Numbers, texts and null, with the functions and operators on them as SQLite computes them.  Texts
are lists of characters, positions in them count from 1, and a function of null is null.  There is
no value where SQLite would take a number for a text or a text for a number.

There are two groups.

* String functions.  `indexOf?` finds a text in another one, and `charsFrom` and `charsAt` cut a
  text.
* Values.
-/

namespace SeriesSql.Labels

/-! ## String functions -/

/-- The number of characters before the first occurrence of `needle`. -/
def indexOf? (needle : List Char) : List Char → Option Nat
  | [] => if needle.isEmpty then some 0 else none
  | c :: cs => if needle.isPrefixOf (c :: cs) then some 0 else (indexOf? needle cs).map (· + 1)

/-- The position of the first occurrence of `needle`, and 0 if there is none. -/
def position (needle cs : List Char) : Int :=
  match indexOf? needle cs with
  | some n => n + 1
  | none => 0

/-- A start counts from the end if it is negative. -/
def firstPosition (cs : List Char) (start : Int) : Int :=
  if start < 0 then cs.length + 1 + start else start

/-- The characters from the position `start` on. -/
def charsFrom (cs : List Char) (start : Int) : List Char :=
  cs.drop (firstPosition cs start - 1).toNat

/-- The `count` characters from the position `start` on; a negative count is that of the characters
before it. -/
def charsAt (cs : List Char) (start count : Int) : List Char :=
  let first := firstPosition cs start
  let low := if count < 0 then first + count else first
  let high := if count < 0 then first else first + count
  (cs.take (high - 1).toNat).drop (low - 1).toNat

def withoutCommas (cs : List Char) : List Char :=
  Text.dropEndWhile (· == ',') (cs.dropWhile (· == ','))

theorem indexOf?_of_prefix {needle cs : List Char} (h : needle <+: cs) :
    indexOf? needle cs = some 0 := by
  cases cs with
  | nil =>
    have hneedle : needle = [] := List.prefix_nil.mp h
    rw [indexOf?, hneedle]
    rfl
  | cons c cs => rw [indexOf?, if_pos (List.isPrefixOf_iff_prefix.mpr h)]

/-- Where its first character does not occur, a text does not occur either. -/
theorem indexOf?_append_of_not_mem {c : Char} {cs : List Char} (h : c ∉ cs)
    (needle rest : List Char) :
    indexOf? (c :: needle) (cs ++ rest) = (indexOf? (c :: needle) rest).map (· + cs.length) := by
  induction cs with
  | nil => simp
  | cons d cs ih =>
    rw [List.mem_cons, not_or] at h
    have hprefix : ¬ (c :: needle).isPrefixOf (d :: (cs ++ rest)) = true := by
      simp [List.isPrefixOf, h.1]
    rw [List.cons_append, indexOf?, if_neg hprefix, ih h.2, Option.map_map]
    rfl

theorem charsFrom_append (cs rest : List Char) :
    charsFrom (cs ++ rest) (cs.length + 1) = rest := by
  have hfirst : firstPosition (cs ++ rest) (cs.length + 1) = cs.length + 1 := if_neg (by omega)
  rw [charsFrom, hfirst, Int.add_sub_cancel, Int.toNat_natCast, List.drop_left]

theorem charsAt_append (before cs rest : List Char) :
    charsAt (before ++ (cs ++ rest)) (before.length + 1) cs.length = cs := by
  have hfirst : firstPosition (before ++ (cs ++ rest)) (before.length + 1) = before.length + 1 :=
    if_neg (by omega)
  have hlow : ((before.length : Int) + 1 - 1).toNat = before.length := by omega
  have hhigh : ((before.length : Int) + 1 + cs.length - 1).toNat = (before ++ cs).length := by
    rw [List.length_append]
    omega
  have hcount : ¬ (cs.length : Int) < 0 := by omega
  simp only [charsAt, hfirst, if_neg hcount, hlow, hhigh]
  rw [← List.append_assoc, List.take_left, List.drop_left]

/-! ## Values -/

inductive Datum where
  | null
  | integer (n : Int)
  | text (cs : List Char)
deriving Repr, DecidableEq

namespace Datum

def ofBool (b : Bool) : Datum :=
  integer (if b then 1 else 0)

/-- What holds for arguments that a function has no case for: it is null if one of them is. -/
def strict (args : List Datum) : Option Datum :=
  if null ∈ args then some null else none

def concat : Datum → Datum → Option Datum
  | text x, text y => some (text (x ++ y))
  | x, y => strict [x, y]

def plus : Datum → Datum → Option Datum
  | integer x, integer y => some (integer (x + y))
  | x, y => strict [x, y]

def minus : Datum → Datum → Option Datum
  | integer x, integer y => some (integer (x - y))
  | x, y => strict [x, y]

def instr : Datum → Datum → Option Datum
  | text cs, text needle => some (integer (position needle cs))
  | x, y => strict [x, y]

def suffix : Datum → Datum → Option Datum
  | text cs, integer start => some (text (charsFrom cs start))
  | x, y => strict [x, y]

def slice : Datum → Datum → Datum → Option Datum
  | text cs, integer start, integer count => some (text (charsAt cs start count))
  | x, y, z => strict [x, y, z]

def length : Datum → Option Datum
  | text cs => some (integer cs.length)
  | x => strict [x]

def trimCommas : Datum → Option Datum
  | text cs => some (text (withoutCommas cs))
  | x => strict [x]

def equal : Datum → Datum → Option Datum
  | integer x, integer y => some (ofBool (x == y))
  | text x, text y => some (ofBool (x == y))
  | x, y => strict [x, y]

def greater : Datum → Datum → Option Datum
  | integer x, integer y => some (ofBool (y < x))
  | x, y => strict [x, y]

/-- The truth of a value, null counting as unknown; a text has none. -/
def truth : Datum → Option (Option Bool)
  | null => some none
  | integer n => some (some (n != 0))
  | text _ => none

/-- One true side makes a disjunction true, even if the other one is unknown. -/
def or (x y : Datum) : Option Datum := do
  match ← x.truth, ← y.truth with
  | some true, _ | _, some true => some (ofBool true)
  | some false, some false => some (ofBool false)
  | _, _ => some null

def not (x : Datum) : Option Datum := do
  match ← x.truth with
  | some b => some (ofBool !b)
  | none => some null

end Datum

end SeriesSql.Labels
