/-!
# Blank characters, trimming and lines

The blank characters are those with the white-space property: the ASCII controls from tab to
carriage return, the space, next line, the no-break space and the spaces and separators of general
punctuation.  Zero-width characters are not blank.
-/

namespace SeriesSql.Text

def isBlank (c : Char) : Bool :=
  let n := c.toNat
  (0x9 ≤ n && n ≤ 0xd) || n == 0x20 || n == 0x85 || n == 0xa0 || n == 0x1680 ||
    (0x2000 ≤ n && n ≤ 0x200a) || n == 0x2028 || n == 0x2029 || n == 0x202f || n == 0x205f ||
    n == 0x3000

/-- `cs` without the characters satisfying `p` at its end. -/
def dropEndWhile (p : Char → Bool) (cs : List Char) : List Char :=
  (cs.reverse.dropWhile p).reverse

/-- `cs` without blank characters at either end. -/
def trimChars (cs : List Char) : List Char :=
  dropEndWhile isBlank (cs.dropWhile isBlank)

/-! ## Lines -/

/-- The parts of `cs` between line feeds; always at least one. -/
def splitLines : List Char → List (List Char)
  | [] => [[]]
  | c :: cs =>
    if c = '\n' then
      [] :: splitLines cs
    else
      match splitLines cs with
      | [] => [[c]]
      | line :: rest => (c :: line) :: rest

/-- A line without one carriage return at its end. -/
def dropReturn (line : List Char) : List Char :=
  match line.getLast? with
  | some '\r' => line.dropLast
  | _ => line

/-- The lines of a text.  A line feed ends a line, together with a carriage return before it; what
follows the last line feed is a line of its own, kept with its carriage return, unless it is
empty. -/
def lines (cs : List Char) : List (List Char) :=
  let parts := splitLines cs
  let last := parts.getLast?.getD []
  parts.dropLast.map dropReturn ++ (if last.isEmpty then [] else [last])

end SeriesSql.Text
