import SeriesSql.Text.Blank
import SeriesSql.Text.CaseFold
import SeriesSql.Text.Word

/-!
# Character sets of regular expressions

The sets that `.`, classes and escapes stand for, as expressions with a membership test.
-/

namespace SeriesSql.Regex

/-- The named classes `[:alpha:]` and so on; they hold ASCII characters only. -/
inductive AsciiClass where
  | alnum | alpha | ascii | blank | cntrl | digit | graph | lower | print | punct | space | upper
  | word | xdigit
deriving Repr, DecidableEq

namespace AsciiClass

def ofName? : String → Option AsciiClass
  | "alnum" => some alnum
  | "alpha" => some alpha
  | "ascii" => some ascii
  | "blank" => some blank
  | "cntrl" => some cntrl
  | "digit" => some digit
  | "graph" => some graph
  | "lower" => some lower
  | "print" => some print
  | "punct" => some punct
  | "space" => some space
  | "upper" => some upper
  | "word" => some word
  | "xdigit" => some xdigit
  | _ => none

def contains (k : AsciiClass) (c : Char) : Bool :=
  let n := c.toNat
  let graphic := 0x21 ≤ n && n ≤ 0x7e
  match k with
  | alnum => c.isAlphanum
  | alpha => c.isAlpha
  | ascii => n < 0x80
  | blank => c == ' ' || c == '\t'
  | cntrl => n < 0x20 || n == 0x7f
  | digit => c.isDigit
  | graph => graphic
  | lower => c.isLower
  | print => graphic || c == ' '
  | punct => graphic && !c.isAlphanum
  | space => c == ' ' || (0x9 ≤ n && n ≤ 0xd)
  | upper => c.isUpper
  | word => c.isAlphanum || c == '_'
  | xdigit => c.isDigit || ('a' ≤ c && c ≤ 'f') || ('A' ≤ c && c ≤ 'F')

end AsciiClass

inductive CharSet where
  | none
  | any
  | single (c : Char)
  | range (first last : Char)
  | digit
  | word
  | space
  | ascii (k : AsciiClass)
  | compl (s : CharSet)
  | union (s t : CharSet)
  | inter (s t : CharSet)
  /-- All characters that differ from a member of `s` in case only. -/
  | anyCase (s : CharSet)
deriving Repr, DecidableEq

namespace CharSet

def contains : CharSet → Char → Bool
  | none, _ => false
  | any, _ => true
  | single d, c => c == d
  | range first last, c => first ≤ c && c ≤ last
  | digit, c => Text.isDecimalDigit c
  | word, c => Text.isWord c
  | space, c => Text.isBlank c
  | ascii k, c => k.contains c
  | compl s, c => !s.contains c
  | union s t, c => s.contains c || t.contains c
  | inter s t, c => s.contains c && t.contains c
  | anyCase s, c => (Text.caseVariants c).any s.contains

def diff (s t : CharSet) : CharSet :=
  inter s (compl t)

def symmDiff (s t : CharSet) : CharSet :=
  union (diff s t) (diff t s)

/-- Every character but the line feed. -/
def notLineFeed : CharSet :=
  compl (single '\n')

/-- Every character but the line feed and the carriage return. -/
def notLineBreak : CharSet :=
  compl (union (single '\r') (single '\n'))

end CharSet

end SeriesSql.Regex
