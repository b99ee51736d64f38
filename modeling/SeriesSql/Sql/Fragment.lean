import SeriesSql.Error
import SeriesSql.Sql.Value

/-!
# SQL fragments

A fragment is SQL text with positional placeholders and the values bound to them, in order.  A
placeholder is a question mark outside string literals; literals are told apart by their quotes
alone, so a doubled quote closes a literal and opens it again.
-/

namespace SeriesSql.Sql

structure Fragment where
  text : String
  params : List Value
deriving Repr, BEq

/-! ## Scanning for placeholders -/

/-- The number of placeholders in `cs`, where `inside` tells whether a literal is open. -/
def countPlaceholders (inside : Bool) : List Char → Nat
  | [] => 0
  | c :: cs =>
    if c = '\'' then countPlaceholders (!inside) cs
    else if c = '?' && !inside then countPlaceholders inside cs + 1
    else countPlaceholders inside cs

/-- `cs` with the literals of `params` in place of its placeholders, as far as they last. -/
def fillPlaceholders (inside : Bool) (params : List Value) : List Char → List Char
  | [] => []
  | c :: cs =>
    if c = '\'' then
      c :: fillPlaceholders (!inside) params cs
    else if c = '?' && !inside then
      match params with
      | [] => c :: fillPlaceholders inside [] cs
      | v :: rest => v.literal ++ fillPlaceholders inside rest cs
    else
      c :: fillPlaceholders inside params cs

namespace Fragment

def placeholders (f : Fragment) : Nat :=
  countPlaceholders false f.text.toList

/-- Whether every placeholder has its value and every value its placeholder. -/
def isBalanced (f : Fragment) : Bool :=
  f.placeholders == f.params.length

/-- The statement with its values written out, for reading only. -/
def inlined (f : Fragment) : String :=
  String.ofList (fillPlaceholders false f.params f.text.toList)

/-! ## Building fragments -/

/-- A fragment from text that is not blank and as many values as it has placeholders. -/
def ofText (text : String) (params : List Value) : Except Invalid Fragment :=
  if text.toList.all Text.isBlank then
    .error .emptyFragment
  else
    let fragment : Fragment := ⟨text, params⟩
    if fragment.isBalanced then
      .ok fragment
    else
      .error (.placeholders fragment.placeholders params.length)

def append (f g : Fragment) : Fragment :=
  ⟨f.text ++ g.text, f.params ++ g.params⟩

instance : Append Fragment := ⟨append⟩

def parenthesize (f : Fragment) : Fragment :=
  ⟨"(" ++ f.text ++ ")", f.params⟩

/-- The fragments one after the other with `separator` between them. -/
def combine (fragments : List Fragment) (separator : String) : Except Invalid Fragment :=
  if fragments.isEmpty then
    .error .emptyFragment
  else
    .ok ⟨String.intercalate separator (fragments.map text), fragments.flatMap params⟩

end Fragment

end SeriesSql.Sql
