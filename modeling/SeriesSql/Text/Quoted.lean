import SeriesSql.Text.Visible

/-!
# Quoted text

Text between double quotes, with a backslash escape for the quote, the backslash and every character
that is not shown as it is.  Apostrophes stay as they are.
-/

namespace SeriesSql.Text

/-- `n` in lower-case hexadecimal without leading zeros. -/
def hexDigits (n : Nat) : List Char :=
  Nat.toDigits 16 n

def escapeChar (c : Char) : List Char :=
  match c with
  | '"' => ['\\', '"']
  | '\\' => ['\\', '\\']
  | '\n' => ['\\', 'n']
  | '\r' => ['\\', 'r']
  | '\t' => ['\\', 't']
  | '\x00' => ['\\', '0']
  | c => if isVisible c then [c] else ['\\', 'u', '\x7b'] ++ hexDigits c.toNat ++ ['\x7d']

def quote (s : String) : String :=
  String.ofList ('"' :: (s.toList.flatMap escapeChar ++ ['"']))

end SeriesSql.Text
