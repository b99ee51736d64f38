import SeriesSql.Sql.Code

/-!
# Text and values of code

The text and the values of code follow its parts: one equation for each way of putting code
together.  The text of a bound value is a question mark whatever the value is, so the text of code
tells nothing about the values in it.
-/

namespace SeriesSql.Sql

namespace Code

/-! ## Text -/

@[simp] theorem text_append (first second : Code) :
    (first ++ second).text = first.text ++ second.text := rfl

@[simp] theorem text_parens (inner : Code) : (parens inner).text = "(" ++ inner.text ++ ")" := rfl

@[simp] theorem text_bound (v : Value) : (bound v).text = "?" := rfl

@[simp] theorem text_sign (s : Sign) : (sign s).text = " " ++ s.symbol ++ " " := rfl

@[simp] theorem text_w (text : String) (plain : Plain text) : (w text plain).text = text := rfl

/-! ## Values -/

@[simp] theorem params_append (first second : Code) :
    (first ++ second).params = first.params ++ second.params := rfl

@[simp] theorem params_parens (inner : Code) : (parens inner).params = inner.params := rfl

@[simp] theorem params_bound (v : Value) : (bound v).params = [v] := rfl

@[simp] theorem params_w (text : String) (plain : Plain text) : (w text plain).params = [] := rfl

@[simp] theorem params_sign (s : Sign) : (sign s).params = [] := rfl

@[simp] theorem params_number (n : Nat) : (number n).params = [] := rfl

@[simp] theorem params_quoted (s : String) : (quoted s).params = [] := rfl

end Code

end SeriesSql.Sql
