import SeriesSql.Proofs.Sql.Pieces

/-!
# Spacing of code

Two literals that touch are read as one, with a quote between their contents, and a value that is
inlined as a literal can touch another.  `Code.Apart` says that this does not happen: a nonempty
word, a sign or a parenthesis stands between any two of them.  It also says that nothing comes from
outside, since a fragment from outside is not looked into.
-/

namespace SeriesSql.Sql

namespace Code

/-- Whether code ends in a literal or a value, where `before` tells the same of what precedes it. -/
def touches (before : Bool) : Code → Bool
  | word w => before && w.text.toList.isEmpty
  | sign _ | number _ | parens _ => false
  | quoted _ | bound _ | given _ => true
  | seq first second => second.touches (first.touches before)

/-- No literals or values touch, where `before` tells whether one stands right before the code, and
nothing comes from outside. -/
def Apart (before : Bool) : Code → Prop
  | word _ | sign _ | number _ => True
  | quoted _ | bound _ => before = false
  | parens inner => inner.Apart false
  | seq first second => first.Apart before ∧ second.Apart (first.touches before)
  | given _ => False

/-- No literals or values touch, and none stands at the end. -/
def Sealed (code : Code) : Prop := code.Apart false ∧ code.touches false = false

theorem Apart.native {code : Code} {before : Bool} (h : code.Apart before) : code.Native := by
  induction code generalizing before with
  | word w | sign s | number n | quoted s | bound v => trivial
  | parens inner ih => exact ih h
  | seq first second ih₁ ih₂ => exact ⟨ih₁ h.1, ih₂ h.2⟩
  | given f => exact h

/-! ## The ends of code -/

@[simp] theorem touches_append (first second : Code) (before : Bool) :
    (first ++ second).touches before = second.touches (first.touches before) := rfl

@[simp] theorem touches_parens (inner : Code) (before : Bool) :
    (parens inner).touches before = false := rfl

@[simp] theorem touches_sign (s : Sign) (before : Bool) : (sign s).touches before = false := rfl

@[simp] theorem touches_number (n : Nat) (before : Bool) :
    (number n).touches before = false := rfl

@[simp] theorem touches_quoted (s : String) (before : Bool) :
    (quoted s).touches before = true := rfl

@[simp] theorem touches_bound (v : Value) (before : Bool) : (bound v).touches before = true := rfl

@[simp] theorem touches_w_false (text : String) (plain : Plain text) :
    (w text plain).touches false = false := by
  simp only [w, touches, Bool.false_and]

/-- A word that is not empty keeps what stands around it apart. -/
@[simp] theorem touches_w (text : String) (plain : Plain text) (before : Bool) (h : text ≠ "") :
    (w text plain).touches before = false := by
  simp [w, touches, h]

/-! ## The parts of code -/

@[simp] theorem apart_append (first second : Code) (before : Bool) :
    (first ++ second).Apart before ↔ first.Apart before ∧ second.Apart (first.touches before) :=
  Iff.rfl

@[simp] theorem apart_parens (inner : Code) (before : Bool) :
    (parens inner).Apart before ↔ inner.Apart false := Iff.rfl

@[simp] theorem apart_w (text : String) (plain : Plain text) (before : Bool) :
    (w text plain).Apart before := trivial

@[simp] theorem apart_sign (s : Sign) (before : Bool) : (sign s).Apart before := trivial

@[simp] theorem apart_number (n : Nat) (before : Bool) : (number n).Apart before := trivial

@[simp] theorem apart_quoted (s : String) (before : Bool) :
    (quoted s).Apart before ↔ before = false := Iff.rfl

@[simp] theorem apart_bound (v : Value) (before : Bool) :
    (bound v).Apart before ↔ before = false := Iff.rfl

/-! ## Code that ends in neither -/

theorem sealed_w (text : String) (plain : Plain text) : (w text plain).Sealed :=
  ⟨apart_w text plain false, touches_w_false text plain⟩

theorem Sealed.append {first second : Code} (hfirst : first.Sealed) (hsecond : second.Sealed) :
    (first ++ second).Sealed := by
  simp_all [Sealed]

end Code

end SeriesSql.Sql
