import SeriesSql.Labels.Term
import SeriesSql.Proofs.Labels.Query
import SeriesSql.Proofs.Sql.Code

/-!
# Evaluating terms

The value of a term in a row, as SQLite computes it.

There are two groups.

* `Term.eval`, and the scope that gives a value to columns and to queries.
* Concatenations, which may be grouped in any way: `Term.append` groups them from the left, with the
  same code and the same value.
-/

namespace SeriesSql.Labels

/-! ## Terms -/

/-- What a term refers to: the row that it is evaluated in, the tables and the functions for regular
expressions. -/
structure Scope where
  column : Column → Datum
  /-- The value of a query, if it can be evaluated. -/
  select : Query.Select → Option Datum
  /-- Whether a text matches a pattern. -/
  isMatch : Datum → Datum → Option Datum
  /-- A text with a replacement for the matches of a pattern. -/
  replace : Datum → Datum → Datum → Option Datum

namespace Term

def eval (s : Scope) : Term → Option Datum
  | null => some .null
  | int n => some (.integer n)
  | text t | bound t => some (.text t.toList)
  | column c => some (s.column c)
  | lookup key => s.select (Query.valueQuery key)
  | group t => t.eval s
  | concat a b => do (← a.eval s).concat (← b.eval s)
  | plus a b => do (← a.eval s).plus (← b.eval s)
  | minus a b => do (← a.eval s).minus (← b.eval s)
  | instr t n => do (← t.eval s).instr (← n.eval s)
  | suffix t i => do (← t.eval s).suffix (← i.eval s)
  | slice t i n => do (← t.eval s).slice (← i.eval s) (← n.eval s)
  | length t => do (← t.eval s).length
  | trimCommas t => do (← t.eval s).trimCommas
  | coalesce a b => do
    let x ← a.eval s
    if x = .null then b.eval s else some x
  | replace t p r => do s.replace (← t.eval s) (← p.eval s) (← r.eval s)
  | equal a b => do (← a.eval s).equal (← b.eval s)
  | greater a b => do (← a.eval s).greater (← b.eval s)
  | isNull t => do some (.ofBool ((← t.eval s) == .null))
  | regexp t p => do s.isMatch (← t.eval s) (← p.eval s)
  | or a b => do (← a.eval s).or (← b.eval s)
  | not t => do (← t.eval s).not
  | cond test yes no => do
    -- a test that is unknown counts as false
    if (← (← test.eval s).truth) = some true then yes.eval s else no.eval s

section

variable {s : Scope} {a b c : Term}

theorem eval_concat {x y : List Char} (ha : a.eval s = some (.text x))
    (hb : b.eval s = some (.text y)) : (concat a b).eval s = some (.text (x ++ y)) := by
  rw [eval, ha, hb]
  rfl

theorem eval_equal {x y : Int} (ha : a.eval s = some (.integer x))
    (hb : b.eval s = some (.integer y)) :
    (equal a b).eval s = some (.ofBool (decide (x = y))) := by
  rw [eval, ha, hb]
  rfl

theorem eval_cond {test : Bool} (h : a.eval s = some (.ofBool test)) :
    (cond a b c).eval s = if test then b.eval s else c.eval s := by
  rw [eval, h]
  cases test <;> rfl

end

end Term

/-! ## Concatenations -/

/-- Only texts have a text for their concatenation. -/
theorem Datum.exists_of_concat {x y : Datum} {cs : List Char} (h : x.concat y = some (.text cs)) :
    ∃ front back, x = .text front ∧ y = .text back ∧ front ++ back = cs := by
  unfold Datum.concat at h
  split at h
  · exact ⟨_, _, rfl, rfl, by simpa using h⟩
  · unfold Datum.strict at h
    split at h <;> cases h

namespace Term

open Sql

/-- The terms of a chain, after those of another one. -/
def append (a : Term) : Term → Term
  | concat b c => concat (append a b) c
  | t => concat a t

theorem fragment_concat_congr {a a' b b' : Term} (ha : a.code.fragment = a'.code.fragment)
    (hb : b.code.fragment = b'.code.fragment) :
    (concat a b).code.fragment = (concat a' b').code.fragment := by
  simp only [Code.fragment, Fragment.mk.injEq] at ha hb ⊢
  simp [code, ha, hb]

theorem fragment_concat_assoc (a b c : Term) :
    (concat (concat a b) c).code.fragment = (concat a (concat b c)).code.fragment := by
  simp [Code.fragment, code, String.append_assoc]

theorem fragment_append (a b : Term) :
    (append a b).code.fragment = (concat a b).code.fragment := by
  induction b with
  | concat b c ihb _ =>
    calc (append a (concat b c)).code.fragment
        = (concat (append a b) c).code.fragment := rfl
      _ = (concat (concat a b) c).code.fragment := fragment_concat_congr ihb rfl
      _ = (concat a (concat b c)).code.fragment := fragment_concat_assoc a b c
  | _ => rfl

/-- Both operands of `||` are texts if its result is one. -/
theorem eval_of_concat {s : Scope} {a b : Term} {cs : List Char}
    (h : (concat a b).eval s = some (.text cs)) :
    ∃ x y, a.eval s = some (.text x) ∧ b.eval s = some (.text y) ∧ x ++ y = cs := by
  rw [eval] at h
  obtain ⟨x, hx, h⟩ := Option.bind_eq_some_iff.mp h
  obtain ⟨y, hy, h⟩ := Option.bind_eq_some_iff.mp h
  obtain ⟨x, y, rfl, rfl, rfl⟩ := Datum.exists_of_concat h
  exact ⟨x, y, hx, hy, rfl⟩

theorem eval_append {s : Scope} {a b : Term} {x y : List Char} (ha : a.eval s = some (.text x))
    (hb : b.eval s = some (.text y)) : (append a b).eval s = some (.text (x ++ y)) := by
  induction b generalizing y with
  | concat b c ihb _ =>
    obtain ⟨front, back, hfront, hback, rfl⟩ := eval_of_concat hb
    rw [← List.append_assoc]
    exact eval_concat (ihb hfront) hback
  | _ => exact eval_concat ha hb

end Term

end SeriesSql.Labels
