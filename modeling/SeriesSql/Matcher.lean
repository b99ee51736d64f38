import SeriesSql.Name
import SeriesSql.Regex.Parser
import SeriesSql.Sql.Code

/-!
# Label matchers

A matcher compares the value of one label with a text or a pattern.  A label that is absent
satisfies the negated kinds only.  In SQL a matcher is a filter on label sets: the set is, or is
not, among those that have a pair with the matcher's key and a value that passes.
-/

namespace SeriesSql

inductive MatchKind where
  | equal
  | notEqual
  | regex
  | notRegex
deriving Repr, DecidableEq

namespace MatchKind

def symbol : MatchKind → String
  | equal => "="
  | notEqual => "!="
  | regex => "=~"
  | notRegex => "!~"

def isNegated : MatchKind → Bool
  | notEqual | notRegex => true
  | equal | regex => false

def isRegex : MatchKind → Bool
  | regex | notRegex => true
  | equal | notEqual => false

end MatchKind

/-- How the SQL engine applies patterns: anywhere in a value, or to all of it. -/
inductive PatternMode where
  | search
  | fullMatch
deriving Repr, DecidableEq

/-- A pattern that can be read, alone and between anchors. -/
def isPattern (pattern : String) : Bool :=
  (Regex.parse? pattern).isSome && (Regex.parse? (Regex.anchored pattern)).isSome

/-- Fails with the first of the two forms that cannot be read. -/
def checkPattern (pattern : String) : Except Invalid (PLift (isPattern pattern = true)) :=
  if raw : (Regex.parse? pattern).isSome = true then
    if full : (Regex.parse? (Regex.anchored pattern)).isSome = true then
      .ok ⟨by simp [isPattern, raw, full]⟩
    else
      .error (.pattern (Regex.anchored pattern))
  else
    .error (.pattern pattern)

structure Matcher where
  name : LabelName
  kind : MatchKind
  value : String
  readable : kind.isRegex = true → isPattern value = true
deriving DecidableEq

namespace Matcher

/-- Checks the name first, then the pattern. -/
def ofParts (name : String) (kind : MatchKind) (value : String) : Except Invalid Matcher := do
  let name ← LabelName.ofString name
  if regex : kind.isRegex = true then
    let ⟨readable⟩ ← checkPattern value
    return { name, kind, value, readable := fun _ => readable }
  else
    return { name, kind, value, readable := fun h => absurd h regex }

/-- Whether the matcher's text is, or its pattern matches all of, `value`; no negation yet. -/
def accepts (m : Matcher) (value : String) : Bool :=
  if m.kind.isRegex then
    (Regex.parse? (Regex.anchored m.value)).any fun node => node.isMatch value
  else
    value == m.value

/-- Whether a label with the given value, or none, passes. -/
def holds (m : Matcher) : Option String → Bool
  | none => m.kind.isNegated
  | some value => m.accepts value != m.kind.isNegated

def text (m : Matcher) : String :=
  m.name.text ++ m.kind.symbol ++ Text.quote m.value

end Matcher

/-! ## Filters on label sets -/

/-- `[NOT] IN` the label sets that have a pair with the key `key` and a value that is equal to, or
matches, `operand`. -/
structure MembershipFilter where
  negated : Bool
  pattern : Bool
  key : String
  operand : String
deriving Repr, DecidableEq

def Matcher.filter (mode : PatternMode) (m : Matcher) : MembershipFilter :=
  { negated := m.kind.isNegated
    pattern := m.kind.isRegex
    key := m.name.text
    operand :=
      match m.kind.isRegex, mode with
      | true, .fullMatch => Regex.anchored m.value
      | _, _ => m.value }

open Sql in
def MembershipFilter.code (f : MembershipFilter) : Code :=
  (if f.negated then w "mi.label_set_id NOT IN " else w "mi.label_set_id IN ") ++
    .parens
      (w "SELECT m_lsm.label_set_id FROM label_set_membership m_lsm" ++
        w " JOIN label_key m_lk ON m_lk.id = m_lsm.label_key_id" ++
        w " JOIN label_value m_lv ON m_lv.id = m_lsm.label_value_id" ++
        w " WHERE m_lk.name = " ++ .bound (.text f.key) ++
        (if f.pattern then w " AND m_lv.value REGEXP " else w " AND m_lv.value = ") ++
        .bound (.text f.operand))

end SeriesSql
