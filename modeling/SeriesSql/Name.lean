import SeriesSql.Error

/-!
# Label names and metric names

Names are checked when they are made.  A name starts with an ASCII letter or an underscore and goes
on with letters, digits and underscores; metric names may also hold colons.
-/

namespace SeriesSql

def isLabelName (name : String) : Bool :=
  match name.toList with
  | [] => false
  | first :: rest =>
    (first.isAlpha || first == '_') && rest.all fun c => c.isAlphanum || c == '_'

def isMetricName (name : String) : Bool :=
  match name.toList with
  | [] => false
  | first :: rest =>
    (first.isAlpha || first == '_' || first == ':') &&
      rest.all fun c => c.isAlphanum || c == '_' || c == ':'

structure LabelName where
  text : String
  valid : isLabelName text = true
deriving DecidableEq

structure MetricName where
  text : String
  valid : isMetricName text = true
deriving DecidableEq

def LabelName.ofString (name : String) : Except Invalid LabelName :=
  if valid : isLabelName name = true then .ok ⟨name, valid⟩ else .error (.labelName name)

def MetricName.ofString (name : String) : Except Invalid MetricName :=
  if valid : isMetricName name = true then .ok ⟨name, valid⟩ else .error (.metricName name)

/-- The names in increasing order, each once. -/
def LabelName.sorted (names : List LabelName) : List LabelName :=
  (names.mergeSort fun a b => decide (a.text ≤ b.text)).eraseReps

end SeriesSql
