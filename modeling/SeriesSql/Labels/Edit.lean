import SeriesSql.Labels.Term
import SeriesSql.Name

/-!
# Reading and changing the label string

Every term pads the label string with a comma at either end, so that `,key=` occurs only where a
pair starts.  Keys enter as bound values.  A value with a comma has no place in the label string.
-/

namespace SeriesSql.Labels

/-- Refuses a value that a label string cannot hold. -/
def checkValue (value : String) : Except Invalid Unit :=
  if value.toList.contains ',' then .error (.labelValue value) else .ok ()

namespace Term

def labels : Term := column .labels

/-- The label string between commas. -/
def padded : Term :=
  group (concat (concat (text ",") labels) (text ","))

/-- The position of the comma before the pair with `key`, 0 if there is none. -/
def keyPosition (key : LabelName) : Term :=
  instr padded (concat (concat (text ",") (bound key.text)) (text "="))

/-- The position of the first character of the value of `key`. -/
def valueStart (key : LabelName) : Term :=
  plus (plus (keyPosition key) (length (bound key.text))) (int 2)

/-- The position of the comma after the pair with `key`. -/
def pairStop (key : LabelName) : Term :=
  plus (keyPosition key) (instr (suffix padded (plus (keyPosition key) (int 1))) (text ","))

/-- The value of `key`, null if it is absent. -/
def extract (key : LabelName) : Term :=
  cond (equal (keyPosition key) (int 0)) null
    (slice padded (valueStart key)
      (minus (instr (suffix padded (valueStart key)) (text ",")) (int 1)))

def hasKey (key : LabelName) : Term :=
  greater (keyPosition key) (int 0)

/-- The label string with `key` set to `value`: in place, or at the end if it is absent. -/
def setValue (key : LabelName) (value : Term) : Term :=
  cond (equal (keyPosition key) (int 0))
    (trimCommas (concat (concat (concat padded (bound key.text)) (text "=")) value))
    (trimCommas
      (concat
        (concat
          (concat (concat (slice padded (int 1) (keyPosition key)) (bound key.text)) (text "="))
          value)
        (suffix padded (pairStop key))))

/-- The label string without the pair with `key`. -/
def removeKey (key : LabelName) : Term :=
  cond (equal (keyPosition key) (int 0)) labels
    (trimCommas
      (concat (slice padded (int 1) (minus (keyPosition key) (int 1)))
        (suffix padded (pairStop key))))

/-- The terms one after the other. -/
def concatAll (separator : Term → Term → Term) : List Term → Term
  | [] => text ""
  | first :: rest => rest.foldl separator first

/-- The pairs of `keys` that are present, in that order. -/
def keepKeys (keys : List LabelName) : Term :=
  let piece (key : LabelName) : Term :=
    coalesce
      (concat (concat (concat (text ",") (bound key.text)) (text "=")) (extract key)) (text "")
  trimCommas (concatAll concat (keys.map piece))

/-- Pairs of the given keys with commas between them, where `value` gives the value of a key and an
absent label counts as empty. -/
def groupKey (value : LabelName → Term) (keys : List LabelName) : Term :=
  let piece (key : LabelName) : Term :=
    concat (concat (bound key.text) (text "=")) (coalesce (value key) (text ""))
  concatAll (fun a b => concat (concat a (text ",")) b) (keys.map piece)

/-- The group of a row by the values in its label string. -/
def groupByString (keys : List LabelName) : Term :=
  groupKey extract keys

/-- The group of a row by the values in the label tables. -/
def groupByTables (keys : List LabelName) : Term :=
  groupKey (fun key => lookup key.text) keys

end Term

end SeriesSql.Labels
