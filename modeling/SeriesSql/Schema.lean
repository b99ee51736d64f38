/-!
# The schema of the sample store

Samples belong to series, a series has a name and a label set, and a label set holds label keys with
their values.  Table and column names are fixed; they are the only identifiers written into SQL.
-/

namespace SeriesSql.Schema

inductive Table where
  /-- One row for every sample. -/
  | sampleValue
  /-- The series. -/
  | metricInstance
  | sampleName
  | labelSet
  /-- The pairs of the label sets; a set has a key at most once. -/
  | labelSetMembership
  | labelKey
  | labelValue
deriving Repr, DecidableEq

namespace Table

def name : Table → String
  | sampleValue => "sample_value"
  | metricInstance => "metric_instance"
  | sampleName => "sample_name"
  | labelSet => "label_set"
  | labelSetMembership => "label_set_membership"
  | labelKey => "label_key"
  | labelValue => "label_value"

/-- The name of the table inside a selector's query. -/
def shortName : Table → String
  | sampleValue => "sv"
  | metricInstance => "mi"
  | sampleName => "sn"
  | labelSet => "ls"
  | labelSetMembership => "lsm"
  | labelKey => "lk"
  | labelValue => "lv"

def all : List Table :=
  [sampleValue, metricInstance, sampleName, labelSet, labelSetMembership, labelKey, labelValue]

end Table

/-- A table with the lines between its parentheses. -/
def createTable (name : String) (columns : List String) : String :=
  "CREATE TABLE IF NOT EXISTS " ++ name ++ " (\n        " ++
    String.intercalate ",\n        " columns ++ "\n    )"

/-- The statements that create the schema. -/
def statements : List String :=
  [createTable "sample_name"
      ["id INTEGER PRIMARY KEY",
       "name TEXT NOT NULL UNIQUE"],
    createTable "label_key"
      ["id INTEGER PRIMARY KEY",
       "name TEXT NOT NULL UNIQUE"],
    createTable "label_value"
      ["id INTEGER PRIMARY KEY",
       "value TEXT NOT NULL UNIQUE"],
    createTable "label_set"
      ["id INTEGER PRIMARY KEY"],
    createTable "label_set_membership"
      ["label_set_id INTEGER NOT NULL REFERENCES label_set(id)",
       "label_key_id INTEGER NOT NULL REFERENCES label_key(id)",
       "label_value_id INTEGER NOT NULL REFERENCES label_value(id)",
       "PRIMARY KEY (label_set_id, label_key_id)"],
    createTable "metric_instance"
      ["id INTEGER PRIMARY KEY",
       "sample_name_id INTEGER NOT NULL REFERENCES sample_name(id)",
       "label_set_id INTEGER NOT NULL REFERENCES label_set(id)"],
    createTable "sample_value"
      ["id INTEGER PRIMARY KEY",
       "metric_instance_id INTEGER NOT NULL REFERENCES metric_instance(id)",
       "timestamp INTEGER NOT NULL",
       "value REAL NOT NULL"],
    "CREATE INDEX IF NOT EXISTS idx_sample_value_timestamp ON sample_value (timestamp)"]

end SeriesSql.Schema
