import RecordSql.Numeric.Binary

/-! JSON documents. An object keeps its fields sorted by key, one for each key. -/

namespace RecordSql

inductive Json where
  | null
  | bool (b : Bool)
  | integer (i : Int)
  | real (x : Binary64)
  | text (s : String)
  | array (items : List Json)
  | object (fields : List (String × Json))
deriving Inhabited

namespace Json

/-- Set a field, in the place that the order of keys gives it; a field of that key is replaced. -/
def insertField (key : String) (j : Json) : List (String × Json) → List (String × Json)
  | [] => [(key, j)]
  | (k, v) :: rest =>
    if key < k then (key, j) :: (k, v) :: rest
    else if key = k then (key, j) :: rest
    else (k, v) :: insertField key j rest

def field? (key : String) : Json → Option Json
  | .object fields => (fields.find? (·.1 = key)).map (·.2)
  | _ => none

end Json

end RecordSql
