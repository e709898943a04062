import RecordSql.Json.Token

/-! Reading a JSON document: a machine over tokens with a stack of the arrays and objects that are
open, at most 127 of them. -/

namespace RecordSql.Json

/-- An open container: the items so far, or the fields so far and the key of the next one. -/
inductive Frame where
  | array (items : List Json)
  | object (fields : List (String × Json)) (key : String)

namespace Frame

inductive State where
  | expect (stack : List Frame)
  | opened (stack : List Frame)
  | key (fields : List (String × Json)) (stack : List Frame)
  | keyOrClose (stack : List Frame)
  | colon (fields : List (String × Json)) (key : String) (stack : List Frame)
  | value (j : Json) (stack : List Frame)

def depthLimit : Nat := 127

def begin? (stack : List Frame) : Token → Option State
  | .scalar j => some (.value j stack)
  | .text s => some (.value (.text s) stack)
  | .openArray => if stack.length < depthLimit then some (.opened stack) else none
  | .openObject => if stack.length < depthLimit then some (.keyOrClose stack) else none
  | _ => none

def step : State → Token → Option State
  | .expect stack, t => begin? stack t
  | .opened stack, .closeArray => some (.value (.array []) stack)
  | .opened stack, t => begin? (.array [] :: stack) t
  | .key fields stack, .text s => some (.colon fields s stack)
  | .keyOrClose stack, .text s => some (.colon [] s stack)
  | .keyOrClose stack, .closeObject => some (.value (.object []) stack)
  | .colon fields key stack, .colon => some (.expect (.object fields key :: stack))
  | .value j (.array items :: stack), .comma => some (.expect (.array (items ++ [j]) :: stack))
  | .value j (.array items :: stack), .closeArray => some (.value (.array (items ++ [j])) stack)
  | .value j (.object fields key :: stack), .comma => some (.key (insertField key j fields) stack)
  | .value j (.object fields key :: stack), .closeObject =>
    some (.value (.object (insertField key j fields)) stack)
  | _, _ => none

def finish : State → Option Json
  | .value j [] => some j
  | _ => none

end Frame

def ofText? (cs : List Char) : Option Json := do
  let tokens ← Token.scan .between cs
  let state ← tokens.foldlM Frame.step (.expect [])
  Frame.finish state

end RecordSql.Json
