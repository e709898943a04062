import RecordSql.Constraint
import RecordSql.Derive.Attribute

/-! The items that a record and its fields can have. Where a list gives one thing twice, the last
holds. -/

namespace RecordSql.Derive

def last? (f : α → Option β) (items : List α) : Option β := (items.filterMap f).getLast?

/-- Policies and actions are named in either case, and a blank stands for an underscore. -/
def normalized (s : String) : String := s.map fun c => if c = ' ' then '_' else c.toLower

def policy (s : String) : Except Fault ConflictPolicy :=
  match ConflictPolicy.all.find? fun p => normalized p.sql = s.toLower with
  | some p => .ok p
  | none => .error .unknownPolicy

def action (s : String) : Except Fault ReferentialAction :=
  match ReferentialAction.all.find? fun a => normalized a.sql = normalized s with
  | some a => .ok a
  | none => .error .unknownAction

def keywords : List String :=
  ["_", "abstract", "as", "async", "await", "become", "box", "break", "const", "continue", "crate",
   "do", "dyn", "else", "enum", "extern", "false", "final", "fn", "for", "if", "impl", "in", "let",
   "loop", "macro", "match", "mod", "move", "mut", "override", "priv", "pub", "ref", "return",
   "Self", "self", "static", "struct", "super", "trait", "true", "try", "type", "typeof", "unsafe",
   "unsized", "use", "virtual", "where", "while", "yield"]

def word (s : String) : Except Fault String :=
  match Tree.ofText? s with
  | none => .error .unreadable
  | some [] => .error (.endOfInput .identifier)
  | some (.leaf (.word w) :: rest) =>
    if keywords.contains w then .error (.keyword w)
    else if rest.isEmpty then .ok w
    else .error .surplus
  | some _ => .error (.expected .identifier)

def identifier (t : TextLiteral) : Except Fault String := do
  let w ← word t.value
  if t.suffix.isEmpty then return w else throw (.suffix t.suffix)

inductive KeyArgument where
  | conflict (policy : ConflictPolicy)
  | autoincrement
deriving DecidableEq

def KeyArgument.policy? : KeyArgument → Option ConflictPolicy
  | .conflict policy => some policy
  | .autoincrement => none

def KeyArgument.read : ItemReader KeyArgument := fun path r =>
  if path = "conflict" then do
    let (t, r) ← r.text
    return (.conflict (← policy t.value), r)
  else if path = "autoincrement" then .ok (.autoincrement, r)
  else .error (.expected .keyArgument)

def readPolicy : ItemReader ConflictPolicy := fun path r =>
  if path = "conflict" then do
    let (t, r) ← r.text
    return (← policy t.value, r)
  else .error (.expected .conflictArgument)

inductive ReferenceArgument where
  | table (name : String)
  | column (name : String)
  | onUpdate (action : ReferentialAction)
  | onDelete (action : ReferentialAction)
deriving DecidableEq

namespace ReferenceArgument

def table? : ReferenceArgument → Option String
  | .table name => some name
  | _ => none

def column? : ReferenceArgument → Option String
  | .column name => some name
  | _ => none

def onUpdate? : ReferenceArgument → Option ReferentialAction
  | .onUpdate action => some action
  | _ => none

def onDelete? : ReferenceArgument → Option ReferentialAction
  | .onDelete action => some action
  | _ => none

/-- All of these arguments have a text, also one that nobody knows. -/
def read : ItemReader ReferenceArgument := fun path r => do
  let (t, r) ← r.text
  if path = "table" then return (.table t.value, r)
  else if path = "column" then return (.column t.value, r)
  else if path = "on_update" then return (.onUpdate (← action t.value), r)
  else if path = "on_delete" then return (.onDelete (← action t.value), r)
  else throw (.expected .referenceArgument)

end ReferenceArgument

def primaryKey (arguments : List KeyArgument) : Constraint :=
  .primaryKey ((last? KeyArgument.policy? arguments).getD .abort)
    (arguments.contains .autoincrement)

def foreignKey (arguments : List ReferenceArgument) : Except Fault Constraint :=
  match last? ReferenceArgument.table? arguments, last? ReferenceArgument.column? arguments with
  | some table, some column =>
    .ok (.foreignKey ⟨table, column⟩
      ((last? ReferenceArgument.onUpdate? arguments).getD .noAction)
      ((last? ReferenceArgument.onDelete? arguments).getD .noAction))
  | _, _ => .error .incompleteReference

inductive FieldItem where
  | column (name : String)
  | skip
  | reader (method : String)
  | writer (method : String)
  | constraint (c : Constraint)
deriving DecidableEq

namespace FieldItem

def column? : FieldItem → Option String
  | .column name => some name
  | _ => none

def reader? : FieldItem → Option String
  | .reader method => some method
  | _ => none

def writer? : FieldItem → Option String
  | .writer method => some method
  | _ => none

def constraint? : FieldItem → Option Constraint
  | .constraint c => some c
  | _ => none

def read : ItemReader FieldItem := fun path r =>
  if path = "column" then do
    let (t, r) ← r.text
    return (.column t.value, r)
  else if path = "skip" then .ok (.skip, r)
  else if path = "get" then do
    let (t, r) ← r.text
    return (.reader (← identifier t), r)
  else if path = "set" then do
    let (t, r) ← r.text
    return (.writer (← identifier t), r)
  else if path = "primary_key" then do
    let (arguments, r) ← KeyArgument.read.optionalArguments r
    return (.constraint (primaryKey arguments), r)
  else if path = "not_null" then do
    let (policies, r) ← readPolicy.optionalArguments r
    return (.constraint (.notNull (policies.getLast?.getD .abort)), r)
  else if path = "unique" then do
    let (policies, r) ← readPolicy.optionalArguments r
    return (.constraint (.unique (policies.getLast?.getD .abort)), r)
  else if path = "foreign_key" then do
    let (arguments, r) ← ReferenceArgument.read.requiredArguments r
    return (.constraint (← foreignKey arguments), r)
  else .error .unknownItem

end FieldItem

def readTable : ItemReader String := fun path r =>
  if path = "table" then do
    let (t, r) ← r.text
    return (t.value, r)
  else .error (.expected .tableItem)

end RecordSql.Derive
