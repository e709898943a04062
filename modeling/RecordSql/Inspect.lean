import RecordSql.Config
import RecordSql.Schema
import RecordSql.Text.Escaped

/-! The structure of declarations and settings as text, for people who look for a fault. A secret
shows as asterisks. -/

namespace RecordSql

inductive View where
  | atom (s : String)
  | text (s : String)
  | tuple (name : String) (part : View)
  | record (name : String) (parts : List (String × View)) (complete : Bool)
  | items (views : List View)

namespace View

mutual

def render : View → String
  | .atom s => s
  | .text s => Escaped.quote s
  | .tuple name part => name ++ "(" ++ render part ++ ")"
  | .record name parts complete =>
    name ++ " \x7b " ++
      ", ".intercalate (renderParts parts ++ if complete then [] else [".."]) ++ " \x7d"
  | .items views => "[" ++ ", ".intercalate (renderItems views) ++ "]"

def renderParts : List (String × View) → List String
  | [] => []
  | (name, v) :: rest => (name ++ ": " ++ render v) :: renderParts rest

def renderItems : List View → List String
  | [] => []
  | v :: rest => render v :: renderItems rest

end

def bool (b : Bool) : View := .atom (if b then "true" else "false")

def nat (n : Nat) : View := .atom (toString n)

def option : Option View → View
  | some v => .tuple "Some" v
  | none => .atom "None"

end View

def ConflictPolicy.view (p : ConflictPolicy) : View := .atom p.name

def ReferentialAction.view (a : ReferentialAction) : View := .atom a.name

def Reference.view (r : Reference) : View :=
  .record "Reference" [("table", .text r.table), ("column", .text r.column)] true

def Constraint.view : Constraint → View
  | .primaryKey conflict autoincrement =>
    .record "PrimaryKey" [("conflict", conflict.view), ("autoincrement", .bool autoincrement)] true
  | .notNull conflict => .tuple "NotNull" conflict.view
  | .unique conflict => .tuple "Unique" conflict.view
  | .foreignKey reference onUpdate onDelete =>
    .record "ForeignKey"
      [("reference", reference.view), ("on_update", onUpdate.view),
       ("on_delete", onDelete.view)] true

def StorageClass.view : StorageClass → View
  | .integer => .atom "Integer"
  | .real => .atom "Real"
  | .text => .atom "Text"
  | .blob => .atom "Blob"

def Column.view (c : Column) : View :=
  .record "ColumnDef"
    [("name", .text c.name), ("storage", c.storage.view), ("nullable", .bool c.nullable),
     ("ordinal", .nat c.ordinal), ("constraints", .items (c.constraints.map Constraint.view))] true

def Table.view (t : Table) : View :=
  .record "Table"
    [("name", .text t.name),
     ("columns", .items (t.columns.map fun c => .record "Column" [("def", c.view)] false))] true

def Level.view : Level → View
  | .error => .tuple "Level" (.atom "Error")
  | .warn => .tuple "Level" (.atom "Warn")
  | .info => .tuple "Level" (.atom "Info")
  | .debug => .tuple "Level" (.atom "Debug")
  | .trace => .tuple "Level" (.atom "Trace")

def LogConfig.view (l : LogConfig) : View :=
  .record "SqlLogConfig"
    [("enabled", .bool l.enabled), ("level", l.level.view),
     ("max_sql_length", .option (l.limit.map .nat))] true

def OpenMode.view : OpenMode → View
  | .readOnly => .atom "ReadOnly"
  | .readWrite => .atom "ReadWrite"
  | .readWriteCreate => .atom "ReadWriteCreate"

def View.milliseconds (n : Nat) : View :=
  if n = 0 then .atom "0ns"
  else if n < 1000 then .atom (toString n ++ "ms")
  else
    let fraction := ((Decimal.fixed 3 (n % 1000)).reverse.dropWhile (· = '0')).reverse
    let point := if fraction.isEmpty then [] else ['.']
    .atom (toString (n / 1000) ++ String.ofList (point ++ fraction) ++ "s")

def DatabaseKey.view (_ : DatabaseKey) : View := .tuple "DatabaseKey" (.atom "***")

def Config.view (c : Config) : View :=
  .record "ConnectionConfig"
    [("open_mode", c.openMode.view), ("foreign_keys", .bool c.foreignKeys),
     ("busy_timeout", .option (c.busyTimeout.map .milliseconds)),
     ("key", .option (c.key.map DatabaseKey.view)), ("sql_log", c.log.view)] true

end RecordSql
