import RecordSql.Derive.Declaration

/-! The program text that declares the table of a plan, one blank between two tokens. -/

namespace RecordSql.Derive

def libraryPath (names : List String) : String :=
  " ".intercalate ((["litorm"] ++ names).flatMap fun name => ["::", name])

def conflictCode (p : ConflictPolicy) : String := libraryPath ["Conflict", p.name]

def actionCode (a : ReferentialAction) : String := libraryPath ["Action", a.name]

def constraintCode : Constraint → List String
  | .primaryKey conflict autoincrement =>
    [libraryPath ["Constraint", "PrimaryKey"], "\x7b", "conflict", ":", conflictCode conflict, ",",
     "autoincrement", ":", if autoincrement then "true" else "false", ",", "\x7d"]
  | .notNull conflict => [libraryPath ["Constraint", "not_null"], "(", conflictCode conflict, ")"]
  | .unique conflict => [libraryPath ["Constraint", "unique"], "(", conflictCode conflict, ")"]
  | .foreignKey reference onUpdate onDelete =>
    [libraryPath ["Constraint", "foreign_key"], "(", libraryPath ["Reference", "new"], "(",
     Escaped.literal reference.table, ",", Escaped.literal reference.column, ")", ",",
     actionCode onUpdate, ",", actionCode onDelete, ",", ")"]

def readerName (field : String) : String := "__litorm_get_" ++ plainName field

def writerName (field : String) : String := "__litorm_get_mut_" ++ plainName field

namespace ColumnPlan

def helperNames (c : ColumnPlan) : List String :=
  match c.binding with
  | .field field => [readerName field, writerName field]
  | .accessor .. => []

def helpers (record : String) (c : ColumnPlan) : List String :=
  match c.binding with
  | .field field =>
    ["fn", readerName field, "(", "record", ":", "&", record, ")", "->", "&"] ++ c.type ++
      ["\x7b", "&", "record", ".", field, "\x7d"] ++
      ["fn", writerName field, "(", "record", ":", "&", "mut", record, ")", "->", "&", "mut"] ++
      c.type ++ ["\x7b", "&", "mut", "record", ".", field, "\x7d"]
  | .accessor .. => []

def constructor (c : ColumnPlan) : String :=
  match c.binding with
  | .field _ => "field"
  | .accessor .. => "accessor"

def functions (record : String) (c : ColumnPlan) : List String :=
  match c.binding with
  | .field field => [readerName field, ",", writerName field]
  | .accessor reader writer => [record, "::", reader, ",", record, "::", writer]

def code (record : String) (c : ColumnPlan) : List String :=
  [".", "column", "(", libraryPath ["Column", c.constructor], "::", "<"] ++ c.type ++
    [">", "(", Escaped.literal c.name, ","] ++ c.functions record ++ [")"] ++
    c.constraints.flatMap (fun k => [".", "constraint", "("] ++ constraintCode k ++ [")"]) ++ [")"]

end ColumnPlan

namespace Plan

def helperNames (p : Plan) : List String := p.columns.flatMap ColumnPlan.helperNames

def words (p : Plan) : List String :=
  ["impl", libraryPath ["Record"], "for", p.record, "\x7b", "fn", "table", "(", ")", "->",
   libraryPath ["OrmResult"], "<", libraryPath ["Table"], "<", "Self", ">", ">", "\x7b"] ++
    p.columns.flatMap (ColumnPlan.helpers p.record) ++
    [libraryPath ["Table", "builder"], "(", Escaped.literal p.table, ")"] ++
    p.columns.flatMap (ColumnPlan.code p.record) ++ [".", "build", "(", ")", "\x7d", "\x7d"]

def code (p : Plan) : String := " ".intercalate p.words

end Plan

end RecordSql.Derive
