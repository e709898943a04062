import RecordSql.Text.Quoted

/-! Constraints on a column and their clauses in a table definition. -/

namespace RecordSql

inductive ConflictPolicy where
  | abort
  | replace
  | ignore
  | fail
  | rollback
deriving DecidableEq, Repr, Inhabited

namespace ConflictPolicy

def all : List ConflictPolicy := [.abort, .replace, .ignore, .fail, .rollback]

def sql : ConflictPolicy → String
  | .abort => "ABORT"
  | .replace => "REPLACE"
  | .ignore => "IGNORE"
  | .fail => "FAIL"
  | .rollback => "ROLLBACK"

def name : ConflictPolicy → String
  | .abort => "Abort"
  | .replace => "Replace"
  | .ignore => "Ignore"
  | .fail => "Fail"
  | .rollback => "Rollback"

end ConflictPolicy

inductive ReferentialAction where
  | cascade
  | restrict
  | setNull
  | setDefault
  | noAction
deriving DecidableEq, Repr, Inhabited

namespace ReferentialAction

def all : List ReferentialAction := [.cascade, .restrict, .setNull, .setDefault, .noAction]

def sql : ReferentialAction → String
  | .cascade => "CASCADE"
  | .restrict => "RESTRICT"
  | .setNull => "SET NULL"
  | .setDefault => "SET DEFAULT"
  | .noAction => "NO ACTION"

def name : ReferentialAction → String
  | .cascade => "Cascade"
  | .restrict => "Restrict"
  | .setNull => "SetNull"
  | .setDefault => "SetDefault"
  | .noAction => "NoAction"

end ReferentialAction

structure Reference where
  table : String
  column : String
deriving DecidableEq, Repr

inductive Constraint where
  | primaryKey (conflict : ConflictPolicy) (autoincrement : Bool)
  | notNull (conflict : ConflictPolicy)
  | unique (conflict : ConflictPolicy)
  | foreignKey (reference : Reference) (onUpdate onDelete : ReferentialAction)
deriving DecidableEq, Repr

namespace Constraint

def sql : Constraint → String
  | .primaryKey conflict autoincrement =>
    "PRIMARY KEY ON CONFLICT " ++ conflict.sql ++ if autoincrement then " AUTOINCREMENT" else ""
  | .notNull conflict => "NOT NULL ON CONFLICT " ++ conflict.sql
  | .unique conflict => "UNIQUE ON CONFLICT " ++ conflict.sql
  | .foreignKey reference onUpdate onDelete =>
    "REFERENCES " ++ quoted reference.table ++ " (" ++ quoted reference.column ++
      ") ON UPDATE " ++ onUpdate.sql ++ " ON DELETE " ++ onDelete.sql

def isPrimaryKey : Constraint → Bool
  | .primaryKey .. => true
  | _ => false

def isAutoincrement : Constraint → Bool
  | .primaryKey _ autoincrement => autoincrement
  | _ => false

def isNotNull : Constraint → Bool
  | .notNull _ => true
  | _ => false

def flagAfter (nullable : Bool) : Constraint → Bool
  | .notNull _ => false
  | _ => nullable

def notNullPolicy? : Constraint → Option ConflictPolicy
  | .notNull conflict => some conflict
  | _ => none

def reference? : Constraint → Option Reference
  | .foreignKey reference _ _ => some reference
  | _ => none

end Constraint

end RecordSql
