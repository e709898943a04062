import RecordSql.Log

/-! How a connection is opened: where the database is, and with which settings. -/

namespace RecordSql

inductive Location where
  | memory
  | file (path : String)
deriving DecidableEq

namespace Location

/-- A text names the memory database or a file; a path always names a file. -/
def ofText (s : String) : Location := if s = ":memory:" then .memory else .file s

def text : Location → String
  | .memory => ":memory:"
  | .file path => path

end Location

inductive OpenMode where
  | readOnly
  | readWrite
  | readWriteCreate
deriving DecidableEq, Repr

structure DatabaseKey where
  secret : String
deriving DecidableEq

structure Config where
  openMode : OpenMode := .readWriteCreate
  foreignKeys : Bool := true
  busyTimeout : Option Nat := none
  key : Option DatabaseKey := none
  log : LogConfig := {}
deriving DecidableEq

end RecordSql
