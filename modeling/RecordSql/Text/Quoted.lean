/-! Names in SQL text, and lists of texts with a separator. -/

namespace RecordSql

def quoted (name : String) : String := "`" ++ name ++ "`"

def qualified (table column : String) : String := quoted table ++ "." ++ quoted column

def commaSeparated (texts : List String) : String := ", ".intercalate texts

end RecordSql
