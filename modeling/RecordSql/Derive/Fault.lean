/-! Why a declaration does not describe a table. -/

namespace RecordSql.Derive

inductive Expected where
  | item
  | pathWord
  | equals
  | comma
  | text
  | parentheses
  | identifier
  | tableItem
  | keyArgument
  | conflictArgument
  | referenceArgument
deriving DecidableEq, Repr

def Expected.name : Expected → String
  | .item => "nested attribute"
  | .pathWord => "ident"
  | .equals => "`=`"
  | .comma => "`,`"
  | .text => "string literal"
  | .parentheses => "parentheses"
  | .identifier => "identifier"
  | .tableItem => "`table = \"...\"`"
  | .keyArgument => "`conflict` or `autoincrement`"
  | .conflictArgument => "`conflict`"
  | .referenceArgument => "`table`, `column`, `on_update` or `on_delete`"

inductive Fault where
  | expected (what : Expected)
  | endOfInput (what : Expected)
  | literalItem
  | unnamedItem
  | keyword (word : String)
  | surplus
  | suffix (word : String)
  | unreadable
  | withoutArguments
  | withoutParentheses
  | unknownItem
  | unknownPolicy
  | unknownAction
  | incompleteReference
  | halfAccessor
  | withoutTable
  | generic
  | unnamedFields
  | withoutFields
deriving DecidableEq, Repr

def Fault.message : Fault → String
  | .expected what => "expected " ++ what.name
  | .endOfInput what => "unexpected end of input, expected " ++ what.name
  | .literalItem => "unexpected literal in nested attribute, expected ident"
  | .unnamedItem => "unexpected token in nested attribute, expected ident"
  | .keyword word => "expected identifier, found keyword `" ++ word ++ "`"
  | .surplus => "unexpected token"
  | .suffix word => "unexpected suffix `" ++ word ++ "` on string literal"
  | .unreadable => "cannot parse string into token stream"
  | .withoutArguments => "expected attribute arguments in parentheses: #[orm(...)]"
  | .withoutParentheses => "expected parentheses: #[orm(...)]"
  | .unknownItem => "unsupported orm attribute"
  | .unknownPolicy => "conflict must be one of: abort, replace, ignore, fail, rollback"
  | .unknownAction => "action must be one of: cascade, restrict, set_null, set_default, no_action"
  | .incompleteReference => "foreign_key requires `table` and `column`"
  | .halfAccessor => "accessor columns need both `get = \"...\"` and `set = \"...\"`"
  | .withoutTable => "Record requires #[orm(table = \"table_name\")] attribute"
  | .generic => "Record cannot be derived for generic structs"
  | .unnamedFields => "Record can only be derived for structs with named fields"
  | .withoutFields => "Record can only be derived for structs"

end RecordSql.Derive
