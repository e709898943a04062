import RecordSql.Value
import RecordSql.Text.Quoted

/-! SQL text together with the values of its placeholders, in the order in which they are bound. -/

namespace RecordSql

/-- The values of placeholders; the one at position `i` is bound to slot `i + 1`. -/
abbrev Params := List Value

namespace Params

def push (params : Params) (v : Value) : Params × Nat := (params ++ [v], params.length + 1)

def slots (params : Params) : List (Nat × Value) := params.mapIdx fun i v => (i + 1, v)

def same : Params → Params → Bool
  | [], [] => true
  | v :: vs, w :: ws => v.same w && same vs ws
  | _, _ => false

end Params

structure Sql where
  text : String
  params : Params
deriving DecidableEq

namespace Sql

instance : Append Sql := ⟨fun a b => ⟨a.text ++ b.text, a.params ++ b.params⟩⟩

def ofText (text : String) : Sql := ⟨text, []⟩

def empty : Sql := ofText ""

def hole (v : Value) : Sql := ⟨"?", [v]⟩

@[simp] theorem text_append (a b : Sql) : (a ++ b).text = a.text ++ b.text := rfl

@[simp] theorem params_append (a b : Sql) : (a ++ b).params = a.params ++ b.params := rfl

theorem eq_of {a b : Sql} (text : a.text = b.text) (params : a.params = b.params) : a = b := by
  cases a
  cases b
  rw [Sql.mk.injEq]
  exact ⟨text, params⟩

theorem append_assoc (a b c : Sql) : a ++ b ++ c = a ++ (b ++ c) :=
  eq_of String.append_assoc (List.append_assoc ..)

@[simp] theorem empty_append (a : Sql) : empty ++ a = a :=
  eq_of String.empty_append (List.nil_append _)

@[simp] theorem append_empty (a : Sql) : a ++ empty = a :=
  eq_of String.append_empty (List.append_nil _)

theorem ofText_append (s t : String) : ofText (s ++ t) = ofText s ++ ofText t := rfl

def commaSeparated : List Sql → Sql
  | [] => empty
  | [s] => s
  | s :: rest => s ++ ofText ", " ++ commaSeparated rest

def holes (values : List Value) : Sql := commaSeparated (values.map hole)

def parenthesized (s : Sql) : Sql := ofText "(" ++ s ++ ofText ")"

end Sql

end RecordSql
