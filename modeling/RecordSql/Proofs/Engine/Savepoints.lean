import RecordSql.Engine.Basic
import RecordSql.Proofs.Reading.Tokens

/-! Engines whose data stands under a stack of savepoints. The text of a batch is read as control
statements, and the engine answers them as the stack allows; only a commit can be refused without
a reason in the stack. -/

namespace RecordSql

/-- Statements that open, close or undo a savepoint. The transaction itself is the outermost one and
has no name. -/
inductive Control where
  | begin
  | commit
  | rollback
  | savepoint (name : String)
  | release (name : String)
  | rollbackTo (name : String)
deriving DecidableEq

namespace Control

def ofWords : List String → Option Control
  | ["BEGIN", "TRANSACTION"] => some begin
  | ["COMMIT", "TRANSACTION"] => some commit
  | ["ROLLBACK", "TRANSACTION"] => some rollback
  | ["SAVEPOINT", name] => some (savepoint name)
  | ["RELEASE", "SAVEPOINT", name] => some (release name)
  | ["ROLLBACK", "TO", "SAVEPOINT", name] => some (rollbackTo name)
  | _ => none

def readFrom : List String → List Token → Option (List Control)
  | [], [] => some []
  | words, .word w :: rest => readFrom (words ++ [String.ofList w]) rest
  | words, .symbol ';' :: rest => (ofWords words).bind fun k => (readFrom [] rest).map (k :: ·)
  | _, _ => none

/-- The control statements of a batch that has nothing else in it. -/
def script? (sql : String) : Option (List Control) := readFrom [] (lex sql)

def isCommit : List Control → Bool
  | [.commit] => true
  | [.release _] => true
  | _ => false

end Control

structure Savepoint (δ : Type) where
  name : Option String
  /-- The data when the savepoint was opened. -/
  data : δ
deriving DecidableEq

structure Store (δ : Type) where
  data : δ
  stack : List (Savepoint δ) := []
deriving DecidableEq

namespace Store

variable {δ : Type} (d : Store δ)

def since (name : String) : List (Savepoint δ) := d.stack.dropWhile (·.name ≠ some name)

def apply : Control → Option (Store δ)
  | .begin => if d.stack.isEmpty then some { d with stack := [⟨none, d.data⟩] } else none
  | .commit => if d.stack.isEmpty then none else some { d with stack := [] }
  | .rollback => d.stack.getLast?.map fun p => { data := p.data }
  | .savepoint name => some { d with stack := ⟨some name, d.data⟩ :: d.stack }
  | .release name =>
    match d.since name with
    | [] => none
    | _ :: outer => some { d with stack := outer }
  | .rollbackTo name =>
    match d.since name with
    | [] => none
    | p :: outer => some { data := p.data, stack := p :: outer }

def run (d : Store δ) (script : List Control) : Option (Store δ) := script.foldlM apply d

end Store

variable {σ δ : Type}

/-- The engine keeps its data in a store, a part of its state, and answers control statements with
what they do to the store. Other batches and all other calls are left open. -/
structure Engine.Keeps (E : Engine σ) (store : σ → Store δ) : Prop where
  autocommit_eq : ∀ s, E.autocommit s = (store s).stack.isEmpty
  accepted : ∀ {sql script s s'}, Control.script? sql = some script →
    E.batch sql s = (.ok (), s') → (store s).run script = some (store s')
  refused : ∀ {sql script s s' e}, Control.script? sql = some script →
    E.batch sql s = (.error e, s') →
    (store s).run script = none ∨ Control.isCommit script ∧ store s' = store s

namespace Engine.Keeps

variable {E : Engine σ} {store : σ → Store δ} {sql : String} {script : List Control} {s : σ}
  {d : Store δ}

theorem batch_eq_ok (h : E.Keeps store) (hsql : Control.script? sql = some script)
    (hrun : (store s).run script = some d) (hcommit : ¬Control.isCommit script) :
    ∃ s', E.batch sql s = (.ok (), s') ∧ store s' = d := by
  rcases hb : E.batch sql s with ⟨e | ⟨⟩, s'⟩
  · rcases h.refused hsql hb with hnone | ⟨hc, -⟩
    · exact nomatch hrun.symm.trans hnone
    · exact absurd hc hcommit
  · exact ⟨s', rfl, Option.some.inj ((h.accepted hsql hb).symm.trans hrun)⟩

theorem batch_commit (h : E.Keeps store) (hsql : Control.script? sql = some script)
    (hrun : (store s).run script = some d) :
    (∃ s', E.batch sql s = (.ok (), s') ∧ store s' = d) ∨
      ∃ e s', E.batch sql s = (.error e, s') ∧ store s' = store s := by
  rcases hb : E.batch sql s with ⟨e | ⟨⟩, s'⟩
  · rcases h.refused hsql hb with hnone | ⟨-, hs⟩
    · exact nomatch hrun.symm.trans hnone
    · exact .inr ⟨e, s', rfl, hs⟩
  · exact .inl ⟨s', rfl, Option.some.inj ((h.accepted hsql hb).symm.trans hrun)⟩

end Engine.Keeps

end RecordSql
