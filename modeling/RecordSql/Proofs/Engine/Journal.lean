import Mathlib.Data.List.Basic
import RecordSql.Proofs.Engine.Activity

/-! What the journal tells of a statement: the text that the engine holds for it and the bindings
since it was compiled. A later world of a session adds entries to the journal; entries about other
statements leave one as it is. -/

namespace RecordSql

def Call.statement? : Call → Option StatementId
  | .batch _ => none
  | .prepare s _ => some s
  | .bind s _ _ => some s
  | .execute s => some s
  | .query s => some s
  | .step s => some s
  | .finalize s => some s

def Entry.statement? (e : Entry) : Option StatementId := e.call?.bind Call.statement?

def Call.runs? : Call → Option StatementId
  | .execute s => some s
  | .query s => some s
  | _ => none

def Entry.request? : Entry → Option Call
  | .call (.prepare s sql) _ => some (.prepare s sql)
  | .call (.bind s slot v) _ => some (.bind s slot v)
  | .call (.execute s) _ => some (.execute s)
  | .call (.query s) _ => some (.query s)
  | _ => none

/-- What the engine holds for a statement: the text that it was compiled from, and the bindings
since, each with whether the engine accepted it. -/
structure Held where
  text : String
  bindings : List (Nat × Value × Bool) := []
deriving DecidableEq

def Held.bind (h : Held) (slot : Nat) (v : Value) (accepted : Bool) : Held :=
  { h with bindings := h.bindings ++ [(slot, v, accepted)] }

def heldAfter (s : StatementId) (h : Option Held) : Entry → Option Held
  | .call (.prepare id text) accepted =>
    if id = s then (if accepted then some { text } else none) else h
  | .call (.bind id slot v) accepted =>
    if id = s then h.map fun h => h.bind slot v accepted else h
  | .call (.finalize id) _ => if id = s then none else h
  | _ => h

def heldFrom (s : StatementId) (h : Option Held) (journal : List Entry) : Option Held :=
  journal.foldl (heldAfter s) h

def held (journal : List Entry) (s : StatementId) : Option Held := heldFrom s none journal

/-- The statement was compiled from the text of the SQL, and since then its slots were bound once
each, in increasing order, to the values. -/
def Loaded (journal : List Entry) (s : StatementId) (sql : Sql) : Prop :=
  held journal s = some ⟨sql.text, sql.params.slots.map fun (slot, v) => (slot, v, true)⟩

theorem held_append (before gained : List Entry) (s : StatementId) :
    held (before ++ gained) s = heldFrom s (held before s) gained := List.foldl_append ..

theorem heldAfter_of_ne {s : StatementId} {e : Entry} (h : e.statement? ≠ some s)
    (x : Option Held) : heldAfter s x e = x := by
  unfold heldAfter
  split
  case h_1 id _ _ => exact if_neg fun hid => h (by rw [hid]; rfl)
  case h_2 id _ _ _ => exact if_neg fun hid => h (by rw [hid]; rfl)
  case h_3 id _ => exact if_neg fun hid => h (by rw [hid]; rfl)
  case h_4 => rfl

theorem heldFrom_of_ne {s : StatementId} {gained : List Entry}
    (h : ∀ e ∈ gained, e.statement? ≠ some s) (x : Option Held) : heldFrom s x gained = x := by
  induction gained generalizing x with
  | nil => rfl
  | cons e rest ih =>
    obtain ⟨he, hrest⟩ := List.forall_mem_cons.1 h
    change heldFrom s (heldAfter s x e) rest = x
    rw [heldAfter_of_ne he, ih hrest]

abbrev RequestRule := List Entry → Call → Prop

def loadedRule : RequestRule := fun journal call =>
  ∀ s, call.runs? = some s → ∃ sql, Loaded journal s sql

def builtRule (built : Except Error Sql) : RequestRule := fun journal call =>
  ∃ sql, built = .ok sql ∧ ∀ s, call.runs? = some s → Loaded journal s sql

def RequestRule.Lenient (rule : RequestRule) : Prop :=
  ∀ journal call, call.runs? = none → rule journal call

theorem lenient_loadedRule : RequestRule.Lenient loadedRule := by
  intro journal call h s hs
  rw [h] at hs
  cases hs

theorem lenient_builtRule {built : Except Error Sql} {sql : Sql} (hb : built = .ok sql) :
    (builtRule built).Lenient := by
  intro journal call h
  refine ⟨sql, hb, fun s hs => ?_⟩
  rw [h] at hs
  cases hs

theorem loadedRule_of_builtRule {built : Except Error Sql} {journal : List Entry} {call : Call}
    (h : builtRule built journal call) : loadedRule journal call := by
  obtain ⟨sql, _, h⟩ := h
  exact fun s hs => ⟨sql, h s hs⟩

variable {σ α β : Type}

/-- The way from a world to a later one, on which an activity owns at most one of the statements
that there were. All entries that it adds are about that statement or about new ones, and its
requests obey a rule. -/
structure World.Leads (own : Option StatementId) (rule : RequestRule) (w w' : World σ) : Prop where
  fresh : w.fresh ≤ w'.fresh
  gained : ∃ gained, w'.journal = w.journal ++ gained ∧
    (∀ e ∈ gained, ∀ s, e.statement? = some s → own = some s ∨ w.fresh ≤ s) ∧
    ∀ before e after call, gained = before ++ e :: after → e.request? = some call →
      rule (w.journal ++ before) call

namespace World.Leads

variable {own own' : Option StatementId} {rule : RequestRule} {w w' w'' : World σ}

theorem refl (own : Option StatementId) (rule : RequestRule) (w : World σ) :
    Leads own rule w w where
  fresh := Nat.le_refl _
  gained := ⟨[], (List.append_nil _).symm, by simp, by simp⟩

theorem trans (h : Leads own rule w w') (h' : Leads own' rule w' w'')
    (hown : ∀ s, own' = some s → own = some s ∨ w.fresh ≤ s) : Leads own rule w w'' := by
  obtain ⟨hf, g, hg, hs, hr⟩ := h
  obtain ⟨hf', g', hg', hs', hr'⟩ := h'
  refine ⟨Nat.le_trans hf hf', g ++ g', by rw [hg', hg, List.append_assoc], ?_, ?_⟩
  · intro e he s hes
    rcases List.mem_append.1 he with he | he
    · exact hs e he s hes
    · rcases hs' e he s hes with h | h
      · exact hown s h
      · exact .inr (Nat.le_trans hf h)
  · intro before e after call heq hes
    rcases List.append_eq_append_iff.1 heq with ⟨more, rfl, hg'⟩ | ⟨more, rfl, hmore⟩
    · have h := hr' more e after call hg' hes
      rwa [hg, List.append_assoc] at h
    · cases more with
      | nil =>
        have h := hr' [] e after call hmore.symm hes
        rwa [hg, List.append_nil, List.append_nil] at h
      | cons e' more =>
        obtain ⟨rfl, rfl⟩ := List.cons.inj hmore
        exact hr before e more call rfl hes

theorem andThen (h : Leads own rule w w') (h' : Leads none rule w' w'') : Leads own rule w w'' :=
  h.trans h' fun _ hs => nomatch hs

theorem held_eq (h : Leads own rule w w') {s : StatementId} (hs : s < w.fresh)
    (hown : own ≠ some s) : held w'.journal s = held w.journal s := by
  obtain ⟨_, g, hg, hc, _⟩ := h
  rw [hg, held_append]
  apply heldFrom_of_ne
  intro e he hes
  rcases hc e he s hes with h | h
  · exact hown h
  · exact absurd h (Nat.not_le_of_lt hs)

theorem weaken {rule' : RequestRule} (h : Leads own rule w w')
    (hrule : ∀ journal call, rule journal call → rule' journal call) : Leads own rule' w w' := by
  obtain ⟨hf, g, hg, hs, hr⟩ := h
  exact ⟨hf, g, hg, hs, fun before e after call heq hes =>
    hrule _ _ (hr before e after call heq hes)⟩

theorem owning (h : Leads none rule w w') (own : Option StatementId) : Leads own rule w w' :=
  (refl own rule w).andThen h

theorem entry {e : Entry} (he : ∀ s, e.statement? = some s → own = some s ∨ w.fresh ≤ s)
    (hr : ∀ call, e.request? = some call → rule w.journal call) (hf : w.fresh ≤ w'.fresh)
    (hj : w'.journal = w.journal ++ [e]) : Leads own rule w w' := by
  refine ⟨hf, [e], hj, by simpa using he, ?_⟩
  intro before e' after call heq hes
  cases before with
  | nil =>
    obtain ⟨rfl, -⟩ := List.cons.inj heq
    rw [List.append_nil]
    exact hr call hes
  | cons _ _ => simp at heq

end World.Leads

end RecordSql
