import RecordSql.Proofs.Connection.Tidiness

/-! Changes of different clauses. A call on a builder without a statement makes edits of one clause,
or it records an error, and what it does to one clause does not depend on what was done to the
others. So where at most one clause can record errors, only the order of the calls on each clause
matters. -/

namespace RecordSql

section Folds

variable {α β ι : Type} {step : β → α → β} {kind : α → ι} {P : β → Prop}

theorem foldl_comm (hP : ∀ b x, P b → P (step b x))
    (hcomm : ∀ b x y, P b → kind x ≠ kind y → step (step b x) y = step (step b y) x)
    {xs : List α} {y : α} (h : ∀ x ∈ xs, kind x ≠ kind y) {b : β} (hb : P b) :
    step (xs.foldl step b) y = xs.foldl step (step b y) := by
  induction xs generalizing b with
  | nil => rfl
  | cons x xs ih =>
    obtain ⟨hx, hxs⟩ := List.forall_mem_cons.1 h
    rw [List.foldl_cons, List.foldl_cons, ih hxs (hP b x hb), hcomm b x y hb hx]

/-- Steps of different kinds commute, so runs that agree on the steps of each kind end alike. -/
theorem foldl_eq_of_filter [DecidableEq ι] (hP : ∀ b x, P b → P (step b x))
    (hcomm : ∀ b x y, P b → kind x ≠ kind y → step (step b x) y = step (step b y) x)
    {xs ys : List α} (h : ∀ k, xs.filter (kind · = k) = ys.filter (kind · = k)) {b : β}
    (hb : P b) : xs.foldl step b = ys.foldl step b := by
  induction xs generalizing ys b with
  | nil =>
    have hnone : ys = [] := List.eq_nil_iff_forall_not_mem.2 fun y hy => by
      have hmem : y ∈ ys.filter (kind · = kind y) := List.mem_filter.2 ⟨hy, by simp⟩
      rw [← h] at hmem
      cases hmem
    rw [hnone]
  | cons x xs ih =>
    -- the first step of its kind in the other run comes behind steps of other kinds only
    have hfirst : ys.filter (kind · = kind x) = x :: xs.filter (kind · = kind x) := by
      rw [← h]
      simp
    obtain ⟨before, after, rfl, hbefore, -, hafter⟩ := List.filter_eq_cons_iff.1 hfirst
    have hothers : ∀ y ∈ before, kind y ≠ kind x := by simpa using hbefore
    have hrest : ∀ k, xs.filter (kind · = k) = (before ++ after).filter (kind · = k) := by
      intro k
      by_cases hk : kind x = k
      · subst hk
        rw [List.filter_append, List.filter_eq_nil_iff.2 hbefore, List.nil_append, hafter]
      · have hsame := h k
        simpa [hk] using hsame
    rw [List.foldl_cons, ih hrest (hP b x hb), List.foldl_append, List.foldl_append,
      List.foldl_cons, foldl_comm hP hcomm hothers hb]

end Folds

variable {κ : Type} [Statement κ]

def Statement.Independent (κ : Type) [Statement κ] : Prop :=
  ∀ (e e' : Edit κ) (q : κ), clause e ≠ clause e' → apply e (apply e' q) = apply e' (apply e q)

theorem Select.independent : Statement.Independent Select := by
  intro e e' q h
  cases e <;> cases e' <;> first | rfl | exact absurd rfl h

theorem Insert.independent : Statement.Independent Insert := by
  intro e e' q h
  cases e <;> cases e' <;> first | rfl | exact absurd rfl h

theorem Update.independent : Statement.Independent Update := by
  intro e e' q h
  cases e <;> cases e' <;> first | rfl | exact absurd rfl h

theorem Delete.independent : Statement.Independent Delete := fun _ _ _ h => absurd rfl h

namespace Builder

variable {b : Builder κ}

theorem edit_of_unprepared (hb : b.slot.stage = .unprepared) (e : Statement.Edit κ) :
    b.edit e = ⟨Statement.apply e b.content, b.slot⟩ := by
  have hslot := slot_edit hb e
  cases hedit : b.edit e
  rw [hedit] at hslot
  cases hedit
  exact congrArg _ hslot

theorem edit_edit_of_unprepared (hb : b.slot.stage = .unprepared) (e e' : Statement.Edit κ) :
    (b.edit e).edit e' = ⟨Statement.apply e' (Statement.apply e b.content), b.slot⟩ := by
  rw [edit_of_unprepared ((stage_edit b e).trans hb), slot_edit hb]
  rfl

theorem edit_edit_eq (hb : b.slot.stage = .unprepared) {e e' e'' : Statement.Edit κ}
    (h : Statement.apply e' (Statement.apply e b.content) = Statement.apply e'' b.content) :
    (b.edit e).edit e' = b.edit e'' := by
  rw [edit_edit_of_unprepared hb, edit_of_unprepared hb, h]

theorem stage_edits (b : Builder κ) (es : List (Statement.Edit κ)) :
    (b.edits es).slot.stage = b.slot.stage := by
  induction es generalizing b with
  | nil => rfl
  | cons e rest ih => exact (ih (b.edit e)).trans (stage_edit b e)

theorem edit_comm (hκ : Statement.Independent κ) (hb : b.slot.stage = .unprepared)
    {e e' : Statement.Edit κ} (h : Statement.clause e ≠ Statement.clause e') :
    (b.edit e).edit e' = (b.edit e').edit e := by
  rw [edit_edit_of_unprepared hb, edit_edit_of_unprepared hb, hκ e e' b.content h]

theorem edit_fail_comm (hb : b.slot.stage = .unprepared) (e : Statement.Edit κ) (err : Error) :
    (b.edit e).fail err = (b.fail err).edit e := by
  have hfail : (b.fail err).slot.stage = .unprepared := hb
  rw [edit_of_unprepared hb, edit_of_unprepared hfail]
  rfl

theorem edits_edit_comm (hκ : Statement.Independent κ) (hb : b.slot.stage = .unprepared)
    {es : List (Statement.Edit κ)} {e : Statement.Edit κ}
    (h : ∀ e' ∈ es, Statement.clause e' ≠ Statement.clause e) :
    (b.edits es).edit e = (b.edit e).edits es := by
  induction es generalizing b with
  | nil => rfl
  | cons e' rest ih =>
    obtain ⟨he', hrest⟩ := List.forall_mem_cons.1 h
    have hedited : (b.edit e').slot.stage = .unprepared := (stage_edit b e').trans hb
    change ((b.edit e').edits rest).edit e = ((b.edit e).edit e').edits rest
    rw [ih hedited hrest, edit_comm hκ hb he']

theorem edits_comm (hκ : Statement.Independent κ) (hb : b.slot.stage = .unprepared)
    {es es' : List (Statement.Edit κ)}
    (h : ∀ e ∈ es, ∀ e' ∈ es', Statement.clause e ≠ Statement.clause e') :
    (b.edits es).edits es' = (b.edits es').edits es := by
  induction es' generalizing b with
  | nil => rfl
  | cons e' rest ih =>
    have he' : ∀ e ∈ es, Statement.clause e ≠ Statement.clause e' :=
      fun e he => h e he e' List.mem_cons_self
    have hrest : ∀ e ∈ es, ∀ e' ∈ rest, Statement.clause e ≠ Statement.clause e' :=
      fun e he e' hmem => h e he e' (List.mem_cons_of_mem _ hmem)
    have hedited : (b.edit e').slot.stage = .unprepared := (stage_edit b e').trans hb
    change ((b.edits es).edit e').edits rest = ((b.edit e').edits rest).edits es
    rw [edits_edit_comm hκ hb he', ih hedited hrest]

theorem edits_fail_comm (hb : b.slot.stage = .unprepared) (es : List (Statement.Edit κ))
    (err : Error) : (b.edits es).fail err = (b.fail err).edits es := by
  induction es generalizing b with
  | nil => rfl
  | cons e rest ih =>
    change ((b.edit e).edits rest).fail err = ((b.fail err).edit e).edits rest
    rw [ih ((stage_edit b e).trans hb), edit_fail_comm hb]

/-- A call on a clause: it makes edits of the clause, which are the same whatever was edited before,
or it records an error if the clause is the one that can fail. -/
inductive Alters (k failing : Clause) (f : Builder κ → Builder κ) : Prop where
  | edits (es : κ → List (Statement.Edit κ)) :
    (∀ q, ∀ e ∈ es q, Statement.clause e = k) → (∀ e q, es (Statement.apply e q) = es q) →
    (∀ b, f b = b.edits (es b.content)) → Alters k failing f
  | fails (e : Error) : k = failing → (∀ b, f b = b.fail e) → Alters k failing f

namespace Alters

variable {k k' failing : Clause} {f g : Builder κ → Builder κ}

theorem edit {e : Statement.Edit κ} (h : Statement.clause e = k) :
    Alters k failing (·.edit e) :=
  .edits (fun _ => [e]) (fun _ => by simpa using h) (fun _ _ => rfl) fun _ => rfl

theorem nothing : Alters k failing (id : Builder κ → Builder κ) :=
  .edits (fun _ => []) (fun _ => nofun) (fun _ _ => rfl) fun _ => rfl

theorem stage_eq (h : Alters k failing f) (b : Builder κ) :
    (f b).slot.stage = b.slot.stage := by
  cases h with
  | edits es _ _ hf => rw [hf, stage_edits]
  | fails e _ hf =>
    rw [hf]
    rfl

theorem content_edits {α : Type} {es : κ → α} (h : ∀ e q, es (Statement.apply e q) = es q)
    (b : Builder κ) (others : List (Statement.Edit κ)) :
    es (b.edits others).content = es b.content := by
  induction others generalizing b with
  | nil => rfl
  | cons e rest ih => exact (ih (b.edit e)).trans (h e b.content)

theorem comm (hκ : Statement.Independent κ) (hf : Alters k failing f) (hg : Alters k' failing g)
    (hne : k ≠ k') (hb : b.slot.stage = .unprepared) : g (f b) = f (g b) := by
  cases hf with
  | edits es hes hsame hf =>
    cases hg with
    | edits es' hes' hsame' hg =>
      have hclauses : ∀ e ∈ es b.content, ∀ e' ∈ es' b.content,
          Statement.clause e ≠ Statement.clause e' := by
        intro e he e' he'
        rw [hes _ e he, hes' _ e' he']
        exact hne
      rw [hf b, hg, hg b, hf, content_edits hsame, content_edits hsame',
        edits_comm hκ hb hclauses]
    | fails err _ hg =>
      rw [hf b, hg, hg b, hf, edits_fail_comm hb]
      rfl
  | fails err hk hf =>
    cases hg with
    | edits es' _ _ hg =>
      rw [hf b, hg, hg b, hf, edits_fail_comm hb]
      rfl
    | fails _ hk' _ => exact absurd (hk.trans hk'.symm) hne

end Alters

end Builder

end RecordSql
