import Mathlib.Algebra.BigOperators.Group.List.Basic
import Mathlib.Algebra.Ring.Int.Defs
import Mathlib.Data.List.Range
import RecordSql.Proofs.Engine.Conversation

/-! The account of statements in a conversation: those that were compiled against those that were
finalized. An activity that owns a statement before or after it is as far out of balance as what it
owns, and its faults are its own or what the engine answered. -/

namespace RecordSql

variable {σ α β : Type}

/-- The statements that were compiled less those that were finalized, by a weight for each. -/
def ledger (φ : StatementId → ℤ) (asked : List (Call × Bool)) : ℤ :=
  (asked.map fun
    | (.prepare s _, true) => φ s
    | (.finalize s, _) => -φ s
    | _ => 0).sum

@[simp] theorem ledger_append (φ : StatementId → ℤ) (asked asked' : List (Call × Bool)) :
    ledger φ (asked ++ asked') = ledger φ asked + ledger φ asked' := by
  simp [ledger]

def attempts (asked : List (Call × Bool)) : List StatementId :=
  asked.filterMap fun
    | (.prepare s _, _) => some s
    | _ => none

@[simp] theorem attempts_append (asked asked' : List (Call × Bool)) :
    attempts (asked ++ asked') = attempts asked ++ attempts asked' := List.filterMap_append ..

def compiled (asked : List (Call × Bool)) : List StatementId :=
  asked.filterMap fun
    | (.prepare s _, true) => some s
    | _ => none

def finalized (asked : List (Call × Bool)) : List StatementId :=
  asked.filterMap fun
    | (.finalize s, _) => some s
    | _ => none

@[simp] theorem compiled_append (asked asked' : List (Call × Bool)) :
    compiled (asked ++ asked') = compiled asked ++ compiled asked' := List.filterMap_append ..

@[simp] theorem finalized_append (asked asked' : List (Call × Bool)) :
    finalized (asked ++ asked') = finalized asked ++ finalized asked' := List.filterMap_append ..

theorem compiled_sublist (asked : List (Call × Bool)) :
    (compiled asked).Sublist (attempts asked) := by
  induction asked with
  | nil => exact .slnil
  | cons x rest ih =>
    obtain ⟨c, accepted⟩ := x
    cases c with
    | prepare s sql =>
      cases accepted with
      | true => exact ih.cons_cons s
      | false => exact ih.cons s
    | _ => exact ih

theorem ledger_eq (φ : StatementId → ℤ) (asked : List (Call × Bool)) :
    ledger φ asked = ((compiled asked).map φ).sum - ((finalized asked).map φ).sum := by
  induction asked with
  | nil => rfl
  | cons x rest ih =>
    have hx : ledger φ [x] = ((compiled [x]).map φ).sum - ((finalized [x]).map φ).sum := by
      obtain ⟨c, accepted⟩ := x
      cases c with
      | prepare s sql => cases accepted <;> simp [ledger, compiled, finalized]
      | finalize s => simp [ledger, compiled, finalized]
      | _ => rfl
    rw [← List.singleton_append, ledger_append, hx, ih, compiled_append, finalized_append,
      List.map_append, List.map_append, List.sum_append, List.sum_append]
    omega

theorem sum_map_indicator (xs : List StatementId) (i : StatementId) :
    (xs.map fun j => if j = i then (1 : ℤ) else 0).sum = xs.count i := by
  induction xs with
  | nil => rfl
  | cons j rest ih =>
    rw [List.map_cons, List.sum_cons, ih, List.count_cons]
    by_cases h : j = i <;> simp [h, add_comm]

/-- If the ledger is what is kept by every weight, the statements that were compiled are those that
were finalized and those that are kept. -/
theorem compiled_perm {asked : List (Call × Bool)} {kept : List StatementId}
    (h : ∀ φ, ledger φ asked = (kept.map φ).sum) :
    (compiled asked).Perm (finalized asked ++ kept) := by
  refine List.perm_iff_count.2 fun i => ?_
  have hi := h fun j => if j = i then 1 else 0
  rw [ledger_eq, sum_map_indicator, sum_map_indicator, sum_map_indicator] at hi
  rw [List.count_append]
  omega

def worth (φ : StatementId → ℤ) (own : Option StatementId) : ℤ := own.elim 0 φ

@[simp] theorem worth_none (φ : StatementId → ℤ) : worth φ none = 0 := rfl

@[simp] theorem worth_some (φ : StatementId → ℤ) (s : StatementId) : worth φ (some s) = φ s := rfl

def Call.isNeutral : Call → Bool
  | .prepare .. | .finalize _ => false
  | _ => true

theorem ledger_of_neutral {asked : List (Call × Bool)} (h : ∀ x ∈ asked, x.1.isNeutral)
    (φ : StatementId → ℤ) : ledger φ asked = 0 := by
  induction asked with
  | nil => rfl
  | cons x rest ih =>
    obtain ⟨hx, hrest⟩ := List.forall_mem_cons.1 h
    obtain ⟨c, accepted⟩ := x
    rw [← List.singleton_append, ledger_append, ih hrest]
    cases c <;> first | rfl | cases hx

theorem attempts_of_neutral {asked : List (Call × Bool)} (h : ∀ x ∈ asked, x.1.isNeutral) :
    attempts asked = [] := by
  refine List.filterMap_eq_nil_iff.2 fun x hx => ?_
  have hn := h x hx
  obtain ⟨c, accepted⟩ := x
  cases c <;> first | rfl | cases hn

structure World.Passes (E : Engine σ) (own own' : Option StatementId) (w : World σ)
    (talk : List Exchange) (w' : World σ) : Prop where
  talks : w.Talks E talk w'
  ledger : ∀ φ, worth φ own + ledger φ (talk.map Exchange.noted) = worth φ own'
  attempts : ∃ n, attempts (talk.map Exchange.noted) = List.range' w.fresh n ∧
    w'.fresh = w.fresh + n

namespace World.Passes

variable {E : Engine σ} {own own' own'' : Option StatementId} {w w' w'' : World σ}
  {talk talk' : List Exchange}

theorem refl (own : Option StatementId) (w : World σ) : w.Passes E own own [] w :=
  ⟨.refl w, fun _ => add_zero _, 0, rfl, rfl⟩

theorem trans (h : w.Passes E own own' talk w') (h' : w'.Passes E own' own'' talk' w'') :
    w.Passes E own own'' (talk ++ talk') w'' := by
  obtain ⟨ht, hl, n, hn, hf⟩ := h
  obtain ⟨ht', hl', n', hn', hf'⟩ := h'
  refine ⟨ht.trans ht', fun φ => ?_, n + n', ?_, by rw [hf', hf, Nat.add_assoc]⟩
  · rw [List.map_append, ledger_append, ← add_assoc, hl, hl']
  · rw [List.map_append, attempts_append, hn, hn', hf, List.range'_append_1]

theorem owning (h : w.Passes E none none talk w') (own : Option StatementId) :
    w.Passes E own own talk w' where
  talks := h.talks
  ledger φ := by
    have hl := h.ledger φ
    rw [worth_none, zero_add] at hl
    rw [hl, add_zero]
  attempts := h.attempts

theorem of_neutral (h : w.Talks E talk w') (hf : w'.fresh = w.fresh)
    (hn : ∀ x ∈ talk, x.1.isNeutral) (own : Option StatementId) : w.Passes E own own talk w' := by
  have hnoted : ∀ x ∈ talk.map Exchange.noted, x.1.isNeutral := List.forall_mem_map.2 hn
  refine ⟨h, fun φ => ?_, 0, attempts_of_neutral hnoted, hf⟩
  rw [ledger_of_neutral hnoted, add_zero]

theorem finalize (s : StatementId) (w : World σ) :
    w.Passes E (some s) none [(.finalize s, .accepted)] (E.finalizeStatement s w).2 :=
  ⟨.finalize s w, fun φ => by simp [RecordSql.ledger, Exchange.noted], 0, rfl, rfl⟩

theorem silent (h : w.Talks E [] w') (hf : w'.fresh = w.fresh) : w.Passes E own own [] w' :=
  of_neutral h hf (by simp) own

end World.Passes

/-- The statements of a world that was used by activities so far: by every weight this much is
compiled and not finalized, and the attempts to compile are numbered in order. -/
structure World.Accounted (w : World σ) (kept : (StatementId → ℤ) → ℤ) : Prop where
  ledger : ∀ φ, ledger φ (calls w.journal) = kept φ
  attempts : attempts (calls w.journal) = List.range w.fresh

theorem World.Accounted.of_none {w : World σ} {kept : (StatementId → ℤ) → ℤ}
    (h : w.Accounted fun φ => worth φ none + kept φ) : w.Accounted kept where
  ledger φ := (h.ledger φ).trans (zero_add _)
  attempts := h.attempts

theorem World.Passes.accounted {E : Engine σ} {own own' : Option StatementId} {w w' : World σ}
    {talk : List Exchange} (hp : w.Passes E own own' talk w') {kept kept' : (StatementId → ℤ) → ℤ}
    (h : w.Accounted kept) (hkept : ∀ φ, kept φ + worth φ own' = kept' φ + worth φ own) :
    w'.Accounted kept' := by
  obtain ⟨gained, hj, hg⟩ := hp.talks.asked
  have hcalls : calls w'.journal = calls w.journal ++ talk.map Exchange.noted := by
    rw [hj, calls_append, hg]
  refine ⟨fun φ => ?_, ?_⟩
  · have hl := hp.ledger φ
    have hk := hkept φ
    rw [hcalls, ledger_append, h.ledger]
    omega
  · obtain ⟨n, hn, hf⟩ := hp.attempts
    rw [hcalls, attempts_append, h.attempts, hn, hf, List.range_eq_range', List.range_eq_range',
      ← List.range'_append_1, Nat.zero_add]

def Faults (Q : Error → Prop) (talk : List Exchange) (x : Except Error α) : Prop :=
  ∀ e, x = .error e → Q e ∨ ∃ c, (c, .refused e) ∈ talk

namespace Faults

variable {Q Q' : Error → Prop} {talk talk' : List Exchange} {x : Except Error α}

theorem ok (a : α) : Faults Q talk (.ok a : Except Error α) := nofun

theorem own {e : Error} (h : Q e) : Faults Q talk (.error e : Except Error α) :=
  fun _ he => .inl (Except.error.inj he ▸ h)

theorem refused {e : Error} {c : Call} (h : (c, .refused e) ∈ talk) :
    Faults Q talk (.error e : Except Error α) :=
  fun _ he => .inr ⟨c, Except.error.inj he ▸ h⟩

theorem mono (h : Faults Q talk x) (hQ : ∀ e, Q e → Q' e) (ht : talk ⊆ talk') :
    Faults Q' talk' x := fun e he =>
  (h e he).imp (hQ e) fun ⟨c, hc⟩ => ⟨c, ht hc⟩

theorem weaken (h : Faults Q talk x) (hQ : ∀ e, Q e → Q' e) : Faults Q' talk x :=
  h.mono hQ (List.Subset.refl _)

theorem before (h : Faults Q talk x) (talk' : List Exchange) : Faults Q (talk ++ talk') x :=
  h.mono (fun _ => id) (List.subset_append_left _ _)

theorem after (h : Faults Q talk' x) (talk : List Exchange) : Faults Q (talk ++ talk') x :=
  h.mono (fun _ => id) (List.subset_append_right _ _)

theorem error {e : Error} (h : Faults Q talk (.error e : Except Error α)) :
    Faults Q talk (.error e : Except Error β) := fun e' he =>
  h e' (congrArg Except.error (Except.error.inj he))

theorem map (h : Faults Q talk x) (f : α → β) : Faults Q talk (x.map f) := by
  cases x with
  | ok a => exact .ok _
  | error e => exact h.error

end Faults

namespace Run

def Tidy (E : Engine σ) (Q : Error → Prop) (r : Run σ α) : Prop :=
  ∀ w, ∃ talk, w.Passes E none none talk (r w).2 ∧ Faults Q talk (r w).1

namespace Tidy

variable {E : Engine σ} {Q : Error → Prop} {r : Run σ α}

theorem bind {f : α → Run σ β} (h : r.Tidy E Q) (hf : ∀ x, (f x).Tidy E Q) :
    (r >>= f).Tidy E Q := by
  intro w
  obtain ⟨talk, hp, hb⟩ := h w
  rw [bind_apply]
  rcases hr : r w with ⟨e | x, w'⟩ <;> rw [hr] at hp hb
  · exact ⟨talk, hp, hb.error⟩
  · obtain ⟨talk', hp', hb'⟩ := hf x w'
    exact ⟨talk ++ talk', hp.trans hp', hb'.after talk⟩

theorem weaken {Q' : Error → Prop} (h : r.Tidy E Q) (hQ : ∀ e, Q e → Q' e) : r.Tidy E Q' := by
  intro w
  obtain ⟨talk, hp, hf⟩ := h w
  exact ⟨talk, hp, hf.weaken hQ⟩

theorem pure (x : α) : Tidy E Q (Pure.pure x : Run σ α) := fun w => ⟨[], .refl _ w, .ok x⟩

theorem throw {e : Error} (h : Q e) : Tidy E Q (MonadExcept.throw e : Run σ α) := fun w =>
  ⟨[], .refl _ w, .own h⟩

theorem ofExcept {x : Except Error α} (h : ∀ e, x = .error e → Q e) :
    Tidy E Q (Run.ofExcept x : Run σ α) := fun w => ⟨[], .refl _ w, fun e he => .inl (h e he)⟩

theorem observe (f : σ → α) : Tidy E Q (liftM (Act.observe f : Act σ α) : Run σ α) := fun w =>
  ⟨[], .refl _ w, .ok _⟩

theorem emit (e : Event) : Tidy E Q (liftM (Act.emit e : Act σ Unit) : Run σ Unit) := fun w =>
  ⟨[], .silent (.emit e w) rfl, .ok _⟩

theorem outcome_bind {f : Except Error α → Run σ β} (h : r.Tidy E Q)
    (hok : ∀ a, (f (.ok a)).Tidy E Q)
    (herror : ∀ e, (f (.error e)).Tidy E fun e' => e' = e ∨ Q e') : (outcome r >>= f).Tidy E Q := by
  intro w
  obtain ⟨talk, hp, hb⟩ := h w
  rw [outcome_bind_apply]
  rcases hr : r w with ⟨e | a, w'⟩ <;> rw [hr] at hp hb
  · obtain ⟨talk', hp', hb'⟩ := herror e w'
    refine ⟨talk ++ talk', hp.trans hp', fun e' he' => ?_⟩
    rcases hb' e' he' with (rfl | hQ) | ⟨call, hcall⟩
    · exact hb.before talk' e' rfl
    · exact .inl hQ
    · exact .inr ⟨call, List.mem_append_right _ hcall⟩
  · obtain ⟨talk', hp', hb'⟩ := hok a w'
    exact ⟨talk ++ talk', hp.trans hp', hb'.after talk⟩

theorem logged (h : r.Tidy E Q) (activity : Activity) :
    (Connection.logged activity r).Tidy E Q :=
  h.outcome_bind pure fun _ => (emit _).bind fun _ => throw (.inl rfl)

theorem forM {f : β → Run σ Unit} (h : ∀ x, (f x).Tidy E Q) (xs : List β) :
    Tidy E Q (xs.forM f) := by
  induction xs with
  | nil => exact pure ()
  | cons x xs ih => exact (h x).bind fun _ => ih

end Tidy

end Run

end RecordSql
