import RecordSql.Proofs.Connection.Levels

/-! Conversations with an engine: the calls that it receives, and what it answers to each. The
journal of a world keeps of an answer only whether the call was accepted. -/

namespace RecordSql

variable {σ α β : Type}

inductive Answer where
  | accepted
  | changed (rows : Nat)
  | row (row? : Option Row)
  | refused (e : Error)

namespace Answer

def accepts : Answer → Bool
  | .refused _ => false
  | _ => true

def ofExcept (f : α → Answer) : Except Error α → Answer
  | .ok a => f a
  | .error e => .refused e

theorem accepts_ofExcept {f : α → Answer} (hf : ∀ a, (f a).accepts) (x : Except Error α) :
    (ofExcept f x).accepts = succeeded x := by
  cases x with
  | ok a => exact hf a
  | error e => rfl

end Answer

abbrev Exchange := Call × Answer

def Exchange.noted (x : Exchange) : Call × Bool := (x.1, x.2.accepts)

@[simp] theorem Exchange.noted_ofExcept (c : Call) (x : Except Error Unit) :
    Exchange.noted (c, .ofExcept (fun _ => .accepted) x) = (c, succeeded x) := by
  cases x <;> rfl

@[simp] theorem Exchange.noted_refused (c : Call) (e : Error) :
    Exchange.noted (c, .refused e) = (c, false) := rfl

namespace Engine

variable (E : Engine σ)

def respond : Call → σ → Answer × σ
  | .batch sql, s => Prod.map (.ofExcept fun _ => .accepted) id (E.batch sql s)
  | .prepare i sql, s => Prod.map (.ofExcept fun _ => .accepted) id (E.prepare i sql s)
  | .bind i slot v, s => Prod.map (.ofExcept fun _ => .accepted) id (E.bind i slot v s)
  | .execute i, s => Prod.map (.ofExcept .changed) id (E.execute i s)
  | .query i, s => Prod.map (.ofExcept fun _ => .accepted) id (E.query i s)
  | .step i, s => Prod.map (.ofExcept .row) id (E.step i s)
  | .finalize i, s => (.accepted, E.finalize i s)

inductive Says : σ → List Exchange → σ → Prop
  | nil (s : σ) : Says s [] s
  | cons {s s' s'' : σ} {c : Call} {a : Answer} {talk : List Exchange} :
    E.respond c s = (a, s') → Says s' talk s'' → Says s ((c, a) :: talk) s''

variable {E}

theorem Says.append {s s' s'' : σ} {talk talk' : List Exchange} (h : E.Says s talk s')
    (h' : E.Says s' talk' s'') : E.Says s (talk ++ talk') s'' := by
  induction h with
  | nil => exact h'
  | cons hr _ ih => exact .cons hr (ih h')

end Engine

structure World.Talks (E : Engine σ) (w : World σ) (talk : List Exchange) (w' : World σ) :
    Prop where
  spoken : E.Says w.engine talk w'.engine
  asked : w.Asks (talk.map Exchange.noted) w'

namespace World.Talks

variable {E : Engine σ} {w w' w'' : World σ} {talk talk' : List Exchange}

theorem refl (w : World σ) : w.Talks E [] w := ⟨.nil _, .refl w⟩

theorem trans (h : w.Talks E talk w') (h' : w'.Talks E talk' w'') :
    w.Talks E (talk ++ talk') w'' where
  spoken := h.spoken.append h'.spoken
  asked := by
    rw [List.map_append]
    exact h.asked.trans h'.asked

theorem emit (e : Event) (w : World σ) : w.Talks E [] (Act.emit e w).2 :=
  ⟨.nil _, [.event e], rfl, rfl⟩

theorem freshId (w : World σ) : w.Talks E [] (Run.freshId w).2 := ⟨.nil _, .refl w⟩

theorem finalize (s : StatementId) (w : World σ) :
    w.Talks E [(.finalize s, .accepted)] (E.finalizeStatement s w).2 :=
  ⟨.cons rfl (.nil _), [.call (.finalize s) true], rfl, rfl⟩

theorem call {c : Call} {answer : σ → Except Error α × σ} {f : α → Answer}
    (hr : ∀ s, E.respond c s = Prod.map (.ofExcept f) id (answer s))
    (hf : ∀ a, (f a).accepts) (w : World σ) :
    w.Talks E [(c, .ofExcept f (answer w.engine).1)] (Run.call c answer w).2 where
  spoken := .cons (hr w.engine) (.nil _)
  asked := by
    refine ⟨[.call c (succeeded (answer w.engine).1)], rfl, ?_⟩
    simp [calls, Exchange.noted, Answer.accepts_ofExcept hf]

end World.Talks

namespace Run

structure Converses (E : Engine σ) (r : Run σ α) (w : World σ) (result : Except Error α)
    (talk : List Exchange) : Prop where
  result_eq : (r w).1 = result
  talks : w.Talks E talk (r w).2

namespace Converses

variable {E : Engine σ} {r : Run σ α} {f : α → Run σ β} {w : World σ} {result : Except Error β}
  {talk talk' : List Exchange}

theorem pure (x : α) (w : World σ) : Converses E (Pure.pure x) w (.ok x) [] := ⟨rfl, .refl w⟩

theorem throw (e : Error) (w : World σ) :
    Converses E (MonadExcept.throw e : Run σ α) w (.error e) [] := ⟨rfl, .refl w⟩

theorem bind_ok {x : α} (h : r.Converses E w (.ok x) talk)
    (hf : (f x).Converses E (r w).2 result talk') :
    (r >>= f).Converses E w result (talk ++ talk') := by
  have hw : r w = (.ok x, (r w).2) := Prod.ext h.result_eq rfl
  have happly : (r >>= f) w = f x (r w).2 := by rw [bind_apply, hw]
  refine ⟨?_, ?_⟩
  · rw [happly, hf.result_eq]
  · rw [happly]
    exact h.talks.trans hf.talks

theorem bind_silent {x : α} (h : r.Converses E w (.ok x) talk)
    (hf : (f x).Converses E (r w).2 result []) : (r >>= f).Converses E w result talk := by
  have hbind := h.bind_ok hf
  rwa [List.append_nil] at hbind

theorem silent_bind {x : α} (h : r.Converses E w (.ok x) [])
    (hf : (f x).Converses E (r w).2 result talk) : (r >>= f).Converses E w result talk :=
  h.bind_ok hf

theorem bind_error {e : Error} (h : r.Converses E w (.error e) talk) :
    (r >>= f).Converses E w (.error e) talk := by
  have hw : r w = (.error e, (r w).2) := Prod.ext h.result_eq rfl
  have happly : (r >>= f) w = (.error e, (r w).2) := by rw [bind_apply, hw]
  exact ⟨by rw [happly], by rw [happly]; exact h.talks⟩

theorem outcome {answer : Except Error α} (h : r.Converses E w answer talk) :
    (outcome r).Converses E w (.ok answer) talk :=
  ⟨congrArg Except.ok h.result_eq, h.talks⟩

theorem lift {a : Act σ α} (h : w.Talks E talk (a w).2) :
    (liftM a : Run σ α).Converses E w (.ok (a w).1) talk :=
  ⟨rfl, h⟩

theorem call {c : Call} {answer : σ → Except Error α × σ} {g : α → Answer}
    (hr : ∀ s, E.respond c s = Prod.map (.ofExcept g) id (answer s))
    (hg : ∀ a, (g a).accepts) {x : Except Error α} (hx : (answer w.engine).1 = x) :
    (Run.call c answer).Converses E w x [(c, .ofExcept g x)] :=
  ⟨hx, hx ▸ .call hr hg w⟩

end Converses

end Run

end RecordSql
