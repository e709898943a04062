import RecordSql.Connection.Transaction
import RecordSql.Proofs.Engine.Activity

/-! The levels of a transaction as the engine sees them: what each asks of it, how it goes on from
every answer, and which error is returned. The body of a level can be any activity, so what is said
of one level is said of every level of a tree of them. -/

namespace RecordSql

variable {σ α β : Type}

def calls (journal : List Entry) : List (Call × Bool) :=
  journal.filterMap fun
    | .call c accepted => some (c, accepted)
    | .event _ => none

theorem calls_append (before after : List Entry) :
    calls (before ++ after) = calls before ++ calls after := List.filterMap_append ..

namespace World

def Asks (w : World σ) (asked : List (Call × Bool)) (w' : World σ) : Prop :=
  ∃ gained, w'.journal = w.journal ++ gained ∧ calls gained = asked

variable {w w' w'' : World σ} {asked asked' : List (Call × Bool)}

theorem Asks.refl (w : World σ) : w.Asks [] w := ⟨[], (List.append_nil _).symm, rfl⟩

theorem Asks.trans (h : w.Asks asked w') (h' : w'.Asks asked' w'') :
    w.Asks (asked ++ asked') w'' := by
  obtain ⟨gained, hj, hc⟩ := h
  obtain ⟨gained', hj', hc'⟩ := h'
  refine ⟨gained ++ gained', ?_, ?_⟩
  · rw [hj', hj, List.append_assoc]
  · rw [calls_append, hc, hc']

end World

namespace Run

structure Does (r : Run σ α) (w : World σ) (result : Except Error α) (state : σ)
    (asked : List (Call × Bool)) : Prop where
  result_eq : (r w).1 = result
  state_eq : (r w).2.engine = state
  asked : w.Asks asked (r w).2

namespace Does

variable {r : Run σ α} {f : α → Run σ β} {w : World σ} {result : Except Error α}
  {result' : Except Error β} {s s' : σ} {asked asked' : List (Call × Bool)}

theorem bind_ok {x : α} (h : r.Does w (.ok x) s asked)
    (hf : ∀ w', w'.engine = s → (f x).Does w' result' s' asked') :
    (r >>= f).Does w result' s' (asked ++ asked') := by
  obtain ⟨hr, hs, ha⟩ := h
  have hw : r w = (.ok x, (r w).2) := Prod.ext hr rfl
  have happly : (r >>= f) w = f x (r w).2 := by rw [bind_apply, hw]
  have hnext := hf (r w).2 hs
  refine ⟨?_, ?_, ?_⟩
  · rw [happly, hnext.result_eq]
  · rw [happly, hnext.state_eq]
  · rw [happly]
    exact ha.trans hnext.asked

theorem bind_silent {x : α} (h : r.Does w (.ok x) s asked)
    (hf : ∀ w', w'.engine = s → (f x).Does w' result' s' []) :
    (r >>= f).Does w result' s' asked := by
  have hbind := h.bind_ok hf
  rwa [List.append_nil] at hbind

theorem bind_error {e : Error} (h : r.Does w (.error e) s asked) :
    (r >>= f).Does w (.error e) s asked := by
  obtain ⟨hr, hs, ha⟩ := h
  have hw : r w = (.error e, (r w).2) := Prod.ext hr rfl
  have happly : (r >>= f) w = (.error e, (r w).2) := by rw [bind_apply, hw]
  exact ⟨by rw [happly], by rw [happly, hs], by rwa [happly]⟩

theorem outcome (h : r.Does w result s asked) : (outcome r).Does w (.ok result) s asked :=
  ⟨congrArg Except.ok h.result_eq, h.state_eq, h.asked⟩

theorem emit_bind {g : Unit → Run σ β} (e : Event)
    (hg : ∀ w', w'.engine = w.engine → (g ()).Does w' result' s' asked') :
    ((liftM (Act.emit e : Act σ Unit) : Run σ Unit) >>= g).Does w result' s' asked' := by
  have hemit : (liftM (Act.emit e : Act σ Unit) : Run σ Unit).Does w (.ok ()) w.engine [] :=
    ⟨rfl, rfl, [.event e], rfl, rfl⟩
  exact hemit.bind_ok hg

theorem observe_bind {γ : Type} {g : σ → γ} {k : γ → Run σ β}
    (h : (k (g w.engine)).Does w result' s' asked') :
    ((liftM (Act.observe g : Act σ γ) : Run σ γ) >>= k).Does w result' s' asked' :=
  ⟨h.result_eq, h.state_eq, h.asked⟩

theorem logged (h : r.Does w result s asked) (activity : Activity) :
    (Connection.logged activity r).Does w result s asked := by
  refine h.outcome.bind_silent fun w' hs => ?_
  cases result with
  | ok a => exact ⟨rfl, hs, .refl w'⟩
  | error e =>
    refine emit_bind _ fun w'' hs' => ?_
    exact ⟨rfl, hs'.trans hs, .refl w''⟩

end Does

end Run

open Run

namespace Connection

variable (c : Connection σ)

theorem does_batch {sql : String} {w : World σ} {answer : Except Error Unit} {s : σ}
    (h : c.engine.batch sql w.engine = (answer, s)) :
    (c.batch sql).Does w answer s [(.batch sql, succeeded answer)] := by
  have hcall : ∀ w' : World σ, w'.engine = w.engine →
      (Run.call (.batch sql) (c.engine.batch sql)).Does w' answer s
        [(.batch sql, succeeded answer)] := by
    intro w' hw
    refine ⟨?_, ?_, [.call (.batch sql) (succeeded answer)], ?_, rfl⟩ <;>
      simp only [Run.call, hw, h]
  unfold batch announce
  split
  · exact .emit_bind _ hcall
  · exact hcall w rfl

structure Flavour where
  opening : String
  commit : String
  rollback : String
deriving DecidableEq

namespace Flavour

def outermost : Flavour where
  opening := "BEGIN TRANSACTION;"
  commit := "COMMIT TRANSACTION;"
  rollback := "ROLLBACK TRANSACTION;"

def inner : Flavour where
  opening := "SAVEPOINT litorm;"
  commit := "RELEASE SAVEPOINT litorm;"
  rollback := "ROLLBACK TO SAVEPOINT litorm; RELEASE SAVEPOINT litorm;"

def entered (autocommit : Bool) : Flavour := if autocommit then outermost else inner

theorem entered_not (nested : Bool) :
    entered (!nested) = ⟨beginText nested, commitText nested, rollbackText nested⟩ := by
  cases nested <;> rfl

end Flavour

/-- What a level returns that was rolled back for a cause: the cause itself, or, if the rollback
failed too, a failed step with the texts of both. -/
def Blames (cause : Error) (rollback : Except Error Unit) (result : Except Error α) : Prop :=
  match rollback with
  | .ok () => result = .error cause
  | .error e => ∃ detail, result = .error (.step detail) ∧
      cause.message.toList <:+: detail.toList ∧ e.message.toList <:+: detail.toList

def rollbackResult (cause : Error) : Except Error Unit → Except Error α
  | .ok () => .error cause
  | .error e => .error (unrecovered cause e)

theorem blames_rollbackResult (cause : Error) (rollback : Except Error Unit) :
    Blames cause rollback (rollbackResult cause rollback : Except Error α) := by
  cases rollback with
  | ok => rfl
  | error e =>
    refine ⟨_, rfl, ?_, ?_⟩
    · exact ⟨[], " (rollback failed: ".toList ++ e.message.toList ++ ")".toList, by simp⟩
    · exact ⟨cause.message.toList ++ " (rollback failed: ".toList, ")".toList, by simp⟩

theorem Blames.ne_ok {cause : Error} {rollback : Except Error Unit} {result : Except Error α}
    (h : Blames cause rollback result) (v : α) : result ≠ .ok v := by
  rintro rfl
  cases rollback with
  | ok => exact nomatch h
  | error e =>
    obtain ⟨detail, hd, -⟩ := h
    exact nomatch hd

def RolledBack (f : Flavour) (cause : Error) (w : World σ) (asked : List (Call × Bool)) (s : σ)
    (after : Except Error α × World σ) : Prop :=
  ∃ rollback, c.engine.batch f.rollback s = (rollback, after.2.engine) ∧
    w.Asks (asked ++ [(.batch f.rollback, succeeded rollback)]) after.2 ∧
    Blames cause rollback after.1

structure Ends (f : Flavour) (body after : Except Error α × World σ) : Prop where
  committed : ∀ v s, body.1 = .ok v → c.engine.batch f.commit body.2.engine = (.ok (), s) →
    after.2.engine = s ∧ body.2.Asks [(.batch f.commit, true)] after.2
  refused : ∀ v e s, body.1 = .ok v → c.engine.batch f.commit body.2.engine = (.error e, s) →
    c.RolledBack f e body.2 [(.batch f.commit, false)] s after
  failed : ∀ e, body.1 = .error e → c.RolledBack f e body.2 [] body.2.engine after
  ok_iff : ∀ v, after.1 = .ok v ↔
    body.1 = .ok v ∧ (c.engine.batch f.commit body.2.engine).1 = .ok ()

/-- How a level of one flavour goes from a world. A body that is not run is one that the level does
not depend on. -/
structure Controlled (f : Flavour) (body : Run σ α) (w : World σ) : Prop where
  refused : ∀ e s, c.engine.batch f.opening w.engine = (.error e, s) →
    (c.transaction body).Does w (.error e) s [(.batch f.opening, false)] ∧
      ∀ body' : Run σ α, c.transaction body' w = c.transaction body w
  opened : ∀ s, c.engine.batch f.opening w.engine = (.ok (), s) →
    ∃ w₁, w₁.engine = s ∧ w.Asks [(.batch f.opening, true)] w₁ ∧
      c.Ends f (body w₁) (c.transaction body w)

section

variable {c} {nested : Bool} {w : World σ} {s s' : σ}

theorem does_beginLevel (hn : c.engine.autocommit w.engine = !nested)
    (h : c.engine.batch (beginText nested) w.engine = (.ok (), s)) :
    c.beginLevel.Does w (.ok nested) s [(.batch (beginText nested), true)] := by
  refine .observe_bind ?_
  rw [hn, Bool.not_not]
  refine (c.does_batch h).bind_silent fun w₁ hw₁ => .emit_bind _ fun w₂ hw₂ => ?_
  exact ⟨rfl, hw₂.trans hw₁, .refl w₂⟩

theorem does_beginLevel_error {e : Error} (hn : c.engine.autocommit w.engine = !nested)
    (h : c.engine.batch (beginText nested) w.engine = (.error e, s)) :
    c.beginLevel.Does w (.error e) s [(.batch (beginText nested), false)] := by
  refine .observe_bind ?_
  rw [hn, Bool.not_not]
  exact (c.does_batch h).bind_error

theorem does_abandon (cause : Error) {rollback : Except Error Unit}
    (h : c.engine.batch (rollbackText nested) w.engine = (rollback, s)) :
    (c.abandon nested cause : Run σ α).Does w (rollbackResult cause rollback) s
      [(.batch (rollbackText nested), succeeded rollback)] := by
  refine .emit_bind _ fun w₁ hw₁ => ?_
  rw [← hw₁] at h
  refine (c.does_batch h).outcome.bind_silent fun w₂ hw₂ => ?_
  cases rollback with
  | ok => exact ⟨rfl, hw₂, .refl w₂⟩
  | error e => exact Does.logged ⟨rfl, hw₂, .refl w₂⟩ .rollback

theorem does_commitLevel (v : α)
    (h : c.engine.batch (commitText nested) w.engine = (.ok (), s)) :
    (c.commitLevel nested v).Does w (.ok v) s [(.batch (commitText nested), true)] := by
  refine (c.does_batch h).outcome.bind_silent fun w₁ hw₁ => ?_
  refine .emit_bind _ fun w₂ hw₂ => ?_
  exact ⟨rfl, hw₂.trans hw₁, .refl w₂⟩

/-- A commit that the engine refuses is followed by a rollback. -/
theorem does_commitLevel_error (v : α) {e : Error} {rollback : Except Error Unit}
    (h : c.engine.batch (commitText nested) w.engine = (.error e, s))
    (h' : c.engine.batch (rollbackText nested) s = (rollback, s')) :
    (c.commitLevel nested v).Does w (rollbackResult e rollback) s'
      [(.batch (commitText nested), false),
        (.batch (rollbackText nested), succeeded rollback)] := by
  refine (c.does_batch h).outcome.bind_ok fun w₁ hw₁ => ?_
  rw [← hw₁] at h'
  refine (c.does_batch h').outcome.bind_silent fun w₂ hw₂ => ?_
  cases rollback with
  | ok => exact Does.logged ⟨rfl, hw₂, .refl w₂⟩ .commit
  | error e' => exact Does.logged ⟨rfl, hw₂, .refl w₂⟩ .commit

theorem transaction_of_refused (body : Run σ α) {e : Error}
    (h : (c.beginLevel w).1 = .error e) :
    c.transaction body w = (.error e, (c.beginLevel w).2) := by
  have hw : c.beginLevel w = (.error e, (c.beginLevel w).2) := Prod.ext h rfl
  rw [transaction, bind_apply, hw]

theorem transaction_of_opened (body : Run σ α) (h : (c.beginLevel w).1 = .ok nested) :
    c.transaction body w =
      c.endLevel nested (body (c.beginLevel w).2).1 (body (c.beginLevel w).2).2 := by
  have hw : c.beginLevel w = (.ok nested, (c.beginLevel w).2) := Prod.ext h rfl
  rw [transaction, bind_apply, hw]
  rfl

end

theorem ends_abandon (nested : Bool) (cause : Error) (w : World σ) :
    c.Ends (.entered (!nested)) ((.error cause : Except Error α), w)
      (c.abandon nested cause w) := by
  have hd : (c.abandon nested cause : Run σ α).Does w _ _ _ := does_abandon cause rfl
  have hblames : Blames cause _ (_ : Except Error α) :=
    blames_rollbackResult cause (c.engine.batch (rollbackText nested) w.engine).1
  rw [← hd.result_eq] at hblames
  rw [Flavour.entered_not]
  refine ⟨nofun, nofun, ?_, ?_⟩
  · rintro _ ⟨⟩
    exact ⟨_, Prod.ext rfl hd.state_eq.symm, hd.asked, hblames⟩
  · intro v
    constructor
    · intro hok
      exact absurd hok (hblames.ne_ok v)
    · rintro ⟨⟨⟩, -⟩

theorem ends_commitLevel (nested : Bool) (v : α) (w : World σ) :
    c.Ends (.entered (!nested)) (.ok v, w) (c.commitLevel nested v w) := by
  rw [Flavour.entered_not]
  -- the answer to the commit decides whether there is a rollback
  rcases hcommit : c.engine.batch (commitText nested) w.engine with ⟨e | ⟨⟩, s⟩
  · have hd := does_commitLevel_error v hcommit rfl
    have hblames : Blames e _ (_ : Except Error α) :=
      blames_rollbackResult e (c.engine.batch (rollbackText nested) s).1
    rw [← hd.result_eq] at hblames
    have hnot : ¬(c.engine.batch (commitText nested) w.engine).1 = .ok () := by simp [hcommit]
    refine ⟨?_, ?_, nofun, ?_⟩
    · intro _ _ _ hok
      cases hcommit.symm.trans hok
    · intro _ _ _ _ herror
      cases hcommit.symm.trans herror
      exact ⟨_, Prod.ext rfl hd.state_eq.symm, hd.asked, hblames⟩
    · intro u
      constructor
      · intro hok
        exact absurd hok (hblames.ne_ok u)
      · rintro ⟨-, hok⟩
        exact absurd hok hnot
  · have hd := does_commitLevel v hcommit
    refine ⟨?_, ?_, nofun, fun u => ?_⟩
    · intro _ _ _ hok
      cases hcommit.symm.trans hok
      exact ⟨hd.state_eq, hd.asked⟩
    · intro _ _ _ _ herror
      cases hcommit.symm.trans herror
    · rw [hd.result_eq]
      simp [hcommit]

theorem ends_endLevel (nested : Bool) (outcome : Except Error α) (w : World σ) :
    c.Ends (.entered (!nested)) (outcome, w) (c.endLevel nested outcome w) := by
  cases outcome with
  | ok v => exact c.ends_commitLevel nested v w
  | error cause => exact c.ends_abandon nested cause w

theorem transaction_controlled (body : Run σ α) (w : World σ) :
    c.Controlled (.entered (c.engine.autocommit w.engine)) body w := by
  obtain ⟨nested, hn⟩ : ∃ nested, c.engine.autocommit w.engine = !nested :=
    ⟨!c.engine.autocommit w.engine, (Bool.not_not _).symm⟩
  rw [hn]
  constructor
  · intro e s hrefused
    rw [Flavour.entered_not] at hrefused ⊢
    have hd := does_beginLevel_error hn hrefused
    have hskip (b : Run σ α) := transaction_of_refused b hd.result_eq
    refine ⟨⟨?_, ?_, ?_⟩, fun body' => ?_⟩
    · rw [hskip]
    · rw [hskip, hd.state_eq]
    · rw [hskip]
      exact hd.asked
    · rw [hskip, hskip]
  · intro s hopened
    rw [Flavour.entered_not] at hopened
    have hd := does_beginLevel hn hopened
    refine ⟨(c.beginLevel w).2, hd.state_eq, ?_, ?_⟩
    · rw [Flavour.entered_not]
      exact hd.asked
    · rw [transaction_of_opened body hd.result_eq]
      exact c.ends_endLevel nested _ _

end Connection

end RecordSql
