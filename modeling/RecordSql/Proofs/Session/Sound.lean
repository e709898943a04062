import Mathlib.Data.List.Pairwise
import RecordSql.Proofs.Session.Calls
import RecordSql.Proofs.Session.Reached

/-! What holds of every session that a connection comes to: every kept builder is sound, no two of
them own one statement, and nothing was run that was not compiled and bound as a whole. -/

namespace RecordSql

variable {σ : Type}

namespace Session

theorem New.statement {c : Connection σ} {s : Session σ} {b : AnyBuilder} (h : New c s b) :
    b.slot.statement = none := by
  cases h with
  | insert ht records => exact ((Builder.unused_new _).edits _).statement
  | _ => rfl

theorem New.sound {c : Connection σ} {s : Session σ} {b : AnyBuilder} (h : New c s b)
    {w : World σ} : b.Sound w := by
  cases h with
  | insert ht records => exact ((Builder.unused_new _).edits _).sound w
  | select | selectFrom | update | delete => exact (Builder.unused_new _).sound w

def Apart (x y : String × AnyBuilder) : Prop :=
  ∀ i, x.2.slot.statement = some i → y.2.slot.statement ≠ some i

instance : Std.Symm Apart := ⟨fun _ _ h i hy hx => h i hx hy⟩

structure Sound (s : Session σ) : Prop where
  builders : ∀ x ∈ s.builders, x.2.Sound s.world
  apart : s.builders.Pairwise Apart
  journal : ∃ state : σ, World.Leads none loadedRule { engine := state } s.world

theorem mem_of_builder? {s : Session σ} {name : String} {b : AnyBuilder}
    (h : s.builder? name = some b) : (name, b) ∈ s.builders := by
  obtain ⟨⟨n, b'⟩, hf, hb⟩ := Option.map_eq_some_iff.1 h
  cases hb
  have hn : n = name := by simpa using List.find?_some hf
  rw [← hn]
  exact List.mem_of_find?_eq_some hf

theorem call_of_none {c : Connection σ} {s : Session σ} {name : String} {r : Request}
    (h : s.builder? name = none) : (s.call c name r).2.2 = s := by
  unfold call
  rw [h]

theorem call_of_some {c : Connection σ} {s : Session σ} {name : String} {b : AnyBuilder}
    {r : Request} (h : s.builder? name = some b) :
    (s.call c name r).2.2 =
      match (s.request c name b r).builder with
      | some b' => (s.request c name b r).session.keep name b'
      | none => (s.request c name b r).session.without name := by
  unfold call
  rw [h]
  dsimp only
  cases (s.request c name b r).builder <;> rfl

theorem call_world {c : Connection σ} {s : Session σ} {name : String} {b : AnyBuilder}
    {r : Request} (h : s.builder? name = some b) :
    (s.call c name r).1 = (s.request c name b r).result ∧
      (s.call c name r).2.2.world = (s.request c name b r).session.world := by
  unfold call
  rw [h]
  dsimp only
  cases (s.request c name b r).builder <;> exact ⟨rfl, rfl⟩

namespace Sound

variable {s : Session σ}

theorem congr (h : s.Sound) {s' : Session σ} (hb : s'.builders = s.builders)
    (hw : s'.world = s.world) : s'.Sound := by
  obtain ⟨h₁, h₂, h₃⟩ := h
  rw [← hb, ← hw] at h₁
  rw [← hb] at h₂
  rw [← hw] at h₃
  exact ⟨h₁, h₂, h₃⟩

theorem journal_leads (h : s.Sound) {w : World σ} {own : Option StatementId}
    (hw : s.world.Leads own loadedRule w) :
    ∃ state : σ, World.Leads none loadedRule { engine := state } w := by
  obtain ⟨state, hj⟩ := h.journal
  exact ⟨state, hj.trans hw fun i _ => .inr (Nat.zero_le i)⟩

theorem acted (h : s.Sound) {w : World σ} (hw : s.world.Leads none loadedRule w) :
    ({ s with world := w } : Session σ).Sound where
  builders x hx := (h.builders x hx).frame hw nofun
  apart := h.apart
  journal := h.journal_leads hw

theorem without (h : s.Sound) (name : String) : (s.without name).Sound where
  builders x hx := h.builders x (List.mem_of_mem_filter hx)
  apart := h.apart.filter _
  journal := h.journal

theorem apart_of_ne (h : s.Sound) {name : String} {b : AnyBuilder} (hb : (name, b) ∈ s.builders)
    {x : String × AnyBuilder} (hx : x ∈ (s.without name).builders) : Apart x (name, b) := by
  obtain ⟨hx, hn⟩ := List.mem_filter.1 hx
  refine h.apart.forall hx hb ?_
  rintro rfl
  simp at hn

theorem others (h : s.Sound) {name : String} {b : AnyBuilder} (hb : (name, b) ∈ s.builders)
    {w : World σ} (hw : s.world.Leads b.slot.statement loadedRule w) :
    (({ s with world := w } : Session σ).without name).Sound where
  builders x hx := (h.builders x (List.mem_of_mem_filter hx)).frame hw (h.apart_of_ne hb hx)
  apart := h.apart.filter _
  journal := h.journal_leads hw

theorem keep {name : String} (h : (s.without name).Sound) {b : AnyBuilder}
    (hb : b.Sound s.world) (ha : ∀ x ∈ (s.without name).builders, Apart (name, b) x) :
    (s.keep name b).Sound where
  builders x hx := by
    rcases List.mem_cons.1 hx with rfl | hx
    · exact hb
    · exact h.builders x hx
  apart := List.pairwise_cons.2 ⟨ha, h.apart⟩
  journal := h.journal

theorem dropBuilder (h : s.Sound) (c : Connection σ) (name : String) :
    (s.dropBuilder c name).Sound := by
  unfold Session.dropBuilder
  cases hb : s.builder? name with
  | none => exact h
  | some b =>
    refine h.others (mem_of_builder? hb) ?_
    cases b with
    | select b => exact Builder.leads_drop c b loadedRule s.world
    | insert b => exact Builder.leads_drop c b loadedRule s.world
    | update b => exact Builder.leads_drop c b loadedRule s.world
    | delete b => exact Builder.leads_drop c b loadedRule s.world

theorem create (h : s.Sound) (c : Connection σ) (name : String) {b : AnyBuilder}
    (hb : New c s b) : ((s.dropBuilder c name).keep name b).Sound := by
  refine ((h.dropBuilder c name).without name).keep hb.sound fun x _ i hi => ?_
  rw [hb.statement] at hi
  cases hi

theorem call (h : s.Sound) (c : Connection σ) (name : String) (r : Request) :
    (s.call c name r).2.2.Sound := by
  cases hb : s.builder? name with
  | none =>
    rw [call_of_none hb]
    exact h
  | some b =>
    have hm := mem_of_builder? hb
    have ha := answered_request s c name (h.builders _ hm) r
    rw [call_of_some hb]
    generalize s.request c name b r = called at ha
    have ho : (called.session.without name).Sound :=
      (h.others hm (ha.leads.weaken fun _ _ => loadedRule_of_builtRule)).congr
        (by rw [Session.without, Session.without, ha.builders]) rfl
    cases hc : called.builder with
    | none => exact ho
    | some b' =>
      have hf := ha.stays b' hc
      refine ho.keep hf.sound fun x hx i hi hxi => ?_
      rw [Session.without, ha.builders] at hx
      rcases hf.statement i hi with hi | hi
      · exact h.apart_of_ne hm hx i hxi hi
      · exact absurd ((h.builders x (List.mem_of_mem_filter hx)).known i hxi) (Nat.not_lt.2 hi)

/-- Every step keeps a session sound. -/
theorem step (h : s.Sound) {c : Connection σ} {m : Move σ} {s' : Session σ}
    (hs : Stepped c s m s') : s'.Sound := by
  cases hs with
  | stayed => exact h
  | acted _ hw => exact h.acted hw
  | created _ hb => exact h.create c _ hb
  | dropped name => exact h.dropBuilder c name
  | called name r => exact h.call c name r

end Sound

theorem Reached.sound {c : Connection σ} {s : Session σ} (h : Reached c s) : s.Sound := by
  induction h with
  | opened state config declarations hw =>
    have hc := Connection.contained_openOn c.engine config declarations { engine := state }
    rw [hw] at hc
    refine ⟨?_, .nil, state, hc⟩
    intro x hx
    cases hx
  | moved _ m ih => exact ih.step (stepped_move m)

end Session

end RecordSql
