import RecordSql.Proofs.Session.Sound

/-! What runs is what was built. A call on a kept builder asks the engine for what the builder
builds, nothing else runs the builder's statement, and a builder that was changed while it had a
statement asks for nothing any more. -/

namespace RecordSql

variable {σ : Type}

namespace Session

variable {c : Connection σ} {s s' : Session σ}

theorem gained_of_leads {own : Option StatementId} {rule : RequestRule}
    (h : s.world.Leads own rule s'.world) :
    (∀ e ∈ gained s s', ∀ i, e.statement? = some i → own = some i ∨ s.world.fresh ≤ i) ∧
      ∀ before e after call, gained s s' = before ++ e :: after → e.request? = some call →
        rule (s.world.journal ++ before) call := by
  obtain ⟨-, g, hg, hs, hr⟩ := h
  have : gained s s' = g := by rw [gained, hg, List.drop_left]
  rw [this]
  exact ⟨hs, hr⟩

theorem request_of_mem_gained {own : Option StatementId} {rule : RequestRule}
    (h : s.world.Leads own rule s'.world) {e : Entry} (he : e ∈ gained s s') {call : Call}
    (hc : e.request? = some call) : ∃ journal, rule journal call := by
  obtain ⟨before, after, hs⟩ := List.append_of_mem he
  exact ⟨_, (gained_of_leads h).2 before e after call hs hc⟩

theorem request?_of_runs? {call : Call} {accepted : Bool} {i : StatementId}
    (h : call.runs? = some i) : (Entry.call call accepted).request? = some call := by
  cases call with
  | execute | query => rfl
  | _ => cases h

theorem statement?_of_runs? {call : Call} {i : StatementId} (h : call.runs? = some i) :
    call.statement? = some i := by
  cases call with
  | execute | query => exact h
  | _ => cases h

theorem Sound.leads_call (h : s.Sound) {name : String} {b : AnyBuilder}
    (hb : s.builder? name = some b) (r : Request) :
    s.world.Leads b.slot.statement (builtRule (b.asked r)) (s.call c name r).2.2.world := by
  have ha := answered_request s c name (h.builders _ (mem_of_builder? hb)) r
  rw [call_of_some hb]
  cases (s.request c name b r).builder <;> exact ha.leads

theorem leads_dropBuilder (c : Connection σ) (name : String) (rule : RequestRule) :
    s.world.Leads ((s.builder? name).bind fun b => b.slot.statement) rule
      (s.dropBuilder c name).world := by
  unfold dropBuilder
  cases s.builder? name with
  | none => exact .refl _ _ _
  | some b =>
    cases b with
    | select b => exact Builder.leads_drop c b rule s.world
    | insert b => exact Builder.leads_drop c b rule s.world
    | update b => exact Builder.leads_drop c b rule s.world
    | delete b => exact Builder.leads_drop c b rule s.world

theorem builder?_keep_self (name : String) (b : AnyBuilder) :
    (s.keep name b).builder? name = some b := by
  simp [builder?, keep]

theorem builder?_without_self (name : String) : (s.without name).builder? name = none := by
  simp [builder?, without]

theorem builder?_without_of_ne {name name' : String} (h : name' ≠ name) :
    (s.without name).builder? name' = s.builder? name' := by
  unfold builder? without
  rw [List.find?_filter]
  congr 2
  funext x
  by_cases hx : x.1 = name'
  · simp [hx, h]
  · simp [hx]

theorem builder?_keep_of_ne {name name' : String} (h : name' ≠ name) (b : AnyBuilder) :
    (s.keep name b).builder? name' = s.builder? name' := by
  refine Eq.trans ?_ (builder?_without_of_ne h)
  unfold builder? keep
  rw [List.find?_cons_of_neg (by simpa using h.symm)]

theorem builder?_dropBuilder_of_ne {name name' : String} (h : name' ≠ name) :
    (s.dropBuilder c name).builder? name' = s.builder? name' := by
  unfold dropBuilder
  cases s.builder? name with
  | none => rfl
  | some b => exact builder?_without_of_ne h

theorem Stepped.builder?_eq (h : s.Sound) {m : Move σ} (hs : Stepped c s m s') {name : String}
    (hn : m.builder? ≠ some name) : s'.builder? name = s.builder? name := by
  cases hs with
  | stayed => rfl
  | acted => rfl
  | created hm hb =>
    have hn : name ≠ _ := fun he => hn (he ▸ hm)
    rw [builder?_keep_of_ne hn, builder?_dropBuilder_of_ne hn]
  | dropped other => exact builder?_dropBuilder_of_ne fun he => hn (he ▸ rfl)
  | called other r =>
    have hn : name ≠ other := fun he => hn (he ▸ rfl)
    cases hb : s.builder? other with
    | none => rw [call_of_none hb]
    | some b =>
      have ha := answered_request s c other (h.builders _ (mem_of_builder? hb)) r
      have hsame : (s.request c other b r).session.builder? name = s.builder? name := by
        unfold builder?
        rw [ha.builders]
      rw [call_of_some hb]
      cases (s.request c other b r).builder with
      | none => exact (builder?_without_of_ne hn).trans hsame
      | some b' => exact (builder?_keep_of_ne hn b').trans hsame

theorem Stepped.not_run (h : s.Sound) {m : Move σ} (hs : Stepped c s m s') {name : String}
    {b : AnyBuilder} (hb : s.builder? name = some b) (hm : ∀ r, m ≠ .perform (.call name r))
    {call : Call} {accepted : Bool} (he : .call call accepted ∈ gained s s') {i : StatementId}
    (hr : call.runs? = some i) : b.slot.statement ≠ some i := by
  intro hi
  have hmem := mem_of_builder? hb
  -- what owns another statement, or none, cannot have run this one
  have hnone {own : Option StatementId} {rule : RequestRule}
      (hw : s.world.Leads own rule s'.world) (hown : own ≠ some i) : False := by
    rcases (gained_of_leads hw).1 _ he i (statement?_of_runs? hr) with h' | h'
    · exact hown h'
    · exact absurd ((h.builders _ hmem).known i hi) (Nat.not_lt.2 h')
  -- dropping a builder finalizes at most
  have hdrop (other : String) (hw : s'.world = (s.dropBuilder c other).world) : False := by
    have hd := leads_dropBuilder (s := s) c other fun _ _ => False
    rw [← hw] at hd
    obtain ⟨_, hf⟩ := request_of_mem_gained hd he (request?_of_runs? hr)
    exact hf
  cases hs with
  | stayed => exact hnone (.refl none loadedRule _) nofun
  | acted _ hw => exact hnone hw nofun
  | created => exact hdrop _ rfl
  | dropped other => exact hdrop other rfl
  | called other r =>
    have hn : other ≠ name := fun hn => hm r (hn ▸ rfl)
    cases hb' : s.builder? other with
    | none =>
      rw [call_of_none hb'] at he
      simp [gained] at he
    | some b' =>
      refine hnone (h.leads_call hb' r) fun hi' => ?_
      -- two builders never have the same statement
      refine h.apart.forall (mem_of_builder? hb') hmem ?_ i hi' hi
      rintro ⟨⟩
      exact hn rfl

def Move.Keeps (name : String) (m : Move σ) : Prop :=
  m.builder? = some name → ∃ r, m = .perform (.call name r)

theorem request_of_call {name : String} {b b' : AnyBuilder} (hb : s.builder? name = some b)
    {r : Request} (hb' : (s.call c name r).2.2.builder? name = some b') :
    (s.request c name b r).builder = some b' := by
  rw [call_of_some hb] at hb'
  cases hc : (s.request c name b r).builder with
  | none =>
    rw [hc, builder?_without_self] at hb'
    cases hb'
  | some b₁ =>
    rw [hc, builder?_keep_self] at hb'
    exact hb'

theorem Sound.builder?_move (h : s.Sound) {name : String} {m : Move σ} (hm : m.Keeps name)
    {b' : AnyBuilder} (hb' : (s.move c m).builder? name = some b') :
    (∃ r b, m = .perform (.call name r) ∧ s.builder? name = some b ∧
      (s.request c name b r).builder = some b') ∨
      m.builder? ≠ some name ∧ s.builder? name = some b' := by
  by_cases hn : m.builder? = some name
  · obtain ⟨r, rfl⟩ := hm hn
    change (s.call c name r).2.2.builder? name = some b' at hb'
    cases hb : s.builder? name with
    | none =>
      rw [call_of_none hb, hb] at hb'
      cases hb'
    | some b => exact .inl ⟨r, b, rfl, rfl, request_of_call hb hb'⟩
  · rw [(stepped_move m).builder?_eq h hn] at hb'
    exact .inr ⟨hn, hb'⟩

theorem Sound.error_move (h : s.Sound) {name : String}
    (he : ∀ b, s.builder? name = some b → b.slot.error ≠ none) {m : Move σ}
    (hm : m.Keeps name) : ∀ b, (s.move c m).builder? name = some b → b.slot.error ≠ none := by
  intro b' hb'
  obtain ⟨r, b, rfl, hb, hc⟩ | ⟨-, hb⟩ := h.builder?_move hm hb'
  · have ha := answered_request s c name (h.builders _ (mem_of_builder? hb)) r
    exact (ha.stays _ hc).error (he b hb)
  · exact he b' hb

theorem Reached.error_moves (h : Reached c s) {name : String}
    (he : ∀ b, s.builder? name = some b → b.slot.error ≠ none) {ms : List (Move σ)}
    (hm : ∀ m ∈ ms, m.Keeps name) :
    ∀ b, (s.moves c ms).builder? name = some b → b.slot.error ≠ none := by
  induction ms generalizing s with
  | nil => exact he
  | cons m rest ih =>
    obtain ⟨hm, hrest⟩ := List.forall_mem_cons.1 hm
    exact ih (h.moved m) (h.sound.error_move he hm) hrest

theorem Sound.no_request (h : s.Sound) {name : String}
    (he : ∀ b, s.builder? name = some b → b.slot.error ≠ none) (r : Request) :
    ∀ e ∈ gained s (s.call c name r).2.2, e.request? = none := by
  intro e hmem
  cases hb : s.builder? name with
  | none =>
    rw [call_of_none hb] at hmem
    simp [gained] at hmem
  | some b =>
    cases hc : e.request? with
    | none => rfl
    | some call =>
      obtain ⟨_, sql, hsql, -⟩ := request_of_mem_gained (h.leads_call hb r) hmem hc
      exact absurd hsql (AnyBuilder.asked_of_error (he b hb) r)

structure RunsAsBuilt (c : Connection σ) (s : Session σ) (name : String) (b : AnyBuilder) :
    Prop where
  /-- A call runs what the builder builds: the statement was compiled from that text, and since then
  the values were bound to the slots in order, once each. -/
  runs : ∀ r before call accepted after i,
    gained s (s.call c name r).2.2 = before ++ .call call accepted :: after →
    call.runs? = some i → ∃ sql, b.asked r = .ok sql ∧ Loaded (s.world.journal ++ before) i sql
  /-- Nothing else runs the builder's statement. -/
  others : ∀ m : Move σ, (∀ r, m ≠ .perform (.call name r)) → ∀ call accepted i,
    .call call accepted ∈ gained s (s.move c m) → call.runs? = some i →
    b.slot.statement ≠ some i
  /-- No statement was ever run that was compiled or bound in part. -/
  whole : ∀ before call accepted after i,
    s.world.journal = before ++ .call call accepted :: after → call.runs? = some i →
    ∃ sql, Loaded before i sql
  /-- A builder that is changed while it has a statement asks for nothing from then on. -/
  misuse : b.stage ≠ .unprepared → ∀ r b', (s.call c name r).2.2.builder? name = some b' →
    b'.bare ≠ b.bare → ∀ ms : List (Move σ), (∀ m ∈ ms, m.Keeps name) → ∀ r',
    ∀ e ∈ gained ((s.call c name r).2.2.moves c ms)
      (((s.call c name r).2.2.moves c ms).call c name r').2.2, e.request? = none

theorem Sound.loaded_of_journal (h : s.Sound) {before after : List Entry} {call : Call}
    {accepted : Bool} {i : StatementId}
    (hj : s.world.journal = before ++ .call call accepted :: after)
    (hr : call.runs? = some i) : ∃ sql, Loaded before i sql := by
  obtain ⟨state, -, g, hg, -, hrule⟩ := h.journal
  rw [hg, List.nil_append] at hj
  have hl := hrule before _ after call hj (request?_of_runs? hr)
  rw [List.nil_append] at hl
  exact hl i hr

theorem Sound.error_of_changed (h : s.Sound) {name : String} {b b' : AnyBuilder}
    (hb : s.builder? name = some b) (hst : b.stage ≠ .unprepared) {r : Request}
    (hb' : (s.call c name r).2.2.builder? name = some b') (hne : b'.bare ≠ b.bare) :
    b'.slot.error ≠ none := by
  have ha := answered_request s c name (h.builders _ (mem_of_builder? hb)) r
  exact fun he => hne ((ha.stays _ (request_of_call hb hb')).misuse hst he)

theorem Reached.runsAsBuilt (h : Reached c s) {name : String} {b : AnyBuilder}
    (hb : s.builder? name = some b) : RunsAsBuilt c s name b where
  runs r before call accepted after i hg hr := by
    obtain ⟨sql, hsql, hl⟩ := (gained_of_leads (h.sound.leads_call hb r)).2 before _ after call hg
      (request?_of_runs? hr)
    exact ⟨sql, hsql, hl i hr⟩
  others m hm call accepted i he hr := (stepped_move m).not_run h.sound hb hm he hr
  whole before call accepted after i hj hr := h.sound.loaded_of_journal hj hr
  misuse hst r b' hb' hne ms hms r' := by
    have hs₁ : Reached c (s.call c name r).2.2 := h.moved (.perform (.call name r))
    refine (hs₁.moves ms).sound.no_request (hs₁.error_moves ?_ hms) r'
    intro b₁ hb₁
    cases hb'.symm.trans hb₁
    exact h.sound.error_of_changed hb hst hb' hne

namespace Notes

theorem runsAsBuilt_delete :
    let s := (opened {}).moves connection
      [.perform (.delete "d" "Note"), .perform (.call "d" .prepare)]
    Reached connection s ∧
      RunsAsBuilt connection s "d"
        (.delete { content := { table }, slot := { statement := some 0, stage := .prepared } }) ∧
      .call (.execute 0) true ∈ gained s (s.call connection "d" .exec).2.2 := by
  have hs := reached_opened.moves
    [.perform (.delete "d" "Note"), .perform (.call "d" .prepare)]
  exact ⟨hs, hs.runsAsBuilt rfl, by decide⟩

def flaky : Script.State where
  rules := [{ on := .prepare, skip := 1, times := some 1, error := .prepare "" "busy" }]

theorem reached_flaky : Reached connection (opened flaky) :=
  .opened flaky {} [.ok table] rfl

/-- That a builder was prepared once does not keep a later change from the engine: when its
statement was run and could not be compiled again, there is none that the change would differ
from. -/
theorem not_silent_after_prepare :
    ¬∀ (c : Connection Script.State) (s : Session Script.State) (name : String), Reached c s →
      (s.call c name .prepare).1 = .ok .done → ∀ ms : List (Move Script.State),
      (∀ m ∈ ms, m.Keeps name) → ∀ r b b',
      ((s.call c name .prepare).2.2.moves c ms).builder? name = some b →
      (((s.call c name .prepare).2.2.moves c ms).call c name r).2.2.builder? name = some b' →
      b'.bare ≠ b.bare → ∀ r',
      let s' := (((s.call c name .prepare).2.2.moves c ms).call c name r).2.2
      ∀ e ∈ gained s' (s'.call c name r').2.2, e.request? = none := by
  intro h
  let key : Condition := .compare (.plain "id") .eq (.integer 1)
  have hs := reached_flaky.moved (.perform (.delete "d" "Note"))
  have hrun := h connection _ "d" hs rfl [.perform (.call "d" .exec), .perform (.call "d" .exec)]
    (by simp [Move.Keeps]) (.filter key) (.delete { content := { table } })
    (.delete { content := { table, condition := some key } }) rfl rfl (by simp [AnyBuilder.bare])
    .exec (.call (.execute 2) true) (by decide)
  cases hrun

end Notes

end Session

end RecordSql
