import RecordSql.Proofs.Connection.Activities
import RecordSql.Session.Call

/-! What a call on a kept builder does: to the builder, whose statement stays its own and whose
misuse stays recorded, and to the world, where the engine is asked for nothing but what the builder
builds. -/

namespace RecordSql

variable {σ κ α : Type}

namespace Builder

variable [Statement κ]

structure Follows (b : Builder κ) (w : World σ) (b' : Builder κ) (w' : World σ) : Prop where
  sound : b'.Sound w'
  statement : ∀ s, b'.slot.statement = some s → b.slot.statement = some s ∨ w.fresh ≤ s
  error : b.slot.error ≠ none → b'.slot.error ≠ none
  /-- A change of a builder that has a statement is recorded as misuse. -/
  misuse : b.slot.stage ≠ .unprepared → b'.slot.error = none → b'.content = b.content

theorem Kept.follows {b b' : Builder κ} {w w' : World σ} (h : Kept b w b' w') :
    b.Follows w b' w' where
  sound := h.sound
  statement := h.statement
  error he := by rwa [h.error]
  misuse _ _ := h.content

theorem Sound.follows_edit {b : Builder κ} {w : World σ} (h : b.Sound w)
    (e : Statement.Edit κ) : b.Follows w (b.edit e) w where
  sound := h.edit e
  statement _ hs := .inl (statement_edit b e ▸ hs)
  error he := error_edit_ne_none e (.inl he)
  misuse hs he := absurd he (error_edit_ne_none e (.inr hs))

theorem Sound.follows_edits {b : Builder κ} {w : World σ} (h : b.Sound w)
    (es : List (Statement.Edit κ)) : b.Follows w (b.edits es) w := by
  induction es generalizing b with
  | nil => exact (Kept.refl h).follows
  | cons e rest ih =>
    have hr := ih (h.edit e)
    refine ⟨hr.sound, fun s hs => ?_, fun he => ?_, fun hs he => ?_⟩
    · rcases hr.statement s hs with hs | hs
      · exact .inl (statement_edit b e ▸ hs)
      · exact .inr hs
    · exact hr.error (error_edit_ne_none e (.inl he))
    · exact absurd he (hr.error (error_edit_ne_none e (.inr hs)))

theorem Sound.follows_fail {b : Builder κ} {w : World σ} (h : b.Sound w) (e : Error) :
    b.Follows w (b.fail e) w where
  sound := h.fail e
  statement _ hs := .inl hs
  error _ := by simp [Builder.fail, Slot.fail]
  misuse _ _ := rfl

end Builder

namespace AnyBuilder

def Sound (w : World σ) : AnyBuilder → Prop
  | .select b => b.Sound w
  | .insert b => b.Sound w
  | .update b => b.Sound w
  | .delete b => b.Sound w

def bare : AnyBuilder → AnyBuilder
  | .select b => .select { content := b.content }
  | .insert b => .insert { content := b.content }
  | .update b => .update { content := b.content }
  | .delete b => .delete { content := b.content }

def asked : AnyBuilder → Request → Except Error Sql
  | .select b, .count => b.buildCount
  | .select b, .one => (b.edit (Select.Edit.limit 1)).build
  | b, _ => b.build

inductive Follows (w w' : World σ) : AnyBuilder → AnyBuilder → Prop where
  | select {b b' : Builder Select} (h : b.Follows w b' w') : Follows w w' (.select b) (.select b')
  | insert {b b' : Builder Insert} (h : b.Follows w b' w') : Follows w w' (.insert b) (.insert b')
  | update {b b' : Builder Update} (h : b.Follows w b' w') : Follows w w' (.update b) (.update b')
  | delete {b b' : Builder Delete} (h : b.Follows w b' w') : Follows w w' (.delete b) (.delete b')

namespace Follows

variable {w w' : World σ} {b b' : AnyBuilder}

theorem sound (h : Follows w w' b b') : b'.Sound w' := by
  cases h with
  | _ h => exact h.sound

theorem statement (h : Follows w w' b b') (s : StatementId)
    (hs : b'.slot.statement = some s) : b.slot.statement = some s ∨ w.fresh ≤ s := by
  cases h with
  | _ h => exact h.statement s hs

theorem error (h : Follows w w' b b') (he : b.slot.error ≠ none) : b'.slot.error ≠ none := by
  cases h with
  | _ h => exact h.error he

theorem misuse (h : Follows w w' b b') (hs : b.stage ≠ .unprepared)
    (he : b'.slot.error = none) : b'.bare = b.bare := by
  cases h with
  | _ h => simp [bare, h.misuse hs he]

end Follows

theorem Sound.follows {w : World σ} {b : AnyBuilder} (h : b.Sound w) : Follows w w b b := by
  cases b with
  | select b => exact .select (Builder.Kept.refl h).follows
  | insert b => exact .insert (Builder.Kept.refl h).follows
  | update b => exact .update (Builder.Kept.refl h).follows
  | delete b => exact .delete (Builder.Kept.refl h).follows

theorem Sound.frame {b : AnyBuilder} {w w' : World σ} {own : Option StatementId}
    {rule : RequestRule} (h : b.Sound w) (hw : w.Leads own rule w')
    (hown : ∀ s, b.slot.statement = some s → own ≠ some s) : b.Sound w' := by
  cases b with
  | select b => exact Builder.Sound.frame h hw hown
  | insert b => exact Builder.Sound.frame h hw hown
  | update b => exact Builder.Sound.frame h hw hown
  | delete b => exact Builder.Sound.frame h hw hown

theorem Sound.known {b : AnyBuilder} {w : World σ} (h : b.Sound w) (s : StatementId)
    (hs : b.slot.statement = some s) : s < w.fresh := by
  cases b with
  | select b => exact Builder.Sound.known h s hs
  | insert b => exact Builder.Sound.known h s hs
  | update b => exact Builder.Sound.known h s hs
  | delete b => exact Builder.Sound.known h s hs

theorem asked_of_error {b : AnyBuilder} (h : b.slot.error ≠ none) (r : Request) {sql : Sql} :
    b.asked r ≠ .ok sql := by
  intro hb
  unfold asked at hb
  split at hb
  · exact h (Builder.buildCount_eq_ok.1 hb).1
  · exact Builder.error_edit_ne_none _ (.inl h) (Builder.build_eq_ok.1 hb).1
  · cases b with
    | select b => exact h (Builder.build_eq_ok.1 hb).1
    | insert b => exact h (Builder.build_eq_ok.1 hb).1
    | update b => exact h (Builder.build_eq_ok.1 hb).1
    | delete b => exact h (Builder.build_eq_ok.1 hb).1

end AnyBuilder

namespace Session

def Called.Leaves (P : AnyBuilder → Prop) (called : Called σ) : Prop :=
  ∀ b, called.builder = some b → P b

section

variable {s : Session σ} {P : AnyBuilder → Prop}

theorem leaves_told {b : AnyBuilder} (h : P b) (result : Except Error Reply) :
    (s.told b result).Leaves P := by
  intro b' hb'
  cases hb'
  exact h

theorem leaves_changed {b : AnyBuilder} (h : P b) : (s.changed b).Leaves P := leaves_told h _

theorem leaves_worked [Statement κ] {b : Builder κ} (hs : b.Sound s.world)
    {a : Act σ (Except Error α × Builder κ)} (ha : Builder.Works b a)
    {wrap : Builder κ → AnyBuilder} (hw : ∀ b', b'.content = b.content → P (wrap b'))
    (reply : α → Reply) : (s.worked wrap reply a).Leaves P := by
  intro b' hb'
  cases hb'
  exact hw _ (ha s.world hs).1.content

theorem leaves_used (reply : α → Reply) (run : Run σ α) : (s.used reply run).Leaves P := by
  intro b' hb'
  cases hb'

end

structure Answered (s : Session σ) (b : AnyBuilder) (r : Request) (called : Called σ) : Prop where
  builders : called.session.builders = s.builders
  leads : s.world.Leads b.slot.statement (builtRule (b.asked r)) called.session.world
  stays : ∀ b', called.builder = some b' → AnyBuilder.Follows s.world called.session.world b b'

variable {s : Session σ} {r : Request}

theorem answered_told {b : AnyBuilder} (h : b.Sound s.world) (result : Except Error Reply) :
    Answered s b r (s.told b result) where
  builders := rfl
  leads := .refl _ _ _
  stays _ hb := by
    cases hb
    exact h.follows

theorem answered_changed {b b' : AnyBuilder} (h : AnyBuilder.Follows s.world s.world b b') :
    Answered s b r (s.changed b') where
  builders := rfl
  leads := .refl _ _ _
  stays _ hb := by
    cases hb
    exact h

theorem answered_worked [Statement κ] {b : Builder κ} {wrap : Builder κ → AnyBuilder}
    (hwrap : ∀ {w w' : World σ} {b'}, b.Follows w b' w' →
      AnyBuilder.Follows w w' (wrap b) (wrap b'))
    (hslot : (wrap b).slot = b.slot) (hasked : (wrap b).asked r = b.build) (h : b.Sound s.world)
    {a : Act σ (Except Error α × Builder κ)} (ha : Builder.Works b a) (reply : α → Reply) :
    Answered s (wrap b) r (s.worked wrap reply a) := by
  obtain ⟨hk, hw⟩ := ha s.world h
  refine ⟨rfl, ?_, fun b' hb => ?_⟩
  · rw [hslot, hasked]
    exact hw
  · cases hb
    exact hwrap hk.follows

theorem answered_used (b : AnyBuilder) (r : Request) {run : Run σ α}
    (h : s.world.Leads b.slot.statement (builtRule (b.asked r)) (run s.world).2)
    (reply : α → Reply) : Answered s b r (s.used reply run) where
  builders := rfl
  leads := h
  stays _ hb := by cases hb

variable (c : Connection σ) (s) (name : String)

theorem answered_count {b : Builder Select} (h : b.Sound s.world) :
    Answered s (.select b) .count (s.callSelect c name b .count) := by
  have hw := Builder.leads_count c b s.world
  refine ⟨rfl, hw.owning _, fun b' hb => ?_⟩
  cases hb
  refine .select ⟨h.frame hw nofun, fun _ hs => .inl hs, id, fun _ _ => rfl⟩

theorem answered_select {b : Builder Select} (h : b.Sound s.world) (r : Request) :
    Answered s (.select b) r (s.callSelect c name b r) := by
  have ht : AnyBuilder.Sound s.world (.select b) := h
  cases r with
  | filter e => exact answered_changed (.select (h.follows_edit _))
  | columns refs => exact answered_changed (.select (h.follows_edit _))
  | distinct => exact answered_changed (.select (h.follows_edit _))
  | order r direction => exact answered_changed (.select (h.follows_edit _))
  | limit n => exact answered_changed (.select (h.follows_edit _))
  | offset n => exact answered_changed (.select (h.follows_edit _))
  | join recordType kind on =>
    refine answered_changed (.select ?_)
    unfold Builder.joinRecords
    split
    · exact h.follows_edit _
    · exact h.follows_fail _
  | joinSubquery sub kind on =>
    dsimp only [callSelect]
    cases s.subquery? sub with
    | some q => exact answered_changed (.select (h.follows_edit _))
    | none => exact answered_told ht _
  | count => exact answered_count s c name h
  | subquery name key =>
    dsimp only [callSelect]
    cases b.subquery name with
    | ok q => exact ⟨rfl, .refl _ _ _, (answered_told ht (.ok .done) (r := .build)).stays⟩
    | error e => exact answered_told ht _
  | prepare => exact answered_worked .select rfl rfl h (Builder.prepare_works c b) _
  | rows n => exact answered_worked .select rfl rfl h (Builder.rows_works c n b) _
  | fetchAll => exact answered_used (.select b) .fetchAll (Builder.leads_fetchAll c h) _
  | fetchFirst => exact answered_used (.select b) .fetchFirst (Builder.leads_fetchFirst c h) _
  | fetchOne => exact answered_used (.select b) .fetchOne (Builder.leads_fetchOne c h) _
  | one => exact answered_used (.select b) .one (Builder.leads_one c h) _
  | _ => exact answered_told ht _

theorem answered_insert {b : Builder Insert} (h : b.Sound s.world) (r : Request) :
    Answered s (.insert b) r (s.callInsert c name b r) := by
  have ht : AnyBuilder.Sound s.world (.insert b) := h
  cases r with
  | values rows =>
    dsimp only [callInsert]
    cases rows.mapM b.content.table.record with
    | ok records =>
      have hf := h.follows_edits
        (records.map fun r => Insert.Edit.row (Insert.row b.content.table r))
      exact ⟨rfl, .refl _ _ _, (answered_changed (r := .build) (.insert hf)).stays⟩
    | error e => exact answered_told ht _
  | onConflict clause => exact answered_changed (.insert (h.follows_edit _))
  | prepare => exact answered_worked .insert rfl rfl h (Builder.prepare_works c b) _
  | exec => exact answered_worked .insert rfl rfl h (Builder.exec_works c b) _
  | _ => exact answered_told ht _

theorem answered_update {b : Builder Update} (h : b.Sound s.world) (r : Request) :
    Answered s (.update b) r (s.callUpdate c name b r) := by
  have ht : AnyBuilder.Sound s.world (.update b) := h
  cases r with
  | filter e => exact answered_changed (.update (h.follows_edit _))
  | set column v => exact answered_changed (.update (h.follows_edit _))
  | setJson column document =>
    refine answered_changed (.update ?_)
    unfold Builder.setJson
    split
    · exact h.follows_edit _
    · exact h.follows_fail _
  | prepare => exact answered_worked .update rfl rfl h (Builder.prepare_works c b) _
  | exec => exact answered_worked .update rfl rfl h (Builder.exec_works c b) _
  | _ => exact answered_told ht _

theorem answered_delete {b : Builder Delete} (h : b.Sound s.world) (r : Request) :
    Answered s (.delete b) r (s.callDelete c name b r) := by
  have ht : AnyBuilder.Sound s.world (.delete b) := h
  cases r with
  | filter e => exact answered_changed (.delete (h.follows_edit _))
  | prepare => exact answered_worked .delete rfl rfl h (Builder.prepare_works c b) _
  | exec => exact answered_worked .delete rfl rfl h (Builder.exec_works c b) _
  | _ => exact answered_told ht _

theorem answered_request {b : AnyBuilder} (h : b.Sound s.world) (r : Request) :
    Answered s b r (s.request c name b r) := by
  unfold request
  split
  · exact answered_told h _
  · exact answered_told h _
  · exact answered_told h _
  · cases b with
    | select b => exact answered_select s c name h r
    | insert b => exact answered_insert s c name h r
    | update b => exact answered_update s c name h r
    | delete b => exact answered_delete s c name h r

end Session

end RecordSql
