import RecordSql.Derive.Item
import RecordSql.Proofs.Derive.Grammar

/-! The items of records and of their fields, as they are written. -/

namespace RecordSql.Derive

def policyNames : List (String × ConflictPolicy) :=
  [("abort", .abort), ("replace", .replace), ("ignore", .ignore), ("fail", .fail),
    ("rollback", .rollback)]

def actionNames : List (String × ReferentialAction) :=
  [("cascade", .cascade), ("restrict", .restrict), ("set_null", .setNull),
    ("set_default", .setDefault), ("no_action", .noAction)]

theorem normalized_eq (s : String) :
    normalized s = String.ofList (s.toList.map fun c => if c = ' ' then '_' else c.toLower) := by
  rw [normalized, ← String.toList_map, String.ofList_toList]

theorem find?_spelled {α : Type} {all : List α} {spelled : α → String} {names : List (String × α)}
    (hname : ∀ a, (spelled a, a) ∈ names)
    (hfind : ∀ n ∈ names, (all.find? fun a => spelled a = n.1) = some n.2) {name : String} {a : α} :
    (all.find? fun a => spelled a = name) = some a ↔ (name, a) ∈ names := by
  constructor
  · intro h
    have hspelled : spelled a = name := by simpa using List.find?_some h
    exact hspelled ▸ hname a
  · exact hfind (name, a)

theorem policy_eq_ok {s : String} {p : ConflictPolicy} :
    policy s = .ok p ↔ (s.toLower, p) ∈ policyNames := by
  have hname (p : ConflictPolicy) : (normalized p.sql, p) ∈ policyNames := by
    rw [normalized_eq]
    cases p <;> decide
  have hfind : ∀ n ∈ policyNames,
      (ConflictPolicy.all.find? fun p => normalized p.sql = n.1) = some n.2 := by
    simp only [normalized_eq]
    decide
  rw [← find?_spelled hname hfind, policy]
  cases ConflictPolicy.all.find? fun p => normalized p.sql = s.toLower <;> simp

theorem action_eq_ok {s : String} {a : ReferentialAction} :
    action s = .ok a ↔ (normalized s, a) ∈ actionNames := by
  have hname (a : ReferentialAction) : (normalized a.sql, a) ∈ actionNames := by
    rw [normalized_eq]
    cases a <;> decide
  have hfind : ∀ n ∈ actionNames,
      (ReferentialAction.all.find? fun a => normalized a.sql = n.1) = some n.2 := by
    simp only [normalized_eq]
    decide
  rw [← find?_spelled hname hfind, action]
  cases ReferentialAction.all.find? fun a => normalized a.sql = normalized s <;> simp

def assigned (t : TextLiteral) : List Tree := [.leaf (.mark "="), .leaf (.text t)]

theorem assigned_inj {t t' : TextLiteral} : assigned t = assigned t' ↔ t = t' := by
  simp [assigned]

theorem Rest.text_iff (ts : List Tree) (last : Bool) (t : TextLiteral) :
    (∃ r', Rest.text ⟨ts, last⟩ = .ok (t, r') ∧ r'.trees = []) ↔ ts = assigned t := by
  constructor
  · rintro ⟨r', h, hr⟩
    have htrees := (Rest.text_eq_ok.1 h).1
    rwa [hr] at htrees
  · rintro rfl
    exact ⟨⟨[], last⟩, rfl, rfl⟩

theorem Rest.then_iff {α β γ : Type} {x : Except Fault (γ × Rest)} {P : γ → Prop}
    (hx : ∀ c, (∃ r', x = .ok (c, r') ∧ r'.trees = []) ↔ P c) (f : γ → Except Fault β) (g : β → α)
    {a : α} : (∃ r', (x >>= fun y => f y.1 >>= fun b => .ok (g b, y.2)) = .ok (a, r') ∧
      r'.trees = []) ↔ ∃ c b, P c ∧ f c = .ok b ∧ a = g b := by
  constructor
  · rintro ⟨r', h, hr⟩
    obtain ⟨⟨c, r₁⟩, hc, h⟩ := bind_eq_ok.1 h
    obtain ⟨b, hb, h⟩ := bind_eq_ok.1 h
    cases h
    exact ⟨c, b, (hx c).1 ⟨_, hc, hr⟩, hb, rfl⟩
  · rintro ⟨c, b, hc, hb, rfl⟩
    obtain ⟨r', hr', hempty⟩ := (hx c).2 hc
    exact ⟨r', bind_eq_ok.2 ⟨_, hr', bind_eq_ok.2 ⟨b, hb, rfl⟩⟩, hempty⟩

inductive KeyArgument.Written : List Tree → KeyArgument → Prop
  | conflict {t : TextLiteral} {policy : ConflictPolicy}
    (h : (t.value.toLower, policy) ∈ policyNames) :
    Written (.leaf (.word "conflict") :: assigned t) (.conflict policy)
  | autoincrement : Written [.leaf (.word "autoincrement")] .autoincrement

inductive PolicyWritten : List Tree → ConflictPolicy → Prop
  | conflict {t : TextLiteral} {policy : ConflictPolicy}
    (h : (t.value.toLower, policy) ∈ policyNames) :
    PolicyWritten (.leaf (.word "conflict") :: assigned t) policy

inductive ReferenceArgument.Written : List Tree → ReferenceArgument → Prop
  | table (t : TextLiteral) : Written (.leaf (.word "table") :: assigned t) (.table t.value)
  | column (t : TextLiteral) : Written (.leaf (.word "column") :: assigned t) (.column t.value)
  | onUpdate {t : TextLiteral} {action : ReferentialAction}
    (h : (normalized t.value, action) ∈ actionNames) :
    Written (.leaf (.word "on_update") :: assigned t) (.onUpdate action)
  | onDelete {t : TextLiteral} {action : ReferentialAction}
    (h : (normalized t.value, action) ∈ actionNames) :
    Written (.leaf (.word "on_delete") :: assigned t) (.onDelete action)

inductive FieldItem.Written : List Tree → FieldItem → Prop
  | column (t : TextLiteral) : Written (.leaf (.word "column") :: assigned t) (.column t.value)
  | skip : Written [.leaf (.word "skip")] .skip
  | reader {t : TextLiteral} {method : String} (h : identifier t = .ok method) :
    Written (.leaf (.word "get") :: assigned t) (.reader method)
  | writer {t : TextLiteral} {method : String} (h : identifier t = .ok method) :
    Written (.leaf (.word "set") :: assigned t) (.writer method)
  | primaryKey {ts : List Tree} {arguments : List KeyArgument}
    (h : Optional KeyArgument.Written ts arguments) :
    Written (.leaf (.word "primary_key") :: ts) (.constraint (.primaryKey
      ((last? KeyArgument.policy? arguments).getD .abort) (arguments.contains .autoincrement)))
  | notNull {ts : List Tree} {policies : List ConflictPolicy}
    (h : Optional PolicyWritten ts policies) : Written (.leaf (.word "not_null") :: ts)
      (.constraint (.notNull (policies.getLast?.getD .abort)))
  | unique {ts : List Tree} {policies : List ConflictPolicy}
    (h : Optional PolicyWritten ts policies) : Written (.leaf (.word "unique") :: ts)
      (.constraint (.unique (policies.getLast?.getD .abort)))
  | foreignKey {ts : List Tree} {arguments : List ReferenceArgument} {table column : String}
    (h : Enclosed ReferenceArgument.Written ts arguments)
    (ht : last? ReferenceArgument.table? arguments = some table)
    (hc : last? ReferenceArgument.column? arguments = some column) :
    Written (.leaf (.word "foreign_key") :: ts) (.constraint (.foreignKey ⟨table, column⟩
      ((last? ReferenceArgument.onUpdate? arguments).getD .noAction)
      ((last? ReferenceArgument.onDelete? arguments).getD .noAction)))

inductive TableWritten : List Tree → String → Prop
  | mk (t : TextLiteral) : TableWritten (.leaf (.word "table") :: assigned t) t.value

theorem assigned_head? (t : TextLiteral) :
    (assigned t).head? ≠ some (.leaf (.mark "::")) := by
  simp [assigned]

theorem KeyArgument.reads : KeyArgument.read.Reads Written where
  word ts a h := by
    cases h with
    | @conflict t => exact ⟨_, _, rfl, by decide, assigned_head? t⟩
    | autoincrement => exact ⟨_, _, rfl, by decide, by simp⟩
  rest := by
    rintro key ⟨trees, last⟩ a
    have hconflict := Rest.then_iff (Rest.text_iff trees last) (policy ·.value) conflict (a := a)
    constructor
    · rintro ⟨r', h, hr⟩
      unfold read at h
      split_ifs at h with hkey hkey
      · obtain ⟨t, p, rfl, hp, rfl⟩ := hconflict.1 ⟨r', h, hr⟩
        exact hkey ▸ .conflict (policy_eq_ok.1 hp)
      · cases h
        obtain rfl : trees = [] := hr
        exact hkey ▸ .autoincrement
    · intro h
      cases h with
      | conflict hp => exact hconflict.2 ⟨_, _, rfl, policy_eq_ok.2 hp, rfl⟩
      | autoincrement => exact ⟨_, rfl, rfl⟩

theorem reads_readPolicy : readPolicy.Reads PolicyWritten where
  word ts a h := by
    cases h with
    | @conflict t => exact ⟨_, _, rfl, by decide, assigned_head? t⟩
  rest := by
    rintro key ⟨trees, last⟩ a
    have hconflict := Rest.then_iff (Rest.text_iff trees last) (policy ·.value) id (a := a)
    constructor
    · rintro ⟨r', h, hr⟩
      unfold readPolicy at h
      split_ifs at h with hkey
      obtain ⟨t, p, rfl, hp, rfl⟩ := hconflict.1 ⟨r', h, hr⟩
      exact hkey ▸ .conflict (policy_eq_ok.1 hp)
    · intro h
      cases h with
      | conflict hp => exact hconflict.2 ⟨_, _, rfl, policy_eq_ok.2 hp, rfl⟩

def ReferenceArgument.ofText (key : String) (t : TextLiteral) : Except Fault ReferenceArgument :=
  if key = "table" then .ok (.table t.value)
  else if key = "column" then .ok (.column t.value)
  else if key = "on_update" then action t.value >>= fun a => .ok (.onUpdate a)
  else if key = "on_delete" then action t.value >>= fun a => .ok (.onDelete a)
  else .error (.expected .referenceArgument)

theorem ReferenceArgument.ofText_eq_ok {key : String} {t : TextLiteral} {a : ReferenceArgument} :
    ofText key t = .ok a ↔ Written (.leaf (.word key) :: assigned t) a := by
  constructor
  · intro h
    unfold ofText at h
    split_ifs at h with hkey hkey hkey hkey
    · cases h
      exact hkey ▸ .table t
    · cases h
      exact hkey ▸ .column t
    · obtain ⟨action, haction, h⟩ := bind_eq_ok.1 h
      cases h
      exact hkey ▸ .onUpdate (action_eq_ok.1 haction)
    · obtain ⟨action, haction, h⟩ := bind_eq_ok.1 h
      cases h
      exact hkey ▸ .onDelete (action_eq_ok.1 haction)
  · generalize hts : assigned t = ts
    intro h
    cases h with
    | table =>
      obtain rfl := assigned_inj.1 hts
      rfl
    | column =>
      obtain rfl := assigned_inj.1 hts
      rfl
    | @onUpdate _ action h =>
      obtain rfl := assigned_inj.1 hts
      exact bind_eq_ok.2 ⟨action, action_eq_ok.2 h, rfl⟩
    | @onDelete _ action h =>
      obtain rfl := assigned_inj.1 hts
      exact bind_eq_ok.2 ⟨action, action_eq_ok.2 h, rfl⟩

theorem ReferenceArgument.read_eq (key : String) (r : Rest) :
    read key r = r.text >>= fun x => ofText key x.1 >>= fun a => .ok (a, x.2) := by
  unfold read ofText
  refine bind_congr ?_
  rintro ⟨t, r'⟩
  dsimp only
  split_ifs
  · rfl
  · rfl
  · cases action t.value <;> rfl
  · cases action t.value <;> rfl
  · rfl

theorem ReferenceArgument.reads : ReferenceArgument.read.Reads Written where
  word ts a h := by
    cases h with
    | table t => exact ⟨_, _, rfl, by decide, assigned_head? t⟩
    | column t => exact ⟨_, _, rfl, by decide, assigned_head? t⟩
    | @onUpdate t => exact ⟨_, _, rfl, by decide, assigned_head? t⟩
    | @onDelete t => exact ⟨_, _, rfl, by decide, assigned_head? t⟩
  rest := by
    rintro key ⟨trees, last⟩ a
    rw [read_eq]
    refine (Rest.then_iff (Rest.text_iff trees last) (ofText key) id).trans ?_
    constructor
    · rintro ⟨t, b, rfl, hb, rfl⟩
      exact ofText_eq_ok.1 hb
    · intro h
      obtain ⟨t, rfl⟩ : ∃ t, trees = assigned t := by cases h <;> exact ⟨_, rfl⟩
      exact ⟨t, a, rfl, ofText_eq_ok.2 h, rfl⟩

theorem Enclosed.head?_ne {α : Type} {Written : List Tree → α → Prop} {ts : List Tree} {as : List α}
    (h : Enclosed Written ts as) : ts.head? ≠ some (.leaf (.mark "::")) := by
  cases h
  simp

theorem Optional.head?_ne {α : Type} {Written : List Tree → α → Prop} {ts : List Tree} {as : List α}
    (h : Optional Written ts as) : ts.head? ≠ some (.leaf (.mark "::")) := by
  cases h with
  | absent => simp
  | given h => exact h.head?_ne

theorem foreignKey_eq_ok {arguments : List ReferenceArgument} {k : Constraint} :
    foreignKey arguments = .ok k ↔ ∃ table column,
      last? ReferenceArgument.table? arguments = some table ∧
      last? ReferenceArgument.column? arguments = some column ∧
      k = .foreignKey ⟨table, column⟩
        ((last? ReferenceArgument.onUpdate? arguments).getD .noAction)
        ((last? ReferenceArgument.onDelete? arguments).getD .noAction) := by
  unfold foreignKey
  constructor
  · intro h
    split at h
    · next table column ht hc =>
      cases h
      exact ⟨table, column, ht, hc, rfl⟩
    · cases h
  · rintro ⟨table, column, ht, hc, rfl⟩
    rw [ht, hc]

theorem FieldItem.reads : FieldItem.read.Reads Written where
  word ts a h := by
    cases h with
    | column t => exact ⟨_, _, rfl, by decide, assigned_head? t⟩
    | skip => exact ⟨_, _, rfl, by decide, by simp⟩
    | @reader t => exact ⟨_, _, rfl, by decide, assigned_head? t⟩
    | @writer t => exact ⟨_, _, rfl, by decide, assigned_head? t⟩
    | primaryKey h => exact ⟨_, _, rfl, by decide, h.head?_ne⟩
    | notNull h => exact ⟨_, _, rfl, by decide, h.head?_ne⟩
    | unique h => exact ⟨_, _, rfl, by decide, h.head?_ne⟩
    | foreignKey h => exact ⟨_, _, rfl, by decide, h.head?_ne⟩
  rest := by
    rintro key ⟨trees, last⟩ a
    have htext := Rest.text_iff trees last
    have hcolumn := Rest.then_iff htext (fun t => .ok t.value) column (a := a)
    have hmethod (g : String → FieldItem) := Rest.then_iff htext identifier g (a := a)
    have hkey := Rest.then_iff (KeyArgument.reads.optional_iff ⟨trees, last⟩) .ok
      (fun as => constraint (Derive.primaryKey as)) (a := a)
    have hpolicy (g : ConflictPolicy → Constraint) :=
      Rest.then_iff (reads_readPolicy.optional_iff ⟨trees, last⟩) .ok
        (fun ps => constraint (g (ps.getLast?.getD .abort))) (a := a)
    have hreference := Rest.then_iff (ReferenceArgument.reads.required_iff ⟨trees, last⟩)
      Derive.foreignKey constraint (a := a)
    constructor
    · rintro ⟨r', h, hr⟩
      unfold read at h
      split_ifs at h with he he he he he he he he
      · obtain ⟨t, _, rfl, ⟨⟩, rfl⟩ := hcolumn.1 ⟨r', h, hr⟩
        exact he ▸ .column t
      · cases h
        obtain rfl : trees = [] := hr
        exact he ▸ .skip
      · obtain ⟨t, method, rfl, hm, rfl⟩ := (hmethod .reader).1 ⟨r', h, hr⟩
        exact he ▸ .reader hm
      · obtain ⟨t, method, rfl, hm, rfl⟩ := (hmethod .writer).1 ⟨r', h, hr⟩
        exact he ▸ .writer hm
      · obtain ⟨_, _, has, ⟨⟩, rfl⟩ := hkey.1 ⟨r', h, hr⟩
        exact he ▸ .primaryKey has
      · obtain ⟨_, _, hps, ⟨⟩, rfl⟩ := (hpolicy .notNull).1 ⟨r', h, hr⟩
        exact he ▸ .notNull hps
      · obtain ⟨_, _, hps, ⟨⟩, rfl⟩ := (hpolicy .unique).1 ⟨r', h, hr⟩
        exact he ▸ .unique hps
      · obtain ⟨_, k, has, hk, rfl⟩ := hreference.1 ⟨r', h, hr⟩
        obtain ⟨table, column, ht, hc, rfl⟩ := foreignKey_eq_ok.1 hk
        exact he ▸ .foreignKey has ht hc
    · intro h
      cases h with
      | column t => exact hcolumn.2 ⟨t, _, rfl, rfl, rfl⟩
      | skip => exact ⟨_, rfl, rfl⟩
      | reader hm => exact (hmethod .reader).2 ⟨_, _, rfl, hm, rfl⟩
      | writer hm => exact (hmethod .writer).2 ⟨_, _, rfl, hm, rfl⟩
      | primaryKey has => exact hkey.2 ⟨_, _, has, rfl, rfl⟩
      | notNull hps => exact (hpolicy .notNull).2 ⟨_, _, hps, rfl, rfl⟩
      | unique hps => exact (hpolicy .unique).2 ⟨_, _, hps, rfl, rfl⟩
      | foreignKey has ht hc =>
        exact hreference.2 ⟨_, _, has, foreignKey_eq_ok.2 ⟨_, _, ht, hc, rfl⟩, rfl⟩

theorem reads_readTable : readTable.Reads TableWritten where
  word ts a h := by
    cases h with
    | mk t => exact ⟨_, _, rfl, by decide, assigned_head? t⟩
  rest := by
    rintro key ⟨trees, last⟩ a
    have htext := Rest.then_iff (Rest.text_iff trees last) (fun t => .ok t.value) id (a := a)
    constructor
    · rintro ⟨r', h, hr⟩
      unfold readTable at h
      split_ifs at h with hkey
      obtain ⟨t, _, rfl, ⟨⟩, rfl⟩ := htext.1 ⟨r', h, hr⟩
      exact hkey ▸ .mk t
    · intro h
      cases h with
      | mk t => exact htext.2 ⟨t, _, rfl, rfl, rfl⟩

end RecordSql.Derive
