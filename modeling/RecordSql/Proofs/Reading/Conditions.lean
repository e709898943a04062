import RecordSql.Proofs.Reading.Predicates
import RecordSql.Proofs.Reading.Truth

/-! The text of a condition, read with the precedence of its connectives, and the condition itself.
The text is true where the condition is as long as no raw part that is an alternative of several
stands next to an AND; where one does, some rows tell the two apart. -/

namespace RecordSql

namespace Condition

/-- A condition whose names hold no backtick and whose raw parts are conditions when they are read
on their own. -/
def Complete : Condition → Prop
  | .compare r _ _ => r.Tidy
  | .columns left _ right => left.Tidy ∧ right.Tidy
  | .logical _ left right => left.Complete ∧ right.Complete
  | .not inner => inner.Complete
  | .nullCheck r _ => r.Tidy
  | .inList r _ _ => r.Tidy
  | .between r _ _ _ => r.Tidy
  | .raw sql params => ∃ r, (Sql.mk sql params).reading = some r

def alternatives : Condition → Reading
  | .logical op left right => [[.group (op.link left.alternatives right.alternatives)]]
  | .not inner => [[.negated (.group inner.alternatives)]]
  | .raw sql params => (Sql.mk sql params).reading.getD []
  | e => [[.predicate e.render.tokens]]

/-- What a condition is on a row: its connectives are applied as the tree has them, and a raw part
is what its own text is. -/
def truth (v : Valuation) : Condition → Truth
  | .logical op left right => op.truth (left.truth v) (right.truth v)
  | .not inner => Truth.not (inner.truth v)
  | .raw sql params => anyTruth v ((Sql.mk sql params).reading.getD [])
  | e => v e.render.tokens

/-- A raw condition with an OR that stands in no parentheses. -/
def Loose : Condition → Prop
  | .raw sql params => ∃ a b r, (Sql.mk sql params).reading = some (a :: b :: r)
  | _ => False

def Kept : Condition → Prop
  | .logical op left right =>
    (op = .and → ¬left.Loose ∧ ¬right.Loose) ∧ left.Kept ∧ right.Kept
  | .not inner => inner.Kept
  | _ => True

def predicates (e : Condition) : List (List Token) := anyPredicates e.alternatives

theorem reading_render {e : Condition} (h : e.Complete) :
    e.render.reading = some e.alternatives := by
  induction e with
  | compare r op v => exact reading_compare h op v
  | columns left op right => exact reading_columns h.1 op h.2
  | logical op left right ihl ihr =>
    exact Sql.reading_parenthesized (Sql.reading_connected (ihl h.1) (ihr h.2) op)
  | not inner ih => exact Sql.reading_negated (Sql.reading_parenthesized (ih h))
  | nullCheck r isNull => exact reading_nullCheck h isNull
  | inList r values negated => exact reading_inList h values negated
  | between r low high negated => exact reading_between h low high negated
  | raw sql params =>
    obtain ⟨r, hr⟩ := h
    rw [alternatives, hr]
    exact hr

theorem Complete.proper {e : Condition} (h : e.Complete) : ProperReading e.alternatives :=
  Sql.reading_proper (reading_render h)

theorem Complete.single {e : Condition} (h : e.Complete) (hl : ¬e.Loose) :
    ∃ a, e.alternatives = [a] := by
  cases e with
  | raw sql params =>
    obtain ⟨r, hr⟩ := h
    have ha : (raw sql params).alternatives = r := by rw [alternatives, hr]; rfl
    obtain ⟨hne, -⟩ := Complete.proper (e := .raw sql params) ⟨r, hr⟩
    rw [ha] at hne ⊢
    cases r with
    | nil => exact absurd rfl hne
    | cons a r =>
      cases r with
      | nil => exact ⟨a, rfl⟩
      | cons b r => exact absurd ⟨a, b, r, hr⟩ hl
  | compare | columns | logical | not | nullCheck | inList | between => exact ⟨_, rfl⟩

theorem Loose.alternatives {e : Condition} (h : e.Loose) :
    ∃ a b r, e.alternatives = a :: b :: r := by
  cases e with
  | raw sql params =>
    obtain ⟨a, b, r, hr⟩ := h
    refine ⟨a, b, r, ?_⟩
    rw [Condition.alternatives, hr]
    rfl
  | compare | columns | logical | not | nullCheck | inList | between => cases h

theorem predicates_logical (op : Connective) (left right : Condition) :
    (logical op left right).predicates = left.predicates ++ right.predicates := by
  simp [predicates, alternatives, anyPredicates, allPredicates, Factor.predicates,
    anyPredicates_link]

theorem predicates_not (inner : Condition) : (not inner).predicates = inner.predicates := by
  simp [predicates, alternatives, anyPredicates, allPredicates, Factor.predicates]

theorem truth_congr {e : Condition} {v w : Valuation} (h : ∀ p ∈ e.predicates, v p = w p) :
    e.truth v = e.truth w := by
  induction e with
  | logical op left right ihl ihr =>
    rw [predicates_logical, List.forall_mem_append] at h
    rw [truth, truth, ihl h.1, ihr h.2]
  | not inner ih =>
    rw [predicates_not] at h
    rw [truth, truth, ih h]
  | raw sql params => exact anyTruth_congr h
  | compare | columns | nullCheck | inList | between =>
    exact h _ (by simp [predicates, alternatives, anyPredicates, allPredicates, Factor.predicates])

section

variable {op : Connective} {left right : Condition}

theorem anyTruth_link_alternatives (hk : op = .and → ¬left.Loose ∧ ¬right.Loose)
    (hl : left.Complete) (hr : right.Complete) (v : Valuation) :
    anyTruth v (op.link left.alternatives right.alternatives) =
      op.truth (anyTruth v left.alternatives) (anyTruth v right.alternatives) := by
  cases op with
  | or => rw [Connective.link_or, anyTruth_append, Connective.truth]
  | and =>
    obtain ⟨a, ha⟩ := hl.single (hk rfl).1
    obtain ⟨b, hb⟩ := hr.single (hk rfl).2
    rw [ha, hb, anyTruth_link_singleton]
    simp [anyTruth]

end

theorem Kept.truth_alternatives {e : Condition} (hk : e.Kept) (h : e.Complete) (v : Valuation) :
    anyTruth v e.alternatives = e.truth v := by
  induction e with
  | logical op left right ihl ihr =>
    rw [alternatives, anyTruth_group, anyTruth_link_alternatives hk.1 h.1 h.2, ihl hk.2.1 h.1,
      ihr hk.2.2 h.2, truth]
  | not inner ih => rw [alternatives, anyTruth_negated, Factor.truth, truth, ih hk h]
  | raw sql params => rfl
  | compare | columns | nullCheck | inList | between => exact anyTruth_singleton v _

theorem Kept.paired {e : Condition} (hk : e.Kept) (h : e.Complete) (hn : e.predicates.Nodup) :
    Paired e.predicates (fun v => anyTruth v e.alternatives) fun v => e.truth v := by
  have ht : (fun v => e.truth v) = fun v => anyTruth v e.alternatives :=
    funext fun v => (hk.truth_alternatives h v).symm
  rw [ht]
  exact paired_any h.proper.1 h.proper.2 hn

theorem Complete.paired {e : Condition} (h : e.Complete) (hn : e.predicates.Nodup) :
    Paired e.predicates (fun v => anyTruth v e.alternatives) fun v => e.truth v := by
  induction e with
  | logical op left right ihl ihr =>
    have hp := predicates_logical op left right
    rw [hp] at hn ⊢
    obtain ⟨hl, hr, hd⟩ := List.nodup_append'.1 hn
    refine (ihl h.1 hl).combine (ihr h.2 hr) hd ?_ ?_ ?_ ?_
    · intro v w hv
      have hv' : ∀ p ∈ (logical op left right).predicates, v p = w p := hp ▸ hv
      exact anyTruth_congr hv'
    · intro v w hv
      exact truth_congr (hp ▸ hv)
    · intro b v ht ht'
      rw [alternatives, anyTruth_group]
      exact anyTruth_link v op h.1.proper.1 h.2.proper.1 ht ht'
    · intro b v hu hu'
      rw [truth, hu, hu', op.truth_self]
  | not inner ih =>
    have ht : (fun v => anyTruth v (not inner).alternatives) =
        fun v => Truth.not (anyTruth v inner.alternatives) := by
      funext v
      rw [alternatives, anyTruth_negated, Factor.truth]
    rw [predicates_not] at hn ⊢
    rw [ht]
    exact (ih h hn).not
  | raw sql params => exact Kept.paired trivial h hn
  | compare | columns | nullCheck | inList | between => exact Kept.paired trivial h hn

theorem Loose.differs_left {left right : Condition} (hl : left.Loose) (h : left.Complete)
    (h' : right.Complete) (hn : (left.predicates ++ right.predicates).Nodup) :
    ∃ v, anyTruth v (Connective.and.link left.alternatives right.alternatives) = some true ∧
      right.truth v = some false := by
  obtain ⟨a, b, r, ha⟩ := hl.alternatives
  obtain ⟨hnl, hnr, hd⟩ := List.nodup_append'.1 hn
  obtain ⟨-, hpa, -⟩ := ha ▸ h.proper
  have hp : left.predicates = allPredicates a ++ anyPredicates (b :: r) := by
    rw [predicates, ha, anyPredicates]
  rw [hp] at hnl hd
  -- the first alternative is true by itself, and the right side is false
  obtain ⟨v, -, hv, -⟩ := (paired_all hpa.1 hpa.2 (List.nodup_append'.1 hnl).1).free true
    fun _ => none
  obtain ⟨w, -, hw, -, hwr⟩ := (h'.paired hnr).after (List.disjoint_append_left.1 hd).1 false v
  refine ⟨w, ?_, hwr⟩
  have hwa : allTruth w a = some true := (allTruth_congr hw).trans hv
  rw [ha, Connective.link_cons _ a (List.cons_ne_nil b r), anyTruth, hwa, Truth.true_or]

theorem Loose.differs_right {left right : Condition} (hr : right.Loose) (h : left.Complete)
    (h' : right.Complete) (hn : (left.predicates ++ right.predicates).Nodup) :
    ∃ v, anyTruth v (Connective.and.link left.alternatives right.alternatives) = some true ∧
      left.truth v = some false := by
  obtain ⟨a, b, r, ha⟩ := hr.alternatives
  obtain ⟨hnl, hnr, hd⟩ := List.nodup_append'.1 hn
  obtain ⟨-, -, hpb, -⟩ := ha ▸ h'.proper
  have hp : right.predicates = allPredicates a ++ (allPredicates b ++ anyPredicates r) := by
    rw [predicates, ha, anyPredicates, anyPredicates]
  rw [hp] at hnr hd
  have hdb := (List.disjoint_append_right.1 (List.disjoint_append_right.1 hd).2).1
  have hnb := (List.nodup_append'.1 (List.nodup_append'.1 hnr).2.1).1
  -- AND takes the first alternative of the right side, so the second one is made true
  obtain ⟨v, -, hv, -⟩ := (paired_all hpb.1 hpb.2 hnb).free true fun _ => none
  obtain ⟨w, -, hw, -, hwl⟩ := (h.paired hnl).after (List.disjoint_symm hdb) false v
  refine ⟨w, ?_, hwl⟩
  have hwb : allTruth w b = some true := (allTruth_congr hw).trans hv
  rw [ha, Connective.and_link_cons h.proper.1, anyTruth_append, anyTruth, hwb, Truth.true_or,
    Truth.or_true]

/-- Where AND joins something loose, text and condition differ on some row, if every predicate
stands once. -/
theorem Complete.differs {e : Condition} (h : e.Complete) (hn : e.predicates.Nodup)
    (hk : ¬e.Kept) : ∃ b v, anyTruth v e.alternatives = some b ∧ e.truth v = some (!b) := by
  induction e with
  | logical op left right ihl ihr =>
    rw [predicates_logical] at hn
    obtain ⟨hnl, hnr, hd⟩ := List.nodup_append'.1 hn
    simp only [alternatives, anyTruth_group, truth]
    by_cases hop : op = .and → ¬left.Loose ∧ ¬right.Loose
    -- the difference is below: on the other side stands what changes nothing
    · simp only [anyTruth_link_alternatives hop h.1 h.2]
      by_cases hl : left.Kept
      · have hr : ¬right.Kept := fun hr => hk ⟨hop, hl, hr⟩
        obtain ⟨b, v, ht, hu⟩ := ihr h.2 hnr hr
        obtain ⟨w, -, hw, hlt, hlu⟩ := (h.1.paired hnl).after (List.disjoint_symm hd) op.unit v
        refine ⟨b, w, ?_, ?_⟩
        · rw [hlt, op.unit_truth, anyTruth_congr hw, ht]
        · rw [hlu, op.unit_truth, truth_congr hw, hu]
      · obtain ⟨b, v, ht, hu⟩ := ihl h.1 hnl hl
        obtain ⟨w, -, hw, hrt, hru⟩ := (h.2.paired hnr).after hd op.unit v
        refine ⟨b, w, ?_, ?_⟩
        · rw [hrt, op.truth_unit, anyTruth_congr hw, ht]
        · rw [hru, op.truth_unit, truth_congr hw, hu]
    -- the difference is made here
    · obtain ⟨rfl, hloose⟩ := Classical.not_imp.1 hop
      by_cases hl : left.Loose
      · obtain ⟨v, ht, hr⟩ := hl.differs_left h.1 h.2 hn
        exact ⟨true, v, ht, by rw [hr]; exact Truth.and_false _⟩
      · have hr : right.Loose := by
          by_contra hr
          exact hloose ⟨hl, hr⟩
        obtain ⟨v, ht, hl⟩ := hr.differs_right h.1 h.2 hn
        exact ⟨true, v, ht, by rw [hl]; rfl⟩
  | not inner ih =>
    rw [predicates_not] at hn
    obtain ⟨b, v, ht, hu⟩ := ih h hn hk
    refine ⟨!b, v, ?_, ?_⟩
    · rw [alternatives, anyTruth_negated, Factor.truth, ht]
      rfl
    · rw [truth, hu]
      rfl
  | raw | compare | columns | nullCheck | inList | between => exact absurd trivial hk

def AllKept (es : List Condition) : Prop :=
  (∀ e ∈ es, e.Kept) ∧ (1 < es.length → ∀ e ∈ es, ¬e.Loose)

def Conjoins (text : Sql) (es : List Condition) : Prop :=
  ∃ r, text.reading = some r ∧
    ∀ v, anyTruth v r = some true ↔ ∀ e ∈ es, e.truth v = some true

theorem conjoin_join (es : List Condition) (e : Condition) :
    some (conjoin (join .and es) e) = join .and (es ++ [e]) := by
  cases es with
  | nil => rfl
  | cons c rest => simp [join, conjoin]

section

variable (c : Condition) (es : List Condition)

theorem complete_foldl : (es.foldl (logical .and) c).Complete ↔ ∀ e ∈ c :: es, e.Complete := by
  induction es generalizing c with
  | nil => simp
  | cons e es ih =>
    rw [List.foldl_cons, ih]
    simp only [List.forall_mem_cons, Complete, and_assoc]

theorem truth_foldl (v : Valuation) :
    (es.foldl (logical .and) c).truth v = some true ↔ ∀ e ∈ c :: es, e.truth v = some true := by
  induction es generalizing c with
  | nil => simp
  | cons e es ih =>
    rw [List.foldl_cons, ih]
    simp only [List.forall_mem_cons, truth, Connective.truth, Truth.and_eq_true, and_assoc]

theorem predicates_foldl :
    (es.foldl (logical .and) c).predicates = (c :: es).flatMap predicates := by
  induction es generalizing c with
  | nil => simp
  | cons e es ih =>
    rw [List.foldl_cons, ih]
    simp [predicates_logical]

theorem kept_foldl : (es.foldl (logical .and) c).Kept ↔ AllKept (c :: es) := by
  induction es generalizing c with
  | nil => simp [AllKept]
  | cons e es ih =>
    rw [List.foldl_cons, ih]
    simp only [AllKept, List.forall_mem_cons, Kept, List.length_cons]
    have hl : ¬(logical .and c e).Loose := id
    cases es with
    | nil => simp; tauto
    | cons e' es => simp; tauto

end

/-- Conditions joined by AND, each complete: the text of all of them conjoins them if AND joins
nothing loose, and, if every predicate stands once, only then. -/
theorem conjoins_join {es : List Condition} {c : Condition} (h : join .and es = some c)
    (hc : ∀ e ∈ es, e.Complete) :
    (AllKept es → Conjoins c.render es) ∧
      ((es.flatMap predicates).Nodup → Conjoins c.render es → AllKept es) := by
  cases es with
  | nil => cases h
  | cons e es =>
    cases h
    have hcomplete := (complete_foldl e es).2 hc
    have hread := reading_render hcomplete
    constructor
    · intro hk
      refine ⟨_, hread, fun v => ?_⟩
      rw [((kept_foldl e es).2 hk).truth_alternatives hcomplete v]
      exact truth_foldl e es v
    · intro hn hconj
      rw [← kept_foldl]
      by_contra hk
      obtain ⟨r, hr, hv⟩ := hconj
      cases hread.symm.trans hr
      obtain ⟨b, v, ht, hu⟩ := hcomplete.differs (by rwa [predicates_foldl]) hk
      have hiff := (hv v).trans (truth_foldl e es v).symm
      rw [ht, hu] at hiff
      cases b <;> simp at hiff

end Condition

end RecordSql
