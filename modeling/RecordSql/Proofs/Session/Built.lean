import RecordSql.Proofs.Session.Grounded
import RecordSql.Proofs.Session.Requests
import RecordSql.Proofs.Statement.Placeholders

/-! What the kept builders of a session bring to the engine. Nothing in it is undeclared or
mistyped, every value stands for the placeholder in its own place, and a builder that does not
build asks for nothing. -/

namespace RecordSql

open RecordSql.Part

variable {σ : Type} {schema : Schema}

theorem AnyBuilder.asked_of_build_error {b : AnyBuilder} {e : Error} (h : b.build = .error e)
    (r : Request) (sql : Sql) : b.asked r ≠ .ok sql := by
  intro ha
  unfold asked at ha
  split at ha
  · next b =>
    obtain ⟨he, hb⟩ := Builder.buildCount_eq_ok.1 ha
    obtain ⟨_, hc, -⟩ := bind_eq_ok.1 hb
    have hok : b.build = .ok (b.content.sql ++ .ofText ";") :=
      Builder.build_eq_ok.2 ⟨he, bind_eq_ok.2 ⟨(), hc, rfl⟩⟩
    cases hok.symm.trans h
  · next b =>
    obtain ⟨he, hb⟩ := Builder.build_eq_ok.1 ha
    obtain ⟨_, hc, -⟩ := bind_eq_ok.1 hb
    have he' : b.slot.error = none := by
      by_contra hne
      exact Builder.error_edit_ne_none _ (.inl hne) he
    have hok : b.build = .ok (b.content.sql ++ .ofText ";") :=
      Builder.build_eq_ok.2 ⟨he', bind_eq_ok.2 ⟨(), hc, rfl⟩⟩
    cases hok.symm.trans h
  · cases ha.symm.trans h

namespace Session

/-- A statement whose values are those of its placeholders, in order: written in place of them they
give the text of its parts with every value in its own place. -/
structure Fills (ps : List Part) (sql : Sql) : Prop where
  printed : sql = printAll ps
  count : Placeholder.count sql.text = sql.params.length
  filled : ∀ lit : Value → String, Placeholder.fill lit sql = inlineAll lit ps

theorem fills_printAll {ps : List Part} (hd : ∀ p ∈ ps, p.Declared schema)
    (ht : ∀ p ∈ ps, p.Tidy) : Fills ps (printAll ps) := by
  obtain ⟨ha, hf⟩ := aligned_printAll hd ht
  exact ⟨rfl, ha.count, hf⟩

theorem Reached.fills {c : Connection σ} {s : Session σ} (h : Reached c s) {name : String}
    {b : AnyBuilder} (hb : s.builder? name = some b) :
    (∀ sql, b.build = .ok sql → (∀ p ∈ b.parts, p.Tidy) → Fills b.parts sql) ∧
      ∀ q sql, b = .select q → q.buildCount = .ok sql → (∀ p ∈ q.content.countParts, p.Tidy) →
        Fills q.content.countParts sql := by
  have hg := h.grounded.builders _ (mem_of_builder? hb)
  constructor
  · intro sql hsql ht
    rw [AnyBuilder.build_eq_printAll hsql]
    exact fills_printAll (hg.declared_parts hsql) ht
  · rintro q sql rfl hsql ht
    have hsql := (Builder.buildCount_eq_ok.1 hsql).2
    rw [Select.buildCount_eq_printAll hsql]
    exact fills_printAll (Select.declared_countParts hg hsql) ht

namespace Notes

def nesting : List (Move Script.State) :=
  [.perform (.select "inner" "Note"),
    .perform (.call "inner" (.filter (.compare (.plain "title") .like (.text "a%")))),
    .perform (.call "inner" (.subquery "recent" "sub")),
    .perform (.selectFrom "outer" "Note" "sub"),
    .perform (.call "outer" (.filter (.compare (.ofTable "recent" "id") .gt (.integer 7))))]

def recent : Subquery where
  name := "recent"
  clauses := { condition := some (.compare (.plain "title") .like (.text "a%")) }
  sources := .base (.table table)

def outer : Builder Select where
  content :=
    { Select.ofSubquery table recent with
      clauses := { condition := some (.compare (.ofTable "recent" "id") .gt (.integer 7)) } }

def nested : Session Script.State := (opened {}).moves connection nesting

theorem reached_nested : Reached connection nested := reached_opened.moves nesting

theorem outer_fills :
    ∃ sql, outer.build = .ok sql ∧ sql.params = [.text "a%", .integer 7] ∧
      Fills outer.content.parts sql := by
  have hb : nested.builder? "outer" = some (.select outer) := rfl
  exact ⟨_, rfl, rfl, (reached_nested.fills hb).1 _ rfl (by decide)⟩

end Notes

end Session

end RecordSql
