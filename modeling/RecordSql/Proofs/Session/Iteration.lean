import RecordSql.Proofs.Builder.Iteration
import RecordSql.Proofs.Session.Sound

/-! Every way of reading the rows of a query that a session keeps gives the same items, and a query
that was read is read again from its first row. -/

namespace RecordSql

open Builder

variable {σ : Type}

namespace Session

/-- A query that builds is iterated over and fetched alike, from whatever the engine answers once it
was started; and after any number of rows it starts anew. -/
theorem Reached.readsAlike {c : Connection σ} {s : Session σ} {name : String} {b : Builder Select}
    {sql : Sql} (h : Reached c s) (hb : s.builder? name = some (.select b))
    (hsql : b.build = .ok sql) :
    ∃ i opening, Reads c b s.world sql i opening ∧
      ∀ state rows failure, c.engine.Says s.world.engine opening state →
        c.engine.Yields i state rows failure → ∀ n,
          Reads c (b.rows c n s.world).1.2 (b.rows c n s.world).2 sql
            (b.rows c n s.world).2.fresh
            ([(.finalize i, .accepted)] ++
              ((.prepare (b.rows c n s.world).2.fresh sql.text, .accepted) ::
                  bindings (b.rows c n s.world).2.fresh 1 sql.params ++
                [(.query (b.rows c n s.world).2.fresh, .accepted)])) := by
  have hsound : b.Sound s.world := h.sound.builders _ (mem_of_builder? hb)
  obtain ⟨i, opening, hopens⟩ := hsound.exists_opens hsql
  have hreads := hopens.reads c hsql
  refine ⟨i, opening, hreads, fun state rows failure hsays hyields n => ?_⟩
  have hiterates := hreads.iterates hsays hyields n
  have hbuild : (b.rows c n s.world).1.2.build = .ok sql := hiterates.build_eq.trans hsql
  exact (hiterates.opens c sql).reads c hbuild

namespace Notes

def shelf : List Row :=
  [⟨["id", "title"], [.integer 1, .text "a"]⟩, ⟨["title", "id"], [.text "b", .text "two"]⟩]

def shelved : Session Script.State :=
  (opened { results := [shelf] }).moves connection [.perform (.select "q" "Note")]

theorem reached_shelved : Reached connection shelved :=
  (Reached.opened { results := [shelf] } {} [.ok table] rfl).moves _

def all : Builder Select := { content := .ofTable table }

theorem says_shelf (text : String) :
    ∃ state, connection.engine.Says shelved.world.engine
        [(.prepare 0 text, .accepted), (.query 0, .accepted)] state ∧
      connection.engine.Yields 0 state shelf none :=
  ⟨_, .cons rfl (.cons rfl (.nil _)), .row rfl (.row rfl (.ended rfl))⟩

theorem readsAlike_shelf :
    ∃ opening, Iterates connection all shelved.world 0 opening (table.items shelf none)
        (steps 0 shelf none) 4 ∧
      Fetches connection all shelved.world 0 opening (table.items shelf none)
        (steps 0 shelf none) ∧
      (all.rows connection 4 shelved.world).1.2.slot.stage = .exhausted := by
  have hb : shelved.builder? "q" = some (.select all) := rfl
  obtain ⟨i, opening, hreads, -⟩ := reached_shelved.readsAlike hb rfl
  cases hreads.opens with
  | ready hstage => cases hstage
  | anew =>
    obtain ⟨state, hsays, hyields⟩ := says_shelf (all.content.sql ++ .ofText ";").text
    have hiterates := hreads.iterates hsays hyields 4
    refine ⟨_, hiterates, hreads.fetches hsays hyields, hiterates.exhausted.2 ?_⟩
    exact List.mem_of_getElem? (i := 2) rfl

end Notes

end Session

end RecordSql
