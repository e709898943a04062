import RecordSql.Engine.Basic

/-! What an activity does to a world, step by step. -/

namespace RecordSql

variable {σ α β : Type}

theorem Act.bind_apply (a : Act σ α) (f : α → Act σ β) (w : World σ) :
    (a >>= f) w = f (a w).1 (a w).2 := rfl

namespace Run

theorem bind_apply (r : Run σ α) (f : α → Run σ β) (w : World σ) :
    (r >>= f) w =
      match r w with
      | (.ok a, w) => f a w
      | (.error e, w) => (.error e, w) := by
  change ExceptT.bind r f w = _
  simp only [ExceptT.bind, ExceptT.mk, bind, StateT.bind, ExceptT.bindCont]
  rcases r w with ⟨_ | _, _⟩ <;> rfl

theorem lift_bind_apply (a : Act σ α) (f : α → Run σ β) (w : World σ) :
    ((liftM a : Run σ α) >>= f) w = f (a w).1 (a w).2 := rfl

theorem outcome_bind_apply (r : Run σ α) (f : Except Error α → Run σ β) (w : World σ) :
    (outcome r >>= f) w = f (r w).1 (r w).2 := rfl

theorem ofExcept_bind_apply (x : Except Error α) (f : α → Run σ β) (w : World σ) :
    (ofExcept x >>= f) w =
      match x with
      | .ok a => f a w
      | .error e => (.error e, w) := by
  rw [bind_apply]
  cases x <;> rfl

end Run

end RecordSql
