import RecordSql.Scope

/-! What comes of a reference to a column among the sources of a statement. There are two ways to
denote a column and four to denote none, and of a reference in a scope exactly one of them is
true. -/

namespace RecordSql.Scope

/-- The column that a reference denotes, or what is wrong with it. With the name of a source the
first source of that name decides; without one, exactly one source has to have the column. -/
inductive Finds (scope : Scope) (r : ColumnRef) : Except SchemaError Column → Prop
  | named {table : String} {before after : Scope} {e : Exposed} {c : Column}
    (ht : r.table = some table) (hscope : scope = before ++ e :: after)
    (hbefore : ∀ e' ∈ before, e'.name ≠ table) (he : e.name = table)
    (hc : e.find? r.column = some c) : Finds scope r (.ok c)
  | alone {before after : Scope} {e : Exposed} {c : Column}
    (ht : r.table = none) (hscope : scope = before ++ e :: after)
    (hothers : ∀ e' ∈ before ++ after, e'.find? r.column = none)
    (hc : e.find? r.column = some c) : Finds scope r (.ok c)
  | unknownTable {table : String} (ht : r.table = some table)
    (hscope : ∀ e ∈ scope, e.name ≠ table) : Finds scope r (.error (.unknownTable table))
  | unknownColumn {table : String} {before after : Scope} {e : Exposed}
    (ht : r.table = some table) (hscope : scope = before ++ e :: after)
    (hbefore : ∀ e' ∈ before, e'.name ≠ table) (he : e.name = table)
    (hc : e.find? r.column = none) :
    Finds scope r (.error (.unknownColumn (quoted table) r.column))
  | nowhere (ht : r.table = none) (hscope : ∀ e ∈ scope, e.find? r.column = none) :
    Finds scope r (.error (.unknownColumn scope.describe r.column))
  | ambiguous {before between after : Scope} {e e' : Exposed} {c c' : Column}
    (ht : r.table = none) (hscope : scope = before ++ e :: (between ++ e' :: after))
    (hc : e.find? r.column = some c) (hc' : e'.find? r.column = some c') :
    Finds scope r (.error (.ambiguousColumn r.column))

variable {scope : Scope} {r : ColumnRef}

theorem mapError_ok {ε ε' α : Type} (f : ε → ε') (a : α) :
    (.ok a : Except ε α).mapError f = .ok a := rfl

theorem mapError_error {ε ε' α : Type} (f : ε → ε') (e : ε) :
    (.error e : Except ε α).mapError f = .error (f e) := rfl

theorem find?_named {table : String} {before after : Scope} {e : Exposed}
    (hbefore : ∀ e' ∈ before, e'.name ≠ table) (he : e.name = table) :
    (before ++ e :: after).find? (·.name = table) = some e := by
  refine List.find?_eq_some_iff_append.2 ⟨by simpa using he, before, after, rfl, ?_⟩
  intro e' he'
  simpa using hbefore e' he'

theorem filterMap_find?_eq_nil {column : String} (h : ∀ e ∈ scope, e.find? column = none) :
    scope.filterMap (·.find? column) = [] := List.filterMap_eq_nil_iff.2 h

theorem Finds.resolve_eq {x : Except SchemaError Column} (h : scope.Finds r x) :
    scope.resolve r = x.mapError .schema := by
  unfold resolve
  cases h with
  | named ht hscope hbefore he hc =>
    subst hscope
    simp only [ht, find?_named hbefore he, hc, mapError_ok]
  | alone ht hscope hothers hc =>
    have hbefore := filterMap_find?_eq_nil fun e' he' => hothers e' (List.mem_append_left _ he')
    have hafter := filterMap_find?_eq_nil fun e' he' => hothers e' (List.mem_append_right _ he')
    simp only [ht, hscope, List.filterMap_append, List.filterMap_cons, hbefore, hc, hafter,
      List.nil_append, mapError_ok]
  | @unknownTable table ht hscope =>
    have hnone : scope.find? (·.name = table) = none :=
      List.find?_eq_none.2 fun e he => by simpa using hscope e he
    simp only [ht, hnone, mapError_error]
  | unknownColumn ht hscope hbefore he hc =>
    subst hscope
    simp only [ht, find?_named hbefore he, hc, mapError_error]
  | nowhere ht hscope =>
    simp only [ht, filterMap_find?_eq_nil hscope, mapError_error]
  | ambiguous ht hscope hc hc' =>
    simp only [ht, hscope, List.filterMap_append, List.filterMap_cons, hc, hc', mapError_error]
    -- two columns at least are left over, whatever the sources before them have
    split
    · next hnil => simp at hnil
    · next hone =>
      have hlength := congrArg List.length hone
      simp only [List.length_append, List.length_cons, List.length_nil] at hlength
      omega
    · rfl

theorem exists_finds (scope : Scope) (r : ColumnRef) : ∃ x, scope.Finds r x := by
  cases ht : r.table with
  | some table =>
    cases he : scope.find? (·.name = table) with
    | none =>
      refine ⟨_, .unknownTable ht fun e hmem => ?_⟩
      simpa using List.find?_eq_none.1 he e hmem
    | some e =>
      obtain ⟨hname, before, after, hscope, hbefore⟩ := List.find?_eq_some_iff_append.1 he
      have hname : e.name = table := by simpa using hname
      have hbefore : ∀ e' ∈ before, e'.name ≠ table := fun e' h => by simpa using hbefore e' h
      cases hc : e.find? r.column with
      | none => exact ⟨_, .unknownColumn ht hscope hbefore hname hc⟩
      | some c => exact ⟨_, .named ht hscope hbefore hname hc⟩
  | none =>
    cases hf : scope.filterMap (·.find? r.column) with
    | nil => exact ⟨_, .nowhere ht (List.filterMap_eq_nil_iff.1 hf)⟩
    | cons c cs =>
      obtain ⟨before, e, after, rfl, hbefore, hc, hafter⟩ := List.filterMap_eq_cons_iff.1 hf
      cases cs with
      | nil =>
        refine ⟨_, .alone ht rfl (fun e' he' => ?_) hc⟩
        rcases List.mem_append.1 he' with he' | he'
        · exact hbefore e' he'
        · exact List.filterMap_eq_nil_iff.1 hafter e' he'
      | cons c' cs =>
        obtain ⟨between, e', rest, rfl, -, hc', -⟩ := List.filterMap_eq_cons_iff.1 hafter
        exact ⟨_, .ambiguous ht rfl hc hc'⟩

theorem mapError_schema_inj {x y : Except SchemaError Column}
    (h : x.mapError Error.schema = y.mapError Error.schema) : x = y := by
  cases x <;> cases y <;> simp_all [mapError_ok, mapError_error]

theorem Finds.unique {x y : Except SchemaError Column} (hx : scope.Finds r x)
    (hy : scope.Finds r y) : x = y :=
  mapError_schema_inj (hx.resolve_eq.symm.trans hy.resolve_eq)

/-- What a reference resolves to is what the sources say of it. -/
theorem finds_iff {x : Except SchemaError Column} :
    scope.Finds r x ↔ scope.resolve r = x.mapError .schema := by
  refine ⟨Finds.resolve_eq, fun h => ?_⟩
  obtain ⟨y, hy⟩ := exists_finds scope r
  have hxy : x = y := mapError_schema_inj (h.symm.trans hy.resolve_eq)
  exact hxy ▸ hy

end RecordSql.Scope
