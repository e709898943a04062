import RecordSql.Json.Reader
import RecordSql.Proofs.Json.Scanning

/-! The reader takes the tokens of a document to that document, as long as no more containers are
open than it allows, and whatever it reads from integers is such a document. -/

namespace RecordSql.Json.Frame

variable {n : Nat} {j : Json} {t : Token} {ts ts' : List Token} {s s' s'' : State}
  {stack : List Frame} {items : List Json} {fields front : Fields}

section Runs

def Runs (s : State) (ts : List Token) (s' : State) : Prop := ts.foldlM step s = some s'

theorem Runs.nil : Runs s [] s := rfl

theorem Runs.cons (h : step s t = some s') (h' : Runs s' ts s'') : Runs s (t :: ts) s'' := by
  rw [Runs, List.foldlM_cons, h]
  exact h'

theorem Runs.append (h : Runs s ts s') (h' : Runs s' ts' s'') : Runs s (ts ++ ts') s'' := by
  rw [Runs, List.foldlM_append, h]
  exact h'

def Reads (n : Nat) (j : Json) : Prop :=
  ∀ stack : List Frame, stack.length + n ≤ depthLimit →
    Runs (.expect stack) (tokens j) (.value j stack)

theorem exists_tokens_eq (j : Json) : ∃ t ts, tokens j = t :: ts ∧ t ≠ .closeArray := by
  cases j <;> exact ⟨_, _, rfl, nofun⟩

theorem exists_itemTokens_eq (j : Json) (items : List Json) :
    ∃ t ts, itemTokens (j :: items) = t :: ts ∧ t ≠ .closeArray := by
  obtain ⟨t, ts, h, ht⟩ := exists_tokens_eq j
  cases items with
  | nil => exact ⟨t, ts, h, ht⟩
  | cons k items => exact ⟨t, _, by rw [itemTokens, h]; rfl, ht⟩

theorem step_opened (ht : t ≠ .closeArray) :
    step (.opened stack) t = step (.expect (.array [] :: stack)) t := by
  cases t <;> first | rfl | exact absurd rfl ht

theorem runs_items {done : List Json} (hs : stack.length + 1 + n ≤ depthLimit)
    (h : ∀ k ∈ j :: items, Reads n k) :
    Runs (.expect (.array done :: stack)) (itemTokens (j :: items) ++ [.closeArray])
      (.value (.array (done ++ j :: items)) stack) := by
  induction items generalizing j done with
  | nil =>
    have hj := h j List.mem_cons_self (.array done :: stack) hs
    exact hj.append (.cons rfl .nil)
  | cons k items ih =>
    have hj := h j List.mem_cons_self (.array done :: stack) hs
    have hmore : Runs (.expect (.array (done ++ [j]) :: stack)) _ _ :=
      ih fun l hl => h l (List.mem_cons_of_mem _ hl)
    rw [List.append_assoc] at hmore
    show Runs _ ((tokens j ++ .comma :: itemTokens (k :: items)) ++ [.closeArray]) _
    rw [List.append_assoc]
    exact hj.append (.cons rfl hmore)

theorem runs_fields {key : String} (hs : stack.length + 1 + n ≤ depthLimit)
    (hsorted : Sorted (front ++ (key, j) :: fields)) (h : ∀ f ∈ (key, j) :: fields, Reads n f.2) :
    Runs (.key front stack) (fieldTokens ((key, j) :: fields) ++ [.closeObject])
      (.value (.object (front ++ (key, j) :: fields)) stack) := by
  induction fields generalizing key j front with
  | nil =>
    have hj := h _ List.mem_cons_self (.object front key :: stack) hs
    have hlast : insertField key j front = front ++ [(key, j)] := insertField_last hsorted.append_lt
    rw [← hlast]
    exact .cons rfl (.cons rfl (hj.append (.cons rfl .nil)))
  | cons f fields ih =>
    obtain ⟨key', k⟩ := f
    have hj := h _ List.mem_cons_self (.object front key :: stack) hs
    have hlast : insertField key j front = front ++ [(key, j)] := insertField_last hsorted.append_lt
    have hassoc : front ++ (key, j) :: (key', k) :: fields =
      insertField key j front ++ (key', k) :: fields := by rw [hlast, List.append_assoc]; rfl
    rw [hassoc] at hsorted ⊢
    have hmore := ih hsorted fun f hf => h f (List.mem_cons_of_mem _ hf)
    show Runs _ (.text key :: .colon ::
      ((tokens j ++ .comma :: fieldTokens ((key', k) :: fields)) ++ [.closeObject])) _
    rw [List.append_assoc]
    exact .cons rfl (.cons rfl (hj.append (.cons rfl hmore)))

theorem reads {j : Json} (h : Fits n j) : Reads n j := by
  induction h with
  | null | bool | integer | text => exact fun _ _ => .cons rfl .nil
  | @array n items _ ih =>
    intro stack hs
    have hopen : step (.expect stack) .openArray = some (.opened stack) :=
      if_pos (by omega)
    cases items with
    | nil => exact .cons hopen (.cons rfl .nil)
    | cons j items =>
      have hitems : Runs (.expect (.array [] :: stack)) _ _ := runs_items (by omega) ih
      -- the array was opened, but no item is expected before its first token is there
      obtain ⟨t, ts, heq, ht⟩ := exists_itemTokens_eq j items
      refine .cons hopen ?_
      show Runs _ (itemTokens (j :: items) ++ [.closeArray]) _
      rw [heq, List.cons_append, Runs, List.foldlM_cons] at hitems ⊢
      rw [step_opened ht]
      exact hitems
  | @object n fields hsorted _ ih =>
    intro stack hs
    have hopen : step (.expect stack) .openObject = some (.keyOrClose stack) :=
      if_pos (by omega)
    cases fields with
    | nil => exact .cons hopen (.cons rfl .nil)
    | cons f fields =>
      obtain ⟨key, j⟩ := f
      have hfields : Runs (.key [] stack) _ _ := runs_fields (by omega) hsorted ih
      refine .cons hopen ?_
      -- a key is read the same way whether or not the object could still be closed
      cases fields with
      | nil => exact hfields
      | cons => exact hfields

end Runs

section Sound

def Holds (n : Nat) : Frame → Prop
  | .array items => ∀ j ∈ items, Fits n j
  | .object fields _ => Sorted fields ∧ ∀ f ∈ fields, Fits n f.2

inductive Stacked : Nat → List Frame → Prop
  | nil : Stacked depthLimit []
  | cons {n : Nat} {f : Frame} {stack : List Frame} : Stacked (n + 1) stack → f.Holds n →
    Stacked n (f :: stack)

def State.Sound : State → Prop
  | .expect stack => ∃ n, Stacked n stack
  | .opened stack | .keyOrClose stack => ∃ n, Stacked (n + 1) stack
  | .key fields stack | .colon fields _ stack =>
    ∃ n, Stacked (n + 1) stack ∧ Sorted fields ∧ ∀ f ∈ fields, Fits n f.2
  | .value j stack => ∃ n, Stacked n stack ∧ Fits n j

theorem Stacked.add_length (h : Stacked n stack) : n + stack.length = depthLimit := by
  induction h with
  | nil => rfl
  | cons _ _ ih => rw [List.length_cons, ← ih]; omega

theorem Stacked.room (h : Stacked n stack) (hlt : stack.length < depthLimit) :
    ∃ m, n = m + 1 := by
  have hadd := h.add_length
  exact ⟨n - 1, by omega⟩

theorem begin?_sound (h : Stacked n stack) (ht : t.Whole) (hs : begin? stack t = some s) :
    s.Sound := by
  cases t with
  | scalar j =>
    cases hs
    exact ⟨n, h, ht j rfl n⟩
  | text text =>
    cases hs
    exact ⟨n, h, .text n text⟩
  | openArray =>
    obtain ⟨hlt, rfl⟩ : stack.length < depthLimit ∧ .opened stack = s := by
      simpa [begin?] using hs
    obtain ⟨m, rfl⟩ := h.room hlt
    exact ⟨m, h⟩
  | openObject =>
    obtain ⟨hlt, rfl⟩ : stack.length < depthLimit ∧ .keyOrClose stack = s := by
      simpa [begin?] using hs
    obtain ⟨m, rfl⟩ := h.room hlt
    exact ⟨m, h⟩
  | closeArray | closeObject | comma | colon => cases hs

theorem forall_mem_append (h : ∀ k ∈ items, Fits n k) (hj : Fits n j) :
    ∀ k ∈ items ++ [j], Fits n k :=
  List.forall_mem_append.2 ⟨h, List.forall_mem_singleton.2 hj⟩

theorem forall_mem_insertField {key : String} (h : ∀ f ∈ fields, Fits n f.2) (hj : Fits n j) :
    ∀ f ∈ insertField key j fields, Fits n f.2 := by
  intro f hf
  rcases of_mem_insertField hf with rfl | hf
  · exact hj
  · exact h f hf

theorem step_sound (h : s.Sound) (ht : t.Whole) (hs : step s t = some s') : s'.Sound := by
  unfold step at hs
  split at hs
  · -- a value is due
    obtain ⟨n, hstack⟩ := h
    exact begin?_sound hstack ht hs
  · obtain ⟨n, hstack⟩ := h
    cases hs
    exact ⟨n + 1, hstack, .array nofun⟩
  · obtain ⟨n, hstack⟩ := h
    exact begin?_sound (hstack.cons (f := .array []) nofun) ht hs
  · -- the key of a field
    cases hs
    exact h
  · obtain ⟨n, hstack⟩ := h
    cases hs
    exact ⟨n, hstack, .nil, nofun⟩
  · obtain ⟨n, hstack⟩ := h
    cases hs
    exact ⟨n + 1, hstack, .object .nil nofun⟩
  · obtain ⟨n, hstack, hfields⟩ := h
    cases hs
    exact ⟨n, hstack.cons hfields⟩
  · -- an item of an array ends
    obtain ⟨n, ⟨⟩ | ⟨hstack, hitems⟩, hj⟩ := h
    cases hs
    exact ⟨n, hstack.cons (f := .array _) (forall_mem_append hitems hj)⟩
  · obtain ⟨n, ⟨⟩ | ⟨hstack, hitems⟩, hj⟩ := h
    cases hs
    exact ⟨n + 1, hstack, .array (forall_mem_append hitems hj)⟩
  · -- a field of an object ends
    obtain ⟨n, ⟨⟩ | ⟨hstack, hsorted, hfields⟩, hj⟩ := h
    cases hs
    exact ⟨n, hstack, hsorted.insertField, forall_mem_insertField hfields hj⟩
  · obtain ⟨n, ⟨⟩ | ⟨hstack, hsorted, hfields⟩, hj⟩ := h
    cases hs
    exact ⟨n + 1, hstack, .object hsorted.insertField (forall_mem_insertField hfields hj)⟩
  · cases hs

theorem Runs.sound (hr : Runs s ts s') (hts : ∀ t ∈ ts, t.Whole) (h : s.Sound) : s'.Sound := by
  induction ts generalizing s with
  | nil =>
    cases hr
    exact h
  | cons t ts ih =>
    obtain ⟨ht, hts⟩ := List.forall_mem_cons.1 hts
    rw [Runs, List.foldlM_cons] at hr
    obtain ⟨s₁, hs, hr⟩ := Option.bind_eq_some_iff.1 hr
    exact ih hr hts (step_sound h ht hs)

end Sound

end RecordSql.Json.Frame
