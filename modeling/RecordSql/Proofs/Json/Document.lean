import Mathlib.Data.List.Sort
import RecordSql.Json.Basic

/-! Documents whose numbers are integers of 64 bits. Their objects keep the fields in the order of
keys, so two of them that hold the same are equal. -/

namespace RecordSql.Json

abbrev Fields := List (String × Json)

def Sorted (fields : Fields) : Prop := (fields.map Prod.fst).Pairwise (· < ·)

def IsWord (i : Int) : Prop := -0x8000000000000000 ≤ i ∧ i < 0x10000000000000000

inductive Fits : Nat → Json → Prop
  | null (n : Nat) : Fits n .null
  | bool (n : Nat) (b : Bool) : Fits n (.bool b)
  | integer (n : Nat) {i : Int} : IsWord i → Fits n (.integer i)
  | text (n : Nat) (s : String) : Fits n (.text s)
  | array {n : Nat} {items : List Json} : (∀ j ∈ items, Fits n j) → Fits (n + 1) (.array items)
  | object {n : Nat} {fields : Fields} : Sorted fields → (∀ f ∈ fields, Fits n f.2) →
    Fits (n + 1) (.object fields)

inductive Alike : Json → Json → Prop
  | refl (j : Json) : Alike j j
  | array {items items' : List Json} : items.length = items'.length →
    (∀ (i : Nat) (h : i < items.length) (h' : i < items'.length), Alike items[i] items'[i]) →
    Alike (.array items) (.array items')
  | object {fields fields' : Fields} :
    (∀ key, key ∈ fields.map Prod.fst ↔ key ∈ fields'.map Prod.fst) →
    (∀ key j j', (key, j) ∈ fields → (key, j') ∈ fields' → Alike j j') →
    Alike (.object fields) (.object fields')

section Fields

variable {fields : Fields} {key : String} {j : Json}

theorem lt_of_not_lt {k : String} (h : ¬key < k) (hne : key ≠ k) : k < key := by
  by_contra hk
  exact hne (String.le_antisymm (String.not_lt.1 hk) (String.not_lt.1 h))

theorem of_mem_insertField {f : String × Json} (h : f ∈ insertField key j fields) :
    f = (key, j) ∨ f ∈ fields := by
  induction fields with
  | nil => exact .inl (List.mem_singleton.1 h)
  | cons g rest ih =>
    obtain ⟨k, v⟩ := g
    unfold insertField at h
    split at h
    · exact List.mem_cons.1 h
    split at h
    · exact (List.mem_cons.1 h).imp_right (List.mem_cons_of_mem _)
    · rcases List.mem_cons.1 h with rfl | h
      · exact .inr List.mem_cons_self
      · exact (ih h).imp_right (List.mem_cons_of_mem _)

theorem sorted_cons {f : String × Json} :
    Sorted (f :: fields) ↔ (∀ g ∈ fields, f.1 < g.1) ∧ Sorted fields := by
  simp [Sorted]

theorem Sorted.insertField (h : Sorted fields) : Sorted (insertField key j fields) := by
  induction fields with
  | nil => exact sorted_cons.2 ⟨nofun, h⟩
  | cons g rest ih =>
    obtain ⟨k, v⟩ := g
    obtain ⟨hk, hrest⟩ := sorted_cons.1 h
    unfold Json.insertField
    split
    · next hlt =>
      refine sorted_cons.2 ⟨List.forall_mem_cons.2 ⟨hlt, fun f hf => ?_⟩, h⟩
      exact String.lt_trans hlt (hk f hf)
    split
    · next heq =>
      subst heq
      exact sorted_cons.2 ⟨hk, hrest⟩
    · next hlt hne =>
      refine sorted_cons.2 ⟨fun f hf => ?_, ih hrest⟩
      rcases of_mem_insertField hf with rfl | hf
      · exact lt_of_not_lt hlt hne
      · exact hk f hf

theorem insertField_last (h : ∀ f ∈ fields, f.1 < key) :
    insertField key j fields = fields ++ [(key, j)] := by
  induction fields with
  | nil => rfl
  | cons g rest ih =>
    obtain ⟨k, v⟩ := g
    obtain ⟨hk, hrest⟩ := List.forall_mem_cons.1 h
    have hlt : ¬key < k := String.lt_asymm hk
    have hne : key ≠ k := by
      rintro rfl
      exact String.lt_irrefl key hk
    rw [insertField, if_neg hlt, if_neg hne, ih hrest, List.cons_append]

theorem Sorted.append_lt {more : Fields} (h : Sorted (fields ++ (key, j) :: more)) :
    ∀ f ∈ fields, f.1 < key := by
  intro f hf
  have hpair := h
  rw [Sorted, List.map_append, List.pairwise_append] at hpair
  exact hpair.2.2 f.1 (List.mem_map_of_mem hf) key List.mem_cons_self

theorem Sorted.keys_eq {fields' : Fields} (h : Sorted fields) (h' : Sorted fields')
    (hkeys : ∀ key, key ∈ fields.map Prod.fst ↔ key ∈ fields'.map Prod.fst) :
    fields.map Prod.fst = fields'.map Prod.fst :=
  have : Std.Irrefl fun key key' : String => key < key' := ⟨String.lt_irrefl⟩
  have : Std.Antisymm fun key key' : String => key < key' :=
    ⟨fun _ _ hlt hgt => absurd hgt (String.lt_asymm hlt)⟩
  List.Pairwise.eq_of_mem_iff h h' fun {key} => hkeys key

end Fields

theorem Alike.eq {j k : Json} (h : Alike j k) {n m : Nat} (hj : Fits n j) (hk : Fits m k) :
    j = k := by
  induction h generalizing n m with
  | refl => rfl
  | @array items items' hlength _ ih =>
    obtain ⟨⟩ | ⟨⟩ | ⟨⟩ | ⟨⟩ | ⟨hitems⟩ | ⟨⟩ := hj
    obtain ⟨⟩ | ⟨⟩ | ⟨⟩ | ⟨⟩ | ⟨hitems'⟩ | ⟨⟩ := hk
    refine congrArg Json.array (List.ext_getElem hlength fun i hi hi' => ?_)
    exact ih i hi hi' (hitems _ (List.getElem_mem hi)) (hitems' _ (List.getElem_mem hi'))
  | @object fields fields' hkeys _ ih =>
    obtain ⟨⟩ | ⟨⟩ | ⟨⟩ | ⟨⟩ | ⟨⟩ | ⟨hsorted, hvalues⟩ := hj
    obtain ⟨⟩ | ⟨⟩ | ⟨⟩ | ⟨⟩ | ⟨⟩ | ⟨hsorted', hvalues'⟩ := hk
    have heq := hsorted.keys_eq hsorted' hkeys
    have hlength : fields.length = fields'.length := by simpa using congrArg List.length heq
    refine congrArg Json.object (List.ext_getElem hlength fun i hi hi' => ?_)
    have hkey : fields[i].1 = fields'[i].1 := by
      have hget := congrArg (·[i]?) heq
      simpa [hi, hi'] using hget
    have hi₁ : fields[i] ∈ fields := List.getElem_mem hi
    have hi₂ : (fields[i].1, fields'[i].2) ∈ fields' := by
      rw [hkey]
      exact List.getElem_mem hi'
    have hvalue : fields[i].2 = fields'[i].2 :=
      ih fields[i].1 _ _ hi₁ hi₂ (hvalues _ hi₁) (hvalues' _ (List.getElem_mem hi'))
    exact Prod.ext hkey hvalue

end RecordSql.Json
