import RecordSql.Text.Decimal

/-! Reading a numeral back: what is written is a run of digits, with a fixed width or with no more
of them than it takes, and its value is the number. -/

namespace RecordSql.Decimal

theorem toNat_digit {d : Nat} (h : d < 10) : (digit d).toNat = 48 + d := by
  revert d
  decide

theorem isDigit_digit {d : Nat} (h : d < 10) : isDigit (digit d) := by
  rw [isDigit, toNat_digit h]
  simp
  omega

theorem digitValue_digit {d : Nat} (h : d < 10) : digitValue (digit d) = d := by
  rw [digitValue, toNat_digit h]
  omega

theorem digitValue_lt {c : Char} (h : isDigit c) : digitValue c < 10 := by
  simp [isDigit] at h
  rw [digitValue]
  omega

@[simp] theorem length_fixed (width n : Nat) : (fixed width n).length = width := by
  induction width generalizing n with
  | zero => rfl
  | succ width ih => simp [fixed, ih]

theorem isDigit_of_mem_fixed {width n : Nat} {c : Char} (h : c ∈ fixed width n) : isDigit c := by
  induction width generalizing n with
  | zero => cases h
  | succ width ih =>
    rcases List.mem_append.1 h with h | h
    · exact ih h
    · rw [List.mem_singleton.1 h]
      exact isDigit_digit (Nat.mod_lt _ (by decide))

theorem value_append_digit (cs : List Char) (c : Char) :
    value (cs ++ [c]) = 10 * value cs + digitValue c := by
  simp [value]

theorem value_fixed {width n : Nat} (h : n < Nat.pow 10 width) : value (fixed width n) = n := by
  induction width generalizing n with
  | zero =>
    have h : n < 1 := h
    rw [Nat.lt_one_iff.1 h]
    rfl
  | succ width ih =>
    have h : n < Nat.pow 10 width * 10 := h
    rw [fixed, value_append_digit, ih (by omega), digitValue_digit (Nat.mod_lt _ (by decide))]
    omega

theorem value_lt {cs : List Char} (h : ∀ c ∈ cs, isDigit c) :
    value cs < Nat.pow 10 cs.length := by
  -- the last digit counts for itself, and those before it for ten times their value
  rw [← List.reverse_reverse cs] at h ⊢
  generalize cs.reverse = cs at h ⊢
  induction cs with
  | nil => decide
  | cons c cs ih =>
    rw [List.reverse_cons] at h ⊢
    have hc := digitValue_lt (h c (by simp))
    have hcs := ih fun d hd => h d (List.mem_append_left _ hd)
    rw [value_append_digit, List.length_append, List.length_singleton]
    show _ < Nat.pow 10 _ * 10
    omega

theorem run_append {front rest : List Char} {most : Nat} (hd : ∀ c ∈ front, isDigit c)
    (hl : front.length ≤ most) (hr : front.length = most ∨ ∀ c ∈ rest.head?, ¬isDigit c) :
    run most (front ++ rest) = (front, rest) := by
  induction front generalizing most with
  | nil =>
    cases most with
    | zero => rfl
    | succ most =>
      cases rest with
      | nil => rfl
      | cons c rest =>
        have hc : ¬isDigit c := by simpa using hr
        simp [run, hc]
  | cons c front ih =>
    cases most with
    | zero => simp at hl
    | succ most =>
      have hc : isDigit c := hd c (by simp)
      have := ih (fun d h => hd d (by simp [h])) (by simpa using hl) (by simpa using hr)
      simp [run, hc, this]

theorem length_run_le (most : Nat) (cs : List Char) : (run most cs).1.length ≤ most := by
  fun_induction run most cs <;> simp_all

theorem isDigit_of_mem_run {most : Nat} {cs : List Char} {c : Char} (h : c ∈ (run most cs).1) :
    isDigit c := by
  induction cs generalizing most with
  | nil => cases most <;> cases h
  | cons d cs ih =>
    cases most with
    | zero => cases h
    | succ most =>
      by_cases hd : isDigit d
      · simp only [run, hd, ↓reduceIte] at h
        rcases List.mem_cons.1 h with rfl | h
        · exact hd
        · exact ih h
      · simp [run, hd] at h

theorem take?_append {front rest : List Char} {least most : Nat} (hd : ∀ c ∈ front, isDigit c)
    (hleast : least ≤ front.length) (hmost : front.length ≤ most)
    (hr : front.length = most ∨ ∀ c ∈ rest.head?, ¬isDigit c) :
    take? least most (front ++ rest) = some (value front, rest) := by
  simp [take?, run_append hd hmost hr, Nat.not_lt.2 hleast]

theorem takeAll?_append {front rest : List Char} (hd : ∀ c ∈ front, isDigit c) (hf : front ≠ [])
    (hr : ∀ c ∈ rest.head?, ¬isDigit c) :
    takeAll? (front ++ rest) = some (value front, rest) := by
  have hlength : front.length ≤ (front ++ rest).length := by simp
  exact take?_append hd (List.length_pos_iff.2 hf) hlength (.inr hr)

theorem take?_fixed {least width n : Nat} (hw : least ≤ width) (h : n < Nat.pow 10 width)
    (rest : List Char) : take? least width (fixed width n ++ rest) = some (n, rest) := by
  have hlength := length_fixed width n
  rw [take?_append (fun c => isDigit_of_mem_fixed) (by omega) (by omega) (.inl hlength),
    value_fixed h]

theorem take?_lt {least most n : Nat} {cs rest : List Char}
    (h : take? least most cs = some (n, rest)) : n < Nat.pow 10 most := by
  have hv : value (run most cs).1 < _ := value_lt fun c hc => isDigit_of_mem_run hc
  have hn : n = value (run most cs).1 := by
    simp only [take?] at h
    split at h
    · cases h
    · cases h
      rfl
  rw [hn]
  exact Nat.lt_of_lt_of_le hv (Nat.pow_le_pow_right (by decide) (length_run_le most cs))

theorem digits_eq (n : Nat) :
    digits n = if n < 10 then [digit n] else digits (n / 10) ++ [digit (n % 10)] := by
  have hdigit : ∀ d < 10, Nat.digitChar d = digit d := by decide
  rw [digits, Nat.toDigits_eq_if (by decide)]
  split
  · next h => rw [hdigit n h]
  · rw [hdigit _ (Nat.mod_lt _ (by decide))]
    rfl

/-- Digits are written from the last one on, so what holds of them is shown by taking it off. -/
theorem digits_induction {p : Nat → List Char → Prop} (one : ∀ d < 10, p d [digit d])
    (more : ∀ n, 10 ≤ n → p (n / 10) (digits (n / 10)) →
      p n (digits (n / 10) ++ [digit (n % 10)])) (n : Nat) : p n (digits n) := by
  induction n using Nat.strongRecOn with
  | ind n ih =>
    rw [digits_eq]
    split
    · next h => exact one n h
    · next h => exact more n (Nat.not_lt.1 h) (ih (n / 10) (by omega))

theorem isDigit_of_mem_digits {n : Nat} : ∀ c ∈ digits n, isDigit c := by
  refine digits_induction (p := fun _ cs => ∀ c ∈ cs, isDigit c) (fun d hd => ?_)
    (fun n _ ih c hc => ?_) n
  · simpa using isDigit_digit hd
  · rcases List.mem_append.1 hc with hc | hc
    · exact ih c hc
    · rw [List.mem_singleton.1 hc]
      exact isDigit_digit (Nat.mod_lt _ (by decide))

theorem value_digits (n : Nat) : value (digits n) = n := by
  refine digits_induction (p := fun n cs => value cs = n) (fun d hd => ?_) (fun n _ ih => ?_) n
  · simp [value, digitValue_digit hd]
  · rw [value_append_digit, ih, digitValue_digit (Nat.mod_lt _ (by decide))]
    omega

theorem digits_ne_nil (n : Nat) : digits n ≠ [] :=
  digits_induction (p := fun _ cs => cs ≠ []) (fun _ _ => List.cons_ne_nil _ _)
    (fun _ _ _ => by simp) n

theorem head?_digits_ne {n : Nat} : 0 < n → (digits n).head? ≠ some '0' := by
  refine digits_induction (p := fun n cs => 0 < n → cs.head? ≠ some '0') (fun d hd => ?_)
    (fun n hn ih _ => ?_) n
  · revert d
    decide
  · have hhead : ((digits (n / 10)) ++ [digit (n % 10)]).head? = (digits (n / 10)).head? := by
      cases hd : digits (n / 10) with
      | nil => exact absurd hd (digits_ne_nil _)
      | cons => rfl
    rw [hhead]
    exact ih (by omega)

theorem isDigit_of_mem_padded {width n : Nat} : ∀ c ∈ padded width n, isDigit c := by
  unfold padded
  split
  · exact fun c => isDigit_of_mem_fixed
  · exact isDigit_of_mem_digits

theorem value_padded (width n : Nat) : value (padded width n) = n := by
  unfold padded
  split
  · next h => exact value_fixed h
  · exact value_digits n

theorem padded_ne_nil {width : Nat} (h : 0 < width) (n : Nat) : padded width n ≠ [] := by
  unfold padded
  split
  · exact List.ne_nil_of_length_pos (by simpa using h)
  · exact digits_ne_nil n

end RecordSql.Decimal
