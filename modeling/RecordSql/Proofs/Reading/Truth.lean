import Mathlib.Data.List.Nodup
import RecordSql.Proofs.Reading.Proper

/-! The truth of conditions on a row. A condition is true, false or unknown; what the predicates of
a reading are on a row decides what the whole of it is. -/

namespace RecordSql

abbrev Truth := Option Bool

namespace Truth

def and : Truth → Truth → Truth
  | some false, _ => some false
  | _, some false => some false
  | some true, some true => some true
  | _, _ => none

def or : Truth → Truth → Truth
  | some true, _ => some true
  | _, some true => some true
  | some false, some false => some false
  | _, _ => none

def not (x : Truth) : Truth := x.map (!·)

theorem or_eq_true {x y : Truth} : or x y = some true ↔ x = some true ∨ y = some true := by
  rcases x with _ | _ | _ <;> rcases y with _ | _ | _ <;> decide

theorem or_eq_false {x y : Truth} : or x y = some false ↔ x = some false ∧ y = some false := by
  rcases x with _ | _ | _ <;> rcases y with _ | _ | _ <;> decide

theorem and_eq_true {x y : Truth} : and x y = some true ↔ x = some true ∧ y = some true := by
  rcases x with _ | _ | _ <;> rcases y with _ | _ | _ <;> decide

theorem and_assoc (x y z : Truth) : and (and x y) z = and x (and y z) := by
  rcases x with _ | _ | _ <;> rcases y with _ | _ | _ <;> rcases z with _ | _ | _ <;> rfl

theorem or_assoc (x y z : Truth) : or (or x y) z = or x (or y z) := by
  rcases x with _ | _ | _ <;> rcases y with _ | _ | _ <;> rcases z with _ | _ | _ <;> rfl

@[simp] theorem and_true (x : Truth) : and x (some true) = x := by
  rcases x with _ | _ | _ <;> rfl

@[simp] theorem true_and (x : Truth) : and (some true) x = x := by
  rcases x with _ | _ | _ <;> rfl

@[simp] theorem or_false (x : Truth) : or x (some false) = x := by
  rcases x with _ | _ | _ <;> rfl

@[simp] theorem false_or (x : Truth) : or (some false) x = x := by
  rcases x with _ | _ | _ <;> rfl

@[simp] theorem true_or (x : Truth) : or (some true) x = some true := rfl

@[simp] theorem or_true (x : Truth) : or x (some true) = some true := by
  rcases x with _ | _ | _ <;> rfl

@[simp] theorem false_and (x : Truth) : and (some false) x = some false := rfl

@[simp] theorem and_false (x : Truth) : and x (some false) = some false := by
  rcases x with _ | _ | _ <;> rfl

@[simp] theorem and_self (x : Truth) : and x x = x := by
  rcases x with _ | _ | _ <;> rfl

@[simp] theorem or_self (x : Truth) : or x x = x := by
  rcases x with _ | _ | _ <;> rfl

end Truth

namespace Connective

def truth : Connective → Truth → Truth → Truth
  | .and => Truth.and
  | .or => Truth.or

def unit : Connective → Bool
  | .and => true
  | .or => false

variable (op : Connective)

@[simp] theorem truth_unit (x : Truth) : op.truth x (some op.unit) = x := by
  cases op with
  | and => exact Truth.and_true x
  | or => exact Truth.or_false x

@[simp] theorem unit_truth (x : Truth) : op.truth (some op.unit) x = x := by
  cases op with
  | and => exact Truth.true_and x
  | or => exact Truth.false_or x

@[simp] theorem truth_self (x : Truth) : op.truth x x = x := by
  cases op with
  | and => exact Truth.and_self x
  | or => exact Truth.or_self x

end Connective

abbrev Valuation := List Token → Truth

mutual

def Factor.truth (v : Valuation) : Factor → Truth
  | .predicate ts => v ts
  | .group inner => anyTruth v inner
  | .negated f => Truth.not (f.truth v)

def allTruth (v : Valuation) : List Factor → Truth
  | [] => some true
  | f :: fs => Truth.and (f.truth v) (allTruth v fs)

def anyTruth (v : Valuation) : Reading → Truth
  | [] => some false
  | a :: r => Truth.or (allTruth v a) (anyTruth v r)

end

mutual

def Factor.predicates : Factor → List (List Token)
  | .predicate ts => [ts]
  | .group inner => anyPredicates inner
  | .negated f => f.predicates

def allPredicates : List Factor → List (List Token)
  | [] => []
  | f :: fs => f.predicates ++ allPredicates fs

def anyPredicates : Reading → List (List Token)
  | [] => []
  | a :: r => allPredicates a ++ anyPredicates r

end

section

variable (v : Valuation)

theorem allTruth_append (a b : List Factor) :
    allTruth v (a ++ b) = Truth.and (allTruth v a) (allTruth v b) := by
  induction a with
  | nil => simp [allTruth]
  | cons f fs ih => simp [allTruth, ih, Truth.and_assoc]

theorem anyTruth_append (r s : Reading) :
    anyTruth v (r ++ s) = Truth.or (anyTruth v r) (anyTruth v s) := by
  induction r with
  | nil => simp [anyTruth]
  | cons a r ih => simp [anyTruth, ih, Truth.or_assoc]

@[simp] theorem anyTruth_singleton (f : Factor) : anyTruth v [[f]] = f.truth v := by
  simp [anyTruth, allTruth]

theorem anyTruth_group (inner : Reading) : anyTruth v [[.group inner]] = anyTruth v inner := by
  rw [anyTruth_singleton, Factor.truth]

theorem anyTruth_negated (f : Factor) : anyTruth v [[.negated f]] = Truth.not (f.truth v) := by
  rw [anyTruth_singleton, Factor.truth]

end

section

variable (v : Valuation)

theorem anyTruth_link_singleton (op : Connective) (a b : List Factor) :
    anyTruth v (op.link [a] [b]) = op.truth (allTruth v a) (allTruth v b) := by
  cases op with
  | and => simp [Connective.link, Connective.truth, anyTruth, allTruth_append]
  | or => simp [Connective.truth, anyTruth]

theorem anyTruth_link (op : Connective) {r s : Reading} (hr : r ≠ []) (hs : s ≠ []) {b : Bool}
    (hrb : anyTruth v r = some b) (hsb : anyTruth v s = some b) :
    anyTruth v (op.link r s) = some b := by
  cases op with
  | or => rw [Connective.link_or, anyTruth_append, hrb, hsb, Truth.or_self]
  | and =>
    induction r with
    | nil => exact absurd rfl hr
    | cons x r ih =>
      rw [anyTruth] at hrb
      cases r with
      | nil =>
        cases s with
        | nil => exact absurd rfl hs
        | cons y s =>
          -- the last alternative on the left and the first one on the right become one
          rw [anyTruth, Truth.or_false] at hrb
          rw [anyTruth] at hsb
          rw [Connective.link, anyTruth, allTruth_append, hrb]
          cases b with
          | true => rw [Truth.true_and, hsb]
          | false => rw [Truth.false_and, Truth.false_or, (Truth.or_eq_false.1 hsb).2]
      | cons y r =>
        rw [Connective.link_cons _ x (List.cons_ne_nil y r), anyTruth]
        cases b with
        | true =>
          rcases Truth.or_eq_true.1 hrb with hx | hyr
          · rw [hx, Truth.true_or]
          · rw [ih (List.cons_ne_nil y r) hyr, Truth.or_true]
        | false =>
          obtain ⟨hx, hyr⟩ := Truth.or_eq_false.1 hrb
          rw [hx, ih (List.cons_ne_nil y r) hyr, Truth.or_false]

end

@[simp] theorem allPredicates_append (a b : List Factor) :
    allPredicates (a ++ b) = allPredicates a ++ allPredicates b := by
  induction a with
  | nil => rfl
  | cons f fs ih => simp [allPredicates, ih]

theorem anyPredicates_append (r s : Reading) :
    anyPredicates (r ++ s) = anyPredicates r ++ anyPredicates s := by
  induction r with
  | nil => rfl
  | cons a r ih => simp [anyPredicates, ih]

theorem anyPredicates_link (op : Connective) (r s : Reading) :
    anyPredicates (op.link r s) = anyPredicates r ++ anyPredicates s := by
  cases op with
  | or => rw [Connective.link_or, anyPredicates_append]
  | and =>
    induction r with
    | nil => rfl
    | cons a r ih =>
      cases r with
      | cons b r =>
        rw [Connective.link_cons _ a (List.cons_ne_nil b r), anyPredicates, ih]
        simp [anyPredicates]
      | nil =>
        cases s with
        | nil => simp [Connective.link, anyPredicates]
        | cons c s => simp [Connective.link, anyPredicates]

mutual

theorem Factor.truth_congr {v w : Valuation} :
    ∀ {f : Factor}, (∀ p ∈ f.predicates, v p = w p) → f.truth v = f.truth w
  | .predicate ts, h => h ts (by simp [Factor.predicates])
  | .group _, h => anyTruth_congr h
  | .negated _, h => congrArg Truth.not (Factor.truth_congr h)

theorem allTruth_congr {v w : Valuation} :
    ∀ {a : List Factor}, (∀ p ∈ allPredicates a, v p = w p) → allTruth v a = allTruth w a
  | [], _ => rfl
  | _ :: _, h => by
    rw [allPredicates, List.forall_mem_append] at h
    rw [allTruth, allTruth, Factor.truth_congr h.1, allTruth_congr h.2]

theorem anyTruth_congr {v w : Valuation} :
    ∀ {r : Reading}, (∀ p ∈ anyPredicates r, v p = w p) → anyTruth v r = anyTruth w r
  | [], _ => rfl
  | _ :: _, h => by
    rw [anyPredicates, List.forall_mem_append] at h
    rw [anyTruth, anyTruth, allTruth_congr h.1, anyTruth_congr h.2]

end

/-- Two conditions over the same predicates that can be made true together and false together,
whatever other predicates are. -/
structure Paired (ps : List (List Token)) (t u : Valuation → Truth) : Prop where
  left : ∀ {v w : Valuation}, (∀ p ∈ ps, v p = w p) → t v = t w
  right : ∀ {v w : Valuation}, (∀ p ∈ ps, v p = w p) → u v = u w
  free : ∀ (b : Bool) (v : Valuation), ∃ w : Valuation,
    (∀ p ∉ ps, w p = v p) ∧ t w = some b ∧ u w = some b

namespace Paired

variable {ps qs : List (List Token)} {t u t' u' : Valuation → Truth}

theorem not (h : Paired ps t u) :
    Paired ps (fun v => Truth.not (t v)) fun v => Truth.not (u v) where
  left hv := congrArg _ (h.left hv)
  right hv := congrArg _ (h.right hv)
  free b v := by
    obtain ⟨w, hw, ht, hu⟩ := h.free (!b) v
    refine ⟨w, hw, ?_, ?_⟩
    · simp [ht, Truth.not]
    · simp [hu, Truth.not]

theorem after (h : Paired qs t' u') (hd : ps.Disjoint qs) (b : Bool) (v : Valuation) :
    ∃ w : Valuation, (∀ p ∉ qs, w p = v p) ∧ (∀ p ∈ ps, w p = v p) ∧ t' w = some b ∧
      u' w = some b := by
  obtain ⟨w, hw, ht, hu⟩ := h.free b v
  exact ⟨w, hw, fun p hp => hw p fun hq => hd hp hq, ht, hu⟩

theorem combine (h : Paired ps t u) (h' : Paired qs t' u') (hd : ps.Disjoint qs)
    {f g : Valuation → Truth} (hf : ∀ {v w : Valuation}, (∀ p ∈ ps ++ qs, v p = w p) → f v = f w)
    (hg : ∀ {v w : Valuation}, (∀ p ∈ ps ++ qs, v p = w p) → g v = g w)
    (hft : ∀ b v, t v = some b → t' v = some b → f v = some b)
    (hgu : ∀ b v, u v = some b → u' v = some b → g v = some b) : Paired (ps ++ qs) f g where
  left := hf
  right := hg
  free b v := by
    -- one pair after the other: the second one leaves the predicates of the first alone
    obtain ⟨v₁, hv₁, ht, hu⟩ := h.free b v
    obtain ⟨w, hw, hps, ht', hu'⟩ := h'.after hd b v₁
    refine ⟨w, fun p hp => ?_, hft b w ?_ ht', hgu b w ?_ hu'⟩
    · rw [List.mem_append, not_or] at hp
      rw [hw p hp.2, hv₁ p hp.1]
    · rw [h.left hps, ht]
    · rw [h.right hps, hu]

theorem connect (op : Connective) (h : Paired ps t u) (h' : Paired qs t' u')
    (hd : ps.Disjoint qs) :
    Paired (ps ++ qs) (fun v => op.truth (t v) (t' v)) fun v => op.truth (u v) (u' v) := by
  refine h.combine h' hd (fun {v w} hv => ?_) (fun {v w} hv => ?_) ?_ ?_
  · rw [List.forall_mem_append] at hv
    rw [h.left hv.1, h'.left hv.2]
  · rw [List.forall_mem_append] at hv
    rw [h.right hv.1, h'.right hv.2]
  · intro b v ht ht'
    rw [ht, ht', op.truth_self]
  · intro b v hu hu'
    rw [hu, hu', op.truth_self]

end Paired

theorem paired_predicate (ts : List Token) :
    Paired [ts] (fun v => v ts) fun v => v ts where
  left hv := hv ts (List.mem_singleton_self ts)
  right hv := hv ts (List.mem_singleton_self ts)
  free b v := by
    refine ⟨Function.update v ts (some b), fun p hp => ?_, ?_, ?_⟩
    · exact Function.update_of_ne (fun he => hp (List.mem_singleton.2 he)) _ _
    · exact Function.update_self ..
    · exact Function.update_self ..

mutual

/-- A condition in which no predicate stands twice can be made true and made false. -/
theorem Factor.paired : ∀ {f : Factor}, f.Proper → f.predicates.Nodup →
    Paired f.predicates (fun v => f.truth v) fun v => f.truth v
  | .predicate ts, _, _ => paired_predicate ts
  | .group _, h, hn => paired_any h.1 h.2 hn
  | .negated f, h, hn => (Factor.paired (f := f) h hn).not

theorem paired_all : ∀ {a : List Factor}, a ≠ [] → AllProper a → (allPredicates a).Nodup →
    Paired (allPredicates a) (fun v => allTruth v a) fun v => allTruth v a
  | [], h, _, _ => absurd rfl h
  | [f], _, h, hn => by
    have hp : allPredicates [f] = f.predicates := by simp [allPredicates]
    have ht : (fun v => allTruth v [f]) = fun v => f.truth v := by simp [allTruth]
    rw [hp] at hn
    rw [hp, ht]
    exact Factor.paired h.1 hn
  | f :: g :: fs, _, h, hn => by
    obtain ⟨hf, hfs, hd⟩ := List.nodup_append'.1 hn
    exact (Factor.paired h.1 hf).connect .and (paired_all (List.cons_ne_nil g fs) h.2 hfs) hd

theorem paired_any : ∀ {r : Reading}, r ≠ [] → AnyProper r → (anyPredicates r).Nodup →
    Paired (anyPredicates r) (fun v => anyTruth v r) fun v => anyTruth v r
  | [], h, _, _ => absurd rfl h
  | [a], _, h, hn => by
    have hp : anyPredicates [a] = allPredicates a := by simp [anyPredicates]
    have ht : (fun v => anyTruth v [a]) = fun v => allTruth v a := by simp [anyTruth]
    rw [hp] at hn
    rw [hp, ht]
    exact paired_all h.1.1 h.1.2 hn
  | a :: b :: r, _, h, hn => by
    obtain ⟨ha, hr, hd⟩ := List.nodup_append'.1 hn
    exact (paired_all h.1.1 h.1.2 ha).connect .or (paired_any (List.cons_ne_nil b r) h.2 hr) hd

end

end RecordSql
