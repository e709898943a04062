import RecordSql.Proofs.Reading.Boolean

/-! What is read is never empty: there are alternatives in every reading and in every group of it,
and conditions in every alternative. -/

namespace RecordSql

mutual

def Factor.Proper : Factor → Prop
  | .predicate _ => True
  | .group inner => inner ≠ [] ∧ AnyProper inner
  | .negated f => f.Proper

def AllProper : List Factor → Prop
  | [] => True
  | f :: fs => f.Proper ∧ AllProper fs

def AnyProper : Reading → Prop
  | [] => True
  | a :: r => (a ≠ [] ∧ AllProper a) ∧ AnyProper r

end

theorem allProper_iff {a : List Factor} : AllProper a ↔ ∀ f ∈ a, f.Proper := by
  induction a with
  | nil => simp [AllProper]
  | cons f fs ih => simp [AllProper, ih]

theorem anyProper_iff {r : Reading} : AnyProper r ↔ ∀ a ∈ r, a ≠ [] ∧ ∀ f ∈ a, f.Proper := by
  induction r with
  | nil => simp [AnyProper]
  | cons a r ih => simp [AnyProper, ih, allProper_iff]

def ProperReading (r : Reading) : Prop := r ≠ [] ∧ AnyProper r

def Piece.Proper : Piece → Prop
  | .token _ => True
  | .group _ inner => ∀ r ∈ inner, ProperReading r

theorem mem_of_mapM {α β : Type} {f : α → Option β} {xs : List α} {ys : List β}
    (h : xs.mapM f = some ys) : (xs ≠ [] → ys ≠ []) ∧ ∀ y ∈ ys, ∃ x ∈ xs, f x = some y := by
  induction xs generalizing ys with
  | nil =>
    cases h
    exact ⟨fun h => absurd rfl h, fun y hy => absurd hy List.not_mem_nil⟩
  | cons x xs ih =>
    obtain ⟨y, hy, zs, hzs, rfl⟩ :
        ∃ y, f x = some y ∧ ∃ zs, xs.mapM f = some zs ∧ y :: zs = ys := by
      simpa [Option.bind_eq_some_iff] using h
    refine ⟨fun _ => List.cons_ne_nil y zs, ?_⟩
    refine List.forall_mem_cons.2 ⟨⟨x, List.mem_cons_self, hy⟩, ?_⟩
    intro z hz
    obtain ⟨w, hw, hwz⟩ := (ih hzs).2 z hz
    exact ⟨w, List.mem_cons_of_mem x hw, hwz⟩

theorem factor?_proper {ps : List Piece} {f : Factor} (h : factor? ps = some f)
    (hp : ∀ p ∈ ps, p.Proper) : f.Proper := by
  induction ps generalizing f with
  | nil => cases h
  | cons p ps ih =>
    obtain ⟨hpp, hps⟩ := List.forall_mem_cons.1 hp
    rw [factor?.eq_def] at h
    dsimp only at h
    split at h
    · obtain ⟨g, hg, rfl⟩ := Option.map_eq_some_iff.1 h
      have hgp := ih hg hps
      exact hgp
    · split at h
      · obtain ⟨r, hr, rfl⟩ := Option.map_eq_some_iff.1 h
        exact hpp r hr
      · cases h
        trivial

def MadeOf (ps : List Piece) (a : List (List Piece)) : Prop := a ≠ [] ∧ ∀ f ∈ a, ∀ p ∈ f, p ∈ ps

theorem MadeOf.cons {ps : List Piece} {a : List (List Piece)} (h : MadeOf ps a) (p : Piece) :
    MadeOf (p :: ps) a :=
  ⟨h.1, fun f hf q hq => List.mem_cons_of_mem p (h.2 f hf q hq)⟩

theorem madeOf_of_segment {pending : Pending} {ps : List Piece} {r : List (List (List Piece))}
    (h : segment pending ps = some r) : ∀ a ∈ r, MadeOf ps a := by
  induction ps generalizing pending r with
  | nil =>
    rw [segment] at h
    split at h
    · cases h
      simp [MadeOf]
    · cases h
  | cons p ps ih =>
    rw [segment] at h
    split at h
    -- the piece joins the first condition of the first alternative
    · obtain ⟨r', hr', rfl⟩ := Option.map_eq_some_iff.1 h
      obtain ⟨f, fs, rest, rfl⟩ := segment_shaped hr'
      obtain ⟨⟨-, ha⟩, hrest⟩ := List.forall_mem_cons.1 (ih hr')
      obtain ⟨hf, hfs⟩ := List.forall_mem_cons.1 ha
      have hp : ∀ q ∈ p :: f, q ∈ p :: ps :=
        List.forall_mem_cons.2 ⟨List.mem_cons_self, fun q hq => List.mem_cons_of_mem p (hf q hq)⟩
      have hc : MadeOf (p :: ps) ((p :: f) :: fs) := by
        refine ⟨List.cons_ne_nil _ _, List.forall_mem_cons.2 ⟨hp, fun g hg q hq => ?_⟩⟩
        exact List.mem_cons_of_mem p (hfs g hg q hq)
      exact List.forall_mem_cons.2 ⟨hc, fun a ha => (hrest a ha).cons p⟩
    · next op _ =>
      obtain ⟨r', hr', rfl⟩ := Option.map_eq_some_iff.1 h
      obtain ⟨f, fs, rest, rfl⟩ := segment_shaped hr'
      have hi : ∀ a ∈ (f :: fs) :: rest, MadeOf (p :: ps) a := fun a ha => (ih hr' a ha).cons p
      obtain ⟨ha, hrest⟩ := List.forall_mem_cons.1 hi
      -- the condition in front of the connective is empty so far
      have he : ∀ q ∈ ([] : List Piece), q ∈ p :: ps := fun q hq => absurd hq List.not_mem_nil
      cases op with
      | and =>
        have hc : MadeOf (p :: ps) ([] :: f :: fs) :=
          ⟨List.cons_ne_nil _ _, List.forall_mem_cons.2 ⟨he, ha.2⟩⟩
        exact List.forall_mem_cons.2 ⟨hc, hrest⟩
      | or =>
        have hc : MadeOf (p :: ps) [[]] :=
          ⟨List.cons_ne_nil _ _, List.forall_mem_singleton.2 he⟩
        exact List.forall_mem_cons.2 ⟨hc, hi⟩
    · cases h

theorem readPieces_proper {ps : List Piece} {r : Reading} (h : readPieces ps = some r)
    (hp : ∀ p ∈ ps, p.Proper) : ProperReading r := by
  unfold readPieces at h
  split at h
  · cases h
  · obtain ⟨r', hr', h⟩ := Option.bind_eq_some_iff.1 h
    obtain ⟨hne, hr⟩ := mem_of_mapM h
    refine ⟨hne (segment_shaped hr').ne_nil, anyProper_iff.2 fun a ha => ?_⟩
    obtain ⟨a', ha', haa'⟩ := hr a ha
    obtain ⟨hane, hafs⟩ := madeOf_of_segment hr' a' ha'
    obtain ⟨hne', hfs⟩ := mem_of_mapM haa'
    refine ⟨hne' hane, fun f hf => ?_⟩
    obtain ⟨f', hf', hff'⟩ := hfs f hf
    exact factor?_proper hff' fun p hpf => hp p (hafs f' hf' p hpf)

theorem enclose_proper {ps : List Piece} (hp : ∀ p ∈ ps, p.Proper) : (enclose ps).Proper := by
  intro r hr
  split at hr
  · cases hr
    exact ⟨List.cons_ne_nil _ _, by simp [AnyProper, AllProper, Factor.Proper]⟩
  · exact readPieces_proper hr hp

theorem nestStep_proper {ls ls' : List (List Piece)} {t : Token} (h : nestStep ls t = some ls')
    (hp : ∀ l ∈ ls, ∀ p ∈ l, p.Proper) : ∀ l ∈ ls', ∀ p ∈ l, p.Proper := by
  cases ls with
  | nil => cases h
  | cons l ls =>
    obtain ⟨hl, hls⟩ := List.forall_mem_cons.1 hp
    rw [nestStep] at h
    split at h
    · cases h
      exact List.forall_mem_cons.2 ⟨fun p hp => absurd hp List.not_mem_nil, hp⟩
    · split at h
      · cases ls with
        | nil => cases h
        | cons l' ls =>
          cases h
          obtain ⟨hl', hls⟩ := List.forall_mem_cons.1 hls
          refine List.forall_mem_cons.2 ⟨List.forall_mem_append.2 ⟨hl', ?_⟩, hls⟩
          exact List.forall_mem_singleton.2 (enclose_proper hl)
      · cases h
        refine List.forall_mem_cons.2 ⟨List.forall_mem_append.2 ⟨hl, ?_⟩, hls⟩
        exact List.forall_mem_singleton.2 trivial

theorem nest_proper {ts : List Token} {ls ls' : List (List Piece)} (h : nest ls ts = some ls')
    (hp : ∀ l ∈ ls, ∀ p ∈ l, p.Proper) : ∀ l ∈ ls', ∀ p ∈ l, p.Proper := by
  induction ts generalizing ls with
  | nil =>
    cases h
    exact hp
  | cons t ts ih =>
    obtain ⟨ls₁, hs, hrest⟩ := Option.bind_eq_some_iff.1 h
    exact ih hrest (nestStep_proper hs hp)

theorem Sql.reading_proper {sql : Sql} {r : Reading} (h : sql.reading = some r) :
    ProperReading r := by
  obtain ⟨-, ps, hps, hr⟩ := reading_eq_some.1 h
  refine readPieces_proper hr ?_
  have hn := nest_proper (pieces?_eq_some.1 hps)
  exact hn (List.forall_mem_singleton.2 fun p hp => absurd hp List.not_mem_nil) ps
    (List.mem_singleton_self ps)

end RecordSql
