import RecordSql.Derive.Attribute
import RecordSql.Proofs.Outcome

/-! How lists of items are written. Commas part the items, and one more can stand at the end; an
item begins with a word, and a reader that knows the word takes what follows it. -/

namespace RecordSql.Derive

variable {α : Type}

inductive Separates : List Tree → List (List Tree) → Prop
  | nil : Separates [] []
  | last {p : List Tree} (hp : p ≠ []) (hc : .leaf (.mark ",") ∉ p) : Separates p [p]
  | cons {p rest : List Tree} {ps : List (List Tree)} (hc : .leaf (.mark ",") ∉ p)
    (hr : Separates rest ps) : Separates (p ++ .leaf (.mark ",") :: rest) (p :: ps)

def Listed (Written : List Tree → α → Prop) (content : List Tree) (as : List α) : Prop :=
  ∃ ps, Separates content ps ∧ List.Forall₂ Written ps as

inductive Enclosed (Written : List Tree → α → Prop) : List Tree → List α → Prop
  | mk {content : List Tree} {as : List α} (hc : content ≠ []) (h : Listed Written content as) :
    Enclosed Written [.group .parenthesis content] as

inductive Optional (Written : List Tree → α → Prop) : List Tree → List α → Prop
  | absent : Optional Written [] []
  | given {ts : List Tree} {as : List α} (h : Enclosed Written ts as) : Optional Written ts as

def withoutEnd : List (List Tree) → List (List Tree)
  | [] => []
  | [p] => if p.isEmpty then [] else [p]
  | p :: q :: rest => p :: withoutEnd (q :: rest)

theorem onFirst_ne_nil (t : Tree) (ps : List (List Tree)) : onFirst t ps ≠ [] := by
  cases ps <;> simp [onFirst]

theorem parts_ne_nil (ts : List Tree) : parts ts ≠ [] := by
  unfold parts
  split
  · simp
  · simp
  · exact onFirst_ne_nil _ _

theorem parts_cons {t : Tree} (ht : t ≠ .leaf (.mark ",")) (ts : List Tree) :
    parts (t :: ts) = onFirst t (parts ts) := by
  rw [parts]
  exact ht

theorem parts_of_notMem {p : List Tree} (hc : .leaf (.mark ",") ∉ p) : parts p = [p] := by
  induction p with
  | nil => rfl
  | cons t rest ih =>
    rw [List.mem_cons, not_or] at hc
    obtain ⟨ht, hrest⟩ := hc
    rw [parts_cons (Ne.symm ht), ih hrest]
    rfl

theorem parts_append {p : List Tree} (hc : .leaf (.mark ",") ∉ p) (rest : List Tree) :
    parts (p ++ .leaf (.mark ",") :: rest) = p :: parts rest := by
  induction p with
  | nil => rfl
  | cons t p ih =>
    rw [List.mem_cons, not_or] at hc
    obtain ⟨ht, hp⟩ := hc
    rw [List.cons_append, parts_cons (Ne.symm ht), ih hp]
    rfl

theorem Separates.eq_withoutEnd {content : List Tree} {ps : List (List Tree)}
    (h : Separates content ps) : withoutEnd (parts content) = ps := by
  induction h with
  | nil => rfl
  | last hp hc =>
    rw [parts_of_notMem hc, withoutEnd, if_neg (by simpa using hp)]
  | cons hc _ ih =>
    rw [parts_append hc, ← ih]
    obtain ⟨q, qs, hq⟩ := List.exists_cons_of_ne_nil (parts_ne_nil _)
    rw [hq, withoutEnd]

theorem separates_withoutEnd (content : List Tree) :
    Separates content (withoutEnd (parts content)) := by
  by_cases hc : .leaf (.mark ",") ∈ content
  · obtain ⟨p, rest, hsplit, hp⟩ := List.eq_append_cons_of_mem hc
    have hrest := separates_withoutEnd rest
    have hcons : Separates content (p :: withoutEnd (parts rest)) := hsplit ▸ .cons hp hrest
    rwa [hcons.eq_withoutEnd]
  · rw [parts_of_notMem hc, withoutEnd]
    split
    · next he => rw [List.isEmpty_iff.1 he]; exact .nil
    · next he => exact .last (by simpa using he) hc
termination_by content.length
decreasing_by
  rw [hsplit, List.length_append, List.length_cons]
  omega

namespace Rest

variable {last : Bool} {front path : String} {ts : List Tree} {r r' : Rest}

theorem pathFrom_eq_ok (h : pathFrom last front ts = .ok (path, r)) :
    (path = front ∧ r = ⟨ts, last⟩ ∧ ts.head? ≠ some (.leaf (.mark "::"))) ∨
      ∃ tail, path = front ++ "::" ++ tail := by
  fun_induction pathFrom last front ts with
  | case1 front w rest ih =>
    rcases ih h with ⟨rfl, -⟩ | ⟨tail, rfl⟩
    · exact .inr ⟨w, rfl⟩
    · exact .inr ⟨w ++ "::" ++ tail, by simp only [String.append_assoc]⟩
  | case2 => cases h
  | case3 front rest h₁ h₂ =>
    cases h
    refine .inl ⟨rfl, rfl, fun hhead => ?_⟩
    obtain ⟨tail, rfl⟩ := List.head?_eq_some_iff.1 hhead
    exact h₂ tail rfl

theorem pathFrom_of_head (h : ts.head? ≠ some (.leaf (.mark "::"))) :
    pathFrom last front ts = .ok (front, ⟨ts, last⟩) := by
  unfold pathFrom
  split
  · exact absurd rfl h
  · exact absurd rfl h
  · rfl

theorem path_word {key : String} (h : ts.head? ≠ some (.leaf (.mark "::"))) :
    Rest.path ⟨.leaf (.word key) :: ts, last⟩ = .ok (key, ⟨ts, last⟩) := by
  have hfrom : pathFrom last ("" ++ key) ts = _ := pathFrom_of_head h
  rw [String.empty_append] at hfrom
  exact hfrom

theorem colon_mem_append (front tail : String) : ':' ∈ (front ++ "::" ++ tail).toList := by
  simp

theorem eq_of_path (h : Rest.path ⟨ts, last⟩ = .ok (path, r)) (hpath : ':' ∉ path.toList) :
    ts = .leaf (.word path) :: r.trees ∧ r.last = last := by
  have hafter : ∀ front, ':' ∈ front.toList ∨ front = "" → ∀ ts, pathAfter last front ts =
      .ok (path, r) → front = "" ∧ ts = .leaf (.word path) :: r.trees ∧ r.last = last := by
    intro front hfront ts hts
    unfold pathAfter at hts
    split at hts
    · next w rest =>
      rcases pathFrom_eq_ok hts with ⟨rfl, rfl, -⟩ | ⟨tail, rfl⟩
      · rcases hfront with hfront | rfl
        · exact absurd (by simp [hfront]) hpath
        · exact ⟨rfl, by rw [String.empty_append], rfl⟩
      · exact absurd (colon_mem_append _ _) hpath
    · cases hts
    · cases hts
  unfold Rest.path at h
  split at h
  · obtain ⟨hfront, -⟩ := hafter "::" (.inl (by decide)) _ h
    exact absurd hfront (by decide)
  · exact (hafter "" (.inr rfl) _ h).2

theorem text_eq_ok {t : TextLiteral} :
    r.text = .ok (t, r') ↔
      r.trees = .leaf (.mark "=") :: .leaf (.text t) :: r'.trees ∧ r'.last = r.last := by
  obtain ⟨trees, last⟩ := r
  obtain ⟨trees', last'⟩ := r'
  unfold Rest.text
  constructor
  · intro h
    split at h
    · next heq => cases h; exact ⟨heq, rfl⟩
    · cases h
    · cases h
  · rintro ⟨htrees, hlast⟩
    obtain rfl : trees = _ := htrees
    obtain rfl : last' = last := hlast
    rfl

theorem group?_eq_some {content : List Tree} :
    r.group? = some (content, r') ↔
      r.trees = .group .parenthesis content :: r'.trees ∧ r'.last = r.last := by
  obtain ⟨trees, last⟩ := r
  obtain ⟨trees', last'⟩ := r'
  unfold Rest.group?
  constructor
  · intro h
    split at h
    · next heq => cases h; exact ⟨heq, rfl⟩
    · cases h
  · rintro ⟨htrees, hlast⟩
    obtain rfl : trees = _ := htrees
    obtain rfl : last' = last := hlast
    rfl

end Rest

namespace ItemReader

variable {reader : ItemReader α} {Written : List Tree → α → Prop}

structure Reads (reader : ItemReader α) (Written : List Tree → α → Prop) : Prop where
  word : ∀ ts a, Written ts a → ∃ key rest, ts = .leaf (.word key) :: rest ∧
    ':' ∉ key.toList ∧ rest.head? ≠ some (.leaf (.mark "::"))
  rest : ∀ key r a, (∃ r', reader key r = .ok (a, r') ∧ r'.trees = []) ↔
    Written (.leaf (.word key) :: r.trees) a

theorem item_eq_ok {r : Rest} {a : α} :
    reader.item r = .ok a ↔ ∃ path rest, r.path = .ok (path, rest) ∧
      ∃ rest', reader path rest = .ok (a, rest') ∧ rest'.trees = [] := by
  unfold item
  rw [bind_eq_ok]
  constructor
  · rintro ⟨⟨path, rest⟩, hpath, h⟩
    obtain ⟨⟨a', rest'⟩, hreader, h⟩ := bind_eq_ok.1 h
    dsimp only at h
    split at h
    · next hempty =>
      cases h
      exact ⟨path, rest, hpath, rest', hreader, List.isEmpty_iff.1 hempty⟩
    · cases h
  · rintro ⟨path, rest, hpath, rest', hreader, hempty⟩
    refine ⟨_, hpath, bind_eq_ok.2 ⟨_, hreader, ?_⟩⟩
    dsimp only
    rw [if_pos (List.isEmpty_iff.2 hempty)]
    rfl

theorem Reads.item_iff (h : reader.Reads Written) (ts : List Tree) (last : Bool) (a : α) :
    reader.item ⟨ts, last⟩ = .ok a ↔ Written ts a := by
  rw [item_eq_ok]
  constructor
  · rintro ⟨path, r, hpath, hr⟩
    have hwritten := (h.rest path r a).1 hr
    obtain ⟨key, rest, heq, hcolon, -⟩ := h.word _ _ hwritten
    obtain ⟨rfl, -⟩ : path = key ∧ r.trees = rest := by simpa using heq
    obtain ⟨rfl, -⟩ := Rest.eq_of_path hpath hcolon
    exact hwritten
  · intro hwritten
    obtain ⟨key, rest, rfl, -, hhead⟩ := h.word _ _ hwritten
    exact ⟨key, _, Rest.path_word hhead, (h.rest key ⟨rest, last⟩ a).2 hwritten⟩

theorem Reads.items_iff (h : reader.Reads Written) (ps : List (List Tree)) (as : List α) :
    reader.items ps = .ok as ↔ List.Forall₂ Written (withoutEnd ps) as := by
  have hone (p : List Tree) (last : Bool) (as : List α) :
      (reader.item ⟨p, last⟩ >>= fun a => .ok [a]) = .ok as ↔ List.Forall₂ Written [p] as := by
    rw [bind_eq_ok]
    constructor
    · rintro ⟨a, ha, hlist⟩
      cases hlist
      exact .cons ((h.item_iff p last a).1 ha) .nil
    · rintro (_ | ⟨ha, _ | _⟩)
      exact ⟨_, (h.item_iff p last _).2 ha, rfl⟩
  fun_induction withoutEnd ps generalizing as with
  | case1 => simp [items, eq_comm]
  | case2 p hp => simp [items, hp, eq_comm]
  | case3 p hp =>
    have hitems : reader.items [p] = reader.item ⟨p, true⟩ >>= fun a => .ok [a] := if_neg hp
    rw [hitems]
    exact hone p true as
  | case4 p q rest ih =>
    have hitems : reader.items (p :: q :: rest) = reader.item ⟨p, false⟩ >>= fun a =>
        reader.items (q :: rest) >>= fun as => .ok (a :: as) := rfl
    rw [hitems, bind_eq_ok]
    constructor
    · rintro ⟨a, ha, htail⟩
      obtain ⟨as', has', hlist⟩ := bind_eq_ok.1 htail
      cases hlist
      exact .cons ((h.item_iff p false a).1 ha) ((ih as').1 has')
    · rintro (_ | ⟨ha, has⟩)
      exact ⟨_, (h.item_iff p false _).2 ha, bind_eq_ok.2 ⟨_, (ih _).2 has, rfl⟩⟩

theorem Reads.listed_iff (h : reader.Reads Written) (content : List Tree) (as : List α) :
    reader.items (parts content) = .ok as ↔ Listed Written content as := by
  rw [h.items_iff]
  constructor
  · intro has
    exact ⟨_, separates_withoutEnd content, has⟩
  · rintro ⟨ps, hps, has⟩
    rwa [hps.eq_withoutEnd]

theorem Reads.arguments_iff (h : reader.Reads Written) (content : List Tree) (as : List α) :
    reader.arguments content = .ok as ↔ content ≠ [] ∧ Listed Written content as := by
  unfold arguments
  split
  · next hempty => simp [List.isEmpty_iff.1 hempty]
  · next hempty => rw [h.listed_iff, and_iff_right (by simpa using hempty)]

theorem Reads.enclosed_iff (h : reader.Reads Written) (r : Rest) (as : List α) :
    (∃ content r', r.group? = some (content, r') ∧ reader.arguments content = .ok as ∧
      r'.trees = []) ↔ Enclosed Written r.trees as := by
  constructor
  · rintro ⟨content, r', hgroup, has, hempty⟩
    obtain ⟨htrees, -⟩ := Rest.group?_eq_some.1 hgroup
    obtain ⟨hc, hlisted⟩ := (h.arguments_iff content as).1 has
    rw [htrees, hempty]
    exact .mk hc hlisted
  · intro henclosed
    generalize htrees : r.trees = ts at henclosed
    obtain ⟨hc, hlisted⟩ := henclosed
    exact ⟨_, ⟨[], r.last⟩, Rest.group?_eq_some.2 ⟨htrees, rfl⟩,
      (h.arguments_iff _ as).2 ⟨hc, hlisted⟩, rfl⟩

theorem Reads.required_iff (h : reader.Reads Written) (r : Rest) (as : List α) :
    (∃ r', reader.requiredArguments r = .ok (as, r') ∧ r'.trees = []) ↔
      Enclosed Written r.trees as := by
  rw [← h.enclosed_iff]
  unfold requiredArguments
  cases hgroup : r.group? with
  | none => simp
  | some found =>
    obtain ⟨content, rest⟩ := found
    have hbind (r' : Rest) : (reader.arguments content >>= fun as => .ok (as, rest)) =
        .ok (as, r') ↔ reader.arguments content = .ok as ∧ rest = r' := by
      rw [bind_eq_ok]
      constructor
      · rintro ⟨as', has, heq⟩
        cases heq
        exact ⟨has, rfl⟩
      · rintro ⟨has, rfl⟩
        exact ⟨as, has, rfl⟩
    constructor
    · rintro ⟨r', hr', hempty⟩
      obtain ⟨has, rfl⟩ := (hbind r').1 hr'
      exact ⟨content, rest, rfl, has, hempty⟩
    · rintro ⟨_, _, ⟨⟩, has, hempty⟩
      exact ⟨rest, (hbind rest).2 ⟨has, rfl⟩, hempty⟩

theorem Reads.optional_iff (h : reader.Reads Written) (r : Rest) (as : List α) :
    (∃ r', reader.optionalArguments r = .ok (as, r') ∧ r'.trees = []) ↔
      Optional Written r.trees as := by
  cases hgroup : r.group? with
  | some found =>
    have hrequired : reader.optionalArguments r = reader.requiredArguments r := by
      rw [optionalArguments, requiredArguments, hgroup]
    have hne : r.trees ≠ [] := by
      rw [(Rest.group?_eq_some.1 hgroup).1]
      exact List.cons_ne_nil _ _
    rw [hrequired, h.required_iff]
    refine ⟨.given, fun hoptional => ?_⟩
    generalize r.trees = ts at hoptional hne
    cases hoptional with
    | absent => exact absurd rfl hne
    | given henclosed => exact henclosed
  | none =>
    have hnot : ¬Enclosed Written r.trees as := by
      rw [← h.enclosed_iff, hgroup]
      rintro ⟨_, _, ⟨⟩, -⟩
    have hresult : reader.optionalArguments r = .ok ([], r) := by
      rw [optionalArguments, hgroup]
    rw [hresult]
    constructor
    · rintro ⟨_, ⟨⟩, hempty⟩
      rw [hempty]
      exact .absent
    · intro hoptional
      generalize htrees : r.trees = ts at hoptional hnot
      cases hoptional with
      | absent => exact ⟨r, rfl, htrees⟩
      | given henclosed => exact absurd henclosed hnot

end ItemReader

theorem exists_of_forall₂_append {β γ : Type} {R : β → γ → Prop} {xs xs' : List β} {ys : List γ}
    (h : List.Forall₂ R (xs ++ xs') ys) :
    ∃ zs zs', ys = zs ++ zs' ∧ List.Forall₂ R xs zs ∧ List.Forall₂ R xs' zs' := by
  induction xs generalizing ys with
  | nil => exact ⟨[], ys, rfl, .nil, h⟩
  | cons x xs ih =>
    cases h with
    | cons hx h =>
      obtain ⟨zs, zs', rfl, hzs, hzs'⟩ := ih h
      exact ⟨_ :: zs, zs', rfl, .cons hx hzs, hzs'⟩

namespace Attribute

def Lists (a : Attribute) (ps : List (List Tree)) : Prop :=
  ∃ content, a.arguments = .listed content ∧ Separates content ps

def AllLists (attributes : List Attribute) (ps : List (List Tree)) : Prop :=
  ∃ pss, List.Forall₂ Lists (attributes.filter isMapping) pss ∧ ps = pss.flatten

variable {reader : ItemReader α} {Written : List Tree → α → Prop}

theorem items_iff (h : reader.Reads Written) (a : Attribute) (as : List α) :
    a.items reader = .ok as ↔ ∃ ps, a.Lists ps ∧ List.Forall₂ Written ps as := by
  unfold items
  cases ha : a.arguments with
  | absent => simp [Lists, ha]
  | assigned => simp [Lists, ha]
  | listed content =>
    dsimp only
    rw [h.listed_iff]
    constructor
    · rintro ⟨ps, hps, has⟩
      exact ⟨ps, ⟨content, ha, hps⟩, has⟩
    · rintro ⟨ps, ⟨content', ha', hps⟩, has⟩
      cases ha.symm.trans ha'
      exact ⟨ps, hps, has⟩

theorem allItems_iff (h : reader.Reads Written) (attributes : List Attribute) (as : List α) :
    allItems reader attributes = .ok as ↔
      ∃ ps, AllLists attributes ps ∧ List.Forall₂ Written ps as := by
  have hitems : allItems reader attributes = .ok as ↔
      ∃ ass, List.Forall₂ (fun a as => a.items reader = .ok as) (attributes.filter isMapping) ass ∧
        as = ass.flatten := by
    unfold allItems
    rw [bind_eq_ok]
    constructor
    · rintro ⟨ass, hass, hflatten⟩
      cases hflatten
      exact ⟨ass, mapM_eq_ok.1 hass, rfl⟩
    · rintro ⟨ass, hass, rfl⟩
      exact ⟨ass, mapM_eq_ok.2 hass, rfl⟩
  rw [hitems]
  clear hitems
  unfold AllLists
  generalize attributes.filter isMapping = mapped
  constructor
  · rintro ⟨ass, hass, rfl⟩
    suffices hparts : ∃ pss, List.Forall₂ Lists mapped pss ∧
        List.Forall₂ Written pss.flatten ass.flatten by
      obtain ⟨pss, hpss, hwritten⟩ := hparts
      exact ⟨_, ⟨pss, hpss, rfl⟩, hwritten⟩
    induction hass with
    | nil => exact ⟨[], .nil, .nil⟩
    | cons ha _ ih =>
      obtain ⟨ps, hps, hwritten⟩ := (items_iff h _ _).1 ha
      obtain ⟨pss, hpss, hrest⟩ := ih
      exact ⟨ps :: pss, .cons hps hpss, List.rel_append hwritten hrest⟩
  · rintro ⟨_, ⟨pss, hpss, rfl⟩, hwritten⟩
    induction hpss generalizing as with
    | nil =>
      cases hwritten
      exact ⟨[], .nil, rfl⟩
    | cons hps _ ih =>
      obtain ⟨as₁, as₂, rfl, has₁, has₂⟩ := exists_of_forall₂_append hwritten
      obtain ⟨ass, hass, rfl⟩ := ih _ has₂
      exact ⟨as₁ :: ass, .cons ((items_iff h _ _).2 ⟨_, hps, has₁⟩) hass, rfl⟩

end Attribute

end RecordSql.Derive
