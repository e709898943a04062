import RecordSql.Condition.Placeholder
import RecordSql.Proofs.Reading.Tokens

/-! Names in SQL text. A name stands in backticks, where two of them in a row are one of the name,
or it is a bare word. Whether a mark ends the text that it quotes is only known at the character
after it, so a text is scanned with one more thing that can be read at a time. -/

namespace RecordSql

inductive Scan where
  | reading (m : Mode)
  | closing (mark : Char) (text : List Char)
deriving DecidableEq

namespace Scan

def start : Scan := .reading .blank

def finish : Scan → List Token
  | .reading m => m.finish
  | .closing mark text => [.quoted mark text]

def isClosed : Scan → Bool
  | .reading m => m.isClosed
  | .closing .. => true

def flush (s : Scan) (c : Char) : Scan × List Token :=
  (.reading (Mode.start c).1, s.finish ++ (Mode.start c).2)

def doubles (mark c : Char) : Bool := c = mark && Placeholder.isQuote c

def step : Scan → Char → Scan × List Token
  | .reading (.quoted mark text), c =>
    if doubles mark c then (.closing mark text, [])
    else (.reading ((Mode.quoted mark text).step c).1, ((Mode.quoted mark text).step c).2)
  | .reading m, c => (.reading (m.step c).1, (m.step c).2)
  | .closing mark text, c =>
    if doubles mark c then (.reading (.quoted mark (text ++ [c])), [])
    else flush (.closing mark text) c

def after (s : Scan) (cs : List Char) : Scan := cs.foldl (fun s c => (s.step c).1) s

def tokens : Scan → List Char → List Token
  | _, [] => []
  | s, c :: cs => (s.step c).2 ++ tokens (s.step c).1 cs

@[simp] theorem after_nil (s : Scan) : s.after [] = s := rfl

@[simp] theorem after_cons (s : Scan) (c : Char) (cs : List Char) :
    s.after (c :: cs) = (s.step c).1.after cs := rfl

theorem after_append (s : Scan) (cs ds : List Char) :
    s.after (cs ++ ds) = (s.after cs).after ds := List.foldl_append ..

theorem tokens_append (s : Scan) (cs ds : List Char) :
    s.tokens (cs ++ ds) = s.tokens cs ++ (s.after cs).tokens ds := by
  induction cs generalizing s with
  | nil => rfl
  | cons c cs ih =>
    rw [List.cons_append, tokens, tokens, ih, List.append_assoc]
    rfl

@[simp] theorem step_start (c : Char) : start.step c = start.flush c := rfl

@[simp] theorem finish_start : start.finish = [] := rfl

def isSeparator (c : Char) : Bool :=
  c = ' ' || c = ')' || c = ',' || c = ';' || c = '.' || c = '\n'

theorem step_separator {s : Scan} (hs : s.isClosed) {c : Char} (hc : isSeparator c) :
    s.step c = s.flush c := by
  simp only [isSeparator, Bool.or_eq_true, decide_eq_true_eq, or_assoc] at hc
  cases s with
  | reading m =>
    cases m with
    | blank => rfl
    | word | dash | slash => rcases hc with rfl | rfl | rfl | rfl | rfl | rfl <;> rfl
    | quoted | line | block | star => cases hs
  | closing mark text =>
    have hd : doubles mark c = false := by
      rcases hc with rfl | rfl | rfl | rfl | rfl | rfl <;> simp [doubles, Placeholder.isQuote]
    rw [step, hd]
    rfl

end Scan

def scan (text : String) : List Token :=
  Scan.tokens .start text.toList ++ (Scan.after .start text.toList).finish

def scanEnd (text : String) : Scan := Scan.after .start text.toList

def Parted (text : String) : Prop := text.toList.head?.all Scan.isSeparator

instance (text : String) : Decidable (Parted text) := inferInstanceAs (Decidable (_ = true))

theorem scan_append_of {s t : String}
    (h : ∀ c ∈ t.toList.head?, (scanEnd s).step c = (scanEnd s).flush c) :
    scan (s ++ t) = scan s ++ scan t ∧
      (t.toList ≠ [] → scanEnd (s ++ t) = scanEnd t) := by
  unfold scanEnd at h ⊢
  unfold scan
  rw [String.toList_append, Scan.tokens_append, Scan.after_append]
  generalize Scan.after .start s.toList = e at h ⊢
  cases hc : t.toList with
  | nil => simp [Scan.tokens]
  | cons c cs =>
    rw [hc] at h
    have hstep := h c rfl
    rw [Scan.tokens, Scan.tokens, Scan.after_cons, Scan.after_cons, hstep, Scan.step_start]
    simp [Scan.flush]

theorem scan_append_of_start {s : String} (h : scanEnd s = .start) (t : String) :
    scan (s ++ t) = scan s ++ scan t ∧ (t.toList ≠ [] → scanEnd (s ++ t) = scanEnd t) :=
  scan_append_of fun c _ => by rw [h, Scan.step_start]

theorem scan_append_of_parted {s t : String} (h : (scanEnd s).isClosed) (ht : Parted t) :
    scan (s ++ t) = scan s ++ scan t ∧ (t.toList ≠ [] → scanEnd (s ++ t) = scanEnd t) :=
  scan_append_of fun c hc => Scan.step_separator h (by
    unfold Parted at ht
    rwa [hc, Option.all_some] at ht)

namespace Token

/-- The name that a token is: a word that does not begin with a digit, or what backticks quote. -/
def name? : Token → Option (List Char)
  | .word text => if text.head?.any Char.isDigit then none else some text
  | .quoted mark text => if mark = '\x60' then some text else none
  | _ => none

def Within (n : Nat) : Token → Prop
  | .word text => text ≠ [] ∧ ∀ c ∈ text, Mode.isWord c
  | .quoted mark text => text.length + text.count mark + 2 ≤ n
  | _ => True

theorem Within.mono {n m : Nat} {t : Token} (h : t.Within n) (hnm : n ≤ m) : t.Within m := by
  cases t with
  | word => exact h
  | quoted mark text => exact Nat.le_trans h hnm
  | symbol | hole => trivial

end Token

namespace Scan

def Within (n : Nat) : Scan → Prop
  | .reading (.word text) => text ≠ [] ∧ ∀ c ∈ text, Mode.isWord c
  | .reading (.quoted mark text) => text.length + text.count mark + 1 ≤ n
  | .closing mark text => text.length + text.count mark + 2 ≤ n
  | _ => True

variable {n : Nat} {s : Scan}

theorem Within.finish (h : s.Within n) : ∀ t ∈ s.finish, t.Within n := by
  cases s with
  | reading m =>
    cases m with
    | word text => exact List.forall_mem_singleton.2 h
    | dash | slash => exact List.forall_mem_singleton.2 trivial
    | blank | quoted | line | block | star => exact List.forall_mem_nil _
  | closing mark text => exact List.forall_mem_singleton.2 h

theorem within_start (n : Nat) (c : Char) :
    (reading (Mode.start c).1).Within (n + 1) ∧ ∀ t ∈ (Mode.start c).2, t.Within (n + 1) := by
  unfold Mode.start
  by_cases hb : Mode.isBlank c
  · rw [if_pos hb]
    exact ⟨trivial, List.forall_mem_nil _⟩
  by_cases hw : Mode.isWord c
  · rw [if_neg hb, if_pos hw]
    exact ⟨⟨List.cons_ne_nil _ _, List.forall_mem_singleton.2 hw⟩, List.forall_mem_nil _⟩
  rw [if_neg hb, if_neg hw]
  cases Mode.closing? c with
  | some mark => exact ⟨Nat.le_add_left .., List.forall_mem_nil _⟩
  | none =>
    dsimp only
    split_ifs
    · exact ⟨trivial, List.forall_mem_singleton.2 trivial⟩
    · exact ⟨trivial, List.forall_mem_nil _⟩
    · exact ⟨trivial, List.forall_mem_nil _⟩
    · exact ⟨trivial, List.forall_mem_singleton.2 trivial⟩

theorem Within.flush (h : s.Within n) (c : Char) :
    (s.flush c).1.Within (n + 1) ∧ ∀ t ∈ (s.flush c).2, t.Within (n + 1) := by
  obtain ⟨hs, ht⟩ := within_start n c
  refine ⟨hs, List.forall_mem_append.2 ⟨fun t hm => ?_, ht⟩⟩
  exact (h.finish t hm).mono (Nat.le_succ n)

theorem Within.step (h : s.Within n) (c : Char) :
    (s.step c).1.Within (n + 1) ∧ ∀ t ∈ (s.step c).2, t.Within (n + 1) := by
  cases s with
  | closing mark text =>
    rw [Scan.step]
    split_ifs with hd
    · obtain rfl : c = mark := by
        simp only [doubles, Bool.and_eq_true, decide_eq_true_eq] at hd
        exact hd.1
      have hcount : (text ++ [c]).count c = text.count c + 1 := by simp
      have hbound : text.length + text.count c + 2 ≤ n := h
      refine ⟨?_, List.forall_mem_nil _⟩
      change (text ++ [c]).length + (text ++ [c]).count c + 1 ≤ n + 1
      rw [hcount, List.length_append, List.length_singleton]
      omega
    · exact h.flush c
  | reading m =>
    cases m with
    | blank => exact h.flush c
    | word text =>
      rw [Scan.step, Mode.step]
      split_ifs with hw
      · refine ⟨⟨by simp, fun d hd => ?_⟩, List.forall_mem_nil _⟩
        rcases List.mem_append.1 hd with hd | hd
        · exact h.2 d hd
        · rwa [List.mem_singleton.1 hd]
      · exact h.flush c
      · simp
    | quoted mark text =>
      have hbound : text.length + text.count mark + 1 ≤ n := h
      rw [Scan.step]
      split_ifs with hd
      · exact ⟨Nat.succ_le_succ hbound, List.forall_mem_nil _⟩
      · rw [Mode.step]
        split_ifs with hm
        · exact ⟨trivial, List.forall_mem_singleton.2 (Nat.succ_le_succ hbound)⟩
        · have hcount : (text ++ [c]).count mark = text.count mark := by simp [hm]
          refine ⟨?_, List.forall_mem_nil _⟩
          change (text ++ [c]).length + (text ++ [c]).count mark + 1 ≤ n + 1
          rw [hcount, List.length_append, List.length_singleton]
          omega
    | dash | slash =>
      rw [Scan.step, Mode.step]
      split_ifs
      · exact ⟨trivial, List.forall_mem_nil _⟩
      · exact h.flush c
      · simp
    | line | block | star =>
      rw [Scan.step, Mode.step]
      · split_ifs <;> exact ⟨trivial, List.forall_mem_nil _⟩
      · simp

theorem Within.run {cs : List Char} (h : s.Within n) :
    ∀ t ∈ s.tokens cs ++ (s.after cs).finish, t.Within (n + cs.length) := by
  induction cs generalizing n s with
  | nil => exact h.finish
  | cons c cs ih =>
    obtain ⟨hs, ht⟩ := h.step c
    rw [tokens, after_cons, List.append_assoc, List.length_cons, Nat.add_comm cs.length,
      ← Nat.add_assoc]
    refine List.forall_mem_append.2 ⟨fun t hm => ?_, ih hs⟩
    exact (ht t hm).mono (Nat.le_add_right ..)

end Scan

theorem within_scan (text : String) : ∀ t ∈ scan text, t.Within text.toList.length := by
  have h : Scan.start.Within 0 := trivial
  have hrun : ∀ t ∈ scan text, t.Within (0 + text.toList.length) := h.run
  rwa [Nat.zero_add] at hrun

theorem Mode.start_word {c : Char} (h : isWord c) : start c = (.word [c], []) := by
  have hb : isBlank c = false := by
    by_contra hb
    simp only [isBlank, Bool.not_eq_false, Bool.or_eq_true, decide_eq_true_eq, or_assoc] at hb
    rcases hb with rfl | rfl | rfl | rfl | rfl <;> exact absurd h (by decide)
  simp [start, hb, h]

namespace Scan

theorem run_word {cs : List Char} (h : ∀ c ∈ cs, Mode.isWord c) (text : List Char) :
    tokens (.reading (.word text)) cs = [] ∧
      after (.reading (.word text)) cs = .reading (.word (text ++ cs)) := by
  induction cs generalizing text with
  | nil => simp [tokens]
  | cons c cs ih =>
    obtain ⟨hc, hcs⟩ := List.forall_mem_cons.1 h
    have hs : step (.reading (.word text)) c = (.reading (.word (text ++ [c])), []) := by
      simp [step, Mode.step, hc]
    obtain ⟨ht, ha⟩ := ih hcs (text ++ [c])
    rw [tokens, after_cons, hs, ht, ha, List.append_assoc]
    exact ⟨rfl, rfl⟩

theorem run_quoted {mark : Char} {cs : List Char} (h : mark ∉ cs) (text : List Char) :
    tokens (.reading (.quoted mark text)) cs = [] ∧
      after (.reading (.quoted mark text)) cs = .reading (.quoted mark (text ++ cs)) := by
  induction cs generalizing text with
  | nil => simp [tokens]
  | cons c cs ih =>
    rw [List.mem_cons, not_or] at h
    obtain ⟨hc, hcs⟩ := h
    have hs : step (.reading (.quoted mark text)) c =
        (.reading (.quoted mark (text ++ [c])), []) := by
      simp [step, Mode.step, doubles, Ne.symm hc]
    obtain ⟨ht, ha⟩ := ih hcs (text ++ [c])
    rw [tokens, after_cons, hs, ht, ha, List.append_assoc]
    exact ⟨rfl, rfl⟩

end Scan

theorem scan_word {text : String} (hne : text.toList ≠ [])
    (h : ∀ c ∈ text.toList, Mode.isWord c) :
    scan text = [.word text.toList] ∧ scanEnd text = .reading (.word text.toList) := by
  unfold scan scanEnd
  obtain ⟨c, cs, hc⟩ := List.exists_cons_of_ne_nil hne
  rw [hc] at h ⊢
  obtain ⟨hw, hws⟩ := List.forall_mem_cons.1 h
  obtain ⟨ht, ha⟩ := Scan.run_word hws [c]
  rw [Scan.tokens, Scan.after_cons, Scan.step_start, Scan.flush, Mode.start_word hw, ht, ha]
  exact ⟨rfl, rfl⟩

theorem scan_quoted {name : String} (h : '\x60' ∉ name.toList) :
    scan (quoted name) = [.quoted '\x60' name.toList] ∧
      scanEnd (quoted name) = .closing '\x60' name.toList := by
  have hl : (quoted name).toList = '\x60' :: (name.toList ++ ['\x60']) := by
    simp [quoted, String.toList_append]
  have ho : Scan.start.step '\x60' = (.reading (.quoted '\x60' []), []) := rfl
  have hc (text : List Char) : Scan.step (.reading (.quoted '\x60' text)) '\x60' =
      (.closing '\x60' text, []) := rfl
  obtain ⟨ht, ha⟩ := Scan.run_quoted h []
  unfold scan scanEnd
  rw [hl, Scan.tokens, Scan.after_cons, ho, Scan.tokens_append, Scan.after_append, ht, ha,
    Scan.tokens, Scan.after_cons, hc]
  exact ⟨rfl, rfl⟩

/-- A text that is one token, the name. -/
def ReadsAs (text name : String) : Prop := (scan text).map Token.name? = [some name.toList]

instance (text name : String) : Decidable (ReadsAs text name) :=
  inferInstanceAs (Decidable (_ = _))

inductive Spelling where
  | quoted
  | bare
deriving DecidableEq

namespace Spelling

def write : Spelling → String → String
  | .quoted, name => RecordSql.quoted name
  | .bare, name => name

def token : Spelling → String → Token
  | .quoted, name => .quoted '\x60' name.toList
  | .bare, name => .word name.toList

/-- Nothing is doubled and nothing is quoted on the way, so a name has to be right as it is. -/
def Suits : Spelling → String → Prop
  | .quoted, name => '\x60' ∉ name.toList
  | .bare, name => name.toList ≠ [] ∧ name.toList.all Mode.isWord ∧
    ¬name.toList.head?.any Char.isDigit

instance : (spelling : Spelling) → (name : String) → Decidable (spelling.Suits name)
  | .quoted, name => inferInstanceAs (Decidable ('\x60' ∉ name.toList))
  | .bare, name => inferInstanceAs (Decidable (name.toList ≠ [] ∧ name.toList.all Mode.isWord ∧
    ¬name.toList.head?.any Char.isDigit))

variable {spelling : Spelling} {name : String}

theorem Suits.scan_write (h : spelling.Suits name) :
    scan (spelling.write name) = [spelling.token name] ∧
      (scanEnd (spelling.write name)).isClosed := by
  cases spelling with
  | quoted =>
    obtain ⟨hs, he⟩ := scan_quoted h
    exact ⟨hs, by rw [write, he]; rfl⟩
  | bare =>
    obtain ⟨hs, he⟩ := scan_word h.1 (List.all_eq_true.1 h.2.1)
    exact ⟨hs, by rw [write, he]; rfl⟩

theorem Suits.name?_token (h : spelling.Suits name) :
    (spelling.token name).name? = some name.toList := by
  cases spelling with
  | quoted => rfl
  | bare => simp only [token, Token.name?, if_neg h.2.2]

theorem suits_of_readsAs (h : ReadsAs (spelling.write name) name) : spelling.Suits name := by
  obtain ⟨t, ht, hname⟩ := List.map_eq_singleton_iff.1 h
  have hw := within_scan (spelling.write name) t (by rw [ht]; exact List.mem_singleton_self t)
  cases t with
  | word text =>
    simp only [Token.name?] at hname
    split_ifs at hname with hd
    obtain rfl := Option.some.inj hname
    cases spelling with
    | bare => exact ⟨hw.1, List.all_eq_true.2 hw.2, hd⟩
    | quoted => exact fun hm => absurd (hw.2 _ hm) (by decide)
  | quoted mark text =>
    simp only [Token.name?] at hname
    split_ifs at hname with hm
    obtain rfl := Option.some.inj hname
    subst hm
    replace hw : name.toList.length + name.toList.count '\x60' + 2 ≤ _ := hw
    cases spelling with
    | bare =>
      rw [write] at hw
      omega
    | quoted =>
      have hl : (RecordSql.quoted name).toList.length = name.toList.length + 2 := by
        simp [RecordSql.quoted, String.toList_append]
      rw [write, hl] at hw
      exact List.count_eq_zero.1 (by omega)
  | symbol | hole => cases hname

theorem readsAs_write_iff : ReadsAs (spelling.write name) name ↔ spelling.Suits name := by
  refine ⟨suits_of_readsAs, fun h => ?_⟩
  rw [ReadsAs, h.scan_write.1, List.map_singleton, h.name?_token]

theorem Suits.quoted (h : Suits .bare name) : Suits .quoted name :=
  fun hm => absurd (List.all_eq_true.1 h.2.1 _ hm) (by decide)

end Spelling

end RecordSql
