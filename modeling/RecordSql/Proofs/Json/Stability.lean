import RecordSql.Proofs.Json.Reading
import RecordSql.Scalar

/-! The stored form of JSON columns. A text whose numbers are integers loads as a document that is
stored as one text, whatever blanks, escapes, order or repetition of keys it was loaded with; and
that text loads as the same document. -/

namespace RecordSql.Json

namespace Token

variable {mode mode' : Mode} {c : Char} {t : Token} {ts : List Token} {cs : List Char} {j : Json}

def Mode.numeral? : Mode → Option (List Char)
  | .numeral front => some front.reverse
  | _ => none

def ended (mode : Mode) (c : Char) : List (List Char) :=
  if isNumeral c then [] else mode.numeral?.toList

def numerals : Mode → List Char → List (List Char)
  | mode, [] => mode.numeral?.toList
  | mode, c :: cs => ended mode c ++ ((step mode c).map fun r => numerals r.2 cs).getD []

theorem ofWord?_whole (h : ofWord? cs = some t) : Whole t := by
  unfold ofWord? at h
  split at h
  · cases h
    rintro _ ⟨⟩
    exact .null
  split at h
  · cases h
    rintro _ ⟨⟩ n
    exact .bool n true
  split at h
  · cases h
    rintro _ ⟨⟩ n
    exact .bool n false
  · cases h

theorem whole_ite {p : Prop} [Decidable p] {r : List Token × Mode}
    {o : Option (List Token × Mode)} (hr : ∀ t ∈ r.1, Whole t)
    (ho : ∀ r', o = some r' → ∀ t ∈ r'.1, Whole t) :
    ∀ r', (if p then some r else o) = some r' → ∀ t ∈ r'.1, Whole t := by
  split
  · rintro _ ⟨⟩
    exact hr
  · exact ho

theorem start_whole : ∀ r, start c = some r → ∀ t ∈ r.1, Whole t := by
  unfold start
  iterate 10 refine whole_ite (by simp [Whole]) ?_
  exact nofun

theorem whole_text (s : String) : Whole (.text s) := nofun

theorem whole_silent (h : some ([], mode) = some (ts, mode')) : ∀ t ∈ ts, Whole t := by
  cases h
  exact List.forall_mem_nil _

theorem Gathers.whole {kind : List Char → Mode} {belongs : Char → Bool}
    {ofChars? : List Char → Option Token} (g : Gathers kind belongs ofChars?) {front : List Char}
    (h : step (kind front) c = some (ts, mode'))
    (ho : ¬belongs c → ∀ t, ofChars? front.reverse = some t → t.Whole) : ∀ t ∈ ts, Whole t := by
  by_cases hc : belongs c
  · rw [g.inside front c hc] at h
    exact whole_silent h
  · rw [g.outside front c hc] at h
    obtain ⟨t, ht, h⟩ := Option.bind_eq_some_iff.1 h
    obtain ⟨⟨us, _⟩, hs, h⟩ := Option.map_eq_some_iff.1 h
    cases h
    exact List.forall_mem_cons.2 ⟨ho hc t ht, start_whole _ hs⟩

theorem step_whole (h : step mode c = some (ts, mode'))
    (hn : ∀ ds ∈ ended mode c, IntegerLiteral ds) : ∀ t ∈ ts, Whole t := by
  cases mode with
  | between => exact start_whole _ h
  | word front => exact gathers_word.whole h fun _ t => ofWord?_whole
  | numeral front =>
    refine gathers_numeral.whole h fun hc t => (hn _ ?_).whole
    simp [ended, hc, Mode.numeral?]
  | text front =>
    simp only [step] at h
    split at h
    · cases h
      exact List.forall_mem_singleton.2 (whole_text _)
    split at h
    · exact whole_silent h
    split at h
    · cases h
    · exact whole_silent h
  | escape front =>
    simp only [step] at h
    split at h
    · exact whole_silent h
    · obtain ⟨d, _, h⟩ := Option.map_eq_some_iff.1 h
      exact whole_silent (congrArg some h)
  | unit front high digits =>
    simp only [step] at h
    split at h
    · exact whole_silent h
    · obtain ⟨n, _, h⟩ := Option.bind_eq_some_iff.1 h
      obtain ⟨mode, _, h⟩ := Option.bind_eq_some_iff.1 h
      exact whole_silent h
  | pair | pairEscape =>
    simp only [step] at h
    split at h
    · exact whole_silent h
    · cases h

theorem finish_whole (h : finish mode = some ts)
    (hn : ∀ ds ∈ mode.numeral?, IntegerLiteral ds) : ∀ t ∈ ts, Whole t := by
  cases mode with
  | between =>
    cases h
    exact List.forall_mem_nil _
  | word front =>
    obtain ⟨t, ht, rfl⟩ := Option.map_eq_some_iff.1 h
    exact List.forall_mem_singleton.2 (ofWord?_whole ht)
  | numeral front =>
    obtain ⟨t, ht, rfl⟩ := Option.map_eq_some_iff.1 h
    exact List.forall_mem_singleton.2 ((hn _ rfl).whole ht)
  | _ => cases h

theorem scan_whole (h : scan mode cs = some ts)
    (hn : ∀ ds ∈ numerals mode cs, IntegerLiteral ds) : ∀ t ∈ ts, Whole t := by
  induction cs generalizing mode ts with
  | nil => exact finish_whole h fun ds hds => hn ds (Option.mem_toList.2 hds)
  | cons c cs ih =>
    obtain ⟨⟨us, mode'⟩, hstep, h⟩ := Option.bind_eq_some_iff.1 h
    obtain ⟨vs, hscan, h⟩ := Option.bind_eq_some_iff.1 h
    cases h
    rw [numerals, hstep, Option.map_some, Option.getD_some, List.forall_mem_append] at hn
    exact List.forall_mem_append.2 ⟨step_whole hstep hn.1, ih hscan hn.2⟩

end Token

theorem ofText?_write {j : Json} (h : Fits Frame.depthLimit j) : ofText? (write j) = some j := by
  have hscan : Token.scan .between (write j) = some (tokens j) := by
    have hw := Token.scans_write h [] nofun
    rw [List.append_nil] at hw
    rw [hw]
    exact congrArg some (List.append_nil _)
  have hread : (tokens j).foldlM Frame.step (.expect []) = some (.value j []) :=
    Frame.reads h [] (by decide)
  rw [ofText?, hscan]
  show (tokens j).foldlM Frame.step (.expect []) >>= Frame.finish = _
  rw [hread]
  rfl

/-- A text whose numbers are integers, with no fraction, no exponent and no negated zero, that fit a
word of 64 bits. -/
def OfIntegers (cs : List Char) : Prop := ∀ ds ∈ Token.numerals .between cs, IntegerLiteral ds

theorem OfIntegers.fits {cs : List Char} (hi : OfIntegers cs) {j : Json}
    (h : ofText? cs = some j) : Fits Frame.depthLimit j := by
  obtain ⟨ts, hscan, h⟩ := Option.bind_eq_some_iff.1 h
  obtain ⟨s, hrun, h⟩ := Option.bind_eq_some_iff.1 h
  have hsound : s.Sound := Frame.Runs.sound hrun (Token.scan_whole hscan hi) ⟨_, .nil⟩
  unfold Frame.finish at h
  split at h
  · cases h
    obtain ⟨_, ⟨⟩, hfits⟩ := hsound
    exact hfits
  · cases h

end RecordSql.Json

namespace RecordSql.Scalar

open Json (OfIntegers Alike)

/-- A text of integers that loads is stored in a form that loads to the same document and is stored
unchanged, and every other one that loads to a document that holds the same is stored in that form
as well. -/
theorem json_stable {text : String} {j : Json} (hi : OfIntegers text.toList)
    (h : Scalar.json.decode (.text text) = some j) :
    ∃ stored, Scalar.json.encode j = .text stored ∧ Scalar.json.decode (.text stored) = some j ∧
      (∀ j', Scalar.json.decode (.text stored) = some j' →
        Scalar.json.encode j' = .text stored) ∧
      ∀ text' j', OfIntegers text'.toList → Scalar.json.decode (.text text') = some j' →
        Alike j j' → Scalar.json.encode j' = .text stored := by
  have hfits : Json.Fits _ j := hi.fits h
  have hload : Scalar.json.decode (.text (Json.compact j)) = some j := by
    show Json.ofText? (String.ofList (Json.write j)).toList = some j
    rw [String.toList_ofList]
    exact Json.ofText?_write hfits
  refine ⟨Json.compact j, rfl, hload, fun j' hj' => ?_, fun text' j' hi' h' halike => ?_⟩
  · obtain rfl := Option.some.inj (hload.symm.trans hj')
    rfl
  · have hfits' : Json.Fits _ j' := hi'.fits h'
    rw [halike.eq hfits hfits']
    rfl

namespace Untidy

def text : String := "\x7b \"b\": 1, \"a\": \"\\ud83d\\ude00\", \"b\": [ -2 ] \x7d"

def document : Json := .object [("a", .text "😀"), ("b", .array [.integer (-2)])]

theorem numerals_text : Json.Token.numerals .between text.toList = [['1'], ['-', '2']] := by
  decide +kernel

theorem ofIntegers_text : OfIntegers text.toList := by
  rw [OfIntegers, numerals_text]
  refine List.forall_mem_cons.2 ⟨.positive (List.all_eq_true.1 rfl) (by decide), ?_⟩
  exact List.forall_mem_singleton.2
    (.negative (List.all_eq_true.1 rfl) (by decide) (by decide))

theorem decode_text : Scalar.json.decode (.text text) = some document := rfl

theorem stable_text : ∃ stored, Scalar.json.encode document = .text stored ∧
    Scalar.json.decode (.text stored) = some document ∧
      ∀ text' j', OfIntegers text'.toList → Scalar.json.decode (.text text') = some j' →
        Alike document j' → Scalar.json.encode j' = .text stored := by
  obtain ⟨stored, hstored, hload, _, hothers⟩ := json_stable ofIntegers_text decode_text
  exact ⟨stored, hstored, hload, hothers⟩

end Untidy

end RecordSql.Scalar
