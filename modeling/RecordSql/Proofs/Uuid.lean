import Mathlib.Data.List.Forall2
import RecordSql.Proofs.Text.Hex
import RecordSql.Uuid

/-! The spellings of an identifier: its digits in a row, or in groups with hyphens between them,
plain, in braces or after a name space. Every spelling is read, and one of them is written. -/

namespace RecordSql.Uuid

def SpellsDigits (hex : List Char) (ds : List (Fin 16)) : Prop :=
  List.Forall₂ (fun c d => Hex.digitValue? c = some d.val) hex ds

def grouped (hex : List Char) : List Char :=
  hex.take 8 ++ '-' :: ((hex.drop 8).take 4 ++ '-' :: ((hex.drop 12).take 4 ++
    '-' :: ((hex.drop 16).take 4 ++ '-' :: hex.drop 20)))

inductive Spells : List Char → Uuid → Prop
  | simple {hex : List Char} {u : Uuid} : SpellsDigits hex u.digits → Spells hex u
  | hyphenated {hex : List Char} {u : Uuid} : SpellsDigits hex u.digits → Spells (grouped hex) u
  | braced {hex : List Char} {u : Uuid} : SpellsDigits hex u.digits →
    Spells ('\x7b' :: grouped hex ++ ['\x7d']) u
  | named {name hex : List Char} {u : Uuid} : name.map Char.toLower = "urn:uuid:".toList →
    SpellsDigits hex u.digits → Spells (name ++ grouped hex) u

theorem SpellsDigits.mapM {hex : List Char} {ds : List (Fin 16)} (h : SpellsDigits hex ds) :
    hex.mapM digit? = some ds := by
  induction h with
  | nil => rfl
  | @cons c d hex ds hc _ ih =>
    have hdigit : digit? c = some d := by
      simp [digit?, hc]
    simp [List.mapM_cons, hdigit, ih]

theorem SpellsDigits.ofDigits? {hex : List Char} {u : Uuid} (h : SpellsDigits hex u.digits) :
    ofDigits? hex = some u := by
  simp [Uuid.ofDigits?, h.mapM, u.length_eq]

theorem SpellsDigits.length {hex : List Char} {u : Uuid} (h : SpellsDigits hex u.digits) :
    hex.length = 32 :=
  (List.Forall₂.length_eq h).trans u.length_eq

theorem unhyphenated?_groups {a b c d e : List Char} (ha : a.length = 8) (hb : b.length = 4)
    (hc : c.length = 4) (hd : d.length = 4) (he : e.length = 12) :
    unhyphenated? (a ++ '-' :: (b ++ '-' :: (c ++ '-' :: (d ++ '-' :: e)))) =
      some (a ++ b ++ c ++ d ++ e) := by
  simp [unhyphenated?, ha, hb, hc, hd, he, List.drop_append,
    List.drop_eq_nil_of_le]

theorem length_grouped {hex : List Char} (h : hex.length = 32) :
    (grouped hex).length = 36 := by
  simp [grouped, h]

theorem unhyphenated?_grouped {hex : List Char} (h : hex.length = 32) :
    unhyphenated? (grouped hex) = some hex := by
  have hgroups := unhyphenated?_groups (a := hex.take 8) (b := (hex.drop 8).take 4)
    (c := (hex.drop 12).take 4) (d := (hex.drop 16).take 4) (e := hex.drop 20) (by simp [h])
    (by simp [h]) (by simp [h]) (by simp [h]) (by simp [h])
  have hall : hex.take 8 ++ (hex.drop 8).take 4 ++ (hex.drop 12).take 4 ++ (hex.drop 16).take 4 ++
      hex.drop 20 = hex := by
    simp only [← List.take_add, List.take_append_drop]
  rwa [hall] at hgroups

theorem Spells.ofText? {cs : List Char} {u : Uuid} (h : Spells cs u) : ofText? cs = some u := by
  have hread {hex : List Char} (hd : SpellsDigits hex u.digits) :
      (unhyphenated? (grouped hex)).bind ofDigits? = some u := by
    rw [unhyphenated?_grouped hd.length]
    exact hd.ofDigits?
  unfold Uuid.ofText?
  cases h with
  | simple hd => rw [if_pos hd.length, hd.ofDigits?]
  | @hyphenated hex _ hd =>
    have hlength := length_grouped hd.length
    have hunwrapped : unwrapped (grouped hex) = grouped hex := by
      rw [unwrapped, if_neg (by omega), if_neg (by omega)]
    rw [if_neg (by omega), hunwrapped, hread hd]
  | @braced hex _ hd =>
    have hlength : ('\x7b' :: grouped hex ++ ['\x7d']).length = 38 := by
      simp [length_grouped hd.length]
    have hlast : ('\x7b' :: grouped hex ++ ['\x7d']).getLast? = some '\x7d' := List.getLast?_concat
    have hunwrapped : unwrapped ('\x7b' :: grouped hex ++ ['\x7d']) = grouped hex := by
      rw [unwrapped, if_pos ⟨hlength, rfl, hlast⟩]
      simp
    rw [if_neg (by omega), hunwrapped, hread hd]
  | @named name hex _ hname hd =>
    have hnine : name.length = 9 := by simpa using congrArg List.length hname
    have hlength : (name ++ grouped hex).length = 45 := by
      simp [hnine, length_grouped hd.length]
    have htake : ((name ++ grouped hex).take 9).map Char.toLower = "urn:uuid:".toList := by
      rw [← hnine, List.take_left]
      exact hname
    have hunwrapped : unwrapped (name ++ grouped hex) = grouped hex := by
      rw [unwrapped, if_neg (by omega), if_pos ⟨hlength, htake⟩, ← hnine, List.drop_left]
    rw [if_neg (by omega), hunwrapped, hread hd]

theorem spellsDigits_digitText (ds : List (Fin 16)) : SpellsDigits (digitText ds) ds :=
  List.forall₂_map_left_iff.2 (List.forall₂_same.2 fun d _ => Hex.digitValue?_digit d.isLt)

theorem spells_text (u : Uuid) : Spells u.text u := by
  have h := Spells.hyphenated (spellsDigits_digitText u.digits)
  simpa [text, grouped] using h

end RecordSql.Uuid
