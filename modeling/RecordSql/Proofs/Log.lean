import RecordSql.Log
import RecordSql.Proofs.Text.Boundary

/-! What the log shows of a statement: the text as it is, or its longest beginning of whole
characters within the limit, with dots behind. -/

namespace RecordSql.LogConfig

open Boundary

structure LongestFront (limit : Nat) (text front : List Char) : Prop where
  begins : front <+: text
  fits : (String.ofList front).utf8ByteSize ≤ limit
  longest : ∀ other, other <+: text → (String.ofList other).utf8ByteSize ≤ limit → other <+: front

theorem longestFront_cut (limit : Nat) (sql : String) :
    LongestFront limit sql.toList (cut sql limit).toList := by
  obtain ⟨hbegins, ⟨-, hfits⟩, hgreatest⟩ := longestPrefix_cut sql limit
  refine ⟨hbegins, ?_, fun other hother hsize => ?_⟩
  · rwa [String.ofList_toList]
  · rw [← String.toList_ofList (l := other)] at hother
    have hle := hgreatest ⟨isValid_iff_exists.2 ⟨_, hother, rfl⟩, hsize⟩
    have hfront := prefix_of_utf8ByteSize_le hother hbegins hle
    rwa [String.toList_ofList] at hfront

inductive Shows : Option Nat → String → String → Prop
  | unlimited (sql : String) : Shows none sql sql
  | short {limit : Nat} {sql : String} : sql.utf8ByteSize ≤ limit → Shows (some limit) sql sql
  | cut {limit : Nat} {sql : String} {front : List Char} : limit < sql.utf8ByteSize →
    LongestFront limit sql.toList front → Shows (some limit) sql (String.ofList front ++ "...")

theorem shows_shown (log : LogConfig) (sql : String) : Shows log.limit sql (log.shown sql) := by
  unfold shown
  cases log.limit with
  | none => exact .unlimited sql
  | some limit =>
    dsimp only
    split
    next h =>
      rw [← String.ofList_toList (s := cut sql limit)]
      exact .cut h (longestFront_cut limit sql)
    next h => exact .short (Nat.not_lt.1 h)

variable {log : LogConfig} {limit : Nat} {sql : String}

theorem shown_of_lt (hlog : log.limit = some limit) (hlimit : limit < sql.utf8ByteSize) :
    log.shown sql = cut sql limit ++ "..." := by
  simp [shown, hlog, hlimit]

/-- A statement that is cut reads as before only if what is over the limit is the three dots. -/
theorem shown_eq_self_iff (hlog : log.limit = some limit) (hlimit : limit < sql.utf8ByteSize) :
    log.shown sql = sql ↔ ∃ kept : String, kept.utf8ByteSize = limit ∧ sql = kept ++ "..." := by
  have hfront := longestPrefix_cut sql limit
  rw [shown_of_lt hlog hlimit]
  generalize cut sql limit = kept at hfront
  constructor
  · rintro rfl
    obtain ⟨⟨-, hfits⟩, hgreatest⟩ := hfront.longest
    have hdot : (kept ++ ".").toList <+: (kept ++ "...").toList :=
      toList_prefix_iff.2 ⟨"..", by rw [String.append_assoc]; rfl⟩
    have hvalid := isValid_iff_exists.2 ⟨kept ++ ".", hdot, String.utf8ByteSize_append⟩
    have hsize : ".".utf8ByteSize = 1 := rfl
    -- with room for one more byte, the first dot would be kept too
    have hfull : ¬kept.utf8ByteSize + 1 ≤ limit := fun hroom => by
      have hback := hgreatest ⟨hvalid, hroom⟩
      omega
    exact ⟨kept, by omega, rfl⟩
  · rintro ⟨t, rfl, rfl⟩
    have hbegins : t.toList <+: (t ++ "...").toList := toList_prefix_iff.2 ⟨"...", rfl⟩
    have ht : LongestPrefix t.utf8ByteSize (t ++ "...") t :=
      ⟨hbegins, ⟨isValid_iff_exists.2 ⟨t, hbegins, rfl⟩, Nat.le_refl _⟩, fun n hn => hn.2⟩
    rw [hfront.unique ht]

/-- A statement over the limit is shown as its longest beginning within the limit, at most three
bytes short of it, and dots. It reads the same as before without a limit, within the limit, and
where it is a beginning of just that size with three dots of its own. -/
theorem shown_excerpt (log : LogConfig) (sql : String) :
    (∀ limit, String.Pos.Raw.IsValid sql ⟨stepBack sql limit⟩ ∧
      LongestPrefix limit sql (cut sql limit) ∧
      (limit < sql.utf8ByteSize → limit ≤ (cut sql limit).utf8ByteSize + 3)) ∧
    (log.shown sql = sql ↔ log.limit = none ∨ ∃ limit ∈ log.limit, sql.utf8ByteSize ≤ limit ∨
      ∃ kept : String, kept.utf8ByteSize = limit ∧ sql = kept ++ "...") ∧
    ∀ limit ∈ log.limit, limit < sql.utf8ByteSize →
      log.shown sql = cut sql limit ++ "..." := by
  refine ⟨fun limit => ?_, ?_, fun limit => shown_of_lt⟩
  · have hlongest := longestPrefix_cut sql limit
    exact ⟨isValid_stepBack sql limit, hlongest, hlongest.le_add_three⟩
  · cases hlog : log.limit with
    | none => simp [shown, hlog]
    | some limit =>
      by_cases hlimit : limit < sql.utf8ByteSize
      · simp [shown_eq_self_iff hlog hlimit, Nat.not_le.2 hlimit]
      · simp [shown, hlog, hlimit, Nat.not_lt.1 hlimit]

theorem shown_fourBytes :
    11 < "SELECT '😀';".utf8ByteSize ∧ cut "SELECT '😀';" 11 = "SELECT '" ∧
      11 ≤ (cut "SELECT '😀';" 11).utf8ByteSize + 3 ∧
      LogConfig.shown { limit := some 11 } "SELECT '😀';" = "SELECT '..." := by
  have hsize : 11 < "SELECT '😀';".utf8ByteSize := by decide
  have hcut : cut "SELECT '😀';" 11 = "SELECT '" := by decide +kernel
  obtain ⟨hcuts, -, hshown⟩ := shown_excerpt { limit := some 11 } "SELECT '😀';"
  obtain ⟨-, -, hnear⟩ := hcuts 11
  have hdots := hshown 11 rfl hsize
  rw [hcut] at hdots
  exact ⟨hsize, hcut, hnear hsize, hdots⟩

/-- A statement over the limit can be shown as it is. -/
theorem not_fits_of_shown_dots :
    ¬∀ (log : LogConfig) (sql : String),
      log.shown sql = sql ↔ log.limit = none ∨ ∃ limit ∈ log.limit, sql.utf8ByteSize ≤ limit := by
  intro h
  have hshown : LogConfig.shown { limit := some 2 } "ab..." = "ab..." :=
    (shown_eq_self_iff rfl (by decide)).2 ⟨"ab", rfl, rfl⟩
  obtain hnone | ⟨limit, hlimit, hfits⟩ := (h _ _).1 hshown
  · cases hnone
  · cases hlimit
    exact absurd hfits (by decide)

end RecordSql.LogConfig
