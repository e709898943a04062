import Mathlib.Order.Bounds.Basic
import RecordSql.Text.Boundary

/-! What a text is cut to is the longest beginning of it within the limit that ends where a character
does. -/

namespace RecordSql.Boundary

structure LongestPrefix (limit : Nat) (s t : String) : Prop where
  begins : t.toList <+: s.toList
  longest : IsGreatest {n | String.Pos.Raw.IsValid s ⟨n⟩ ∧ n ≤ limit} t.utf8ByteSize

theorem toList_prefix_iff {s t : String} : t.toList <+: s.toList ↔ ∃ u, s = t ++ u := by
  constructor
  · rintro ⟨cs, hcs⟩
    refine ⟨String.ofList cs, String.toList_inj.1 ?_⟩
    rw [String.toList_append, String.toList_ofList, hcs]
  · rintro ⟨u, rfl⟩
    rw [String.toList_append]
    exact List.prefix_append _ _

theorem isValid_iff_exists {s : String} {n : Nat} :
    String.Pos.Raw.IsValid s ⟨n⟩ ↔ ∃ t : String, t.toList <+: s.toList ∧ t.utf8ByteSize = n := by
  rw [String.Pos.Raw.isValid_iff_exists_append]
  constructor
  · rintro ⟨t, u, hs, hn⟩
    exact ⟨t, toList_prefix_iff.2 ⟨u, hs⟩, (congrArg String.Pos.Raw.byteIdx hn).symm⟩
  · rintro ⟨t, ht, rfl⟩
    obtain ⟨u, hs⟩ := toList_prefix_iff.1 ht
    exact ⟨t, u, hs, rfl⟩

theorem isGreatest_stepBack (s : String) (limit : Nat) :
    IsGreatest {n | String.Pos.Raw.IsValid s ⟨n⟩ ∧ n ≤ limit} (stepBack s limit) := by
  induction limit with
  | zero => exact ⟨⟨String.Pos.Raw.isValid_zero, Nat.le_refl 0⟩, fun n hn => hn.2⟩
  | succ limit ih =>
    obtain ⟨⟨hvalid, hle⟩, hgreatest⟩ := ih
    rw [stepBack]
    split
    next h => exact ⟨⟨String.Pos.Raw.isValid_eq_true_iff.1 h, Nat.le_refl _⟩, fun n hn => hn.2⟩
    next h =>
      -- the limit itself is inside a character, so an offset up to it is below it
      have hlimit : ¬String.Pos.Raw.IsValid s ⟨limit + 1⟩ :=
        fun hv => h (String.Pos.Raw.isValid_eq_true_iff.2 hv)
      refine ⟨⟨hvalid, Nat.le_succ_of_le hle⟩, fun n hn => hgreatest ⟨hn.1, ?_⟩⟩
      have hne : n ≠ limit + 1 := by
        rintro rfl
        exact hlimit hn.1
      have hn := hn.2
      omega

theorem prefix_of_utf8ByteSize_le {s t u : String} (ht : t.toList <+: s.toList)
    (hu : u.toList <+: s.toList) (hle : t.utf8ByteSize ≤ u.utf8ByteSize) :
    t.toList <+: u.toList := by
  obtain h | h := List.prefix_or_prefix_of_prefix ht hu
  · exact h
  · obtain ⟨v, rfl⟩ := toList_prefix_iff.1 h
    have hv : v.utf8ByteSize = 0 := by
      rw [String.utf8ByteSize_append] at hle
      omega
    have hempty : u ++ v = u := by rw [String.utf8ByteSize_eq_zero_iff.1 hv, String.append_empty]
    exact hempty.symm ▸ List.prefix_refl _

theorem LongestPrefix.unique {limit : Nat} {s t u : String} (ht : LongestPrefix limit s t)
    (hu : LongestPrefix limit s u) : t = u := by
  have hsize : t.utf8ByteSize = u.utf8ByteSize := ht.longest.unique hu.longest
  have htu := prefix_of_utf8ByteSize_le ht.begins hu.begins (Nat.le_of_eq hsize)
  have hut := prefix_of_utf8ByteSize_le hu.begins ht.begins (Nat.le_of_eq hsize.symm)
  exact String.toList_inj.1 (htu.eq_of_length_le hut.length_le)

/-- A cut loses at most what one character has beyond its first byte. -/
theorem LongestPrefix.le_add_three {limit : Nat} {s t : String} (h : LongestPrefix limit s t)
    (hlimit : limit < s.utf8ByteSize) : limit ≤ t.utf8ByteSize + 3 := by
  obtain ⟨⟨-, hle⟩, hgreatest⟩ := h.longest
  obtain ⟨cs, hcs⟩ := h.begins
  cases cs with
  | nil =>
    rw [List.append_nil] at hcs
    rw [String.toList_inj.1 hcs] at hle
    omega
  | cons c cs =>
    have hnext : (t ++ String.singleton c).toList <+: s.toList := by
      rw [← hcs, String.toList_append, String.toList_singleton]
      exact ⟨cs, by simp⟩
    have hsize : (t ++ String.singleton c).utf8ByteSize = t.utf8ByteSize + c.utf8Size := by simp
    have hvalid : String.Pos.Raw.IsValid s ⟨t.utf8ByteSize + c.utf8Size⟩ :=
      isValid_iff_exists.2 ⟨_, hnext, hsize⟩
    have hfour : c.utf8Size ≤ 4 := c.utf8Size_le_four
    have hpos : 0 < c.utf8Size := c.utf8Size_pos
    by_contra hfar
    have hback := hgreatest ⟨hvalid, by omega⟩
    omega

theorem longestPrefix_cut (s : String) (limit : Nat) : LongestPrefix limit s (cut s limit) := by
  unfold cut
  split
  next hle =>
    refine ⟨List.prefix_refl _, ⟨String.Pos.Raw.isValid_rawEndPos, hle⟩, fun n hn => ?_⟩
    exact hn.1.le_utf8ByteSize
  next =>
    have hsplits := String.Pos.splits ⟨⟨stepBack s limit⟩, isValid_stepBack s limit⟩
    generalize (s.sliceTo ⟨⟨stepBack s limit⟩, isValid_stepBack s limit⟩).copy = t at hsplits ⊢
    have hsize : t.utf8ByteSize = stepBack s limit :=
      (congrArg String.Pos.Raw.byteIdx hsplits.offset_eq_rawEndPos).symm
    refine ⟨toList_prefix_iff.2 ⟨_, hsplits.eq_append⟩, ?_⟩
    rw [hsize]
    exact isGreatest_stepBack s limit

end RecordSql.Boundary
