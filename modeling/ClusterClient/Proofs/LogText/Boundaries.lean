import ClusterClient.LogText

namespace ClusterClient.LogText

/-- The most whole characters that a text starts with and that fit into `room` bytes. -/
structure IsLongestStart (room : Nat) (first text : String) : Prop where
  starts : ∃ rest, text = first ++ rest
  fits : first.utf8ByteSize ≤ room
  longest : ∀ other rest, text = other ++ rest → other.utf8ByteSize ≤ room →
    other.utf8ByteSize ≤ first.utf8ByteSize

section Search

variable {text : String} {room : Nat}

theorem boundary_le : boundary text room ≤ room := by
  induction room with
  | zero => exact Nat.le_refl 0
  | succ offset ih =>
    rw [boundary]
    split
    · exact Nat.le_refl (offset + 1)
    · exact Nat.le_succ_of_le ih

/-- The search passes over no place between two characters. -/
theorem le_boundary {offset : Nat} (between : String.Pos.Raw.IsValid text ⟨offset⟩)
    (inside : offset ≤ room) : offset ≤ boundary text room := by
  induction room with
  | zero => exact inside
  | succ last ih =>
    rw [boundary]
    split
    · exact inside
    · next within =>
      rcases Nat.le_succ_iff.mp inside with before | rfl
      · exact ih before
      · exact absurd (String.Pos.Raw.isValid_eq_true_iff.mpr between) within

theorem utf8ByteSize_start : (start room text).utf8ByteSize = boundary text room := by
  have parted := (text.pos ⟨boundary text room⟩ (boundary_isValid text room)).splits
  exact (congrArg String.Pos.Raw.byteIdx parted.offset_eq_rawEndPos).symm

theorem start_isLongestStart : IsLongestStart room (start room text) text where
  starts := ⟨_, String.sliceTo_append_sliceFrom.symm⟩
  fits := by
    rw [utf8ByteSize_start]
    exact boundary_le
  longest := by
    intro other rest whole short
    rw [utf8ByteSize_start]
    exact le_boundary (String.Pos.Raw.isValid_iff_exists_append.mpr ⟨other, rest, whole, rfl⟩) short

end Search

/-- A character has at most four bytes, so that at most three bytes of the room are left over. -/
theorem IsLongestStart.near {room : Nat} {first text : String}
    (longest : IsLongestStart room first text) (long : room ≤ text.utf8ByteSize) :
    room ≤ first.utf8ByteSize + 3 := by
  obtain ⟨rest, whole⟩ := longest.starts
  cases after : rest.toList with
  | nil =>
    have nothing : rest = "" := String.toList_eq_nil_iff.mp after
    rw [whole, nothing, String.append_empty] at long
    exact Nat.le_add_right_of_le long
  | cons c others =>
    have next : rest = String.singleton c ++ String.ofList others := by
      rw [← String.toList_inj]
      simp [after]
    -- If four bytes were left over, the next character would have fitted as well.
    refine Nat.le_of_not_lt fun far => ?_
    have more := longest.longest (first ++ String.singleton c) (String.ofList others)
      (by rw [whole, next, String.append_assoc])
    rw [String.utf8ByteSize_append, String.utf8ByteSize_singleton] at more
    have small := c.utf8Size_le_four
    have positive := c.utf8Size_pos
    omega

/-- In a text that is longer than the room, the search stops at most three bytes below. -/
theorem le_boundary_add_three {room : Nat} {text : String} (long : room ≤ text.utf8ByteSize) :
    room ≤ boundary text room + 3 := by
  rw [← utf8ByteSize_start]
  exact start_isLongestStart.near long

example : boundary "né" 2 = 1 := by decide +kernel

end ClusterClient.LogText
