import ClusterClient.Proofs.Text.Pieces
import ClusterClient.Proofs.Url.Ipv4
import ClusterClient.Url.Ipv6
import Mathlib.Data.Nat.Digits.Defs

namespace ClusterClient.Ipv6

/-- The groups in hexadecimal, with a colon between any two. -/
def written (groups : List Nat) : List Char :=
  [':'].intercalate (groups.map (Nat.toDigits 16))

theorem toList_joined (groups : List Nat) : (joined groups).toList = written groups := by
  simp [joined, written, hexText, Function.comp_def]

theorem hexadecimal_of_mem {n : Nat} {c : Char} (member : c ∈ Nat.toDigits 16 n) :
    ∃ digit < 16, c = Nat.digitChar digit := by
  induction n using Nat.base_induction 16 (by decide) with
  | single m small =>
    rw [Nat.toDigits_of_lt_base small, List.mem_singleton] at member
    exact ⟨m, small, member⟩
  | digit m k small large ih =>
    rw [← Nat.toDigits_append_toDigits (by decide) large small, List.mem_append,
      Nat.toDigits_of_lt_base small, List.mem_singleton] at member
    exact member.elim ih fun same => ⟨k, small, same⟩

theorem not_mem_toDigits {c : Char} (apart : ∀ digit < 16, c ≠ Nat.digitChar digit) (n : Nat) :
    c ∉ Nat.toDigits 16 n := by
  intro member
  obtain ⟨digit, small, same⟩ := hexadecimal_of_mem member
  exact apart digit small same

theorem colon_not_mem (n : Nat) : ':' ∉ Nat.toDigits 16 n := not_mem_toDigits (by decide) n

theorem mem_written {groups : List Nat} {c : Char} (member : c ∈ written groups) :
    c = ':' ∨ ∃ digit < 16, c = Nat.digitChar digit := by
  refine (Text.mem_intercalate member).imp_right fun ⟨digits, inside, own⟩ => ?_
  obtain ⟨group, -, rfl⟩ := List.mem_map.mp inside
  exact hexadecimal_of_mem own

/-- The text of an address holds colons and hexadecimal digits. -/
theorem mem_text {groups : List Nat} {c : Char} (member : c ∈ (text groups).toList) :
    c = ':' ∨ ∃ digit < 16, c = Nat.digitChar digit := by
  unfold text at member
  dsimp only at member
  split at member
  · rw [toList_joined] at member
    exact mem_written member
  · rw [String.toList_append, String.toList_append, toList_joined, toList_joined, List.mem_append,
      List.mem_append] at member
    rcases member with (before | gap) | after
    · exact mem_written before
    · have colons : "::".toList = List.replicate 2 ':' := rfl
      rw [colons] at gap
      exact .inl (List.eq_of_mem_replicate gap)
    · exact mem_written after

theorem group?_toDigits {group : Nat} (bound : group < 65536) :
    group? (Nat.toDigits 16 group) = some group := by
  have short : (Nat.toDigits 16 group).length ≤ 4 :=
    Nat.toDigits_length 16 group 4 (by decide) bound
  have nonempty : Nat.toDigits 16 group ≠ [] := Nat.toDigits_ne_nil
  rw [group?, if_neg (by simp [nonempty, short]), Ipv4.number?_toDigits (by decide) (by decide)]

/-- A run of groups reads back, be it the last one or not. -/
theorem groups?_written {groups : List Nat} (bound : ∀ group ∈ groups, group < 65536)
    (final : Bool) : groups? final (written groups) = some groups := by
  rcases List.eq_nil_or_concat' groups with rfl | ⟨leading, last, rfl⟩
  · rfl
  · have split : (written (leading ++ [last])).splitOn ':'
        = leading.map (Nat.toDigits 16) ++ [Nat.toDigits 16 last] := by
      rw [written, List.map_append]
      refine List.splitOn_intercalate ':' (fun digits member colon => ?_) (by simp)
      rw [← List.map_append] at member
      obtain ⟨group, -, rfl⟩ := List.mem_map.mp member
      exact colon_not_mem group colon
    have nonempty : (written (leading ++ [last])).isEmpty = false := by
      cases empty : written (leading ++ [last]) with
      | cons => rfl
      | nil =>
        rw [empty, List.splitOn_nil] at split
        have same := congrArg List.getLast? split
        rw [List.getLast?_singleton, List.getLast?_concat, Option.some_inj] at same
        exact absurd same.symm Nat.toDigits_ne_nil
    obtain ⟨others, own⟩ := List.forall_mem_append.mp bound
    have undotted : '.' ∉ Nat.toDigits 16 last := not_mem_toDigits (by decide) last
    have reads : (leading.map (Nat.toDigits 16)).mapM group? = some leading :=
      Text.mapM_map fun group member => group?_toDigits (others group member)
    have readsLast : group? (Nat.toDigits 16 last) = some last :=
      group?_toDigits (own last List.mem_cons_self)
    simp [groups?, nonempty, split, reads, readsLast, undotted]

theorem cutGap_append {segment : List Char} (absent : ':' ∉ segment) (rest : List Char) :
    cutGap (segment ++ rest) =
      (cutGap rest).map fun (before, after) => (segment ++ before, after) := by
  induction segment with
  | nil => simp
  | cons c segment ih =>
    obtain ⟨different, others⟩ := not_or.mp (List.mem_cons.not.mp absent)
    rw [List.cons_append, cutGap, ih others, Option.map_map]
    · rfl
    · rintro after rfl
      simp at different

/-- A single colon is no gap. -/
theorem cutGap_colon {rest : List Char} (single : rest.head? ≠ some ':') :
    cutGap (':' :: rest) = (cutGap rest).map fun (before, after) => (':' :: before, after) := by
  rw [cutGap]
  rintro after - rfl
  simp at single

/-- The first gap comes after the groups written before it. -/
theorem cutGap_written (groups : List Nat) (rest : List Char) : cutGap (written groups ++ rest) =
    (cutGap rest).map fun (before, after) => (written groups ++ before, after) := by
  induction groups with
  | nil => simp [written]
  | cons group groups ih =>
    cases groups with
    | nil => simpa [written] using cutGap_append (colon_not_mem group) rest
    | cons next groups =>
      have unfolded : written (group :: next :: groups)
          = Nat.toDigits 16 group ++ ':' :: written (next :: groups) := by
        simp [written, List.intercalate_cons_cons]
      have single : (written (next :: groups) ++ rest).head? ≠ some ':' := by
        obtain ⟨c, digits, split⟩ :=
          List.exists_cons_of_ne_nil (Nat.toDigits_ne_nil (n := next) (b := 16))
        have different : c ≠ ':' := by
          rintro rfl
          exact colon_not_mem next (split ▸ List.mem_cons_self)
        cases groups <;> simp [written, split, List.intercalate_cons_cons, different]
      rw [unfolded, List.append_assoc, cutGap_append (colon_not_mem group), List.cons_append,
        cutGap_colon single, ih]
      simp [Option.map_map, Function.comp_def]

/-- The run that is left out is one of zeros. -/
theorem longestZeros_spec (start : Nat) (groups : List Nat) :
    ∃ skipped, (longestZeros start groups).1 = start + skipped ∧
      (groups.drop skipped).take (longestZeros start groups).2
        = List.replicate (longestZeros start groups).2 0 := by
  induction groups generalizing start with
  | nil => exact ⟨0, rfl, rfl⟩
  | cons group rest ih =>
    rw [longestZeros]
    split
    · have zeros : (group :: rest).takeWhile (· == 0)
          = List.replicate (leadingZeros (group :: rest)) 0 := by
        refine List.eq_replicate_of_mem fun other member => ?_
        simpa using List.all_eq_true.mp List.all_takeWhile other member
      refine ⟨0, rfl, ?_⟩
      rw [List.drop_zero, ← zeros]
      exact (List.prefix_iff_eq_take.mp (List.takeWhile_prefix _)).symm
    · obtain ⟨skipped, place, zeros⟩ := ih (start + 1)
      exact ⟨skipped + 1, by omega, zeros⟩

/-- Eight groups read back from their text. -/
theorem ofText?_text {groups : List Nat} (eight : groups.length = 8)
    (bound : ∀ group ∈ groups, group < 65536) : ofText? (text groups).toList = some groups := by
  obtain ⟨start, place, zeros⟩ := longestZeros_spec 0 groups
  rw [Nat.zero_add] at place
  rw [text]
  dsimp only
  rw [place]
  generalize (longestZeros 0 groups).2 = count at zeros ⊢
  by_cases short : count < 2
  · have uncut : cutGap (written groups) = none := by
      simpa [cutGap] using cutGap_written groups []
    rw [if_pos short, toList_joined, ofText?, uncut]
    simp [groups?_written bound, eight]
  · have within : count ≤ groups.length - start := by
      have lengths := congrArg List.length zeros
      rw [List.length_take, List.length_drop, List.length_replicate] at lengths
      omega
    have cut := cutGap_written (groups.take start) (':' :: ':' :: written (groups.drop (start + count)))
    simp only [cutGap, Option.map_some, List.append_nil] at cut
    have left : groups? false (written (groups.take start)) = some (groups.take start) :=
      groups?_written (fun group member => bound group (List.mem_of_mem_take member)) false
    have right : groups? true (written (groups.drop (start + count)))
        = some (groups.drop (start + count)) :=
      groups?_written (fun group member => bound group (List.mem_of_mem_drop member)) true
    have whole : groups.take start ++ List.replicate count 0 ++ groups.drop (start + count)
        = groups := by
      rw [← zeros, List.append_assoc, ← List.drop_drop, List.take_append_drop,
        List.take_append_drop]
    have filled : 8 - (groups.take start).length - (groups.drop (start + count)).length = count := by
      rw [List.length_take, List.length_drop]
      omega
    have room : (groups.take start).length + (groups.drop (start + count)).length < 8 := by
      rw [List.length_take, List.length_drop]
      omega
    rw [if_neg short, String.toList_append, String.toList_append, toList_joined, toList_joined,
      List.append_assoc, ofText?]
    have gap : "::".toList ++ written (groups.drop (start + count))
        = ':' :: ':' :: written (groups.drop (start + count)) := rfl
    simp only [gap, cut, left, right, Option.bind_eq_bind, Option.bind_some]
    rw [if_pos room, filled, whole]

theorem group?_lt {digits : List Char} {group : Nat} (read : group? digits = some group) :
    group < 65536 := by
  obtain ⟨fits, number⟩ := Option.ite_none_left_eq_some.mp read
  have short : digits.length ≤ 4 := by
    simp at fits
    exact fits.2
  calc group < 16 ^ digits.length := Ipv4.number?_lt number
    _ ≤ 16 ^ 4 := Nat.pow_le_pow_right (by decide) short

theorem dotted?_lt {chars : List Char} {groups : List Nat} (read : dotted? chars = some groups) :
    ∀ group ∈ groups, group < 65536 := by
  obtain ⟨bytes, each, read⟩ := Option.bind_eq_some_iff.mp read
  have small : ∀ byte ∈ bytes, byte ≤ 255 := by
    refine Text.forall_mem_of_mapM (fun digits _ byte own => ?_) each
    obtain ⟨value, -, own⟩ := Option.bind_eq_some_iff.mp own
    obtain ⟨fits, same⟩ := Option.ite_none_right_eq_some.mp own
    rw [← Option.some.inj same]
    exact of_decide_eq_true (Bool.and_eq_true_iff.mp fits).2
  split at read
  · simp at small
    cases read
    simp
    omega
  · cases read

theorem groups?_lt {final : Bool} {chars : List Char} {groups : List Nat}
    (read : groups? final chars = some groups) : ∀ group ∈ groups, group < 65536 := by
  unfold groups? at read
  split at read
  · cases read
    exact List.forall_mem_nil _
  · obtain ⟨leading, each, read⟩ := Option.bind_eq_some_iff.mp read
    have before := Text.forall_mem_of_mapM (fun _ _ _ own => group?_lt own) each
    dsimp only at read
    split at read
    · obtain ⟨last, dotted, same⟩ := Option.bind_eq_some_iff.mp read
      cases same
      exact List.forall_mem_append.mpr ⟨before, dotted?_lt dotted⟩
    · obtain ⟨last, own, same⟩ := Option.bind_eq_some_iff.mp read
      cases same
      exact List.forall_mem_append.mpr ⟨before, by simpa using group?_lt own⟩

/-- What is read as an address is eight groups of sixteen bits. -/
theorem ofText?_bounded {chars : List Char} {groups : List Nat} (read : ofText? chars = some groups) :
    groups.length = 8 ∧ ∀ group ∈ groups, group < 65536 := by
  unfold ofText? at read
  split at read
  · obtain ⟨all, own, read⟩ := Option.bind_eq_some_iff.mp read
    obtain ⟨eight, same⟩ := Option.ite_none_right_eq_some.mp read
    cases same
    exact ⟨eight, groups?_lt own⟩
  · obtain ⟨left, before, read⟩ := Option.bind_eq_some_iff.mp read
    obtain ⟨right, after, read⟩ := Option.bind_eq_some_iff.mp read
    obtain ⟨room, same⟩ := Option.ite_none_right_eq_some.mp read
    cases same
    refine ⟨by simp; omega, ?_⟩
    refine List.forall_mem_append.mpr ⟨List.forall_mem_append.mpr ⟨groups?_lt before, ?_⟩,
      groups?_lt after⟩
    intro group member
    rw [List.eq_of_mem_replicate member]
    decide

end ClusterClient.Ipv6
