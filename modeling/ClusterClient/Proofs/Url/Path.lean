import ClusterClient.Proofs.Text.Pieces
import ClusterClient.Proofs.Url.Escapes

namespace ClusterClient.Url

/-- A segment of a path in its normal form. -/
structure IsSegment (segment : String) : Prop where
  escaped : escapeSegment segment.toList = segment.toList
  slashless : '/' ∉ segment.toList ∧ '\\' ∉ segment.toList
  single : isSingleDot segment.toList = false
  double : isDoubleDot segment.toList = false

/-- The texts of the dot segments. -/
def dotTexts : List String :=
  [".", "%2e", "%2E", "..", ".%2e", ".%2E", "%2e.", "%2E.", "%2e%2e", "%2e%2E", "%2E%2e", "%2E%2E"]

def segmentSpecial : String := " \"#<>?^\x60\x7b\x7d"

theorem segment_kept : escapeAlphabet.all (isClean segmentSpecial) = true := by decide

theorem dotTexts_unescaped : ∀ target ∈ dotTexts, ∀ code < 256,
    isClean segmentSpecial (Char.ofNat code) = false →
      ¬ Percent.escapeByte (UInt8.ofNat code) <:+: target.toList := by
  decide +kernel

theorem IsSegment.isClean {segment : String} (normal : IsSegment segment) :
    ∀ c ∈ segment.toList, isClean segmentSpecial c = true :=
  (escape_eq_self_iff segment_kept).mp normal.escaped

/-- Escapes make no dot segment: what becomes one has been one. -/
theorem escapeSegment_of_dots {chars : List Char}
    (dots : String.ofList (escapeSegment chars) ∈ dotTexts) : escapeSegment chars = chars := by
  refine (eq_of_escape_eq rfl fun byte special inside => ?_).symm
  refine dotTexts_unescaped _ dots byte.toNat byte.toNat_lt special ?_
  rwa [UInt8.ofNat_toNat, String.toList_ofList]

theorem dots_of_isSingleDot {chars : List Char} (single : isSingleDot chars = true) :
    String.ofList chars ∈ dotTexts :=
  List.mem_append_left _ (List.elem_iff.mp single)

theorem dots_of_isDoubleDot {chars : List Char} (double : isDoubleDot chars = true) :
    String.ofList chars ∈ dotTexts :=
  List.mem_append_right [".", "%2e", "%2E"] (List.elem_iff.mp double)

theorem isSegment_escapeSegment {chars : List Char} (slashless : '/' ∉ chars ∧ '\\' ∉ chars)
    (single : isSingleDot chars = false) (double : isDoubleDot chars = false) :
    IsSegment (String.ofList (escapeSegment chars)) := by
  have absent {mark : Char} (apart : mark ∉ chars) (other : mark ∉ escapeAlphabet) :
      mark ∉ escapeSegment chars :=
    fun member => (mem_of_mem_escape member).elim apart other
  constructor
  · rw [String.toList_ofList]
    exact escape_escape segment_kept chars
  · rw [String.toList_ofList]
    exact ⟨absent slashless.1 (by decide), absent slashless.2 (by decide)⟩
  · rw [String.toList_ofList, Bool.eq_false_iff]
    intro dot
    rw [escapeSegment_of_dots (dots_of_isSingleDot dot), single] at dot
    cases dot
  · rw [String.toList_ofList, Bool.eq_false_iff]
    intro dots
    rw [escapeSegment_of_dots (dots_of_isDoubleDot dots), double] at dots
    cases dots

theorem isSegment_empty : IsSegment "" := by
  constructor <;> decide

variable {passed : List String} {rest : List (List Char)}

/-- Every segment that is resolved is normal. -/
theorem isSegment_of_mem_resolve (normal : ∀ segment ∈ passed, IsSegment segment)
    (slashless : ∀ chars ∈ rest, '/' ∉ chars ∧ '\\' ∉ chars) :
    ∀ segment ∈ resolve passed rest, IsSegment segment := by
  induction rest generalizing passed with
  | nil =>
    intro segment member
    exact normal segment (List.mem_reverse.mp member)
  | cons chars rest ih =>
    obtain ⟨own, others⟩ := List.forall_mem_cons.mp slashless
    have ending {shorter : List String} (before : ∀ segment ∈ shorter, IsSegment segment) :
        ∀ segment ∈ (if rest = [] then "" :: shorter else shorter), IsSegment segment := by
      split
      · exact List.forall_mem_cons.mpr ⟨isSegment_empty, before⟩
      · exact before
    unfold resolve
    split
    · exact ih (ending fun segment member => normal segment (List.mem_of_mem_tail member)) others
    · next double =>
      split
      · exact ih (ending normal) others
      · next single =>
        have made := isSegment_escapeSegment own (Bool.eq_false_iff.mpr single)
          (Bool.eq_false_iff.mpr double)
        exact ih (List.forall_mem_cons.mpr ⟨made, normal⟩) others

/-- Dot segments at the end leave an empty one, so that some segment is always left. -/
theorem resolve_ne_nil (nonempty : rest ≠ []) : resolve passed rest ≠ [] := by
  induction rest generalizing passed with
  | nil => exact absurd rfl nonempty
  | cons chars rest ih =>
    cases rest with
    | nil =>
      simp only [resolve, if_true]
      split
      · simp
      · split <;> simp
    | cons next rest =>
      have more : next :: rest ≠ [] := List.cons_ne_nil _ _
      unfold resolve
      split
      · exact ih more
      · split <;> exact ih more

/-- Normal segments stay as they are. -/
theorem resolve_segments {segments : List String} (normal : ∀ segment ∈ segments, IsSegment segment) :
    resolve passed (segments.map String.toList) = passed.reverse ++ segments := by
  induction segments generalizing passed with
  | nil => rw [List.map_nil, resolve, List.append_nil]
  | cons segment rest ih =>
    obtain ⟨own, others⟩ := List.forall_mem_cons.mp normal
    rw [List.map_cons, resolve, own.double, if_neg Bool.false_ne_true, own.single,
      if_neg Bool.false_ne_true, ih others, own.escaped, String.ofList_toList, List.reverse_cons,
      List.append_assoc, List.singleton_append]

theorem pathOf_normal (chars : List Char) :
    pathOf chars ≠ [] ∧ ∀ segment ∈ pathOf chars, IsSegment segment := by
  refine ⟨resolve_ne_nil (List.splitOn_ne_nil _ _), ?_⟩
  refine isSegment_of_mem_resolve (List.forall_mem_nil _) fun piece member => ?_
  obtain ⟨slashless, inside⟩ := Text.mem_splitOn member
  refine ⟨slashless, fun backslash => ?_⟩
  obtain ⟨c, -, image⟩ := List.mem_map.mp (List.mem_of_mem_drop (inside backslash))
  split at image
  · exact absurd image (by decide)
  · contradiction

/-- The text of segments, each of which follows a slash. -/
def slashed (segments : List String) : String := String.join (segments.map ("/" ++ ·))

variable {segments : List String}

theorem toList_slashed (segments : List String) :
    (slashed segments).toList = segments.flatMap fun segment => '/' :: segment.toList := by
  rw [slashed, String.toList_join, List.flatMap_map]
  exact List.flatMap_congr fun segment _ => String.toList_append

theorem slashed_append (segments more : List String) :
    slashed (segments ++ more) = slashed segments ++ slashed more := by
  rw [← String.toList_inj]
  simp [slashed]

theorem toList_slashed_of_ne_nil (nonempty : segments ≠ []) :
    (slashed segments).toList = '/' :: ['/'].intercalate (segments.map String.toList) := by
  rw [toList_slashed]
  induction segments with
  | nil => exact absurd rfl nonempty
  | cons segment rest ih =>
    cases rest with
    | nil => simp
    | cons next rest =>
      rw [List.flatMap_cons, ih (List.cons_ne_nil _ _), List.map_cons, List.map_cons, List.map_cons,
        List.intercalate_cons_cons]
      simp

theorem slashed_eq_intercalate (nonempty : segments ≠ []) :
    slashed segments = "/" ++ "/".intercalate segments := by
  rw [← String.toList_inj, toList_slashed_of_ne_nil nonempty, String.toList_append,
    String.toList_intercalate]
  rfl

/-- Normal segments read back from their text. -/
theorem pathOf_slashed (nonempty : segments ≠ []) (normal : ∀ segment ∈ segments, IsSegment segment) :
    pathOf (slashed segments).toList = segments := by
  have forward : ((slashed segments).toList.map fun c => if c = '\\' then '/' else c)
      = (slashed segments).toList := by
    refine (List.map_congr_left fun c member => ?_).trans (List.map_id _)
    rw [toList_slashed] at member
    obtain ⟨segment, inside, own⟩ := List.mem_flatMap.mp member
    refine if_neg fun backslash => ?_
    rw [backslash] at own
    rcases List.mem_cons.mp own with slash | own
    · exact absurd slash (by decide)
    · exact (normal segment inside).slashless.2 own
  have split : (['/'].intercalate (segments.map String.toList)).splitOn '/'
      = segments.map String.toList := by
    refine List.splitOn_intercalate '/' (fun chars member => ?_) (by simpa using nonempty)
    obtain ⟨segment, inside, rfl⟩ := List.mem_map.mp member
    exact (normal segment inside).slashless.1
  rw [pathOf, forward, toList_slashed_of_ne_nil nonempty, List.drop_one, List.tail_cons, split, resolve_segments normal]
  rfl

end ClusterClient.Url
