import ClusterClient.Proofs.Url.NormalForm

namespace ClusterClient.Url

/-- Characters that stand for themselves in every part of a URL. -/
def isUnreserved (c : Char) : Bool :=
  c.isAlphanum || c == '-' || c == '_' || c == '.' || c == '~'

/-- A segment that needs no escapes and stands for nothing but itself. -/
def IsUnreserved (segment : String) : Prop :=
  segment.toList.all isUnreserved = true ∧ segment ≠ "." ∧ segment ≠ ".."

instance (segment : String) : Decidable (IsUnreserved segment) :=
  inferInstanceAs (Decidable (_ ∧ _))

variable {url : Url} {segments : List String}

/-- Special characters that leave the unreserved ones alone. -/
def KeepsUnreserved (special : String) : Prop :=
  ∀ code < 128, isUnreserved (Char.ofNat code) = true → isClean special (Char.ofNat code) = true

theorem segmentSpecial_keeps : KeepsUnreserved segmentSpecial := by
  unfold KeepsUnreserved
  decide +kernel

theorem querySpecial_keeps : KeepsUnreserved querySpecial := by
  unfold KeepsUnreserved
  decide +kernel

theorem fragmentSpecial_keeps : KeepsUnreserved fragmentSpecial := by
  unfold KeepsUnreserved
  decide +kernel

theorem KeepsUnreserved.isClean {special : String} (keeps : KeepsUnreserved special) {c : Char}
    (unreserved : isUnreserved c = true) : isClean special c = true := by
  have written : Percent.isWritten c = true := Bool.or_eq_true_iff.mpr (.inl unreserved)
  have own := keeps c.toNat (Percent.isWritten_ascii written)
  rw [Char.ofNat_toNat] at own
  exact own unreserved

theorem IsUnreserved.isSegment {segment : String} (unreserved : IsUnreserved segment) :
    IsSegment segment := by
  obtain ⟨all, notDot, notDots⟩ := unreserved
  have each := List.all_eq_true.mp all
  have plain : String.ofList segment.toList ∉ dotTexts := by
    have texts : ∀ text ∈ dotTexts, text = "." ∨ text = ".." ∨ '%' ∈ text.toList := by decide
    rw [String.ofList_toList]
    intro dots
    rcases texts segment dots with dot | dot | escape
    · exact notDot dot
    · exact notDots dot
    · exact absurd (each '%' escape) (by decide)
  constructor
  · exact escape_of_clean fun c member => segmentSpecial_keeps.isClean (each c member)
  · exact ⟨fun slash => absurd (each '/' slash) (by decide),
      fun backslash => absurd (each '\\' backslash) (by decide)⟩
  · exact Bool.eq_false_iff.mpr fun dot => plain (dots_of_isSingleDot dot)
  · exact Bool.eq_false_iff.mpr fun dots => plain (dots_of_isDoubleDot dots)

/-- Without the slashes at its end, the text of segments is that of the first ones. -/
theorem trimEnd_slashed (slashless : ∀ segment ∈ segments, '/' ∉ segment.toList) :
    ∃ kept, kept <+: segments ∧ Text.trimEnd '/' (slashed segments) = slashed kept := by
  induction segments using List.reverseRecOn with
  | nil => exact ⟨[], List.nil_prefix, rfl⟩
  | append_singleton first last ih =>
    obtain ⟨others, own⟩ := List.forall_mem_append.mp slashless
    by_cases empty : last = ""
    · obtain ⟨kept, start, trimmed⟩ := ih others
      refine ⟨kept, start.trans (List.prefix_append _ _), ?_⟩
      rw [← trimmed, slashed_append, empty]
      simp [slashed, Text.trimEnd]
    · refine ⟨first ++ [last], List.prefix_rfl, ?_⟩
      have ends : (slashed (first ++ [last])).toList.getLast? ≠ some '/' := by
        obtain ⟨c, rest, split⟩ := List.exists_cons_of_ne_nil (String.toList_eq_nil_iff.not.mpr empty)
        intro slash
        rw [toList_slashed, List.flatMap_append, List.flatMap_singleton, split,
          List.getLast?_append_cons, List.getLast?_cons_cons, ← split] at slash
        exact own last (List.mem_singleton_self _) (List.mem_of_getLast? slash)
      exact Text.trimEnd_of_getLast?_ne ends

/-- What a part of a URL becomes when slashes at its end give way to a request's path. -/
def extended (text : String) (segments : List String) : String :=
  Text.trimEnd '/' text ++ "/" ++ "/".intercalate segments

/-- The URL that is read when a request's path follows the text of another: the path goes to
whatever part was the last one. -/
def followedBy (url : Url) (segments : List String) : Url :=
  match url.fragment, url.query with
  | some fragment, _ => { url with fragment := some (extended fragment segments) }
  | none, some query => { url with query := some (extended query segments) }
  | none, none => { url with path := pathOf (extended url.pathText segments).toList }

/-- Whether a URL names a request's path under the path of another, and nothing else. -/
def IsUnder (reached url : Url) (segments : List String) : Prop :=
  reached.pathText = extended url.pathText segments ∧ reached.query = none ∧ reached.fragment = none

theorem extended_append {before : String} (last : before.toList.getLast? ≠ some '/') (text : String)
    (segments : List String) : extended (before ++ text) segments = before ++ extended text segments := by
  rw [extended, extended, Text.trimEnd_append last, String.append_assoc, String.append_assoc,
    String.append_assoc]

theorem isClean_extended {special text : String} (slash : isClean special '/' = true)
    (keeps : KeepsUnreserved special)
    (clean : ∀ c ∈ text.toList, isClean special c = true)
    (unreserved : ∀ segment ∈ segments, IsUnreserved segment) :
    ∀ c ∈ (extended text segments).toList, isClean special c = true := by
  intro c member
  simp only [extended, String.toList_append, List.mem_append, String.toList_intercalate] at member
  rcases member with (kept | mark) | path
  · exact clean c (Text.trimEnd_subset '/' text kept)
  · rwa [List.mem_singleton.mp mark]
  · rcases Text.mem_intercalate path with rfl | ⟨chars, inside, own⟩
    · exact slash
    · obtain ⟨segment, given, rfl⟩ := List.mem_map.mp inside
      exact keeps.isClean (List.all_eq_true.mp (unreserved segment given).1 c own)

theorem followedBy_of_fragment {fragment : String} (given : url.fragment = some fragment) :
    url.followedBy segments = { url with fragment := some (extended fragment segments) } := by
  rw [followedBy, given]

theorem followedBy_of_query {query : String} (none : url.fragment = none)
    (given : url.query = some query) :
    url.followedBy segments = { url with query := some (extended query segments) } := by
  rw [followedBy, none, given]

theorem followedBy_of_none (noFragment : url.fragment = none) (noQuery : url.query = none) :
    url.followedBy segments
      = { url with path := pathOf (extended url.pathText segments).toList } := by
  rw [followedBy, noFragment, noQuery]

theorem getLast?_append_mark {mark : Char} (other : mark ≠ '/') (front : String) :
    (front ++ String.singleton mark).toList.getLast? ≠ some '/' := by
  rw [String.toList_append, String.toList_singleton, List.getLast?_concat]
  exact fun same => other (Option.some.inj same)

/-- A query or a fragment takes the request's path, and the path stays what it was. -/
theorem path_followedBy (more : url.query ≠ none ∨ url.fragment ≠ none) :
    (url.followedBy segments).path = url.path ∧
      ((url.followedBy segments).query ≠ none ∨ (url.followedBy segments).fragment ≠ none) := by
  cases fragmentGiven : url.fragment with
  | some fragment =>
    rw [followedBy_of_fragment fragmentGiven]
    exact ⟨rfl, .inr (Option.some_ne_none _)⟩
  | none =>
    cases queryGiven : url.query with
    | some query =>
      rw [followedBy_of_query fragmentGiven queryGiven]
      exact ⟨rfl, .inl (Option.some_ne_none _)⟩
    | none => exact absurd more (by simp [fragmentGiven, queryGiven])

theorem followedBy_server (url : Url) (segments : List String) :
    (url.followedBy segments).secure = url.secure ∧ (url.followedBy segments).userinfo = url.userinfo ∧
      (url.followedBy segments).host = url.host ∧ (url.followedBy segments).port = url.port := by
  unfold followedBy
  split <;> exact ⟨rfl, rfl, rfl, rfl⟩

section

variable [HostNames]

/-- The longer path is that of normal segments, so that it reads back. -/
theorem slashed_extended (normal : url.IsNormal) (nonempty : segments ≠ [])
    (unreserved : ∀ segment ∈ segments, IsUnreserved segment) :
    slashed (pathOf (extended url.pathText segments).toList) = extended url.pathText segments := by
  obtain ⟨kept, start, trimmed⟩ := trimEnd_slashed fun segment member =>
    (normal.path.2 segment member).slashless.1
  have same : slashed (kept ++ segments) = extended url.pathText segments := by
    rw [slashed_append, ← trimmed, slashed_eq_intercalate nonempty, extended, String.append_assoc]
    rfl
  have more : kept ++ segments ≠ [] := List.append_ne_nil_of_right_ne_nil _ nonempty
  have each : ∀ segment ∈ kept ++ segments, IsSegment segment :=
    List.forall_mem_append.mpr ⟨fun segment member => normal.path.2 segment (start.subset member),
      fun segment member => (unreserved segment member).isSegment⟩
  rw [← same, pathOf_slashed more each]

theorem followedBy_isNormal (normal : url.IsNormal)
    (unreserved : ∀ segment ∈ segments, IsUnreserved segment) :
    (url.followedBy segments).IsNormal := by
  cases fragmentGiven : url.fragment with
  | some fragment =>
    have longer := isClean_extended (by decide) fragmentSpecial_keeps
      (normal.isClean_fragment fragmentGiven) unreserved
    rw [followedBy_of_fragment fragmentGiven]
    refine { normal with fragment := fun other own => ?_ }
    cases own
    exact escape_of_clean longer
  | none =>
    cases queryGiven : url.query with
    | some query =>
      have longer := isClean_extended (by decide) querySpecial_keeps
        (normal.isClean_query queryGiven) unreserved
      rw [followedBy_of_query fragmentGiven queryGiven]
      refine { normal with query := fun other own => ?_ }
      cases own
      exact escape_of_clean longer
    | none =>
      have longer := pathOf_normal (extended url.pathText segments).toList
      rw [followedBy_of_none fragmentGiven queryGiven]
      -- Unification would unfold the path.
      generalize pathOf _ = path at longer
      exact { normal with path := longer }

theorem followedBy_isUnder (normal : url.IsNormal) (nonempty : segments ≠ [])
    (unreserved : ∀ segment ∈ segments, IsUnreserved segment) (noQuery : url.query = none)
    (noFragment : url.fragment = none) : (url.followedBy segments).IsUnder url segments := by
  have longer := slashed_extended normal nonempty unreserved
  rw [followedBy_of_none noFragment noQuery]
  generalize pathOf _ = path at longer ⊢
  exact ⟨longer, noQuery, noFragment⟩

variable [HostNames.IsLawful]

/-- No slash ends the authority. -/
theorem getLast?_authority (normal : url.IsNormal) (scheme : String) :
    (scheme ++ url.authority).toList.getLast? ≠ some '/' := by
  rw [String.toList_append, List.getLast?_append_of_ne_nil _ (authority_ne_nil normal)]
  intro slash
  have plain := isPlain_of_mem_authority normal (List.mem_of_getLast? slash)
  exact absurd plain (by decide)

/-- A request's path after the text of a URL without slashes at its end makes the text of
another. -/
theorem text_followedBy (normal : url.IsNormal) (nonempty : segments ≠ [])
    (unreserved : ∀ segment ∈ segments, IsUnreserved segment) :
    (url.followedBy segments).text = extended url.text segments := by
  cases fragmentGiven : url.fragment with
  | some fragment =>
    have last : (url.schemeText ++ url.authority ++ url.target ++ String.singleton '#').toList.getLast?
        ≠ some '/' := getLast?_append_mark (by decide) _
    have marked : url.fragmentText = String.singleton '#' ++ fragment := by
      rw [fragmentText, fragmentGiven]
      rfl
    rw [text_eq url, marked, ← String.append_assoc, extended_append last,
      followedBy_of_fragment fragmentGiven, text_eq]
    exact String.append_assoc.symm
  | none =>
    have unmarked : url.fragmentText = "" := by
      rw [fragmentText, fragmentGiven]
      rfl
    cases queryGiven : url.query with
    | some query =>
      have last : (url.schemeText ++ url.authority ++ url.pathText ++ String.singleton '?').toList.getLast?
          ≠ some '/' := getLast?_append_mark (by decide) _
      have marked : url.queryText = String.singleton '?' ++ query := by
        rw [queryText, queryGiven]
        rfl
      have plain : fragmentText { url with query := some (extended query segments) } = "" :=
        unmarked
      rw [text_eq url, target, marked, unmarked, String.append_empty, ← String.append_assoc,
        ← String.append_assoc, extended_append last, followedBy_of_query fragmentGiven queryGiven,
        text_eq, plain, String.append_empty, target, ← String.append_assoc]
      exact String.append_assoc.symm
    | none =>
      have last := getLast?_authority normal url.schemeText
      have unasked : url.queryText = "" := by rw [queryText, queryGiven]
      have longer := slashed_extended normal nonempty unreserved
      rw [text_eq url, target, unasked, unmarked, String.append_empty, String.append_empty,
        extended_append last, followedBy_of_none fragmentGiven queryGiven]
      generalize pathOf _ = path at longer
      rw [← longer, text_eq, target]
      have plain : queryText { url with path } = "" ∧ fragmentText { url with path } = "" :=
        ⟨unasked, unmarked⟩
      rw [plain.1, plain.2, String.append_empty, String.append_empty]
      rfl

end

end ClusterClient.Url
