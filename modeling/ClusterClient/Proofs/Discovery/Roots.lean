import ClusterClient.Proofs.Discovery.Answers
import Mathlib.Data.List.Basic

namespace ClusterClient.Discovery

open Transport (IsFailure)

variable {answers answers' : String → Option Http.Response} {base : String}

/-- A failure of the root document of a prefix. -/
def IsRootFailure (addressPrefix : String) (response : Option Http.Response) : Prop :=
  addressPrefix ∈ Surface.legacyPrefixes ∧ IsFailure LegacyRoot.ofTree? response ∨
    addressPrefix = Surface.groupedPrefix ∧ IsFailure GroupRoot.ofTree? response

/-- The roots without those of a prefix. -/
def Roots.without (addressPrefix : String) (roots : Roots) : Roots where
  groups := roots.groups.filter fun group => group.addressPrefix ≠ addressPrefix
  surfaces := roots.surfaces.filter fun surface => surface.addressPrefix ≠ addressPrefix

theorem Roots.addLegacy_without (roots : Roots) (addressPrefix other : String)
    (answer : Except Error LegacyRoot) :
    (roots.addLegacy addressPrefix answer).without other =
      if addressPrefix = other then roots.without other
      else (roots.without other).addLegacy addressPrefix answer := by
  cases answer with
  | error => simp [addLegacy]
  | ok root =>
    by_cases same : addressPrefix = other
    · simp [addLegacy, without, legacyGroup, legacySurfaces, same]
    · simp [addLegacy, without, legacyGroup, legacySurfaces, same]

theorem Roots.addNamed_without (roots : Roots) (other : String) (answer : Except Error GroupRoot) :
    (roots.addNamed answer).without other =
      if Surface.groupedPrefix = other then roots.without other
      else (roots.without other).addNamed answer := by
  cases answer with
  | error => simp [addNamed]
  | ok root =>
    have named : ∀ surface ∈ root.groups.flatMap namedSurfaces,
        surface.addressPrefix = Surface.groupedPrefix := by
      intro surface member
      obtain ⟨entry, _, inEntry⟩ := List.mem_flatMap.mp member
      obtain ⟨version, _, rfl⟩ := List.mem_map.mp inEntry
      rfl
    simp only [addNamed, without, List.filter_append]
    by_cases same : Surface.groupedPrefix = other
    · have surfaces : (root.groups.flatMap namedSurfaces).filter
          (fun surface => surface.addressPrefix ≠ other) = [] := by
        refine List.filter_eq_nil_iff.mpr fun surface member => ?_
        simp [named surface member, same]
      rw [if_pos same, surfaces]
      simp [namedGroup, same]
    · have surfaces : (root.groups.flatMap namedSurfaces).filter
          (fun surface => surface.addressPrefix ≠ other) = root.groups.flatMap namedSurfaces := by
        refine List.filter_eq_self.mpr fun surface member => ?_
        simp [named surface member, same]
      rw [if_neg same, surfaces]
      simp [namedGroup, same]

theorem url_ne_of_path_ne {path other : String} (different : path ≠ other) :
    base ++ "/" ++ path ≠ base ++ "/" ++ other :=
  fun same => different ((String.append_right_inj _).mp same)

/-- Without the root document of a prefix the other roots are left. -/
theorem rootsOf_without {addressPrefix : String}
    (failure : IsRootFailure addressPrefix (answers' (base ++ "/" ++ addressPrefix)))
    (elsewhere : ∀ url, url ≠ base ++ "/" ++ addressPrefix → answers' url = answers url) :
    rootsOf answers' base = (rootsOf answers base).without addressPrefix := by
  have legacy : Surface.legacyPrefixes.foldl (afterLegacy answers' base) {}
      = (Surface.legacyPrefixes.foldl (afterLegacy answers base) {}).without addressPrefix := by
    -- Both walks along the prefixes go on side by side, one without what the other has found there.
    refine List.foldl_rel (r := fun part whole => part = Roots.without addressPrefix whole) rfl ?_
    intro other legacy part whole related
    rw [related, afterLegacy, afterLegacy, Roots.addLegacy_without]
    by_cases same : other = addressPrefix
    · subst same
      rcases failure with ⟨_, failure⟩ | ⟨named, _⟩
      · obtain ⟨error, failed⟩ := failure.reading_eq_error (base ++ "/" ++ other)
        rw [if_pos rfl, failed]
        rfl
      · subst named
        exact absurd legacy (by decide)
    · rw [if_neg same, elsewhere _ (url_ne_of_path_ne same)]
  rw [rootsOf, rootsOf, legacy, Roots.addNamed_without]
  by_cases same : Surface.groupedPrefix = addressPrefix
  · subst same
    rcases failure with ⟨legacy, _⟩ | ⟨_, failure⟩
    · exact absurd legacy (by decide)
    · obtain ⟨error, failed⟩ := failure.reading_eq_error (base ++ "/" ++ Surface.groupedPrefix)
      rw [if_pos rfl, failed]
      rfl
  · rw [if_neg same, elsewhere _ (url_ne_of_path_ne same)]

/-- The path of a list stands apart from those of the root documents. -/
theorem slash_mem_path (surface : Surface) : '/' ∈ surface.path.toList := by
  unfold Surface.path
  split <;> simp [String.toList_append]

theorem slash_not_mem_legacy :
    ∀ addressPrefix ∈ Surface.legacyPrefixes, '/' ∉ addressPrefix.toList := by decide

theorem rootsOf_congr
    (same : ∀ path, '/' ∉ path.toList →
      answers' (base ++ "/" ++ path) = answers (base ++ "/" ++ path)) :
    rootsOf answers' base = rootsOf answers base := by
  have legacy : Surface.legacyPrefixes.foldl (afterLegacy answers' base) {}
      = Surface.legacyPrefixes.foldl (afterLegacy answers base) {} := by
    refine List.foldl_ext _ _ _ fun roots addressPrefix member => ?_
    rw [afterLegacy, afterLegacy, same addressPrefix (slash_not_mem_legacy addressPrefix member)]
  rw [rootsOf, rootsOf, legacy, same Surface.groupedPrefix (by decide)]

/-- Only the prefix of the groups has surfaces of groups. -/
def Roots.IsGrouped (roots : Roots) : Prop :=
  ∀ surface ∈ roots.surfaces, surface.groupName.isSome →
    surface.addressPrefix = Surface.groupedPrefix

theorem Roots.IsGrouped.addLegacy {roots : Roots} (grouped : roots.IsGrouped)
    (addressPrefix : String) (answer : Except Error LegacyRoot) :
    (roots.addLegacy addressPrefix answer).IsGrouped :=
  Roots.forall_addLegacy grouped (fun _ named => by cases named) answer

theorem Roots.IsGrouped.addNamed {roots : Roots} (grouped : roots.IsGrouped)
    (answer : Except Error GroupRoot) : (roots.addNamed answer).IsGrouped :=
  Roots.forall_addNamed grouped (fun _ _ _ => rfl) answer

theorem rootsOf_grouped (answers : String → Option Http.Response) (base : String) :
    (rootsOf answers base).IsGrouped := by
  refine Roots.IsGrouped.addNamed ?_ _
  refine List.foldlRecOn Surface.legacyPrefixes (afterLegacy answers base) ?_ ?_
  · exact fun surface member => by cases member
  · exact fun roots grouped addressPrefix _ => grouped.addLegacy addressPrefix _

end ClusterClient.Discovery
