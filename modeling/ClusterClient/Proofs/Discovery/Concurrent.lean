import ClusterClient.Proofs.Discovery.Answers

namespace ClusterClient.Discovery

/-- The answers of some surfaces, each in the place of its surface once it is there. -/
abbrev Slots := List (Option (Surface × Except Error ResourceListing))

/-- Get the list of the surface at a place, and keep it in that place. -/
def fetchAt (transport : Transport) (base : String) (surfaces : List Surface)
    (slots : Slots) (place : Nat) : Wire Slots :=
  match surfaces[place]? with
  | some surface => do
    let listing ← transport.fetch ResourceListing.ofTree? (base ++ "/" ++ surface.path)
    return slots.set place (some (surface, listing))
  | none => return slots

/-- Get the lists of some surfaces side by side. They are complete in the order of a schedule of
places, and are handed on in the order of the surfaces. -/
def joinListings (transport : Transport) (base : String) (surfaces : List Surface)
    (schedule : List Nat) : Wire (List (Surface × Except Error ResourceListing)) := do
  let slots ← schedule.foldlM (fetchAt transport base surfaces) (surfaces.map fun _ => none)
  return slots.filterMap id

/-- Discovery that gets its lists side by side. The schedule tells for any number of lists in which
order they are complete. -/
def discoverConcurrently (transport : Transport) (base : String) (schedule : Nat → List Nat) :
    Wire Catalog := do
  let roots ← fetchRoots transport base
  let listings ← joinListings transport base roots.surfaces (schedule roots.surfaces.length)
  return assemble roots.groups listings

variable {transport : Transport} {answers : String → Option Http.Response} {base : String}
  {surfaces : List Surface}

/-- What getting the list at a place leaves. -/
def fillAt (answers : String → Option Http.Response) (base : String) (surfaces : List Surface)
    (slots : Slots) (place : Nat) : Slots :=
  match surfaces[place]? with
  | some surface => slots.set place (some (listingOf answers base surface))
  | none => slots

theorem fetchAt_yields (answered : transport.AnswersBy answers) (base : String)
    (surfaces : List Surface) (slots : Slots) (place : Nat) :
    (fetchAt transport base surfaces slots place).Yields
      (fillAt answers base surfaces slots place) := by
  unfold fetchAt fillAt
  cases surfaces[place]? with
  | none => exact .pure slots
  | some surface => exact (Transport.fetch_yields answered _ _).bind (.pure _)

theorem length_fillAt (slots : Slots) (place : Nat) :
    (fillAt answers base surfaces slots place).length = slots.length := by
  unfold fillAt
  split
  · exact List.length_set
  · rfl

theorem getElem?_fillAt {slots : Slots} (whole : slots.length = surfaces.length)
    (place other : Nat) :
    (fillAt answers base surfaces slots place)[other]? =
      if other = place then (surfaces[other]?).map fun surface => some (listingOf answers base surface)
      else slots[other]? := by
  unfold fillAt
  split
  · next surface there =>
    obtain ⟨within, -⟩ := List.getElem?_eq_some_iff.mp there
    by_cases same : other = place
    · subst same
      rw [if_pos rfl, there, List.getElem?_set_self (whole ▸ within), Option.map_some]
    · rw [if_neg same, List.getElem?_set_ne (Ne.symm same)]
  · next nothing =>
    by_cases same : other = place
    · subst same
      have beyond := List.getElem?_eq_none_iff.mp nothing
      rw [if_pos rfl, nothing, Option.map_none, List.getElem?_eq_none (whole ▸ beyond)]
    · rw [if_neg same]

/-- A place of the schedule is filled with the list of its own surface, whatever comes before. -/
theorem getElem?_foldl_fillAt (schedule : List Nat) {slots : Slots}
    (whole : slots.length = surfaces.length) (place : Nat) :
    (schedule.foldl (fillAt answers base surfaces) slots)[place]? =
      if place ∈ schedule then
        (surfaces[place]?).map fun surface => some (listingOf answers base surface)
      else slots[place]? := by
  induction schedule generalizing slots with
  | nil => simp
  | cons first rest ih =>
    rw [List.foldl_cons, ih ((length_fillAt slots first).trans whole), getElem?_fillAt whole]
    by_cases later : place ∈ rest
    · simp [later]
    · by_cases now : place = first <;> simp [later, now]

theorem foldl_fillAt_of_perm {schedule : List Nat}
    (complete : schedule.Perm (List.range surfaces.length)) :
    schedule.foldl (fillAt answers base surfaces) (surfaces.map fun _ => none)
      = surfaces.map fun surface => some (listingOf answers base surface) := by
  apply List.ext_getElem?
  intro place
  rw [getElem?_foldl_fillAt schedule (List.length_map _), List.getElem?_map, List.getElem?_map]
  by_cases within : place < surfaces.length
  · rw [if_pos (complete.mem_iff.mpr (List.mem_range.mpr within))]
  · rw [List.getElem?_eq_none (Nat.le_of_not_lt within), Option.map_none, Option.map_none, ite_self]

theorem joinListings_yields (answered : transport.AnswersBy answers) {schedule : List Nat}
    (complete : schedule.Perm (List.range surfaces.length)) :
    (joinListings transport base surfaces schedule).Yields
      (surfaces.map (listingOf answers base)) := by
  have filled := Wire.Yields.foldlM (fetchAt_yields answered base surfaces) schedule
     (surfaces.map fun _ => none)
  rw [foldl_fillAt_of_perm complete] at filled
  have all : (surfaces.map fun surface => some (listingOf answers base surface)).filterMap id
      = surfaces.map (listingOf answers base) := by simp [List.filterMap_map]
  exact all ▸ filled.bind (.pure _)

/-- With one answer a URL the order in which the lists are complete does not show. -/
theorem discoverConcurrently_yields (answered : transport.AnswersBy answers) (base : String)
    {schedule : Nat → List Nat} (complete : ∀ count, (schedule count).Perm (List.range count)) :
    (discoverConcurrently transport base schedule).Yields
      (assemble (rootsOf answers base).groups
        ((rootsOf answers base).surfaces.map (listingOf answers base))) :=
  (fetchRoots_yields answered base).bind ((joinListings_yields answered (complete _)).bind (.pure _))

end ClusterClient.Discovery
