import ClusterClient.Text
import Mathlib.Data.List.Basic

namespace ClusterClient.Text

theorem dropWhile_before {sep : Char} {before : List Char} (absent : sep ∉ before)
    (after : List Char) :
    (before ++ after).dropWhile (· != sep) = after.dropWhile (· != sep) :=
  List.dropWhile_append_of_pos fun _ member => bne_iff_ne.mpr fun same => absent (same ▸ member)

/-- What is passed and what is left when the first stops apart from the second. -/
theorem takeWhile_dropWhile_append {passes : Char → Bool} {before after : List Char}
    (inside : ∀ c ∈ before, passes c = true) (stops : ∀ c ∈ after.head?, passes c = false) :
    (before ++ after).takeWhile passes = before ∧ (before ++ after).dropWhile passes = after := by
  rw [List.takeWhile_append_of_pos inside, List.dropWhile_append_of_pos inside]
  cases after with
  | nil => simp
  | cons c rest =>
    have stop : ¬ passes c = true := by simp [stops c rfl]
    simp [stop]

theorem takeWhile_dropWhile_ne {mark : Char} {before after : List Char} (absent : mark ∉ before)
    (starts : ∀ c ∈ after.head?, c = mark) :
    (before ++ after).takeWhile (· != mark) = before ∧
      (before ++ after).dropWhile (· != mark) = after := by
  refine takeWhile_dropWhile_append (fun c member => ?_) fun c first => ?_
  · exact bne_iff_ne.mpr fun same => absent (same ▸ member)
  · rw [starts c first]
    exact bne_self_eq_false mark

theorem cut_of_not_mem {sep : Char} {text : String} (absent : sep ∉ text.toList) :
    cut sep text = (text, none) := by
  have nothing := dropWhile_before absent []
  rw [List.append_nil, List.dropWhile_nil] at nothing
  rw [cut, nothing]

theorem cut_append {sep : Char} {before : String} (absent : sep ∉ before.toList)
    (after : String) : cut sep (before ++ String.singleton sep ++ after) = (before, some after) := by
  have stays (c : Char) (member : c ∈ before.toList) : (c != sep) = true :=
    bne_iff_ne.mpr fun same => absent (same ▸ member)
  have rest : (before ++ String.singleton sep ++ after).toList.dropWhile (· != sep)
      = sep :: after.toList := by
    simp [List.append_assoc, dropWhile_before absent]
  have taken : (before ++ String.singleton sep ++ after).toList.takeWhile (· != sep)
      = before.toList := by
    simp [List.append_assoc, List.takeWhile_append_of_pos stays]
  rw [cut, rest, taken]
  simp

/-- Cutting at the first separator undoes writing one between two texts, and nothing else does. -/
theorem cut_eq_some_iff {sep : Char} {text before after : String} :
    cut sep text = (before, some after) ↔
      sep ∉ before.toList ∧ text = before ++ String.singleton sep ++ after := by
  constructor
  · intro parted
    have split := List.takeWhile_append_dropWhile (p := (· != sep)) (l := text.toList)
    have apart : sep ∉ text.toList.takeWhile (· != sep) := by
      intro member
      simpa using List.all_eq_true.mp List.all_takeWhile _ member
    unfold cut at parted
    split at parted
    · cases parted
    · next first rest found =>
      cases parted
      have head := List.head_dropWhile_not (· != sep) (l := text.toList) (by simp [found])
      have same : first = sep := by simpa [found] using head
      refine ⟨by simpa using apart, ?_⟩
      rw [← String.toList_inj]
      simpa [found, same] using split.symm
  · rintro ⟨absent, rfl⟩
    exact cut_append absent after

theorem cut_snd_eq_none_iff {sep : Char} {text : String} :
    (cut sep text).2 = none ↔ sep ∉ text.toList := by
  constructor
  · intro uncut member
    obtain ⟨before, after, split, absent⟩ := List.eq_append_cons_of_mem member
    have parted : cut sep text = (String.ofList before, some (String.ofList after)) := by
      rw [cut_eq_some_iff, ← String.toList_inj]
      simpa using ⟨absent, split⟩
    rw [parted] at uncut
    cases uncut
  · intro absent
    rw [cut_of_not_mem absent]

/-- A text is what stands before its first separator, and the rest if there is one. -/
theorem eq_of_cut (sep : Char) (text : String) :
    sep ∉ (cut sep text).1.toList ∧
      text = (cut sep text).1 ++ (cut sep text).2.elim "" (String.singleton sep ++ ·) := by
  cases parted : (cut sep text).2 with
  | none =>
    have absent := cut_snd_eq_none_iff.mp parted
    rw [cut_of_not_mem absent]
    exact ⟨absent, (String.append_empty).symm⟩
  | some after =>
    have whole : cut sep text = ((cut sep text).1, some after) := Prod.ext rfl parted
    obtain ⟨absent, same⟩ := cut_eq_some_iff.mp whole
    exact ⟨absent, same.trans (String.append_assoc ..)⟩

/-- What stands before the first separator grows with the start of the text. -/
theorem cut_append_left {sep : Char} {before : String} (absent : sep ∉ before.toList)
    (text : String) : cut sep (before ++ text) = (before ++ (cut sep text).1, (cut sep text).2) := by
  obtain ⟨apart, whole⟩ := eq_of_cut sep text
  have absent : sep ∉ (before ++ (cut sep text).1).toList := by
    rw [String.toList_append, List.mem_append]
    exact not_or.mpr ⟨absent, apart⟩
  cases parted : (cut sep text).2 with
  | none =>
    rw [parted, Option.elim_none, String.append_empty] at whole
    rw [← whole, cut_of_not_mem (whole ▸ absent)]
  | some after =>
    rw [parted, Option.elim_some] at whole
    rw [cut_eq_some_iff]
    exact ⟨absent, by rw [String.append_assoc, String.append_assoc, ← whole]⟩

/-- The first piece is what stands before the first separator, and the others are those of what
follows it. -/
theorem pieces_eq_cut (sep : Char) (text : String) :
    pieces sep text = (cut sep text).1 :: (cut sep text).2.elim [] (pieces sep) := by
  obtain ⟨apart, whole⟩ := eq_of_cut sep text
  generalize cut sep text = parts at apart whole
  rcases parts with ⟨before, _ | after⟩
  · rw [Option.elim_none, String.append_empty] at whole
    rw [whole, pieces, List.splitOn_eq_singleton apart]
    simp
  · rw [whole, pieces, Option.elim_some, String.toList_append, String.toList_append,
      String.toList_singleton, List.singleton_append,
      List.splitOn_append_cons_self_of_not_mem apart]
    simp [pieces]

/-- Pieces are apart from the separator, and hold nothing that the whole does not. -/
theorem mem_splitOn {sep : Char} {chars piece : List Char} (member : piece ∈ chars.splitOn sep) :
    sep ∉ piece ∧ piece ⊆ chars := by
  induction chars generalizing piece with
  | nil =>
    rw [List.splitOn_nil, List.mem_singleton] at member
    subst member
    exact ⟨List.not_mem_nil, List.nil_subset _⟩
  | cons c rest ih =>
    rw [List.splitOn_cons_eq_if_modifyHead] at member
    split at member
    · rcases List.mem_cons.mp member with rfl | later
      · exact ⟨List.not_mem_nil, List.nil_subset _⟩
      · obtain ⟨apart, inside⟩ := ih later
        exact ⟨apart, List.subset_cons_of_subset c inside⟩
    · next different =>
      obtain ⟨first, others, split⟩ := List.exists_cons_of_ne_nil (List.splitOn_ne_nil sep rest)
      rw [split] at ih member
      rcases List.mem_cons.mp member with rfl | later
      · obtain ⟨apart, inside⟩ := ih List.mem_cons_self
        have other : sep ≠ c := fun same => different (by simp [same])
        exact ⟨by simp [other, apart], List.cons_subset_cons c inside⟩
      · obtain ⟨apart, inside⟩ := ih (List.mem_cons_of_mem _ later)
        exact ⟨apart, List.subset_cons_of_subset c inside⟩

theorem mem_pieces {sep : Char} {text piece : String} (member : piece ∈ pieces sep text) :
    sep ∉ piece.toList ∧ piece.toList ⊆ text.toList := by
  obtain ⟨chars, inside, rfl⟩ := List.mem_map.mp member
  rw [String.toList_ofList]
  exact mem_splitOn inside

theorem intercalate_pieces (sep : Char) (text : String) :
    (String.singleton sep).intercalate (pieces sep text) = text := by
  rw [← String.toList_inj, String.toList_intercalate, pieces, List.map_map]
  simp [Function.comp_def, List.intercalate_splitOn]

theorem pieces_intercalate {sep : Char} {texts : List String} (nonempty : texts ≠ [])
    (absent : ∀ text ∈ texts, sep ∉ text.toList) :
    pieces sep ((String.singleton sep).intercalate texts) = texts := by
  have apart : ∀ chars ∈ texts.map String.toList, sep ∉ chars := by
    simpa using absent
  rw [pieces, String.toList_intercalate, String.toList_singleton,
    List.splitOn_intercalate sep apart (by simpa using nonempty), List.map_map]
  simp

/-- What some lists joined by a separator hold. -/
theorem mem_intercalate {sep c : Char} {pieces : List (List Char)}
    (member : c ∈ [sep].intercalate pieces) : c = sep ∨ ∃ piece ∈ pieces, c ∈ piece := by
  induction pieces with
  | nil => cases member
  | cons first rest ih =>
    cases rest with
    | nil => exact .inr ⟨first, List.mem_cons_self, by simpa using member⟩
    | cons second rest =>
      rw [List.intercalate_cons_cons, List.append_assoc, List.mem_append, List.mem_append,
        List.mem_singleton] at member
      rcases member with inFirst | same | inRest
      · exact .inr ⟨first, List.mem_cons_self, inFirst⟩
      · exact .inl same
      · exact (ih inRest).imp_right fun ⟨piece, inside, own⟩ =>
          ⟨piece, List.mem_cons_of_mem _ inside, own⟩

theorem not_mem_intercalate {sep c : Char} {texts : List String} (different : c ≠ sep)
    (absent : ∀ text ∈ texts, c ∉ text.toList) :
    c ∉ ((String.singleton sep).intercalate texts).toList := by
  induction texts with
  | nil => simp
  | cons first rest ih =>
    obtain ⟨notFirst, notRest⟩ := List.forall_mem_cons.mp absent
    cases rest with
    | nil => simpa using notFirst
    | cons second rest =>
      rw [String.intercalate_cons_cons, String.toList_append, String.toList_append,
        String.toList_singleton, List.mem_append, List.mem_append, List.mem_singleton]
      rintro ((inFirst | same) | inRest)
      · exact notFirst inFirst
      · exact different same
      · exact ih notRest inRest

theorem head?_intercalate {first : String} (nonempty : first ≠ "") (sep : Char)
    (rest : List String) :
    ((String.singleton sep).intercalate (first :: rest)).toList.head? = first.toList.head? := by
  have chars : first.toList ≠ [] := by simpa using nonempty
  cases rest with
  | nil => simp
  | cons second rest =>
    obtain ⟨c, tail, split⟩ := List.exists_cons_of_ne_nil chars
    simp [split]

/-- A text is a run of a character and what is left without it. -/
theorem exists_replicate_trimStart (c : Char) (text : String) :
    ∃ count, text = String.ofList (List.replicate count c) ++ trimStart c text := by
  have run : text.toList.takeWhile (· == c)
      = List.replicate (text.toList.takeWhile (· == c)).length c := by
    refine List.eq_replicate_of_mem fun other member => ?_
    simpa using List.all_eq_true.mp List.all_takeWhile other member
  refine ⟨(text.toList.takeWhile (· == c)).length, ?_⟩
  rw [← String.toList_inj, String.toList_append, trimStart, String.toList_ofList,
    String.toList_ofList, ← run, List.takeWhile_append_dropWhile]

theorem trimStart_replicate_append {c : Char} {text : String} (first : text.toList.head? ≠ some c)
    (count : Nat) : trimStart c (String.ofList (List.replicate count c) ++ text) = text := by
  have stops : text.toList.dropWhile (· == c) = text.toList := by
    cases chars : text.toList with
    | nil => rfl
    | cons d rest =>
      have different : d ≠ c := by simpa [chars] using first
      rw [List.dropWhile_cons_of_neg (by simpa using different)]
  have dropped : (List.replicate count c ++ text.toList).dropWhile (· == c) = text.toList := by
    rw [List.dropWhile_append_of_pos fun other member => ?_, stops]
    simp [List.eq_of_mem_replicate member]
  rw [← String.toList_inj, trimStart, String.toList_ofList, String.toList_append,
    String.toList_ofList, dropped]

/-- Trimming goes no further than what ends in another character. -/
theorem trimEnd_append {c : Char} {before : String} (last : before.toList.getLast? ≠ some c)
    (after : String) : trimEnd c (before ++ after) = before ++ trimEnd c after := by
  have stops : before.toList.reverse.dropWhile (· == c) = before.toList.reverse := by
    cases chars : before.toList.reverse with
    | nil => rfl
    | cons d rest =>
      have different : d ≠ c := by
        rw [List.getLast?_eq_head?_reverse, chars] at last
        simpa using last
      rw [List.dropWhile_cons_of_neg (by simpa using different)]
  rw [← String.toList_inj, trimEnd, trimEnd, String.toList_ofList, String.toList_append,
    String.toList_append, String.toList_ofList, List.reverse_append, List.dropWhile_append]
  split
  · next empty =>
    rw [stops, List.reverse_reverse, List.isEmpty_iff.mp empty, List.reverse_nil, List.append_nil]
  · rw [List.reverse_append, List.reverse_reverse]

theorem trimEnd_of_getLast?_ne {c : Char} {text : String} (last : text.toList.getLast? ≠ some c) :
    trimEnd c text = text := by
  have whole := trimEnd_append last ""
  rw [String.append_empty] at whole
  rw [whole]
  exact String.append_empty

theorem getLast?_trimEnd (c : Char) (text : String) :
    (trimEnd c text).toList.getLast? ≠ some c := by
  rw [trimEnd, String.toList_ofList, List.getLast?_reverse]
  intro first
  obtain ⟨rest, split⟩ := List.head?_eq_some_iff.mp first
  have head := List.head_dropWhile_not (· == c) (l := text.toList.reverse) (by simp [split])
  simp [split] at head

theorem trimEnd_subset (c : Char) (text : String) : (trimEnd c text).toList ⊆ text.toList := by
  intro d member
  rw [trimEnd, String.toList_ofList, List.mem_reverse] at member
  exact List.mem_reverse.mp ((List.dropWhile_sublist _).subset member)

theorem afterPrefix?_append (start rest : String) : afterPrefix? start (start ++ rest) = some rest := by
  have strip : start.toList.isPrefixOf? (start ++ rest).toList = some rest.toList :=
    List.isPrefixOf?_eq_some_iff_append_eq.mpr String.toList_append.symm
  rw [afterPrefix?, strip, Option.map_some, String.ofList_toList]

theorem afterPrefix?_eq_some_iff {start text rest : String} :
    afterPrefix? start text = some rest ↔ text = start ++ rest := by
  constructor
  · intro found
    obtain ⟨chars, strip, rfl⟩ := Option.map_eq_some_iff.mp found
    rw [← String.toList_inj, String.toList_append, String.toList_ofList]
    exact (List.isPrefixOf?_eq_some_iff_append_eq.mp strip).symm
  · rintro rfl
    exact afterPrefix?_append start rest

theorem beforeSuffix?_eq_some_iff {ending text rest : String} :
    beforeSuffix? ending text = some rest ↔ text = rest ++ ending := by
  rw [← String.toList_inj, String.toList_append, beforeSuffix?, Option.map_eq_some_iff]
  constructor
  · rintro ⟨chars, strip, rfl⟩
    have whole := List.isPrefixOf?_eq_some_iff_append_eq.mp strip
    rw [String.toList_ofList, ← List.reverse_inj, List.reverse_append, List.reverse_reverse, whole]
  · intro whole
    refine ⟨rest.toList.reverse, List.isPrefixOf?_eq_some_iff_append_eq.mpr ?_, by simp⟩
    rw [whole, List.reverse_append]

section

variable {α β : Type} {read : α → Option β} {write : β → α} {items : List α} {results : List β}

/-- Pieces of which each one reads back do so together. -/
theorem mapM_map (reads : ∀ result ∈ results, read (write result) = some result) :
    (results.map write).mapM read = some results := by
  induction results with
  | nil => rfl
  | cons result rest ih =>
    obtain ⟨first, others⟩ := List.forall_mem_cons.mp reads
    rw [List.map_cons, List.mapM_cons, first, ih others]
    rfl

theorem ne_nil_of_mapM (nonempty : items ≠ []) (all : items.mapM read = some results) :
    results ≠ [] := by
  rintro rfl
  obtain ⟨item, rest, rfl⟩ := List.exists_cons_of_ne_nil nonempty
  rw [List.mapM_cons] at all
  obtain ⟨_, -, all⟩ := Option.bind_eq_some_iff.mp all
  obtain ⟨_, -, same⟩ := Option.bind_eq_some_iff.mp all
  cases same

theorem forall_mem_of_mapM {property : β → Prop}
    (each : ∀ item ∈ items, ∀ result, read item = some result → property result)
    (all : items.mapM read = some results) : ∀ result ∈ results, property result := by
  induction items generalizing results with
  | nil =>
    cases all
    exact List.forall_mem_nil _
  | cons item rest ih =>
    obtain ⟨makes, others⟩ := List.forall_mem_cons.mp each
    rw [List.mapM_cons] at all
    obtain ⟨first, own, all⟩ := Option.bind_eq_some_iff.mp all
    obtain ⟨later, more, same⟩ := Option.bind_eq_some_iff.mp all
    cases same
    exact List.forall_mem_cons.mpr ⟨makes first own, ih others more⟩

end

end ClusterClient.Text
