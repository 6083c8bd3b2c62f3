import ClusterClient.Proofs.Json.Fields
import ClusterClient.Proofs.Json.Scalars

namespace ClusterClient.Json

theorem skipBlank_cons {c : Char} (notBlank : isBlank c = false) (chars : List Char) :
    skipBlank (c :: chars) = c :: chars :=
  List.dropWhile_cons_of_neg (by simp [notBlank])

theorem ne_of_isDigit {c mark : Char} (digit : c.isDigit = true) (other : mark.isDigit = false) :
    c ≠ mark := by
  rintro rfl
  rw [digit] at other
  cases other

theorem isBlank_of_isDigit {c : Char} (digit : c.isDigit = true) : isBlank c = false := by
  have other (mark : Char) (notDigit : mark.isDigit = false) : c ≠ mark :=
    ne_of_isDigit digit notDigit
  simp [isBlank, other ' ' rfl, other '\n' rfl, other '\t' rfl, other '\r' rfl]

theorem quoted_append (name : String) (chars : List Char) :
    quoted name ++ chars = '"' :: (name.toList.flatMap escape ++ '"' :: chars) := by
  rw [quoted, List.cons_append, List.cons_append, List.append_assoc, List.singleton_append]

section

variable {fuel : Nat} {chars more rest : List Char} {tree : Tree} {trees : List Tree} {name : String}
  {members : List (Option String × Tree)}

theorem readTree_text (fuel : Nat) (chars : List Char) : readTree (fuel + 1) ('"' :: chars) =
    (readText chars).map fun (value, rest) => (.text value, rest) := by
  rfl

theorem readTree_negative (fuel : Nat) (chars : List Char) :
    readTree (fuel + 1) ('-' :: chars) = numberTree (readNumeral true chars) := by
  rfl

theorem readTree_digit {c : Char} (digit : c.isDigit = true) (fuel : Nat) (chars : List Char) :
    readTree (fuel + 1) (c :: chars) = numberTree (readNumeral false (c :: chars)) := by
  rw [readTree, skipBlank_cons (isBlank_of_isDigit digit)]
  split
  iterate 7 next same => exact absurd (List.cons.inj same).1 (ne_of_isDigit digit rfl)
  next => rfl

theorem readTree_list {c : Char} (notBlank : isBlank c = false) (item : c ≠ ']') (fuel : Nat)
    (chars : List Char) : readTree (fuel + 1) ('[' :: c :: chars) =
      (readItems fuel (c :: chars)).map fun (items, rest) => (.list items, rest) := by
  rw [readTree, skipBlank_cons rfl]
  simp only [skipBlank_cons notBlank]
  split
  next same => exact absurd (List.cons.inj same).1 item
  next => rfl

theorem readTree_object (fuel : Nat) (chars : List Char) :
    readTree (fuel + 1) ('\x7b' :: '"' :: chars) =
      (readMembers fuel ('"' :: chars)).map fun (fields, rest) => (.object fields, rest) := by
  rfl

theorem numberTree_some (numeral : Numeral) (rest : List Char) :
    numberTree (some (numeral, rest)) = some (.number numeral.number?, rest) := by
  rfl

theorem readItems_last (read : readTree fuel chars = some (tree, ']' :: rest)) :
    readItems (fuel + 1) chars = some ([tree], rest) := by
  rw [readItems]
  simp only [read, skipBlank_cons (c := ']') rfl, Option.bind_eq_bind, Option.bind_some]

theorem readItems_more (read : readTree fuel chars = some (tree, ',' :: more))
    (others : readItems fuel more = some (trees, rest)) :
    readItems (fuel + 1) chars = some (tree :: trees, rest) := by
  rw [readItems]
  simp only [read, skipBlank_cons (c := ',') rfl, others, Option.bind_eq_bind, Option.bind_some]

theorem readMembers_last (read : readTree fuel chars = some (tree, '\x7d' :: rest)) :
    readMembers (fuel + 1) (quoted name ++ ':' :: chars) = some ([(some name, tree)], rest) := by
  rw [quoted_append, readMembers, skipBlank_cons rfl]
  simp only [readText_escaped, skipBlank_cons (c := ':') rfl, read, skipBlank_cons (c := '\x7d') rfl,
    Option.bind_eq_bind, Option.bind_some]

theorem readMembers_more (read : readTree fuel chars = some (tree, ',' :: more))
    (others : readMembers fuel more = some (members, rest)) :
    readMembers (fuel + 1) (quoted name ++ ':' :: chars)
      = some ((some name, tree) :: members, rest) := by
  rw [quoted_append, readMembers, skipBlank_cons rfl]
  simp only [readText_escaped, skipBlank_cons (c := ':') rfl, read, skipBlank_cons (c := ',') rfl,
    others, Option.bind_eq_bind, Option.bind_some]

end

theorem endsNumeral_cons {c : Char} (other : c = ',' ∨ c = ']' ∨ c = '\x7d') (chars : List Char) :
    EndsNumeral (c :: chars) := by
  intro first same
  cases Option.some.inj same
  rcases other with rfl | rfl | rfl <;> decide

/-- A document reads as itself wherever its text stands. The reader needs no more fuel than twice
the length of the text. -/
structure ReadsBack (json : Json) : Prop where
  starts : ∃ c chars, json.chars = c :: chars ∧ isBlank c = false ∧ c ≠ ']'
  reads : ∀ fuel rest, 2 * json.chars.length ≤ fuel → EndsNumeral rest →
    readTree fuel (json.chars ++ rest) = some (.ofDocument json, rest)

/-- The fuel of a text that is not empty is some more than none. -/
theorem exists_fuel {fuel : Nat} {c : Char} {chars : List Char}
    (enough : 2 * (c :: chars).length ≤ fuel) : ∃ less, fuel = less + 1 ∧ 2 * chars.length ≤ less := by
  rw [List.length_cons] at enough
  exact ⟨fuel - 1, by omega, by omega⟩

namespace ReadsBack

theorem null : ReadsBack null where
  starts := ⟨'n', _, rfl, rfl, by decide⟩
  reads fuel rest enough _ := by
    obtain ⟨less, rfl, -⟩ := exists_fuel enough
    rfl

theorem bool (value : Bool) : ReadsBack (bool value) := by
  cases value with
  | true =>
    refine ⟨⟨'t', _, rfl, rfl, by decide⟩, fun fuel rest enough _ => ?_⟩
    obtain ⟨less, rfl, -⟩ := exists_fuel enough
    rfl
  | false =>
    refine ⟨⟨'f', _, rfl, rfl, by decide⟩, fun fuel rest enough _ => ?_⟩
    obtain ⟨less, rfl, -⟩ := exists_fuel enough
    rfl

theorem text (value : String) : ReadsBack (text value) where
  starts := ⟨'"', _, rfl, rfl, by decide⟩
  reads fuel rest enough _ := by
    obtain ⟨less, rfl, -⟩ := exists_fuel enough
    rw [chars, quoted_append, readTree_text, readText_escaped]
    rfl

theorem integer_natural {n : Nat} (small : n < Numeral.wordBound) :
    ReadsBack (number (.integer n)) := by
  have spelled : (number (.integer n)).chars = Nat.toDigits 10 n := by
    rw [chars, Number.chars]
    exact Nat.toList_repr
  obtain ⟨c, tail, split⟩ := List.exists_cons_of_ne_nil (Nat.toDigits_ne_nil (n := n) (b := 10))
  have digit : c.isDigit = true := isDigit_of_mem_toDigits (n := n) (by simp [split])
  refine ⟨⟨c, tail, spelled.trans split, isBlank_of_isDigit digit, ne_of_isDigit digit rfl⟩,
    fun fuel rest enough ends => ?_⟩
  have read : readTree fuel (c :: tail ++ rest) =
      numberTree (readNumeral false (c :: tail ++ rest)) := by
    rw [spelled, split] at enough
    obtain ⟨less, rfl, -⟩ := exists_fuel enough
    exact readTree_digit digit less _
  rw [spelled, split, read, ← split, readNumeral_toDigits false n ends, numberTree_some,
    number?_toDigits small (fun signed => absurd signed (by decide)), if_neg (by decide)]
  rfl

theorem integer_negative {n : Nat} (positive : 0 < n) (least : n ≤ Numeral.leastMagnitude) :
    ReadsBack (number (.integer (-n))) := by
  have spelled : (number (.integer (-n))).chars = '-' :: Nat.toDigits 10 n := by
    obtain ⟨less, rfl⟩ : ∃ less, n = less + 1 := ⟨n - 1, by omega⟩
    rw [chars, Number.chars]
    exact (String.toList_append ..).trans (congrArg ('-' :: ·) Nat.toList_repr)
  have small : n < Numeral.wordBound := lt_of_le_of_lt least (by decide)
  refine ⟨⟨'-', _, spelled, rfl, by decide⟩, fun fuel rest enough ends => ?_⟩
  rw [spelled] at enough ⊢
  obtain ⟨less, rfl, -⟩ := exists_fuel enough
  rw [List.cons_append, readTree_negative, readNumeral_toDigits true n ends, numberTree_some,
    number?_toDigits small fun _ => ⟨positive.ne', least⟩]
  rfl

theorem integer {value : Int} (word : (Number.integer value).IsWord) :
    ReadsBack (number (.integer value)) := by
  obtain ⟨least, bound⟩ := word
  rcases Int.lt_or_le value 0 with negative | natural
  · obtain ⟨n, rfl⟩ : ∃ n : Nat, value = -n := ⟨value.natAbs, by omega⟩
    exact integer_negative (by omega) (by rw [Numeral.leastMagnitude]; omega)
  · obtain ⟨n, rfl⟩ := Int.eq_ofNat_of_zero_le natural
    exact integer_natural (by rw [Numeral.wordBound]; omega)

theorem length_pos {json : Json} (reads : ReadsBack json) : 0 < json.chars.length := by
  obtain ⟨c, chars, spelled, -⟩ := reads.starts
  simp [spelled]

theorem readItems_chars {first : Json} {others : List Json}
    (each : ∀ item ∈ first :: others, ReadsBack item) (fuel : Nat) (rest : List Char)
    (enough : 2 * (first.chars ++ itemChars others).length ≤ fuel + 1) :
    readItems fuel (first.chars ++ itemChars others ++ rest) =
      some (Tree.ofDocuments (first :: others), rest) := by
  -- An item and the mark after it are two characters at least, and cost one of the fuel.
  induction others generalizing first fuel with
  | nil =>
    have own : ReadsBack first := each _ List.mem_cons_self
    have nonempty := own.length_pos
    simp only [itemChars, List.length_append, List.length_singleton] at enough
    obtain ⟨less, rfl⟩ : ∃ less, fuel = less + 1 := ⟨fuel - 1, by omega⟩
    rw [itemChars, List.append_assoc, List.singleton_append]
    exact readItems_last (own.reads less _ (by omega) (endsNumeral_cons (by simp) rest))
  | cons second others ih =>
    have own : ReadsBack first := each _ List.mem_cons_self
    have nonempty := own.length_pos
    simp only [itemChars, List.length_append, List.length_cons] at enough
    obtain ⟨less, rfl⟩ : ∃ less, fuel = less + 1 := ⟨fuel - 1, by omega⟩
    rw [itemChars, List.append_assoc, List.cons_append]
    exact readItems_more (own.reads less _ (by omega) (endsNumeral_cons (by simp) _))
      (ih (List.forall_mem_cons.mp each).2 less (by rw [List.length_append]; omega))

theorem readMembers_chars {name : String} {first : Json} {others : List (String × Json)}
    (each : ∀ member ∈ (name, first) :: others, ReadsBack member.2) (fuel : Nat) (rest : List Char)
    (enough : 2 * (quoted name ++ ':' :: (first.chars ++ memberChars others)).length ≤ fuel + 1) :
    readMembers fuel (quoted name ++ ':' :: (first.chars ++ memberChars others ++ rest)) =
      some (Tree.ofMembers ((name, first) :: others), rest) := by
  induction others generalizing name first fuel with
  | nil =>
    have own : ReadsBack first := each _ List.mem_cons_self
    simp only [memberChars, List.length_append, List.length_cons, List.length_nil] at enough
    obtain ⟨less, rfl⟩ : ∃ less, fuel = less + 1 := ⟨fuel - 1, by omega⟩
    rw [memberChars, List.append_assoc, List.singleton_append]
    exact readMembers_last (own.reads less _ (by omega) (endsNumeral_cons (by simp) rest))
  | cons second others ih =>
    have own : ReadsBack first := each _ List.mem_cons_self
    simp only [memberChars, List.length_append, List.length_cons] at enough
    obtain ⟨less, rfl⟩ : ∃ less, fuel = less + 1 := ⟨fuel - 1, by omega⟩
    have after := ih (List.forall_mem_cons.mp each).2 less
      (by simp only [List.length_append, List.length_cons]; omega)
    rw [memberChars, List.append_assoc, List.cons_append]
    refine readMembers_more (own.reads less _ (by omega) (endsNumeral_cons (by simp) _)) ?_
    simpa using after

theorem list {items : List Json} (each : ∀ item ∈ items, ReadsBack item) :
    ReadsBack (list items) where
  starts := by
    cases items with
    | nil => exact ⟨'[', _, rfl, rfl, by decide⟩
    | cons first others => exact ⟨'[', _, rfl, rfl, by decide⟩
  reads fuel rest enough _ := by
    cases items with
    | nil =>
      obtain ⟨less, rfl, -⟩ := exists_fuel enough
      rfl
    | cons first others =>
      obtain ⟨less, rfl, left⟩ := exists_fuel enough
      obtain ⟨c, tail, spelled, notBlank, notClosing⟩ := (each first (by simp)).starts
      have items := readItems_chars each less rest (by omega)
      rw [chars, List.cons_append]
      rw [spelled, List.cons_append, List.cons_append] at items ⊢
      rw [readTree_list notBlank notClosing, items]
      rfl

theorem object {fields : List (String × Json)} (each : ∀ field ∈ fields, ReadsBack field.2) :
    ReadsBack (object fields) where
  starts := by
    cases fields with
    | nil => exact ⟨'\x7b', _, rfl, rfl, by decide⟩
    | cons first others => exact ⟨'\x7b', _, rfl, rfl, by decide⟩
  reads fuel rest enough _ := by
    cases fields with
    | nil =>
      obtain ⟨less, rfl, -⟩ := exists_fuel enough
      rfl
    | cons first others =>
      obtain ⟨less, rfl, left⟩ := exists_fuel enough
      have members := readMembers_chars each less rest (by omega)
      rw [chars, List.cons_append, List.append_assoc, List.cons_append]
      rw [quoted_append] at members ⊢
      rw [readTree_object, members]
      rfl

end ReadsBack

/-- A document without doubles, whose integers fit into 64 bits. -/
inductive IsIntegral : Json → Prop where
  | null : IsIntegral null
  | bool (value : Bool) : IsIntegral (bool value)
  | number {value : Number} (word : value.IsWord) : IsIntegral (number value)
  | text (value : String) : IsIntegral (text value)
  | list {items : List Json} (each : ∀ item ∈ items, IsIntegral item) : IsIntegral (list items)
  | object {fields : List (String × Json)} (each : ∀ field ∈ fields, IsIntegral field.2) :
      IsIntegral (object fields)

theorem IsIntegral.readsBack {json : Json} (integral : json.IsIntegral) : ReadsBack json := by
  induction integral with
  | null => exact .null
  | bool value => exact .bool value
  | @number value word =>
    cases value with
    | integer value => exact .integer word
    | double value => cases word
  | text value => exact .text value
  | list _ ih => exact .list ih
  | object _ ih => exact .object ih

/-- What is written of a document on one line is a text of that document, whatever characters stand
in its texts and names. -/
theorem IsIntegral.ofText?_compact {json : Json} (integral : json.IsIntegral) :
    Tree.ofText? json.compact = some (.ofDocument json) := by
  have whole := integral.readsBack.reads (2 * json.chars.length + 2) [] (by omega)
    (by simp [EndsNumeral])
  rw [List.append_nil] at whole
  simp only [Tree.ofText?, compact, String.toList_ofList, whole]
  rfl

/-- Lists and objects of a document nest no deeper than this. -/
inductive NestsWithin : Nat → Json → Prop where
  | null (depth : Nat) : NestsWithin depth null
  | bool (depth : Nat) (value : Bool) : NestsWithin depth (bool value)
  | number (depth : Nat) (value : Number) : NestsWithin depth (number value)
  | text (depth : Nat) (value : String) : NestsWithin depth (text value)
  | list {depth : Nat} {items : List Json} (each : ∀ item ∈ items, NestsWithin depth item) :
      NestsWithin (depth + 1) (list items)
  | object {depth : Nat} {fields : List (String × Json)}
      (each : ∀ field ∈ fields, NestsWithin depth field.2) : NestsWithin (depth + 1) (object fields)

namespace Tree

variable {depth : Nat}

theorem documents?_ofDocuments {items : List Json}
    (each : ∀ item ∈ items, (ofDocument item).document? depth = some item) :
    documents? depth (ofDocuments items) = some items := by
  induction items with
  | nil => rfl
  | cons first rest ih =>
    obtain ⟨own, later⟩ := List.forall_mem_cons.mp each
    rw [ofDocuments, documents?, own, ih later]
    rfl

theorem members?_ofMembers {fields : List (String × Json)}
    (each : ∀ field ∈ fields, (ofDocument field.2).document? depth = some field.2) :
    members? depth (ofMembers fields) = some fields := by
  induction fields with
  | nil => rfl
  | cons first rest ih =>
    obtain ⟨own, later⟩ := List.forall_mem_cons.mp each
    rw [ofMembers, members?, own, ih later]
    rfl

theorem document?_ofDocument {json : Json} (nests : json.NestsWithin depth)
    (ordered : json.IsOrdered) : (ofDocument json).document? depth = some json := by
  induction nests with
  | null | bool | number | text => rfl
  | list _ ih =>
    cases ordered with
    | list each =>
      rw [ofDocument, document?,
        documents?_ofDocuments fun item member => ih item member (each item member)]
      rfl
  | object _ ih =>
    cases ordered with
    | object ordered each =>
      rw [ofDocument, document?,
        members?_ofMembers fun field member => ih field member (each field member),
        Option.map_some, ordered.ofList_eq]

end Tree

/-- A document as the readers keep it is read back from what is written of it on one line. -/
theorem ofText?_compact {json : Json} (integral : json.IsIntegral) (ordered : json.IsOrdered)
    (nests : json.NestsWithin depthLimit) : ofText? json.compact = some json := by
  rw [ofText?, integral.ofText?_compact, Option.bind_some, Tree.document?_ofDocument nests ordered]

end ClusterClient.Json
