import ClusterClient.Proofs.Text.Pieces
import ClusterClient.ServerVersion
import Mathlib.Data.Prod.Lex

namespace ClusterClient.ServerVersion

/-- A text that no digit starts. -/
def StartsPlain (text : String) : Prop := ∀ c ∈ text.toList.head?, c.isDigit = false

/-- A text that starts with no digit, or with a number that 32 bits do not hold. -/
def HasNoNumber (text : String) : Prop :=
  StartsPlain text ∨ ∃ digits rest, text = String.ofList digits ++ rest ∧
    (∀ c ∈ digits, c.isDigit = true) ∧ StartsPlain rest ∧ 4294967295 < Nat.ofDigitChars 10 digits 0

variable {digits : List Char} {rest text : String} {n : Nat}

/-- The digits that a text starts with are read as one number, however many they are. -/
theorem leadingNumber?_append (all : ∀ c ∈ digits, c.isDigit = true) (plain : StartsPlain rest) :
    leadingNumber? (String.ofList digits ++ rest) =
      if digits = [] ∨ 4294967295 < Nat.ofDigitChars 10 digits 0 then none
      else some (Nat.ofDigitChars 10 digits 0) := by
  have taken : (String.ofList digits ++ rest).toList.takeWhile Char.isDigit = digits := by
    rw [String.toList_append, String.toList_ofList]
    exact (Text.takeWhile_dropWhile_append all plain).1
  rw [leadingNumber?, taken]
  simp only [← show '0'.toNat = 48 from rfl, ← Nat.ofDigitChars_eq_foldl, Bool.or_eq_true,
    decide_eq_true_eq, Nat.lt_iff_add_one_le, Nat.reduceAdd]

theorem isDigit_of_mem_toString {c : Char} (member : c ∈ (toString n).toList) :
    c.isDigit = true := by
  have spelled : (toString n).toList = Nat.toDigits 10 n := Nat.toList_repr
  rw [spelled] at member
  exact Nat.isDigit_of_mem_toDigits (by decide) (by decide) member

theorem leadingNumber?_toString (small : n ≤ 4294967295) (plain : StartsPlain rest) :
    leadingNumber? (toString n ++ rest) = some n := by
  have read := leadingNumber?_append (fun _ => isDigit_of_mem_toString (n := n)) plain
  have spelled : (toString n).toList = Nat.toDigits 10 n := Nat.toList_repr
  rw [String.ofList_toList, spelled, Nat.ofDigitChars_ten_toDigits, if_neg] at read
  · exact read
  · rintro (nothing | large)
    · exact Nat.toDigits_ne_nil nothing
    · omega

theorem leadingNumber?_eq_none (without : HasNoNumber text) : leadingNumber? text = none := by
  rcases without with plain | ⟨digits, rest, rfl, all, plain, large⟩
  · have read := @leadingNumber?_append [] text (by simp) plain
    rwa [String.ofList_nil, String.empty_append, if_pos (.inl rfl)] at read
  · rw [leadingNumber?_append all plain, if_pos (.inr large)]

/-- Where a text is cut at a separator, the part before it starts as the text does. -/
theorem StartsPlain.cut (plain : StartsPlain text) (sep : Char) :
    StartsPlain (Text.cut sep text).1 := by
  obtain ⟨-, whole⟩ := Text.eq_of_cut sep text
  intro c first
  apply plain c
  rw [whole, String.toList_append, List.head?_append, Option.mem_def.mp first]
  rfl

/-- A version tag: any number of `v`, and two numbers with a dot between them. -/
def tag (marks : Nat) (major : Nat) (afterMajor : String) (minor : Nat) (afterMinor : String) :
    String :=
  String.ofList (List.replicate marks 'v')
    ++ (toString major ++ afterMajor ++ "." ++ (toString minor ++ afterMinor))

theorem tagNumbers?_tag {major minor marks : Nat} {afterMajor afterMinor : String}
    {version : ServerVersion} (smallMajor : major ≤ 4294967295) (smallMinor : minor ≤ 4294967295)
    (plainMajor : StartsPlain afterMajor) (plainMinor : StartsPlain afterMinor)
    (noDot : '.' ∉ afterMajor.toList)
    (tagged : version.gitVersion = tag marks major afterMajor minor afterMinor) :
    version.tagNumbers? = some (major, minor) := by
  have noMark : (toString major ++ afterMajor ++ "." ++ (toString minor ++ afterMinor)).toList.head?
      ≠ some 'v' := by
    have digits : (toString major).toList ≠ [] := by
      rw [show (toString major).toList = Nat.toDigits 10 major from Nat.toList_repr]
      exact Nat.toDigits_ne_nil
    obtain ⟨c, tail, split⟩ := List.exists_cons_of_ne_nil digits
    have digit : c.isDigit = true := isDigit_of_mem_toString (split ▸ List.mem_cons_self)
    simp only [String.toList_append, split, List.cons_append, List.head?_cons]
    rintro ⟨⟩
    cases digit
  have noDotBefore (n : Nat) : '.' ∉ (toString n).toList := fun member =>
    absurd (isDigit_of_mem_toString member) (by decide)
  have noDot : '.' ∉ (toString major ++ afterMajor).toList := by
    rw [String.toList_append, List.mem_append]
    exact not_or.mpr ⟨noDotBefore major, noDot⟩
  have parted := Text.cut_append noDot (toString minor ++ afterMinor)
  rw [tagNumbers?, tagged, tag, Text.trimStart_replicate_append noMark, Text.pieces_eq_cut]
  rw [show String.singleton '.' = "." from rfl] at parted
  rw [parted, Option.elim_some, Text.pieces_eq_cut, Text.cut_append_left (noDotBefore minor)]
  dsimp only
  rw [leadingNumber?_toString smallMajor plainMajor,
    leadingNumber?_toString smallMinor (plainMinor.cut '.')]
  rfl

theorem atLeast_iff {version : ServerVersion} {x y : Nat} : version.atLeast x y = true ↔
    ∃ own, version.numbers? = some own ∧ toLex (x, y) ≤ toLex own := by
  rw [atLeast]
  cases version.numbers? with
  | none => simp
  | some own => simp [Prod.Lex.toLex_le_toLex]

/-- A version tells its numbers in two fields, whatever follows the digits of each; where neither
field has a number, the tag tells them. To be at least a version is to have known numbers that do
not come before it, so that all earlier versions are reached as well. -/
theorem numbers?_spelled :
    (∀ major minor afterMajor afterMinor gitVersion,
      major ≤ 4294967295 → minor ≤ 4294967295 → StartsPlain afterMajor → StartsPlain afterMinor →
      numbers? ⟨toString major ++ afterMajor, toString minor ++ afterMinor, gitVersion⟩ =
        some (major, minor)) ∧
    (∀ major minor afterMajor afterMinor marks majorField minorField,
      major ≤ 4294967295 → minor ≤ 4294967295 → StartsPlain afterMajor → StartsPlain afterMinor →
      '.' ∉ afterMajor.toList → HasNoNumber majorField → HasNoNumber minorField →
      numbers? ⟨majorField, minorField, tag marks major afterMajor minor afterMinor⟩ =
        some (major, minor)) ∧
    ∀ (version : ServerVersion) (x y : Nat),
      (version.atLeast x y = true ↔
        ∃ own, version.numbers? = some own ∧ toLex (x, y) ≤ toLex own) ∧
      (version.atLeast x y = true → ∀ x' y', toLex (x', y') ≤ toLex (x, y) →
        version.atLeast x' y' = true) := by
  refine ⟨?_, ?_, fun version x y => ⟨atLeast_iff, ?_⟩⟩
  · intro major minor afterMajor afterMinor gitVersion smallMajor smallMinor plainMajor plainMinor
    rw [numbers?]
    dsimp only
    rw [leadingNumber?_toString smallMajor plainMajor, leadingNumber?_toString smallMinor plainMinor]
    rfl
  · intro major minor afterMajor afterMinor marks majorField minorField smallMajor smallMinor
      plainMajor plainMinor noDot noMajor noMinor
    have told : tagNumbers? ⟨majorField, minorField,
        tag marks major afterMajor minor afterMinor⟩ = some (major, minor) :=
      tagNumbers?_tag smallMajor smallMinor plainMajor plainMinor noDot rfl
    rw [numbers?, told]
    dsimp only
    rw [leadingNumber?_eq_none noMajor, leadingNumber?_eq_none noMinor]
    rfl
  · intro reached x' y' earlier
    obtain ⟨own, known, least⟩ := atLeast_iff.mp reached
    exact atLeast_iff.mpr ⟨own, known, earlier.trans least⟩

theorem numbers?_spelled_tagged :
    numbers? ⟨"1", "11+", "v1.11.0+d4cacc0"⟩ = some (1, 11) ∧
      numbers? ⟨"", "4294967296", "vv4294967295-rc.7.1"⟩ = some (4294967295, 7) ∧
      (⟨"1", "11+", "v1.11.0+d4cacc0"⟩ : ServerVersion).atLeast 1 3 = true := by
  obtain ⟨told, tagged, reaches⟩ := numbers?_spelled
  have plain {text : String} {c : Char} (first : text.toList.head? = some c)
      (noDigit : c.isDigit = false) : StartsPlain text := by
    rintro _ same
    cases first.symm.trans same
    exact noDigit
  have nothing : StartsPlain "" := fun c first => by cases first
  have suffixed : StartsPlain "+" := plain (c := '+') rfl rfl
  have large : HasNoNumber "4294967296" :=
    .inr ⟨"4294967296".toList, "", rfl, List.all_eq_true.mp (by decide), nothing, by decide⟩
  have reached : (⟨"1", "11+", "v1.11.0+d4cacc0"⟩ : ServerVersion).atLeast 1 11 = true :=
    (reaches _ 1 11).1.mpr ⟨(1, 11), told 1 11 "" "+" _ (by decide) (by decide) nothing suffixed,
      le_refl _⟩
  refine ⟨told 1 11 "" "+" _ (by decide) (by decide) nothing suffixed, ?_, ?_⟩
  · exact tagged 4294967295 7 "-rc" ".1" 2 "" "4294967296" (by decide) (by decide)
      (plain (c := '-') rfl rfl) (plain (c := '.') rfl rfl) (by decide) (.inl nothing) large
  · exact (reaches _ 1 11).2 reached 1 3 (Prod.Lex.toLex_le_toLex.mpr (.inr ⟨rfl, by decide⟩))

end ClusterClient.ServerVersion
