import ClusterClient.Json.Printer
import ClusterClient.Json.Reader
import Mathlib.Tactic.IntervalCases

namespace ClusterClient.Json

theorem hexValue?_lowerHexDigit {n : Nat} (small : n < 16) :
    Percent.hexValue? (lowerHexDigit n) = some n := by
  interval_cases n <;> decide

theorem hexUnit?_control {n : Nat} (control : n < 32) :
    hexUnit? '0' '0' (lowerHexDigit (n / 16)) (lowerHexDigit (n % 16)) = some n := by
  have high : n / 16 < 16 := by omega
  have low : n % 16 < 16 := by omega
  have zero : Percent.hexValue? '0' = some 0 := by decide
  have whole : ((16 * 0 + 0) * 16 + n / 16) * 16 + n % 16 = n := by omega
  rw [hexUnit?, zero, hexValue?_lowerHexDigit high, hexValue?_lowerHexDigit low]
  exact congrArg some whole

/-- A control character is no surrogate. -/
theorem decodeUnits_control {code : Nat} (control : code < 32) (units : List Unit16) :
    decodeUnits (.unit code :: units) = (decodeUnits units).map (Char.ofNat code :: ·) := by
  have notLeading : (decide (0xD800 ≤ code) && decide (code ≤ 0xDBFF)) = false := by
    simp; omega
  have notTrailing : (decide (0xDC00 ≤ code) && decide (code ≤ 0xDFFF)) = false := by
    simp; omega
  have noSurrogate : (decide (0xD800 ≤ code) && decide (code ≤ 0xDFFF)) = false := by
    simp; omega
  cases units with
  | nil => simp only [decodeUnits, noSurrogate, if_false, Bool.false_eq_true]
  | cons unit rest =>
    cases unit with
    | char c => simp only [decodeUnits, noSurrogate, if_false, Bool.false_eq_true]
    | unit low => simp only [decodeUnits, notLeading, notTrailing, if_false, Bool.false_eq_true]

theorem readUnits_simple {escaped c : Char} (stands : simpleEscape? escaped = some c)
    (chars : List Char) : readUnits ('\\' :: escaped :: chars) =
      (readUnits chars).map fun (units, rest) => (Unit16.char c :: units, rest) := by
  rw [readUnits]
  · rw [stands]
    cases readUnits chars <;> rfl
  · rintro _ _ _ _ _ rfl
    cases stands

theorem readUnits_control {code : Nat} (control : code < 32) (chars : List Char) :
    readUnits ('\\' :: 'u' :: '0' :: '0' :: lowerHexDigit (code / 16) ::
      lowerHexDigit (code % 16) :: chars) =
      (readUnits chars).map fun (units, rest) => (.unit code :: units, rest) := by
  rw [readUnits, hexUnit?_control control]
  cases readUnits chars <;> rfl

theorem readUnits_plain {c : Char} (notQuote : c ≠ '"') (notBackslash : c ≠ '\\')
    (printable : ¬ c.toNat < 32) (chars : List Char) : readUnits (c :: chars) =
      (readUnits chars).map fun (units, rest) => (.char c :: units, rest) := by
  rw [readUnits]
  · rw [if_neg (by simpa [notBackslash] using printable)]
    cases readUnits chars <;> rfl
  · exact notQuote
  · exact fun _ _ _ _ _ same => absurd same notBackslash
  · exact fun _ _ same => absurd same notBackslash

/-- Whatever follows, a character is written so that it reads as itself. -/
theorem readUnits_escape (c : Char) : ∃ unit,
    (∀ chars, readUnits (escape c ++ chars) =
      (readUnits chars).map fun (units, rest) => (unit :: units, rest)) ∧
    ∀ units, decodeUnits (unit :: units) = (decodeUnits units).map (c :: ·) := by
  unfold escape
  split
  iterate 7 exact ⟨.char _, readUnits_simple rfl, fun units => by rw [decodeUnits]⟩
  next notQuote notBackslash _ _ _ _ _ =>
    split
    · next control =>
      refine ⟨.unit c.toNat, readUnits_control control, fun units => ?_⟩
      rw [decodeUnits_control control, Char.ofNat_toNat]
    · next printable =>
      exact ⟨.char c, readUnits_plain notQuote notBackslash printable,
        fun units => by rw [decodeUnits]⟩

/-- Every text reads back from between its quotes. -/
theorem readText_escaped (text : String) (rest : List Char) :
    readText (text.toList.flatMap escape ++ '"' :: rest) = some (some text, rest) := by
  have units (chars : List Char) : ∃ units,
      readUnits (chars.flatMap escape ++ '"' :: rest) = some (units, rest) ∧
        decodeUnits units = some chars := by
    induction chars with
    | nil => exact ⟨[], by rw [List.flatMap_nil, List.nil_append, readUnits], by rw [decodeUnits]⟩
    | cons c chars ih =>
      obtain ⟨units, read, decoded⟩ := ih
      obtain ⟨unit, reads, decodes⟩ := readUnits_escape c
      refine ⟨unit :: units, ?_, by rw [decodes, decoded]; rfl⟩
      rw [List.flatMap_cons, List.append_assoc, reads, read]
      rfl
  obtain ⟨units, read, decoded⟩ := units text.toList
  simp only [readText, read, Option.map_some, decoded, String.ofList_toList]

/-- A numeral goes no further: neither a digit follows, nor a point or an exponent. -/
def EndsNumeral (rest : List Char) : Prop :=
  ∀ c ∈ rest.head?, c.isDigit = false ∧ c ≠ '.' ∧ c ≠ 'e' ∧ c ≠ 'E'

theorem isDigit_of_mem_toDigits {n : Nat} {c : Char} (member : c ∈ Nat.toDigits 10 n) :
    c.isDigit = true :=
  Nat.isDigit_of_mem_toDigits (by decide) (by decide) member

theorem digitsOf_toDigits (n : Nat) {rest : List Char} (ends : EndsNumeral rest) :
    digitsOf (Nat.toDigits 10 n ++ rest) = (Nat.toDigits 10 n).map fun c => c.toNat - 48 := by
  have stops : rest.takeWhile Char.isDigit = [] := by
    cases rest with
    | nil => rfl
    | cons c tail => rw [List.takeWhile_cons_of_neg (by simp [(ends c rfl).1])]
  rw [digitsOf, List.takeWhile_append_of_pos fun _ => isDigit_of_mem_toDigits, stops,
    List.append_nil]

theorem afterDigits_toDigits (n : Nat) {rest : List Char} (ends : EndsNumeral rest) :
    afterDigits (Nat.toDigits 10 n ++ rest) = rest := by
  have stops : rest.dropWhile Char.isDigit = rest := by
    cases rest with
    | nil => rfl
    | cons c tail => rw [List.dropWhile_cons_of_neg (by simp [(ends c rfl).1])]
  rw [afterDigits, List.dropWhile_append_of_pos fun _ => isDigit_of_mem_toDigits, stops]

theorem natOfDigits_toDigits (n : Nat) :
    Numeral.natOfDigits ((Nat.toDigits 10 n).map fun c => c.toNat - 48) = n := by
  have back : Nat.ofDigitChars 10 (Nat.toDigits 10 n) 0 = n := Nat.ofDigitChars_ten_toDigits
  rw [Numeral.natOfDigits, List.foldl_map]
  rwa [Nat.ofDigitChars_eq_foldl] at back

/-- Only zero starts with a zero. -/
theorem head?_toDigits {n : Nat} (positive : 0 < n) : (Nat.toDigits 10 n).head? ≠ some '0' := by
  induction n using Nat.base_induction 10 (by decide) with
  | single m small =>
    rw [Nat.toDigits_of_lt_base small]
    interval_cases m <;> decide
  | digit m k small large ih =>
    obtain ⟨c, tail, split⟩ := List.exists_cons_of_ne_nil (Nat.toDigits_ne_nil (n := m) (b := 10))
    rw [← Nat.toDigits_append_toDigits (by decide) large small, split, List.cons_append,
      List.head?_cons]
    simpa [split] using ih large

theorem readFraction_ends {rest : List Char} (ends : EndsNumeral rest) :
    readFraction rest = some ([], rest) := by
  unfold readFraction
  split
  · exact absurd rfl (ends '.' rfl).2.1
  · rfl

theorem readExponent_ends {rest : List Char} (ends : EndsNumeral rest) :
    readExponent rest = some (none, rest) := by
  cases rest with
  | nil => rfl
  | cons c tail =>
    obtain ⟨-, -, lower, upper⟩ := ends c rfl
    unfold readExponent
    exact if_neg (by simp [lower, upper])

theorem readNumeral_toDigits (negative : Bool) (n : Nat) {rest : List Char}
    (ends : EndsNumeral rest) : readNumeral negative (Nat.toDigits 10 n ++ rest) =
      some (⟨negative, (Nat.toDigits 10 n).map fun c => c.toNat - 48, [], none⟩, rest) := by
  have fraction := readFraction_ends ends
  have exponent := readExponent_ends ends
  rcases Nat.eq_zero_or_pos n with rfl | positive
  · simp [readNumeral, Nat.toDigits_zero, fraction, exponent]
  · have first := head?_toDigits positive
    have digits := digitsOf_toDigits n ends
    have after := afterDigits_toDigits n ends
    obtain ⟨c, tail, split⟩ := List.exists_cons_of_ne_nil (Nat.toDigits_ne_nil (n := n) (b := 10))
    rw [split, List.cons_append] at digits after ⊢
    have notZero : c ≠ '0' := by simpa [split] using first
    unfold readNumeral
    simp [digits, after, fraction, exponent, notZero]

/-- An integer that documents keep as it is: it fits into 64 bits, with or without a sign. -/
def Number.IsWord : Number → Prop
  | .integer value => -0x8000000000000000 ≤ value ∧ value < 0x10000000000000000
  | .double _ => False

theorem number?_toDigits {negative : Bool} {n : Nat} (small : n < Numeral.wordBound)
    (signed : negative = true → n ≠ 0 ∧ n ≤ Numeral.leastMagnitude) :
    Numeral.number? ⟨negative, (Nat.toDigits 10 n).map fun c => c.toNat - 48, [], none⟩ =
      some (.integer (if negative then -n else n)) := by
  have kept : (!(negative && (decide (n = 0) || decide (Numeral.leastMagnitude < n)))) = true := by
    cases negative with
    | false => rfl
    | true =>
      obtain ⟨nonzero, least⟩ := signed rfl
      simp [nonzero, Nat.not_lt.mpr least]
  simp only [Numeral.number?, natOfDigits_toDigits, small, kept, decide_true, Bool.and_self, if_true]

end ClusterClient.Json
