import ClusterClient.Proofs.Json.Scalars
import ClusterClient.Url.Ipv4
import Mathlib.Data.List.Induction

namespace ClusterClient.Ipv4

variable {base n : Nat} {chars : List Char}

theorem digit?_digitChar {d : Nat} (bound : base ≤ 16) (small : d < base) :
    digit? base (Nat.digitChar d) = some d := by
  have each : ∀ base ≤ 16, ∀ d < base, digit? base (Nat.digitChar d) = some d := by
    decide +kernel
  exact each base bound d small

theorem number?_append (base : Nat) (digits more : List Char) : number? base (digits ++ more) =
    (number? base digits).bind fun n =>
      more.foldlM (fun n c => (digit? base c).map (base * n + ·)) n := by
  rw [number?, List.foldlM_append]
  rfl

/-- The digits of a number read back as that number, up to hexadecimal. -/
theorem number?_toDigits (more : 1 < base) (bound : base ≤ 16) (n : Nat) :
    number? base (Nat.toDigits base n) = some n := by
  induction n using Nat.base_induction base more with
  | single m small =>
    rw [Nat.toDigits_of_lt_base small, number?, List.foldlM_cons, digit?_digitChar bound small,
      Option.map_some, Nat.mul_zero, Nat.zero_add]
    rfl
  | digit m k small large ih =>
    rw [← Nat.toDigits_append_toDigits more large small, number?_append, ih, Option.bind_some,
      Nat.toDigits_of_lt_base small, List.foldlM_cons, digit?_digitChar bound small]
    rfl

theorem digit?_lt {c : Char} {value : Nat} (read : digit? base c = some value) : value < base := by
  unfold digit? at read
  dsimp only at read
  obtain ⟨small, same⟩ := Option.ite_none_right_eq_some.mp read
  rwa [Option.some.inj same] at small

/-- A number is below the power of the base that its digits stand for. -/
theorem number?_lt (read : number? base chars = some n) :
    n < base ^ chars.length := by
  induction chars using List.reverseRecOn generalizing n with
  | nil =>
    cases read
    simp
  | append_singleton digits c ih =>
    rw [number?_append] at read
    obtain ⟨m, leading, read⟩ := Option.bind_eq_some_iff.mp read
    rw [List.foldlM_cons] at read
    obtain ⟨total, last, same⟩ := Option.bind_eq_some_iff.mp read
    obtain ⟨value, digit, rfl⟩ := Option.map_eq_some_iff.mp last
    cases same
    have small := digit?_lt digit
    have before := ih leading
    rw [List.length_append, List.length_singleton, Nat.pow_succ']
    calc base * m + value < base * m + base := Nat.add_lt_add_left small _
      _ = base * (m + 1) := by rw [Nat.mul_succ]
      _ ≤ base * base ^ digits.length := Nat.mul_le_mul_left base before

/-- Digits with no zero before them are read as a decimal part. -/
theorem part?_of_decimal {c : Char} {digits : List Char} (notZero : c ≠ '0') :
    part? (c :: digits) = number? 10 (c :: digits) := by
  unfold part?
  split
  all_goals first | rfl | simp_all

/-- A decimal number without leading zeros is read as such a part. -/
theorem part?_toDigits (n : Nat) : part? (Nat.toDigits 10 n) = some n := by
  have decimal : number? 10 (Nat.toDigits 10 n) = some n :=
    number?_toDigits (by decide) (by decide) n
  rcases Nat.eq_zero_or_pos n with rfl | positive
  · decide
  · have first := Json.head?_toDigits positive
    obtain ⟨c, tail, split⟩ := List.exists_cons_of_ne_nil (Nat.toDigits_ne_nil (n := n) (b := 10))
    have notZero : c ≠ '0' := by simpa [split] using first
    rw [split, part?_of_decimal notZero, ← split, decimal]

/-- The four bytes of an address, the highest first. -/
def bytes (address : Nat) : List Nat :=
  [address / Nat.pow 256 3 % 256, address / Nat.pow 256 2 % 256, address / Nat.pow 256 1 % 256,
    address / Nat.pow 256 0 % 256]

theorem toList_text (address : Nat) :
    (text address).toList = ['.'].intercalate ((bytes address).map (Nat.toDigits 10)) := by
  simp [text, bytes, List.intercalate]

theorem parts_text (address : Nat) :
    parts (text address).toList = (bytes address).map (Nat.toDigits 10) := by
  have split : (text address).toList.splitOn '.' = (bytes address).map (Nat.toDigits 10) := by
    rw [toList_text]
    refine List.splitOn_intercalate '.' (fun chars member dot => ?_) (by simp [bytes])
    obtain ⟨byte, -, rfl⟩ := List.mem_map.mp member
    exact absurd (Json.isDigit_of_mem_toDigits dot) (by decide)
  rw [parts, split]
  simp [bytes]

/-- The text of an address of 32 bits reads back as that address. -/
theorem ofName?_text {address : Nat} (bound : address < 2 ^ 32) :
    ofName? (text address).toList = some address := by
  have numbers : (parts (text address).toList).mapM part? = some (bytes address) := by
    rw [parts_text]
    simp [bytes, part?_toDigits]
  rw [ofName?, numbers, Option.bind_eq_bind, Option.bind_some]
  have high : address / 16777216 % 256 = address / 16777216 := Nat.mod_eq_of_lt (by omega)
  simp [ofParts?, bytes, high]
  omega

theorem endsInNumber_text (address : Nat) : endsInNumber (text address).toList = true := by
  rw [endsInNumber, parts_text]
  simp [bytes, part?_toDigits]

/-- The leading bytes and what fills the rest make up at most 32 bits. -/
theorem ofParts?_lt {numbers : List Nat} {address : Nat} (joined : ofParts? numbers = some address) :
    address < 2 ^ 32 := by
  match numbers, joined with
  | [a], joined | [a, b], joined | [a, b, c], joined | [a, b, c, d], joined =>
    simp [ofParts?] at joined
    omega
  | _ :: _ :: _ :: _ :: _ :: rest, joined =>
    unfold ofParts? at joined
    obtain ⟨fits, -⟩ := Option.ite_none_right_eq_some.mp joined
    have few := of_decide_eq_true (Bool.and_eq_true_iff.mp (Bool.and_eq_true_iff.mp fits).1).1
    simp only [List.length_cons] at few
    omega

theorem ofName?_lt {name : List Char} {address : Nat} (read : ofName? name = some address) :
    address < 2 ^ 32 := by
  obtain ⟨numbers, -, joined⟩ := Option.bind_eq_some_iff.mp read
  exact ofParts?_lt joined

end ClusterClient.Ipv4
