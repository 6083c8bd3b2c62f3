import ClusterClient.Text.Percent
import Mathlib.Data.List.Basic
import Mathlib.Tactic.IntervalCases

namespace ClusterClient

namespace Text

theorem utf8_ofList_cons (c : Char) (chars : List Char) :
    utf8 (String.ofList (c :: chars)) = String.utf8EncodeChar c ++ utf8 (String.ofList chars) := by
  simp [utf8, List.utf8Encode]

theorem utf8_ofList (chars : List Char) :
    utf8 (String.ofList chars) = chars.flatMap String.utf8EncodeChar := by
  induction chars with
  | nil => simp [utf8]
  | cons c rest ih => rw [utf8_ofList_cons, ih, List.flatMap_cons]

theorem utf8EncodeChar_ascii {c : Char} (ascii : c.toNat < 128) :
    String.utf8EncodeChar c = [c.toNat.toUInt8] := by
  have within : c.val.toNat ≤ 127 := Nat.le_of_lt_succ ascii
  simp only [String.utf8EncodeChar, within, if_true]
  rfl

theorem utf8_ascii {chars : List Char} (ascii : ∀ c ∈ chars, c.toNat < 128) :
    utf8 (String.ofList chars) = chars.map fun c => c.toNat.toUInt8 := by
  rw [utf8_ofList, List.map_eq_flatMap]
  exact List.flatMap_congr fun c member => utf8EncodeChar_ascii (ascii c member)

/-- The bytes of a character beyond ASCII are beyond it too. -/
theorem utf8EncodeChar_high {c : Char} (high : 128 ≤ c.toNat) {byte : UInt8}
    (member : byte ∈ String.utf8EncodeChar c) : 128 ≤ byte.toNat := by
  have beyond : ¬ c.val.toNat ≤ 127 := by
    have same : c.val.toNat = c.toNat := rfl
    omega
  simp only [String.utf8EncodeChar, beyond, if_false] at member
  split at member
  · simp at member
    rcases member with rfl | rfl <;> simp <;> omega
  · split at member
    · simp at member
      rcases member with rfl | rfl | rfl <;> simp <;> omega
    · simp at member
      rcases member with rfl | rfl | rfl | rfl <;> simp <;> omega

end Text

namespace Percent

theorem hexDigit_ascii {n : Nat} (small : n < 16) : (hexDigit n).toNat < 128 := by
  interval_cases n <;> decide

theorem hexValue?_hexDigit {n : Nat} (small : n < 16) : hexValue? (hexDigit n) = some n := by
  interval_cases n <;> decide

theorem hexDigit_isAlphanum {n : Nat} (small : n < 16) : (hexDigit n).isAlphanum = true := by
  interval_cases n <;> decide

/-- The characters an escaped text is written in. -/
def isWritten (c : Char) : Bool :=
  c.isAlphanum || c == '-' || c == '_' || c == '.' || c == '~' || c == '%'

theorem isWritten_ascii {c : Char} (written : isWritten c = true) : c.toNat < 128 := by
  delta isWritten Char.isAlphanum Char.isAlpha Char.isUpper Char.isLower Char.isDigit at written
  simp only [Bool.or_eq_true, Bool.and_eq_true, decide_eq_true_eq, beq_iff_eq] at written
  have below {last : UInt32} (upper : c.val ≤ last) (ascii : last.toNat < 128) : c.toNat < 128 :=
    (UInt32.le_iff_toNat_le.mp upper).trans_lt ascii
  rcases written with ((((((⟨_, upper⟩ | ⟨_, upper⟩) | ⟨_, upper⟩) | rfl) | rfl) | rfl) | rfl) | rfl
  · exact below upper (by decide)
  · exact below upper (by decide)
  · exact below upper (by decide)
  all_goals decide

theorem encodeByte_isWritten {byte : UInt8} {c : Char} (member : c ∈ encodeByte byte) :
    isWritten c = true := by
  have bound : byte.toNat < 256 := byte.toNat_lt
  unfold encodeByte at member
  split at member
  · next unreserved =>
    rw [List.mem_singleton] at member
    subst member
    simp only [isUnreserved] at unreserved
    simp only [isWritten, unreserved, Bool.true_or]
  · simp only [escapeByte, List.mem_cons, List.not_mem_nil, or_false] at member
    rcases member with rfl | rfl | rfl
    · decide
    · simp only [isWritten, hexDigit_isAlphanum (show byte.toNat / 16 < 16 by omega), Bool.true_or]
    · simp only [isWritten, hexDigit_isAlphanum (show byte.toNat % 16 < 16 by omega), Bool.true_or]

theorem encode_isWritten {text : String} {c : Char} (member : c ∈ (encode text).toList) :
    isWritten c = true := by
  rw [encode, String.toList_ofList, List.mem_flatMap] at member
  obtain ⟨byte, _, inByte⟩ := member
  exact encodeByte_isWritten inByte

theorem decodeBytes_cons {byte : UInt8} (plain : byte ≠ 37) (rest : List UInt8) :
    decodeBytes (byte :: rest) = byte :: decodeBytes rest := by
  rw [decodeBytes]
  rintro high low after equal
  simp_all

theorem decodeBytes_of_not_mem {bytes : List UInt8} (absent : 37 ∉ bytes) :
    decodeBytes bytes = bytes := by
  induction bytes with
  | nil => rw [decodeBytes]
  | cons byte rest ih =>
    obtain ⟨plain, others⟩ := not_or.mp (List.mem_cons.not.mp absent)
    rw [decodeBytes_cons (Ne.symm plain), ih others]

theorem decodeBytes_escape {high low : UInt8} {h l : Nat}
    (atHigh : hexValue? (Char.ofNat high.toNat) = some h)
    (atLow : hexValue? (Char.ofNat low.toNat) = some l) (rest : List UInt8) :
    decodeBytes (37 :: high :: low :: rest) = (16 * h + l).toUInt8 :: decodeBytes rest := by
  rw [decodeBytes, atHigh, atLow]

theorem ofNat_byteOf {c : Char} (ascii : c.toNat < 128) : Char.ofNat (byteOf c).toNat = c := by
  have same : (byteOf c).toNat = c.toNat := by
    simp only [byteOf, Nat.toUInt8, UInt8.toNat_ofNat']
    omega
  rw [same, Char.ofNat_toNat]

theorem toNat_ofNat_byte (byte : UInt8) : (Char.ofNat byte.toNat).toNat = byte.toNat := by
  have bound : byte.toNat < 256 := byte.toNat_lt
  have valid : byte.toNat.isValidChar := Or.inl (by omega)
  rw [Char.ofNat, dif_pos valid]
  rfl

theorem byteOf_ofNat (byte : UInt8) : byteOf (Char.ofNat byte.toNat) = byte := by
  rw [byteOf, toNat_ofNat_byte, Nat.toUInt8, UInt8.ofNat_toNat]

/-- Whatever follows, the text of a byte reads back as that byte. -/
theorem decodeBytes_encodeByte (byte : UInt8) (rest : List UInt8) :
    decodeBytes ((encodeByte byte).map byteOf ++ rest) = byte :: decodeBytes rest := by
  have bound : byte.toNat < 256 := byte.toNat_lt
  unfold encodeByte
  split
  · next unreserved =>
    have plain : byte ≠ 37 := by rintro rfl; exact absurd unreserved (by decide)
    rw [List.map_singleton, byteOf_ofNat, List.singleton_append, decodeBytes_cons plain]
  · have high : byte.toNat / 16 < 16 := by omega
    have low : byte.toNat % 16 < 16 := by omega
    have atHigh := hexValue?_hexDigit high
    have atLow := hexValue?_hexDigit low
    rw [← ofNat_byteOf (hexDigit_ascii high)] at atHigh
    rw [← ofNat_byteOf (hexDigit_ascii low)] at atLow
    have whole : 16 * (byte.toNat / 16) + byte.toNat % 16 = byte.toNat := Nat.div_add_mod ..
    have percent : byteOf '%' = 37 := by decide
    simp only [escapeByte, List.map_cons, List.map_nil, List.cons_append, List.nil_append, percent]
    rw [decodeBytes_escape atHigh atLow, whole, Nat.toUInt8, UInt8.ofNat_toNat]

theorem decodeBytes_encodeBytes (bytes rest : List UInt8) :
    decodeBytes ((bytes.flatMap encodeByte).map byteOf ++ rest) = bytes ++ decodeBytes rest := by
  induction bytes with
  | nil => simp
  | cons byte bytes ih =>
    rw [List.flatMap_cons, List.map_append, List.append_assoc, decodeBytes_encodeByte, ih,
      List.cons_append]

theorem decode?_encode (text : String) : decode? (encode text) = some text := by
  have ascii : ∀ c ∈ (Text.utf8 text).flatMap encodeByte, c.toNat < 128 := by
    intro c member
    obtain ⟨byte, _, inByte⟩ := List.mem_flatMap.mp member
    exact isWritten_ascii (encodeByte_isWritten inByte)
  have bytes := decodeBytes_encodeBytes (Text.utf8 text) []
  rw [List.append_nil, decodeBytes, List.append_nil] at bytes
  rw [decode?, encode, Text.utf8_ascii ascii]
  exact (congrArg Text.ofUtf8? bytes).trans (Text.ofUtf8?_utf8 text)

/-- A text of ASCII characters without percent signs stands for itself. -/
theorem decode?_of_ascii {text : String}
    (plain : ∀ c ∈ text.toList, c.toNat < 128 ∧ c ≠ '%') : decode? text = some text := by
  have bytes : Text.utf8 text = text.toList.map byteOf := by
    have ascii := Text.utf8_ascii fun c member => (plain c member).1
    rwa [String.ofList_toList] at ascii
  have unescaped : 37 ∉ text.toList.map byteOf := by
    rw [List.mem_map]
    rintro ⟨c, member, percent⟩
    have same := ofNat_byteOf (plain c member).1
    rw [percent] at same
    exact (plain c member).2 same.symm
  rw [decode?, bytes, decodeBytes_of_not_mem unescaped, ← bytes, Text.ofUtf8?_utf8]

theorem eq_nil_of_decodeBytes {bytes : List UInt8} (nothing : decodeBytes bytes = []) :
    bytes = [] := by
  cases bytes with
  | nil => rfl
  | cons byte rest =>
    unfold decodeBytes at nothing
    split at nothing
    · next same => cases same
    · split at nothing <;> cases nothing
    · cases nothing

theorem decode?_eq_empty_iff {text : String} : decode? text = some "" ↔ text = "" := by
  constructor
  · intro read
    have undone : decodeBytes (Text.utf8 text) = [] := by
      simp only [decode?, Text.ofUtf8?, String.fromUTF8?] at read
      split at read
      · have bytes := congrArg Text.utf8 (Option.some.inj read)
        simpa [Text.utf8, String.fromUTF8] using bytes
      · cases read
    have nothing := eq_nil_of_decodeBytes undone
    rw [← String.toByteArray_inj]
    simpa [Text.utf8, ByteArray.ext_iff] using nothing
  · rintro rfl
    exact decode?_encode ""

theorem encode_injective : Function.Injective encode := by
  intro first second same
  have read := decode?_encode first
  rw [same, decode?_encode] at read
  exact (Option.some.inj read).symm

theorem not_mem_encode {sep : Char} (reserved : isWritten sep = false) (text : String) :
    sep ∉ (encode text).toList := by
  intro member
  rw [encode_isWritten member] at reserved
  cases reserved

/-- The key of a namespace in a query needs no escapes. -/
theorem encode_namespace : encode "namespace" = "namespace" := by decide

end Percent

end ClusterClient
