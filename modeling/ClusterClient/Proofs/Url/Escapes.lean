import ClusterClient.Proofs.Text.Percent
import ClusterClient.Url

namespace ClusterClient.Url

/-- A character that stands for itself in a part of a URL: visible or a blank, and none of the special
ones. -/
def isClean (special : String) (c : Char) : Bool :=
  0x20 ≤ c.toNat && c.toNat ≤ 0x7E && !special.toList.contains c

/-- What escapes are written with. -/
def escapeAlphabet : List Char := "%0123456789ABCDEF".toList

theorem mem_escapeByte {byte : UInt8} {c : Char} (member : c ∈ Percent.escapeByte byte) :
    c ∈ escapeAlphabet := by
  have digits : ∀ n < 16, Percent.hexDigit n ∈ escapeAlphabet := by decide
  have bound := byte.toNat_lt
  simp only [Percent.escapeByte, List.mem_cons, List.not_mem_nil, or_false] at member
  rcases member with rfl | rfl | rfl
  · decide
  · exact digits _ (by omega)
  · exact digits _ (by omega)

variable {special : String} {chars : List Char} {c : Char}

theorem ascii_of_isClean (clean : isClean special c = true) : c.toNat < 128 := by
  simp only [isClean, Bool.and_eq_true, decide_eq_true_eq] at clean
  omega

theorem not_contains_of_isClean (clean : isClean special c = true) :
    special.toList.contains c = false := by
  simp only [isClean, Bool.and_eq_true, Bool.not_eq_true'] at clean
  exact clean.2

/-- Clean characters are visible where blanks are special. -/
theorem visible_of_isClean (blank : special.toList.contains ' ' = true)
    (clean : isClean special c = true) : 0x20 < c.toNat := by
  have notBlank : c ≠ ' ' := by
    rintro rfl
    rw [not_contains_of_isClean clean] at blank
    cases blank
  have different : c.toNat ≠ 0x20 := fun same => notBlank (Char.toNat_inj.mp same)
  simp only [isClean, Bool.and_eq_true, decide_eq_true_eq] at clean
  omega

/-- What a byte of a part becomes. -/
def escapedForm (special : String) (byte : UInt8) : List Char :=
  if isClean special (Char.ofNat byte.toNat) then [Char.ofNat byte.toNat]
  else Percent.escapeByte byte

theorem escape_eq (special : String) (chars : List Char) :
    escape special chars = (Text.utf8 (String.ofList chars)).flatMap (escapedForm special) := by
  refine List.flatMap_congr fun byte _ => ?_
  have flipped : (byte < 0x20 || 0x7E < byte || special.toList.contains (Char.ofNat byte.toNat))
      = !isClean special (Char.ofNat byte.toNat) := by
    rw [isClean, Percent.toNat_ofNat_byte, Bool.not_and, Bool.not_and, Bool.not_not, ← decide_not,
      ← decide_not]
    simp only [Nat.not_le, UInt8.lt_iff_toNat_lt]
    rfl
  dsimp only
  rw [flipped, escapedForm]
  cases isClean special (Char.ofNat byte.toNat) <;> rfl

theorem escape_of_clean (clean : ∀ c ∈ chars, isClean special c = true) :
    escape special chars = chars := by
  rw [escape_eq, Text.utf8_ascii fun c member => ascii_of_isClean (clean c member),
    List.flatMap_map]
  calc chars.flatMap (fun c => escapedForm special (Percent.byteOf c))
    _ = chars.flatMap fun c => [c] := by
      refine List.flatMap_congr fun c member => ?_
      have own := clean c member
      rw [escapedForm, Percent.ofNat_byteOf (ascii_of_isClean own), if_pos own]
    _ = chars := List.flatMap_singleton' chars

/-- Escaping leaves clean characters, provided that escapes are written with such. -/
theorem isClean_of_mem_escape (kept : escapeAlphabet.all (isClean special) = true)
    (member : c ∈ escape special chars) : isClean special c = true := by
  rw [escape_eq, List.mem_flatMap] at member
  obtain ⟨byte, -, own⟩ := member
  unfold escapedForm at own
  split at own
  · next clean =>
    cases List.mem_singleton.mp own
    exact clean
  · exact List.all_eq_true.mp kept c (mem_escapeByte own)

theorem escape_eq_self_iff (kept : escapeAlphabet.all (isClean special) = true) :
    escape special chars = chars ↔ ∀ c ∈ chars, isClean special c = true := by
  refine ⟨fun same c member => ?_, escape_of_clean⟩
  rw [← same] at member
  exact isClean_of_mem_escape kept member

theorem escape_escape (kept : escapeAlphabet.all (isClean special) = true) (chars : List Char) :
    escape special (escape special chars) = escape special chars :=
  escape_of_clean fun _ => isClean_of_mem_escape kept

/-- Escaping adds nothing but escapes. -/
theorem mem_of_mem_escape (member : c ∈ escape special chars) : c ∈ chars ∨ c ∈ escapeAlphabet := by
  rw [escape_eq, Text.utf8_ofList, List.mem_flatMap] at member
  obtain ⟨byte, inside, own⟩ := member
  unfold escapedForm at own
  split at own
  · next clean =>
    obtain ⟨d, within, inside⟩ := List.mem_flatMap.mp inside
    have low := ascii_of_isClean clean
    rw [Percent.toNat_ofNat_byte] at low
    have ascii : d.toNat < 128 := by
      by_contra high
      have beyond := Text.utf8EncodeChar_high (Nat.le_of_not_lt high) inside
      omega
    rw [Text.utf8EncodeChar_ascii ascii, List.mem_singleton] at inside
    have same : Char.ofNat byte.toNat = d := by
      rw [inside]
      exact Percent.ofNat_byteOf ascii
    rw [List.mem_singleton.mp own, same]
    exact .inl within
  · exact .inr (mem_escapeByte own)

/-- A text without the escapes of special characters is what it was escaped from. -/
theorem eq_of_escape_eq {target : List Char} (same : escape special chars = target)
    (unescaped : ∀ byte : UInt8, isClean special (Char.ofNat byte.toNat) = false →
      ¬ Percent.escapeByte byte <:+: target) : chars = target := by
  have kept : ∀ byte ∈ Text.utf8 (String.ofList chars),
      isClean special (Char.ofNat byte.toNat) = true := by
    intro byte member
    by_contra escaped
    have form : escapedForm special byte = Percent.escapeByte byte := if_neg escaped
    refine unescaped byte (Bool.eq_false_iff.mpr escaped) ?_
    rw [← same, escape_eq, ← form, List.flatMap_def]
    exact List.infix_of_mem_flatten (List.mem_map_of_mem member)
  have clean : ∀ c ∈ chars, isClean special c = true := by
    intro c member
    have inside : ∀ byte ∈ String.utf8EncodeChar c, byte ∈ Text.utf8 (String.ofList chars) := by
      intro byte own
      rw [Text.utf8_ofList]
      exact List.mem_flatMap.mpr ⟨c, member, own⟩
    by_cases ascii : c.toNat < 128
    · rw [← Percent.ofNat_byteOf ascii]
      refine kept _ (inside _ ?_)
      rw [Text.utf8EncodeChar_ascii ascii]
      exact List.mem_singleton_self _
    · obtain ⟨byte, rest, split⟩ := List.exists_cons_of_ne_nil (String.utf8EncodeChar_ne_nil (c := c))
      have own : byte ∈ String.utf8EncodeChar c := split ▸ List.mem_cons_self
      have high := Text.utf8EncodeChar_high (Nat.le_of_not_lt ascii) own
      have low := ascii_of_isClean (kept byte (inside byte own))
      rw [Percent.toNat_ofNat_byte] at low
      omega
  rw [← same, escape_of_clean clean]

end ClusterClient.Url
