import ClusterClient.Proofs.Text.Percent
import ClusterClient.Proofs.Text.Pieces
import ClusterClient.Proofs.Url.Ipv6
import ClusterClient.Url.Host

namespace ClusterClient.Host

theorem isDigit_or_dot_of_mem_ipv4 {address : Nat} {c : Char}
    (member : c ∈ (Ipv4.text address).toList) : c.isDigit = true ∨ c = '.' := by
  rw [Ipv4.toList_text] at member
  rcases Text.mem_intercalate member with dot | ⟨digits, written, own⟩
  · exact .inr dot
  · obtain ⟨byte, -, rfl⟩ := List.mem_map.mp written
    exact .inl (Json.isDigit_of_mem_toDigits own)

theorem ipv4_text_ne_empty (address : Nat) : Ipv4.text address ≠ "" := by
  intro empty
  have number := Ipv4.endsInNumber_text address
  rw [empty] at number
  exact absurd number (by decide)

theorem toList_ipv6_text (groups : List Nat) :
    (ipv6 groups).text.toList = '[' :: ((Ipv6.text groups).toList ++ [']']) := by
  simp [text]

/-- Characters that end the parts of a URL. -/
def delimiters : List Char := "/?#\\@".toList

/-- Characters that are visible and end no part of a URL, as those of a host are. -/
def isPlain (c : Char) : Bool := 0x20 < c.toNat && !delimiters.contains c

theorem isPlain_iff {c : Char} :
    isPlain c = true ↔ 0x20 < c.toNat ∧ c ∉ delimiters := by
  rw [isPlain, Bool.and_eq_true, decide_eq_true_eq, Bool.not_eq_true', List.contains_eq_mem,
    decide_eq_false_iff_not]

theorem isPlain_of_allowed {c : Char} (allowed : isForbidden c = false) :
    isPlain c = true := by
  have forbidden : delimiters.all isForbidden = true := by decide
  have visible : 0x20 < c.toNat := by
    simp only [isForbidden, Bool.or_eq_false_iff, decide_eq_false_iff_not] at allowed
    omega
  have apart : c ∉ delimiters := fun member => by
    rw [List.all_eq_true.mp forbidden c member] at allowed
    cases allowed
  exact isPlain_iff.mpr ⟨visible, apart⟩

section

variable [HostNames]

/-- A host as it comes out of a text: a name in its ASCII form that is no address, or an address of
32 or 128 bits. -/
def IsNormal : Host → Prop
  | domain name =>
    HostNames.toAscii? name = some name ∧ name ≠ "" ∧ Ipv4.endsInNumber name.toList = false
  | ipv4 address => address < 2 ^ 32
  | ipv6 groups => groups.length = 8 ∧ ∀ group ∈ groups, group < 65536

variable {chars : List Char} {host : Host}

theorem ofBrackets_isNormal (read : ofBrackets chars = .ok host) : host.IsNormal := by
  unfold ofBrackets at read
  split at read
  · split at read
    · next groups inside =>
      cases read
      exact Ipv6.ofText?_bounded inside
    · cases read
  · cases read

theorem text_ne_empty (normal : host.IsNormal) : host.text ≠ "" := by
  cases host with
  | domain name => exact normal.2.1
  | ipv4 address => exact ipv4_text_ne_empty address
  | ipv6 groups =>
    intro empty
    have chars := toList_ipv6_text groups
    rw [empty] at chars
    cases chars

variable [HostNames.IsLawful]

/-- Every host that is read is normal. -/
theorem ofText_isNormal (read : ofText chars = .ok host) : host.IsNormal := by
  unfold ofText at read
  split at read
  · exact ofBrackets_isNormal read
  · split at read
    · cases read
    · next name known =>
      obtain ⟨_, -, ascii⟩ := Option.bind_eq_some_iff.mp known
      split at read
      · cases read
      · next nonempty =>
        split at read
        · split at read
          · next address inside =>
            cases read
            exact Ipv4.ofName?_lt inside
          · cases read
        · next noNumber =>
          cases read
          exact ⟨HostNames.IsLawful.again ascii, nonempty, Bool.eq_false_iff.mpr noNumber⟩

theorem toAscii?_ipv4 (address : Nat) :
    HostNames.toAscii? (Ipv4.text address) = some (Ipv4.text address) :=
  HostNames.IsLawful.digits fun _ => isDigit_or_dot_of_mem_ipv4

/-- A name that is its own ASCII form has no brackets and nothing to decode. -/
theorem ofText_of_ascii {name : String} (own : HostNames.toAscii? name = some name)
    (nonempty : name ≠ "") : ofText name.toList =
      if Ipv4.endsInNumber name.toList then
        match Ipv4.ofName? name.toList with
        | some address => .ok (ipv4 address)
        | none => .error .invalidIpv4
      else .ok (domain name) := by
  have plain := HostNames.IsLawful.allowed own
  have unbracketed : name.toList.head? ≠ some '[' := by
    intro bracket
    have forbidden := (plain '[' (List.mem_of_head? bracket)).2
    exact absurd forbidden (by decide)
  have decoded : Percent.decode? name = some name := by
    refine Percent.decode?_of_ascii fun c member => ⟨(plain c member).1, ?_⟩
    rintro rfl
    exact absurd (plain '%' member).2 (by decide)
  rw [ofText, if_neg unbracketed, String.ofList_toList, decoded, Option.bind_some, own]
  exact if_neg nonempty

/-- A normal host reads back from its text. -/
theorem ofText_text (normal : host.IsNormal) : ofText host.text.toList = .ok host := by
  cases host with
  | domain name =>
    obtain ⟨own, nonempty, noNumber⟩ := normal
    rw [text, ofText_of_ascii own nonempty, noNumber, if_neg Bool.false_ne_true]
  | ipv4 address =>
    rw [text, ofText_of_ascii (toAscii?_ipv4 address) (ipv4_text_ne_empty address),
      if_pos (Ipv4.endsInNumber_text address), Ipv4.ofName?_text normal]
  | ipv6 groups =>
    obtain ⟨eight, bound⟩ := normal
    have closed : ('[' :: ((Ipv6.text groups).toList ++ [']'])).getLast? = some ']' := by
      rw [← List.cons_append, List.getLast?_concat]
    rw [toList_ipv6_text, ofText, List.head?_cons, if_pos rfl, ofBrackets, if_pos closed, List.tail_cons,
      List.dropLast_concat, Ipv6.ofText?_text eight bound]

theorem allowed_of_mem_text (normal : host.IsNormal) (unbracketed : ∀ groups, host ≠ ipv6 groups)
    {c : Char} (member : c ∈ host.text.toList) : isForbidden c = false := by
  cases host with
  | domain name => exact (HostNames.IsLawful.allowed normal.1 c member).2
  | ipv4 address => exact (HostNames.IsLawful.allowed (toAscii?_ipv4 address) c member).2
  | ipv6 groups => exact absurd rfl (unbracketed groups)

theorem isPlain_of_mem_text (normal : host.IsNormal) {c : Char} (member : c ∈ host.text.toList) :
    isPlain c = true := by
  cases host with
  | domain name => exact isPlain_of_allowed (allowed_of_mem_text normal (by simp) member)
  | ipv4 address => exact isPlain_of_allowed (allowed_of_mem_text normal (by simp) member)
  | ipv6 groups =>
    have hexadecimal : ∀ digit < 16, isPlain (Nat.digitChar digit) = true := by decide
    simp only [text, String.toList_append, List.mem_append] at member
    rcases member with (bracket | inside) | bracket
    · cases List.mem_singleton.mp bracket
      decide
    · rcases Ipv6.mem_text inside with rfl | ⟨digit, small, rfl⟩
      · decide
      · exact hexadecimal digit small
    · cases List.mem_singleton.mp bracket
      decide

end

end ClusterClient.Host
