import ClusterClient.Proofs.Url.Escapes
import ClusterClient.Proofs.Url.Host
import Mathlib.Data.List.TakeWhile

namespace ClusterClient.Url

variable {c : Char}

def userinfoSpecial : String := " \"#<>?^\x60\x7b\x7d/:;=@[\\]|"

theorem userinfo_kept : escapeAlphabet.all (isClean userinfoSpecial) = true := by decide

/-- User name and password in their normal form, with a colon between them unless the password is
empty. -/
def IsUserinfo (text : String) : Prop :=
  ∃ user password, (∀ c ∈ user ++ password, isClean userinfoSpecial c = true) ∧
    text.toList = if password = [] then user else user ++ ':' :: password

theorem isUserinfo_userinfoText (written : Option (List Char)) :
    IsUserinfo (userinfoText written) := by
  cases written with
  | none => exact ⟨[], [], by simp, rfl⟩
  | some chars =>
    refine ⟨escapeUserinfo (chars.takeWhile (· != ':')),
      escapeUserinfo ((chars.dropWhile (· != ':')).drop 1), ?_, String.toList_ofList⟩
    exact List.forall_mem_append.mpr ⟨fun _ => isClean_of_mem_escape userinfo_kept,
      fun _ => isClean_of_mem_escape userinfo_kept⟩

/-- Normal user information reads back from its text. -/
theorem userinfoText_of_isUserinfo {text : String} (normal : IsUserinfo text) :
    userinfoText (some text.toList) = text := by
  obtain ⟨user, password, clean, written⟩ := normal
  obtain ⟨cleanUser, cleanPassword⟩ := List.forall_mem_append.mp clean
  have noColon : ':' ∉ user := fun colon => absurd (cleanUser ':' colon) (by decide)
  have parts : text.toList.takeWhile (· != ':') = user ∧
      (text.toList.dropWhile (· != ':')).drop 1 = password := by
    rw [written]
    split
    · next empty =>
      have nothing : ∀ c ∈ [].head?, c = ':' := by simp
      obtain ⟨taken, dropped⟩ := Text.takeWhile_dropWhile_ne noColon nothing
      rw [List.append_nil] at taken dropped
      rw [taken, dropped, empty]
      exact ⟨rfl, rfl⟩
    · have colon : ∀ c ∈ (':' :: password).head?, c = ':' := by simp
      obtain ⟨taken, dropped⟩ := Text.takeWhile_dropWhile_ne noColon colon
      rw [taken, dropped]
      exact ⟨rfl, rfl⟩
  have userStays : escapeUserinfo user = user := escape_of_clean cleanUser
  have passwordStays : escapeUserinfo password = password := escape_of_clean cleanPassword
  rw [userinfoText, parts.1, parts.2, userStays, passwordStays, ← written, String.ofList_toList]

theorem isPlain_of_mem_userinfo {text : String} (normal : IsUserinfo text)
    (member : c ∈ text.toList) : Host.isPlain c = true := by
  obtain ⟨user, password, clean, written⟩ := normal
  have special : Host.delimiters.all userinfoSpecial.toList.contains = true := by decide
  have cleanOrColon : isClean userinfoSpecial c = true ∨ c = ':' := by
    rw [written] at member
    split at member
    · exact .inl (clean c (List.mem_append_left _ member))
    · rcases List.mem_append.mp member with inUser | after
      · exact .inl (clean c (List.mem_append_left _ inUser))
      · refine (List.mem_cons.mp after).symm.imp_left fun inPassword => ?_
        exact clean c (List.mem_append_right _ inPassword)
  rcases cleanOrColon with own | rfl
  · have apart : c ∉ Host.delimiters := fun member => by
      have escaped := List.all_eq_true.mp special c member
      rw [not_contains_of_isClean own] at escaped
      cases escaped
    exact Host.isPlain_iff.mpr ⟨visible_of_isClean (by decide) own, apart⟩
  · decide

theorem cutUserinfo_of_not_mem {authority : List Char} (absent : '@' ∉ authority) :
    cutUserinfo authority = (none, authority) := by
  have stays : ∀ c ∈ authority.reverse, (c != '@') = true := fun c member =>
    bne_iff_ne.mpr fun same => absent (same ▸ List.mem_reverse.mp member)
  have whole : authority.reverse.takeWhile (· != '@') = authority.reverse :=
    List.takeWhile_eq_self_iff.mpr stays
  rw [cutUserinfo, whole, List.reverse_reverse]
  exact if_pos rfl

theorem cutUserinfo_append {after : List Char} (absent : '@' ∉ after) (before : List Char) :
    cutUserinfo (before ++ '@' :: after) = (some before, after) := by
  have taken : (before ++ '@' :: after).reverse.takeWhile (· != '@') = after.reverse := by
    rw [List.reverse_append, List.reverse_cons, List.append_assoc]
    exact (Text.takeWhile_dropWhile_ne (List.mem_reverse.not.mpr absent) (by simp)).1
  have longer : after.length ≠ (before ++ '@' :: after).length := by simp; omega
  have before_length : (before ++ '@' :: after).length - after.length - 1 = before.length := by
    simp; omega
  rw [cutUserinfo, taken, List.reverse_reverse, if_neg longer, before_length, List.take_left]

theorem cutHost_append {chars : List Char} (plain : ∀ c ∈ chars, c ≠ ':' ∧ c ≠ '[')
    (rest : List Char) :
    cutHost false (chars ++ rest) = (chars ++ (cutHost false rest).1, (cutHost false rest).2) := by
  induction chars with
  | nil => rfl
  | cons c chars ih =>
    obtain ⟨⟨notColon, notBracket⟩, others⟩ := List.forall_mem_cons.mp plain
    have outside : (c == '[' || (false && c != ']')) = false := by simp [notBracket]
    rw [List.cons_append, cutHost, if_neg (by simp [notColon]), outside, ih others]
    rfl

theorem cutHost_brackets {chars : List Char} (inside : ']' ∉ chars) (rest : List Char) :
    cutHost true (chars ++ ']' :: rest)
      = (chars ++ ']' :: (cutHost false rest).1, (cutHost false rest).2) := by
  induction chars with
  | nil =>
    rw [List.nil_append, cutHost]
    simp
  | cons c chars ih =>
    obtain ⟨different, others⟩ := not_or.mp (List.mem_cons.not.mp inside)
    have within : (c == '[' || (true && c != ']')) = true := by simp [Ne.symm different]
    rw [List.cons_append, cutHost, if_neg (by simp), within, ih others]
    rfl

/-- A host ends where a port begins. -/
theorem cutHost_text [HostNames] [HostNames.IsLawful] {host : Host} (normal : host.IsNormal) {rest : List Char}
    (ends : ∀ c ∈ rest.head?, c = ':') :
    cutHost false (host.text.toList ++ rest) = (host.text.toList, rest) := by
  have stop : cutHost false rest = ([], rest) := by
    cases rest with
    | nil => rfl
    | cons c rest =>
      cases ends c rfl
      rw [cutHost]
      rfl
  have unbracketed (notAddress : ∀ groups, host ≠ .ipv6 groups) :
      cutHost false (host.text.toList ++ rest) = (host.text.toList, rest) := by
    rw [cutHost_append fun c member => ?_, stop, List.append_nil]
    have allowed := Host.allowed_of_mem_text normal notAddress member
    constructor
    all_goals
      rintro rfl
      exact absurd allowed (by decide)
  cases host with
  | domain name => exact unbracketed (by simp)
  | ipv4 address => exact unbracketed (by simp)
  | ipv6 groups =>
    have closing : ']' ∉ (Ipv6.text groups).toList := by
      intro member
      rcases Ipv6.mem_text member with colon | ⟨digit, small, same⟩
      · exact absurd colon (by decide)
      · have apart : ∀ digit < 16, ']' ≠ Nat.digitChar digit := by decide
        exact apart digit small same
    have brackets := cutHost_brackets closing rest
    rw [stop] at brackets
    rw [Host.toList_ipv6_text, List.cons_append, List.append_assoc, List.singleton_append, cutHost]
    simp [brackets]

/-- A port as it is written after a host. -/
def portText : Option Nat → String
  | some port => ":" ++ toString port
  | none => ""

theorem isPlain_of_mem_portText {port : Option Nat} (member : c ∈ (portText port).toList) :
    Host.isPlain c = true := by
  cases port with
  | none => cases member
  | some number =>
    have chars : (portText (some number)).toList = ':' :: Nat.toDigits 10 number := by
      simp [portText]
    rw [chars] at member
    rcases List.mem_cons.mp member with rfl | own
    · decide
    · have digit := Json.isDigit_of_mem_toDigits own
      have noDigits : Host.delimiters.all (!·.isDigit) = true := by decide
      refine Host.isPlain_iff.mpr ⟨?_, fun mark => ?_⟩
      · simp only [Char.isDigit, Bool.and_eq_true, decide_eq_true_eq, UInt32.le_iff_toNat_le]
          at digit
        exact Nat.lt_of_lt_of_le (by decide) digit.1
      · have other := List.all_eq_true.mp noDigits c mark
        rw [digit] at other
        cases other

theorem portOf_portText {port : Option Nat} (bound : ∀ number ∈ port, number ≤ 65535) :
    portOf (portText port).toList = .ok port := by
  cases port with
  | none => rfl
  | some number =>
    have small : ¬ 65535 < number := Nat.not_lt.mpr (bound number rfl)
    have read : Ipv4.number? 10 (Nat.toDigits 10 number) = some number :=
      Ipv4.number?_toDigits (by decide) (by decide) number
    have digits : Nat.toDigits 10 number ≠ [] := Nat.toDigits_ne_nil
    have chars : (portText (some number)).toList = ':' :: Nat.toDigits 10 number := by
      simp [portText]
    rw [chars, portOf, read]
    simp [small, digits]

end ClusterClient.Url
