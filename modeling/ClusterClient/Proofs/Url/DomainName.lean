import ClusterClient.Proofs.Text.LowerCase
import ClusterClient.Proofs.Text.Pieces
import ClusterClient.Proofs.Url.Punycode
import ClusterClient.Url.DomainName

namespace ClusterClient.DomainName

/-- Ranges of the characters whose form in a name is not simply their lower-case form. -/
def specialRanges : List (Nat × Nat) := [
  (0xAD, 0xAD), (0x34F, 0x34F), (0x180B, 0x180D), (0x200B, 0x200B), (0x2060, 0x2060),
  (0x2064, 0x2064), (0xFE00, 0xFE0F), (0xFEFF, 0xFEFF), (0xE0100, 0xE01EF), (0x3002, 0x3002),
  (0xFF0E, 0xFF0E), (0xFF61, 0xFF61), (0xFF01, 0xFF5E), (0xA0, 0xA0), (0x2000, 0x200A),
  (0x202F, 0x202F), (0x205F, 0x205F), (0x3000, 0x3000)]

/-- Apart from the full-width forms, which are none of names, no letter is mapped to a special
character. -/
theorem caseRuns_miss_special : (Text.caseRuns.all fun run =>
    (Nat.ble 0xFF01 run.first && Nat.ble run.last 0xFF5E) || specialRanges.all run.misses) = true := by
  decide +kernel

/-- The only ASCII characters with other lower-case forms are the capitals. -/
theorem caseRuns_ascii : (Text.caseRuns.all fun run =>
    Nat.ble 128 run.first || (Nat.ble 65 run.first && Nat.ble run.last 90)) = true := by
  decide +kernel

theorem mapChar_eq_lowerChar {c : Char}
    (plain : ∀ range ∈ specialRanges, ¬ (range.1 ≤ c.toNat ∧ c.toNat ≤ range.2)) :
    mapChar c = Text.lowerChar c := by
  have notIgnored : isIgnored c = false := by
    rw [isIgnored, Text.inRanges, List.any_eq_false]
    intro range member
    have inSpecial : range ∈ specialRanges := List.mem_append_left _ member
    simpa using plain range inSpecial
  simp only [specialRanges, List.forall_mem_cons] at plain
  have notDot {dot : Char} (special : dot.toNat = 0x3002 ∨ dot.toNat = 0xFF0E ∨ dot.toNat = 0xFF61) :
      c ≠ dot := by
    rintro rfl
    omega
  have notDots : c ≠ '\u3002' ∧ c ≠ '\uff0e' ∧ c ≠ '\uff61' :=
    ⟨notDot (by decide), notDot (by decide), notDot (by decide)⟩
  rw [mapChar, notIgnored, if_neg Bool.false_ne_true, if_neg (by simp [notDots]), if_neg, if_neg]
  · simp only [Bool.or_eq_true, Bool.and_eq_true, decide_eq_true_eq]
    omega
  · simp only [Bool.and_eq_true, decide_eq_true_eq]
    omega

theorem mapChar_of_ascii {c : Char} (ascii : c.toNat < 128) : mapChar c = Text.lowerChar c := by
  apply mapChar_eq_lowerChar
  simp only [specialRanges, List.forall_mem_cons]
  refine ⟨?_, ?_, ?_, ?_, ?_, ?_, ?_, ?_, ?_, ?_, ?_, ?_, ?_, ?_, ?_, ?_, ?_, ?_, by simp⟩ <;> omega

/-- The ASCII characters that are no capitals stand for themselves. -/
theorem mapChar_of_small {c : Char} (ascii : c.toNat < 128)
    (small : ¬ (65 ≤ c.toNat ∧ c.toNat ≤ 90)) : mapChar c = [c] := by
  rw [mapChar_of_ascii ascii, Text.lowerChar_eq,
    if_neg (by rintro rfl; exact absurd ascii (by decide))]
  split
  · next run found =>
    have capitals := List.all_eq_true.mp caseRuns_ascii run (List.mem_of_find?_eq_some found)
    have holds := List.find?_some found
    simp only [Bool.or_eq_true, Bool.and_eq_true, Nat.ble_eq] at capitals
    simp only [Text.CaseRun.holds, Bool.and_eq_true, decide_eq_true_eq] at holds
    omega
  · rfl

/-- ASCII characters have ASCII lower-case forms. -/
theorem ascii_of_mem_lowerChar {c d : Char} (ascii : c.toNat < 128)
    (member : d ∈ Text.lowerChar c) : d.toNat < 128 := by
  rw [Text.lowerChar_eq, if_neg (by rintro rfl; exact absurd ascii (by decide))] at member
  split at member
  · next run found =>
    have sound := List.all_eq_true.mp Text.caseRuns_isSound run (List.mem_of_find?_eq_some found)
    have holds := List.find?_some found
    obtain ⟨same, low, high⟩ := Text.CaseRun.toNat_image sound holds
    cases List.mem_singleton.mp member
    simp only [Text.CaseRun.isSound, Bool.and_eq_true, Bool.or_eq_true, Nat.ble_eq, Nat.blt_eq]
      at sound
    simp only [Text.CaseRun.holds, Bool.and_eq_true, decide_eq_true_eq] at holds
    omega
  · cases List.mem_singleton.mp member
    exact ascii

/-- The lower-case forms that names use are their own forms in names. -/
theorem mapChar_of_mem_lowerChar {c d : Char} (lowered : mapChar c = Text.lowerChar c)
    (notFullWidth : ¬ (0xFF01 ≤ c.toNat ∧ c.toNat ≤ 0xFF5E)) (member : d ∈ Text.lowerChar c) :
    mapChar d = [d] := by
  have own := Text.lowerChar_of_mem member
  rw [Text.lowerChar_eq] at member
  split at member
  · rcases List.mem_cons.mp member with rfl | marked
    · rw [mapChar_of_ascii (by decide), own]
    · cases List.mem_singleton.mp marked
      rw [mapChar_eq_lowerChar (by decide), own]
  · next undotted =>
    split at member
    · next run found =>
      have inTable := List.mem_of_find?_eq_some found
      have sound := List.all_eq_true.mp Text.caseRuns_isSound run inTable
      have holds := List.find?_some found
      obtain ⟨same, low, high⟩ := Text.CaseRun.toNat_image sound holds
      have missed := List.all_eq_true.mp caseRuns_miss_special run inTable
      simp only [Text.CaseRun.holds, Bool.and_eq_true, decide_eq_true_eq] at holds
      simp only [Bool.or_eq_true, Bool.and_eq_true, Nat.ble_eq, List.all_eq_true] at missed
      rcases missed with fullWidth | missed
      · omega
      · cases List.mem_singleton.mp member
        rw [mapChar_eq_lowerChar, own]
        intro range special
        rw [same]
        exact Text.CaseRun.not_mem_of_misses (missed range special) low high
    · next unheld =>
      cases List.mem_singleton.mp member
      rw [lowered, own]

/-- What a character becomes in a name stays as it is in a name. -/
theorem mapChar_of_mem {c d : Char} (member : d ∈ mapChar c) : mapChar d = [d] := by
  have lowered {c d : Char} (ascii : c.toNat < 128) (member : d ∈ Text.lowerChar c) :
      mapChar d = [d] := by
    rw [mapChar_of_ascii (ascii_of_mem_lowerChar ascii member), Text.lowerChar_of_mem member]
  have form := mapChar.eq_1 c
  rw [mapChar] at member
  split at member
  · cases member
  · next ignored =>
    rw [if_neg ignored] at form
    split at member
    · cases List.mem_singleton.mp member
      exact mapChar_of_small (by decide) (by decide)
    · next dot =>
      rw [if_neg dot] at form
      split at member
      · next fullWidth =>
        simp only [Bool.and_eq_true, decide_eq_true_eq] at fullWidth
        have ascii : (Char.ofNat (c.toNat - 0xFEE0)).toNat < 128 := by
          rw [Text.toNat_ofNat_of_valid (by simp only [Nat.isValidChar]; omega)]
          omega
        exact lowered ascii member
      · next narrow =>
        rw [if_neg narrow] at form
        split at member
        · cases List.mem_singleton.mp member
          exact mapChar_of_small (by decide) (by decide)
        · next blank =>
          rw [if_neg blank] at form
          exact mapChar_of_mem_lowerChar form (by simpa using narrow) member

/-- A character that a label in its ASCII form may hold. -/
def IsSettled (c : Char) : Prop := isAscii c = true ∧ mapChar c = [c] ∧ c ≠ '.'

theorem isSettled_of_small {c : Char}
    (small : c.toNat < 128 ∧ ¬ (65 ≤ c.toNat ∧ c.toNat ≤ 90) ∧ c ≠ '.') : IsSettled c :=
  ⟨decide_eq_true small.1, mapChar_of_small small.1 small.2.1, small.2.2⟩

theorem isSettled_digit {value : Nat} (small : value < 36) : IsSettled (Punycode.digit value) := by
  have each : ∀ value < 36, (Punycode.digit value).toNat < 128 ∧
      ¬ (65 ≤ (Punycode.digit value).toNat ∧ (Punycode.digit value).toNat ≤ 90) ∧
        Punycode.digit value ≠ '.' := by
    decide
  exact isSettled_of_small (each value small)

theorem isSettled_encode {label : List Char} (mapped : ∀ c ∈ label, mapChar c = [c])
    (noDot : '.' ∉ label) : ∀ c ∈ Punycode.encode label, IsSettled c := by
  have basic : ∀ c ∈ Punycode.basicOf label, IsSettled c := by
    intro c member
    obtain ⟨inLabel, ascii⟩ := List.mem_filter.mp member
    exact ⟨ascii, mapped c inLabel, fun same => noDot (same ▸ inLabel)⟩
  intro c member
  rw [Punycode.encode_eq] at member
  rcases List.mem_append.mp member with lead | place
  · split at lead
    · cases lead
    · rcases List.mem_append.mp lead with own | hyphen
      · exact basic c own
      · cases List.mem_singleton.mp hyphen
        exact isSettled_of_small (by decide)
  · obtain ⟨value, small, rfl⟩ := Punycode.encodeFrom_digits _ place
    exact isSettled_digit small

theorem flatMap_mapChar {chars : List Char} (mapped : ∀ c ∈ chars, mapChar c = [c]) :
    chars.flatMap mapChar = chars := by
  rw [List.flatMap_congr mapped, List.flatMap_singleton']

/-- The ASCII form of a mapped label is its own ASCII form. -/
theorem labelToAscii?_settled {label ascii : List Char} (mapped : ∀ c ∈ label, mapChar c = [c])
    (noDot : '.' ∉ label) (accepted : labelToAscii? label = some ascii) :
    (∀ c ∈ ascii, IsSettled c) ∧ labelToAscii? ascii = some ascii := by
  have itself (allAscii : label.all isAscii = true) : ∀ c ∈ label, IsSettled c := fun c member =>
    ⟨List.all_eq_true.mp allAscii c member, mapped c member, fun same => noDot (same ▸ member)⟩
  have form := accepted
  unfold labelToAscii? at accepted
  split at accepted
  · next encoded =>
    by_cases allAscii : ('x' :: 'n' :: '-' :: '-' :: encoded).all isAscii = true
    · have same : 'x' :: 'n' :: '-' :: '-' :: encoded = ascii := by
        rw [if_neg (by simp [allAscii])] at accepted
        split at accepted
        · exact Option.some.inj (Option.ite_none_left_eq_some.mp accepted).2
        · cases accepted
      subst same
      exact ⟨itself allAscii, form⟩
    · rw [if_pos (by simp [allAscii])] at accepted
      cases accepted
  · split at accepted
    · next allAscii =>
      cases accepted
      exact ⟨itself allAscii, form⟩
    · next someOther =>
      obtain ⟨allowed, same⟩ := Option.ite_none_left_eq_some.mp accepted
      cases same
      have encoded := isSettled_encode mapped noDot
      have hyphen : IsSettled '-' := isSettled_of_small (by decide)
      have lead : ∀ c ∈ ['x', 'n', '-', '-'], IsSettled c := by
        simp only [List.forall_mem_cons]
        exact ⟨isSettled_of_small (by decide), isSettled_of_small (by decide), hyphen, hyphen,
          List.forall_mem_nil _⟩
      have settled : ∀ c ∈ 'x' :: 'n' :: '-' :: '-' :: Punycode.encode label, IsSettled c :=
        List.forall_mem_append.mpr ⟨lead, encoded⟩
      have allAscii : ('x' :: 'n' :: '-' :: '-' :: Punycode.encode label).all isAscii = true :=
        List.all_eq_true.mpr fun c member => (settled c member).1
      refine ⟨settled, ?_⟩
      simp only [labelToAscii?, allAscii, Punycode.decode?_encode]
      simp [someOther, allowed, flatMap_mapChar mapped]

theorem labels_settled {labels forms : List (List Char)}
    (mapped : ∀ label ∈ labels, (∀ c ∈ label, mapChar c = [c]) ∧ '.' ∉ label)
    (accepted : labels.mapM labelToAscii? = some forms) :
    (∀ form ∈ forms, ∀ c ∈ form, IsSettled c) ∧ forms.mapM labelToAscii? = some forms := by
  have each : ∀ form ∈ forms, (∀ c ∈ form, IsSettled c) ∧ labelToAscii? (id form) = some form := by
    refine Text.forall_mem_of_mapM (fun label member form own => ?_) accepted
    exact labelToAscii?_settled (mapped label member).1 (mapped label member).2 own
  have stays := Text.mapM_map fun form member => (each form member).2
  exact ⟨fun form member => (each form member).1, by simpa using stays⟩

/-- The labels of a mapped name are mapped. -/
theorem mapped_of_mem_labels {name label : List Char}
    (member : label ∈ (name.flatMap mapChar).splitOn '.') :
    (∀ c ∈ label, mapChar c = [c]) ∧ '.' ∉ label := by
  obtain ⟨noDot, inside⟩ := Text.mem_splitOn member
  refine ⟨fun c inLabel => ?_, noDot⟩
  obtain ⟨_, _, image⟩ := List.mem_flatMap.mp (inside inLabel)
  exact mapChar_of_mem image

/-- The ASCII form of a name is its own ASCII form. It holds ASCII characters alone, and none that
is forbidden in hosts. -/
theorem toAscii?_settled {name ascii : String} (accepted : toAscii? name = some ascii) :
    toAscii? ascii = some ascii ∧
      ∀ c ∈ ascii.toList, c.toNat < 128 ∧ Host.isForbidden c = false := by
  obtain ⟨forms, labels, accepted⟩ := Option.bind_eq_some_iff.mp accepted
  obtain ⟨allowed, same⟩ := Option.ite_none_left_eq_some.mp accepted
  cases same
  obtain ⟨settled, stays⟩ := labels_settled (fun _ => mapped_of_mem_labels) labels
  have nonempty : forms ≠ [] := Text.ne_nil_of_mapM (List.splitOn_ne_nil _ _) labels
  have ascii : ∀ c ∈ ['.'].intercalate forms, isAscii c = true ∧ mapChar c = [c] := by
    intro c member
    rcases Text.mem_intercalate member with rfl | ⟨form, inForms, own⟩
    · exact ⟨by decide, mapChar_of_small (by decide) (by decide)⟩
    · obtain ⟨isAscii, fixed, -⟩ := settled form inForms c own
      exact ⟨isAscii, fixed⟩
  have split : (['.'].intercalate forms).splitOn '.' = forms :=
    List.splitOn_intercalate '.' (fun form member dot => (settled form member '.' dot).2.2 rfl)
      nonempty
  refine ⟨?_, fun c member => ?_⟩
  · rw [toAscii?, String.toList_ofList, flatMap_mapChar fun c member => (ascii c member).2, split,
      stays, Option.bind_eq_bind, Option.bind_some]
    exact if_neg allowed
  · rw [String.toList_ofList] at member
    refine ⟨by simpa [isAscii] using (ascii c member).1, ?_⟩
    exact Bool.eq_false_iff.mpr fun forbidden =>
      allowed (List.any_eq_true.mpr ⟨c, member, forbidden⟩)

theorem labelToAscii?_of_ascii {label : List Char} (ascii : label.all isAscii = true)
    (noHyphen : '-' ∉ label) : labelToAscii? label = some label := by
  unfold labelToAscii?
  split
  · simp at noHyphen
  · rw [if_pos ascii]

/-- Neither in names nor in hosts is there anything special about digits and dots. -/
theorem plain_of_digit_or_dot {c : Char} (digit : c.isDigit = true ∨ c = '.') :
    isAscii c = true ∧ mapChar c = [c] ∧ Host.isForbidden c = false ∧ c ≠ '-' := by
  have allowed : ∀ code < 58, 46 ≤ code → code ≠ 47 →
      Host.isForbidden (Char.ofNat code) = false := by decide +kernel
  have range : 46 ≤ c.toNat ∧ c.toNat ≠ 47 ∧ c.toNat < 58 := by
    rcases digit with digit | rfl
    · simp only [Char.isDigit, Bool.and_eq_true, decide_eq_true_eq, UInt32.le_iff_toNat_le] at digit
      have low : 48 ≤ c.toNat := digit.1
      have high : c.toNat ≤ 57 := digit.2
      omega
    · decide
  obtain ⟨low, noSlash, high⟩ := range
  refine ⟨decide_eq_true (by omega), mapChar_of_small (by omega) (by omega), ?_, ?_⟩
  · rw [← Char.ofNat_toNat c]
    exact allowed c.toNat high low noSlash
  · rintro rfl
    exact absurd low (by decide)

/-- Digits and dots stand for themselves in a name. -/
theorem toAscii?_of_digits {name : String}
    (digits : ∀ c ∈ name.toList, c.isDigit = true ∨ c = '.') : toAscii? name = some name := by
  have plain := fun c member => plain_of_digit_or_dot (digits c member)
  have labels : (name.toList.splitOn '.').mapM labelToAscii? = some (name.toList.splitOn '.') := by
    have own : ∀ label ∈ name.toList.splitOn '.', labelToAscii? (id label) = some label := by
      intro label member
      obtain ⟨-, inside⟩ := Text.mem_splitOn member
      refine labelToAscii?_of_ascii (List.all_eq_true.mpr fun c own => ?_) fun hyphen => ?_
      · exact (plain c (inside own)).1
      · exact (plain '-' (inside hyphen)).2.2.2 rfl
    simpa using Text.mapM_map own
  have allowed : ¬ name.toList.any Host.isForbidden := by
    rw [List.any_eq_true]
    rintro ⟨c, member, forbidden⟩
    rw [(plain c member).2.2.1] at forbidden
    cases forbidden
  rw [toAscii?, flatMap_mapChar fun c member => (plain c member).2.1, labels,
    Option.bind_eq_bind, Option.bind_some, List.intercalate_splitOn, if_neg allowed,
    String.ofList_toList]

instance : HostNames.IsLawful where
  allowed accepted := (toAscii?_settled accepted).2
  again accepted := (toAscii?_settled accepted).1
  digits := toAscii?_of_digits

end ClusterClient.DomainName
