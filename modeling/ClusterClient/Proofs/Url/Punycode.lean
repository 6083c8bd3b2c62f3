import ClusterClient.Url.Punycode
import Mathlib.Data.List.TakeWhile
import Mathlib.Tactic.IntervalCases
import Mathlib.Tactic.Ring

namespace ClusterClient.Punycode

theorem digitValue?_digit {n : Nat} (small : n < 36) : digitValue? (digit n) = some n := by
  interval_cases n <;> decide

theorem encodeNumber_ne_nil (bias place n : Nat) : encodeNumber bias place n ≠ [] := by
  rw [encodeNumber]
  split <;> simp

/-- The digits of a number are below 36. -/
theorem exists_of_mem_encodeNumber {bias place n : Nat} {c : Char}
    (member : c ∈ encodeNumber bias place n) : ∃ value < 36, c = digit value := by
  have low := threshold_pos place bias
  have high := threshold_le place bias
  induction place, n using encodeNumber.induct bias with
  | case1 place n small =>
    rw [encodeNumber, if_pos small, List.mem_singleton] at member
    exact ⟨n, by omega, member⟩
  | case2 place n large t ih =>
    rw [encodeNumber, if_neg large] at member
    rcases List.mem_cons.mp member with own | later
    · have remainder := Nat.mod_lt (n - threshold place bias)
        (show 0 < 36 - threshold place bias by omega)
      exact ⟨_, by omega, own⟩
    · exact ih later (threshold_pos _ _) (threshold_le _ _)

/-- Whatever follows, the digits of a number read back as that number. -/
theorem decodeNumber_encodeNumber (bias place n weight : Nat) (rest : List Char) :
    decodeNumber bias place weight (encodeNumber bias place n ++ rest) = some (n * weight, rest) := by
  induction n using Nat.strongRecOn generalizing place weight with
  | ind n ih =>
    have low := threshold_pos place bias
    have high := threshold_le place bias
    rw [encodeNumber]
    generalize bound : threshold place bias = t at low high ⊢
    by_cases last : n < t
    · rw [if_pos last, List.singleton_append, decodeNumber, digitValue?_digit (by omega), bound]
      exact if_pos last
    · have remainder := Nat.mod_lt (n - t) (show 0 < 36 - t by omega)
      have smaller := Nat.div_le_self (n - t) (36 - t)
      have whole : t + (n - t) % (36 - t) + (n - t) / (36 - t) * (36 - t) = n := by
        have parts := Nat.mod_add_div' (n - t) (36 - t)
        omega
      have value : (t + (n - t) % (36 - t)) * weight + (n - t) / (36 - t) * (weight * (36 - t))
          = n * weight := by
        calc (t + (n - t) % (36 - t)) * weight + (n - t) / (36 - t) * (weight * (36 - t))
            = (t + (n - t) % (36 - t) + (n - t) / (36 - t) * (36 - t)) * weight := by ring
          _ = n * weight := by rw [whole]
      rw [if_neg last, List.cons_append, decodeNumber, digitValue?_digit (by omega), bound]
      simp only [Option.bind_eq_bind, Option.bind_some]
      rw [if_neg (by omega), ih _ (by omega), Option.bind_some, value]

/-- A number that leads to the place `offset` in the round of `target` puts that code point there. -/
theorem decodeFrom_encodeNumber {placed : List Nat} {code position delta target offset : Nat}
    (place : position + delta = (target - code) * (placed.length + 1) + offset)
    (reaches : code ≤ target) (inside : offset ≤ placed.length) (valid : target ≤ 0x10FFFF)
    (bias fuel : Nat) (rest : List Char) :
    decodeFrom placed code position bias (fuel + 1) (encodeNumber bias 1 delta ++ rest) =
      decodeFrom (placed.insertIdx offset target) target (offset + 1)
        (adapt delta (placed.length + 1) (position == 0)) fuel rest := by
  have number := decodeNumber_encodeNumber bias 1 delta 1 rest
  obtain ⟨c, digits, split⟩ := List.exists_cons_of_ne_nil (encodeNumber_ne_nil bias 1 delta)
  have quotient : ((target - code) * (placed.length + 1) + offset) / (placed.length + 1)
      = target - code := by
    rw [Nat.mul_comm, Nat.mul_add_div (Nat.succ_pos _), Nat.div_eq_of_lt (by omega), Nat.add_zero]
  have remainder : ((target - code) * (placed.length + 1) + offset) % (placed.length + 1)
      = offset := by
    rw [Nat.mul_comm, Nat.mul_add_mod, Nat.mod_eq_of_lt (by omega)]
  have next : code + (target - code) = target := by omega
  rw [split, List.cons_append] at number ⊢
  rw [decodeFrom, number, Option.bind_eq_bind, Option.bind_some, Nat.mul_one]
  dsimp only
  rw [place, quotient, remainder, next, if_neg (by omega)]
  · exact fun same => by cases same

/-- A decoder has caught up with an encoder that passes over a label for the code point `target` and
has `offset` handled code points behind it. The encoder has handled as many code points as the
decoder has placed, and its delta leads from the decoder's place to its own. -/
structure Tracks (basic target offset : Nat) (state : Progress) (placed : List Nat)
    (code position : Nat) : Prop where
  handled : state.handled = placed.length
  reaches : code ≤ target
  place : position + state.delta = (target - code) * (placed.length + 1) + offset
  basic_le : basic ≤ placed.length
  first : position = 0 ↔ placed.length = basic

section Step

variable {basic target offset code position : Nat} {state : Progress} {placed : List Nat}

/-- Both adapt to a number in the same way. -/
theorem Tracks.adapt_eq (tracks : Tracks basic target offset state placed code position) :
    adapt state.delta (placed.length + 1) (position == 0) =
      adapt state.delta (state.handled + 1) (state.handled == basic) := by
  have first : (position == 0) = (state.handled == basic) := by
    rw [Bool.eq_iff_iff, beq_iff_eq, beq_iff_eq, tracks.first, tracks.handled]
  rw [first, tracks.handled]

theorem Tracks.next (tracks : Tracks basic target offset state placed code position)
    (inside : offset ≤ placed.length) (bias : Nat) :
    Tracks basic target (offset + 1) ⟨0, bias, state.handled + 1⟩ (placed.insertIdx offset target)
      target (offset + 1) := by
  have basic_le := tracks.basic_le
  have longer := List.length_insertIdx_of_le_length inside target
  exact ⟨by rw [longer, tracks.handled], le_rfl, by simp, by omega, by omega⟩

theorem Tracks.pass (tracks : Tracks basic target offset state placed code position) :
    Tracks basic target (offset + 1) { state with delta := state.delta + 1 } placed code position := by
  have place := tracks.place
  exact ⟨tracks.handled, tracks.reaches, by dsimp only; omega, tracks.basic_le, tracks.first⟩

end Step

/-- The code points that a decoder has placed when those below `code` are handled, and `code` itself
before the place reached. -/
def placedAt (code : Nat) (before after : List Nat) : List Nat :=
  before.filter (· ≤ code) ++ after.filter (· < code)

theorem placedAt_nil (code : Nat) (before : List Nat) :
    placedAt code before [] = before.filter (· ≤ code) := by
  simp [placedAt]

/-- To pass over another code point places nothing. -/
theorem placedAt_cons {code c : Nat} (other : c ≠ code) (before after : List Nat) :
    placedAt code before (c :: after) = placedAt code (before ++ [c]) after := by
  rcases Nat.lt_or_gt_of_ne other with below | above
  · simp [placedAt, below, below.le]
  · simp [placedAt, Nat.not_lt.mpr above.le, Nat.not_le.mpr above]

theorem insertIdx_length_append (before after : List Nat) (code : Nat) :
    (before ++ after).insertIdx before.length code = before ++ code :: after := by
  induction before with
  | nil => rfl
  | cons first before ih =>
    rw [List.cons_append, List.length_cons, List.insertIdx_succ_cons, ih, List.cons_append]

theorem insertIdx_placedAt (code : Nat) (before after : List Nat) :
    (placedAt code before (code :: after)).insertIdx (before.filter (· ≤ code)).length code =
      placedAt code (before ++ [code]) after := by
  simp [placedAt, insertIdx_length_append]

/-- A pass of the encoder for one code point is undone number by number. -/
theorem decodeFrom_encodeOccurrences {basic target : Nat} (valid : target ≤ 0x10FFFF)
    (after : List Nat) : ∀ (before : List Nat) (state : Progress) (code position fuel : Nat)
      (rest : List Char),
    Tracks basic target (before.filter (· ≤ target)).length state (placedAt target before after)
      code position →
    ((encodeOccurrences target basic state after).1 ++ rest).length ≤ fuel →
    ∃ code' position' fuel', rest.length ≤ fuel' ∧
      Tracks basic target ((before ++ after).filter (· ≤ target)).length
        (encodeOccurrences target basic state after).2 ((before ++ after).filter (· ≤ target))
        code' position' ∧
      decodeFrom (placedAt target before after) code position state.bias fuel
        ((encodeOccurrences target basic state after).1 ++ rest) =
      decodeFrom ((before ++ after).filter (· ≤ target)) code' position'
        (encodeOccurrences target basic state after).2.bias fuel' rest := by
  induction after with
  | nil =>
    intro before state code position fuel rest tracks enough
    rw [placedAt_nil] at tracks ⊢
    rw [List.append_nil]
    exact ⟨code, position, fuel, enough, tracks, rfl⟩
  | cons c after ih =>
    intro before state code position fuel rest tracks enough
    have step : before ++ c :: after = (before ++ [c]) ++ after := by simp
    rw [encodeOccurrences] at enough ⊢
    rw [step]
    by_cases below : c < target
    · have sofar : ((before ++ [c]).filter (· ≤ target)).length =
          (before.filter (· ≤ target)).length + 1 := by simp [below.le]
      rw [if_pos below] at enough ⊢
      rw [placedAt_cons below.ne] at tracks ⊢
      exact ih _ _ _ _ _ _ (sofar ▸ tracks.pass) enough
    · rw [if_neg below] at enough ⊢
      by_cases here : c = target
      · subst here
        rw [if_pos rfl] at enough ⊢
        have sofar : ((before ++ [c]).filter (· ≤ c)).length =
            (before.filter (· ≤ c)).length + 1 := by simp
        have inside : (before.filter (· ≤ c)).length ≤ (placedAt c before (c :: after)).length := by
          simp [placedAt]
        have digits := List.length_pos_iff.mpr (encodeNumber_ne_nil state.bias 1 state.delta)
        simp only [List.length_append] at enough
        obtain ⟨spent, rfl⟩ : ∃ spent, fuel = spent + 1 := ⟨fuel - 1, by omega⟩
        have placed := tracks.next inside
          (adapt state.delta (state.handled + 1) (state.handled == basic))
        rw [insertIdx_placedAt, ← sofar] at placed
        obtain ⟨code', position', fuel', left, caught, same⟩ :=
          ih (before ++ [c]) _ _ _ spent rest placed (by rw [List.length_append]; omega)
        refine ⟨code', position', fuel', left, caught, ?_⟩
        dsimp only at same ⊢
        rw [← same, List.append_assoc, sofar, tracks.adapt_eq.symm,
          decodeFrom_encodeNumber tracks.place tracks.reaches inside valid, insertIdx_placedAt]
      · have sofar : (before ++ [c]).filter (· ≤ target) = before.filter (· ≤ target) := by
          simp [show ¬ c ≤ target by omega]
        rw [if_neg here] at enough ⊢
        rw [placedAt_cons here, ← sofar] at tracks
        rw [placedAt_cons here]
        exact ih _ _ _ _ _ _ tracks enough

/-- Between two passes everything below the next code point is placed. -/
theorem Tracks.skip {basic code target last position : Nat} {state : Progress} {placed : List Nat}
    (tracks : Tracks basic code 0 state placed last position) (later : code ≤ target) :
    Tracks basic target 0
      { state with delta := state.delta + (target - code) * (state.handled + 1) } placed
      last position := by
  have place := tracks.place
  have reaches := tracks.reaches
  refine ⟨tracks.handled, by omega, ?_, tracks.basic_le, tracks.first⟩
  calc position + (state.delta + (target - code) * (state.handled + 1))
      = (position + state.delta) + (target - code) * (placed.length + 1) := by
        rw [tracks.handled, Nat.add_assoc]
    _ = (code - last + (target - code)) * (placed.length + 1) + 0 := by rw [place]; ring
    _ = (target - last) * (placed.length + 1) + 0 := by
        rw [show code - last + (target - code) = target - last by omega]

theorem Tracks.finish {basic code last position : Nat} {state : Progress} {placed : List Nat}
    (tracks : Tracks basic code placed.length state placed last position) :
    Tracks basic (code + 1) 0 { state with delta := state.delta + 1 } placed last position := by
  have place := tracks.place
  have reaches := tracks.reaches
  refine ⟨tracks.handled, by omega, ?_, tracks.basic_le, tracks.first⟩
  calc position + (state.delta + 1)
      = (code - last + 1) * (placed.length + 1) + 0 := by rw [← Nat.add_assoc, place]; ring
    _ = (code + 1 - last) * (placed.length + 1) + 0 := by
        rw [show code - last + 1 = code + 1 - last by omega]

theorem filter_lt_eq {label : List Nat} {code next : Nat} (later : code ≤ next)
    (none_between : ∀ c ∈ label, code ≤ c → next ≤ c) :
    label.filter (· < code) = label.filter (· < next) := by
  refine List.filter_congr fun c member => ?_
  have between := none_between c member
  simp only [decide_eq_decide]
  omega

/-- The passes of the encoder are undone one by one, until the whole label is placed. -/
theorem decodeFrom_encodeFrom {label : List Nat} (valid : ∀ c ∈ label, c ≤ 0x10FFFF) (basic : Nat)
    (rounds : Nat) : ∀ (code : Nat) (state : Progress) (last position fuel : Nat),
    (label.filter (code ≤ ·)).length ≤ rounds →
    Tracks basic code 0 state (label.filter (· < code)) last position →
    (encodeFrom label basic code state rounds).length ≤ fuel →
    decodeFrom (label.filter (· < code)) last position state.bias fuel
      (encodeFrom label basic code state rounds) = some label := by
  have done {code last position bias fuel : Nat} (nothing : label.filter (code ≤ ·) = []) :
      decodeFrom (label.filter (· < code)) last position bias fuel [] = some label := by
    have whole : label.filter (· < code) = label := by
      refine List.filter_eq_self.mpr fun c member => ?_
      have below := List.filter_eq_nil_iff.mp nothing c member
      simpa using below
    rw [decodeFrom, whole]
  induction rounds with
  | zero =>
    intro code state last position fuel few tracks enough
    exact done (List.length_eq_zero_iff.mp (Nat.le_zero.mp few))
  | succ rounds ih =>
    intro code state last position fuel few tracks enough
    rw [encodeFrom] at enough ⊢
    cases least : (label.filter (code ≤ ·)).min? with
    | none => exact done (List.min?_eq_none_iff.mp least)
    | some next =>
      obtain ⟨member, smallest⟩ := List.min?_eq_some_iff.mp least
      obtain ⟨inLabel, later⟩ := List.mem_filter.mp member
      have later : code ≤ next := by simpa using later
      have between (c : Nat) (inside : c ∈ label) (reached : code ≤ c) : next ≤ c :=
        smallest c (List.mem_filter.mpr ⟨inside, by simpa using reached⟩)
      have before : label.filter (· < code) = placedAt next [] label := by
        rw [filter_lt_eq later between]
        rfl
      rw [least] at enough
      dsimp only at enough ⊢
      have skipped := tracks.skip later
      rw [before] at skipped ⊢
      obtain ⟨last', position', fuel', left, caught, same⟩ :=
        decodeFrom_encodeOccurrences (valid next inLabel) label [] _ last position fuel _ skipped
          enough
      have handled : label.filter (· ≤ next) = label.filter (· < next + 1) := by
        simp only [Nat.lt_add_one_iff]
      have fewer : (label.filter (next + 1 ≤ ·)).length ≤ rounds := by
        have inner : label.filter (next + 1 ≤ ·) =
            (label.filter (code ≤ ·)).filter (next + 1 ≤ ·) := by
          rw [List.filter_filter]
          refine List.filter_congr fun c _ => ?_
          rw [Bool.eq_iff_iff]
          simp
          omega
        have shorter : ((label.filter (code ≤ ·)).filter (next + 1 ≤ ·)).length
            < (label.filter (code ≤ ·)).length :=
          List.length_filter_lt_length_iff_exists.mpr ⟨next, member, by simp⟩
        rw [inner]
        omega
      dsimp only at same
      rw [same]
      rw [List.nil_append] at caught ⊢
      rw [handled] at caught ⊢
      exact ih (next + 1) _ last' position' fuel' fewer caught.finish left

theorem encodeOccurrences_digits {code basic : Nat} (label : List Nat) :
    ∀ {state : Progress} {c : Char}, c ∈ (encodeOccurrences code basic state label).1 →
      ∃ value < 36, c = digit value := by
  induction label with
  | nil => exact fun member => by cases member
  | cons first rest ih =>
    intro state c member
    rw [encodeOccurrences] at member
    split at member
    · exact ih member
    · split at member
      · rcases List.mem_append.mp member with own | later
        · exact exists_of_mem_encodeNumber own
        · exact ih later
      · exact ih member

theorem encodeFrom_digits {label : List Nat} {basic : Nat} (rounds : Nat) :
    ∀ {code : Nat} {state : Progress} {c : Char},
      c ∈ encodeFrom label basic code state rounds → ∃ value < 36, c = digit value := by
  induction rounds with
  | zero => exact fun member => by cases member
  | succ rounds ih =>
    intro code state c member
    rw [encodeFrom] at member
    split at member
    · cases member
    · rcases List.mem_append.mp member with own | later
      · exact encodeOccurrences_digits label own
      · exact ih later

theorem digit_ne_hyphen {value : Nat} (small : value < 36) : digit value ≠ '-' := by
  interval_cases value <;> decide

/-- What stands before the last hyphen is cut off, however many hyphens it holds itself. -/
theorem cutLastHyphen_append {basic digits : List Char} (nonempty : basic ≠ [])
    (apart : ∀ c ∈ digits, c ≠ '-') :
    cutLastHyphen (basic ++ '-' :: digits) = (basic, digits) := by
  have last : ((basic ++ '-' :: digits).reverse.takeWhile (· != '-')).reverse = digits := by
    rw [List.reverse_append, List.reverse_cons, List.append_assoc,
      List.takeWhile_append_of_pos (by simpa using apart)]
    simp
  have length : (basic ++ '-' :: digits).length - digits.length - 1 = basic.length := by
    simp only [List.length_append, List.length_cons]
    omega
  rw [cutLastHyphen, last, length]
  simp [nonempty]

theorem cutLastHyphen_digits {digits : List Char} (apart : ∀ c ∈ digits, c ≠ '-') :
    cutLastHyphen digits = ([], digits) := by
  have last : (digits.reverse.takeWhile (· != '-')).reverse = digits := by
    rw [List.takeWhile_eq_self_iff.mpr (by simpa using apart), List.reverse_reverse]
  rw [cutLastHyphen, last]
  simp

/-- The ASCII characters of a label. -/
def basicOf (label : List Char) : List Char := label.filter (·.toNat < 128)

/-- The digits that tell what the other characters are and where they go. -/
def placesOf (label : List Char) : List Char :=
  encodeFrom (label.map Char.toNat) (basicOf label).length 128 ⟨0, 72, (basicOf label).length⟩
    label.length

theorem encode_eq (label : List Char) :
    encode label = (if basicOf label = [] then [] else basicOf label ++ ['-']) ++ placesOf label := by
  rw [encode]
  simp only [List.isEmpty_iff]
  rfl

theorem cutLastHyphen_encode (label : List Char) :
    cutLastHyphen (encode label) = (basicOf label, placesOf label) := by
  have apart : ∀ c ∈ placesOf label, c ≠ '-' := by
    intro c member
    obtain ⟨value, small, rfl⟩ := encodeFrom_digits _ member
    exact digit_ne_hyphen small
  rw [encode_eq]
  by_cases nothing : basicOf label = []
  · rw [if_pos nothing, nothing, List.nil_append, cutLastHyphen_digits apart]
  · rw [if_neg nothing, List.append_assoc, List.singleton_append,
      cutLastHyphen_append nothing apart]

/-- Every label reads back from its ASCII form. -/
theorem decode?_encode (label : List Char) : decode? (encode label) = some label := by
  have basicCodes : (basicOf label).map Char.toNat = (label.map Char.toNat).filter (· < 128) := by
    rw [basicOf, List.filter_map]
    rfl
  have valid : ∀ code ∈ label.map Char.toNat, code.isValidChar := by
    simp only [List.forall_mem_map]
    exact fun c _ => c.valid
  have start : Tracks (basicOf label).length 128 0 ⟨0, 72, (basicOf label).length⟩
      ((label.map Char.toNat).filter (· < 128)) 128 0 := by
    have same := congrArg List.length basicCodes
    rw [List.length_map] at same
    exact ⟨same, le_rfl, by simp, same.le, by simp [same]⟩
  have few : ((label.map Char.toNat).filter (128 ≤ ·)).length ≤ label.length := by
    have part := List.length_filter_le (128 ≤ ·) (label.map Char.toNat)
    rwa [List.length_map] at part
  have small : ∀ code ∈ label.map Char.toNat, code ≤ 0x10FFFF := fun code member => by
    rcases valid code member with low | high <;> omega
  have placed : decodeFrom ((label.map Char.toNat).filter (· < 128)) 128 0 72
      (placesOf label).length (placesOf label) = some (label.map Char.toNat) :=
    decodeFrom_encodeFrom small _ _ _ _ _ _ _ few start le_rfl
  have back : (label.map Char.toNat).map Char.ofNat = label := by
    rw [List.map_map]
    exact List.map_id'' Char.ofNat_toNat label
  rw [decode?, cutLastHyphen_encode]
  dsimp only
  rw [basicCodes, placed, Option.bind_eq_bind, Option.bind_some,
    if_pos (List.all_eq_true.mpr fun code member => decide_eq_true (valid code member)), back]

end ClusterClient.Punycode
