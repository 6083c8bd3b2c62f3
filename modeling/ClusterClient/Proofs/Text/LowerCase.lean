import ClusterClient.Text.Lowercase
import Mathlib.Tactic.Basic

namespace ClusterClient.Text

namespace CaseRun

/-- Whether a run holds the letter of a code point. -/
def holds (run : CaseRun) (code : Nat) : Bool :=
  run.first ≤ code && code ≤ run.last && (code - run.first) % run.step == 0

/-- The least and the greatest letter that a run maps to. -/
def lowest (run : CaseRun) : Nat := (run.first + run.shift).toNat

def highest (run : CaseRun) : Nat := (run.last + run.shift).toNat

/-- Whether a run maps no letter into a range. -/
def misses (run : CaseRun) (range : Nat × Nat) : Bool :=
  Nat.blt run.highest range.1 || Nat.blt range.2 run.lowest

/-- Whether no letter that a run maps to is held by another: it lies beside the other run, or between
letters of it. -/
def settles (run other : CaseRun) : Bool :=
  run.misses (other.first, other.last) ||
    (other.step == 2 && (run.step == 2 || run.first == run.last)
      && (run.lowest + other.first) % 2 == 1)

/-- Whether a run maps to characters, to ASCII from ASCII, and not to the dotted capital I. -/
def isSound (run : CaseRun) : Bool :=
  0 ≤ run.first + run.shift && run.misses (0x130, 0x130) && run.misses (0xD800, 0xDFFF)
    && Nat.blt run.highest 0x110000 && (Nat.ble 0x80 run.first || Nat.blt run.highest 0x80)

end CaseRun

theorem caseRuns_settle : (caseRuns.all fun run => caseRuns.all run.settles) = true := by
  decide +kernel

theorem caseRuns_isSound : caseRuns.all (·.isSound) = true := by
  decide +kernel

variable {run other : CaseRun} {code : Nat}

theorem lowerChar_eq (c : Char) : lowerChar c =
    if c = 'İ' then ['i', '\u0307']
    else match caseRuns.find? (·.holds c.toNat) with
      | some run => [Char.ofNat (c.toNat + run.shift).toNat]
      | none => [c] := rfl

/-- What a run makes of a letter lies as far from its first one as before. -/
theorem CaseRun.image_eq (sound : run.isSound = true) (holds : run.holds code = true) :
    (code + run.shift).toNat = run.lowest + (code - run.first) ∧
      (code + run.shift).toNat ≤ run.highest := by
  simp only [isSound, Bool.and_eq_true, decide_eq_true_eq] at sound
  simp only [CaseRun.holds, Bool.and_eq_true, decide_eq_true_eq] at holds
  unfold lowest highest
  omega

theorem CaseRun.not_mem_of_misses {range : Nat × Nat} (missed : run.misses range = true)
    (low : run.lowest ≤ code) (high : code ≤ run.highest) :
    ¬ (range.1 ≤ code ∧ code ≤ range.2) := by
  simp only [misses, Bool.or_eq_true, Nat.blt_eq] at missed
  omega

theorem CaseRun.not_holds_of_settles (sound : run.isSound = true) (settled : run.settles other = true)
    (holds : run.holds code = true) : other.holds (code + run.shift).toNat = false := by
  obtain ⟨image, high⟩ := image_eq sound holds
  rw [Bool.eq_false_iff]
  intro held
  simp only [CaseRun.holds, Bool.and_eq_true, decide_eq_true_eq, beq_iff_eq] at holds held
  rw [settles, Bool.or_eq_true] at settled
  rcases settled with missed | between
  · exact not_mem_of_misses missed (by omega) high held.1
  · simp only [Bool.and_eq_true, Bool.or_eq_true, beq_iff_eq] at between
    obtain ⟨⟨double, spaced⟩, parity⟩ := between
    rw [double] at held
    rcases spaced with double' | single
    · rw [double'] at holds
      omega
    · omega

theorem toNat_ofNat_of_valid (valid : code.isValidChar) : (Char.ofNat code).toNat = code := by
  rw [Char.ofNat, dif_pos valid]
  rfl

/-- The lower-case form of a letter is a character between the ends of its run's image. -/
theorem CaseRun.toNat_image (sound : run.isSound = true) (holds : run.holds code = true) :
    (Char.ofNat (code + run.shift).toNat).toNat = (code + run.shift).toNat ∧
      run.lowest ≤ (code + run.shift).toNat ∧ (code + run.shift).toNat ≤ run.highest := by
  obtain ⟨image, high⟩ := image_eq sound holds
  simp only [isSound, Bool.and_eq_true, decide_eq_true_eq, Nat.blt_eq] at sound
  obtain ⟨⟨⟨⟨-, -⟩, surrogates⟩, bounded⟩, -⟩ := sound
  have outside : ¬ (0xD800 ≤ (code + run.shift).toNat ∧ (code + run.shift).toNat ≤ 0xDFFF) :=
    not_mem_of_misses surrogates (by omega) high
  refine ⟨toNat_ofNat_of_valid ?_, by omega, high⟩
  simp only [Nat.isValidChar]
  omega

/-- Lower-case forms are their own lower-case forms. -/
theorem lowerChar_of_mem {c d : Char} (member : d ∈ lowerChar c) : lowerChar d = [d] := by
  rw [lowerChar_eq] at member
  split at member
  · rcases List.mem_cons.mp member with rfl | marked
    · decide +kernel
    · cases List.mem_singleton.mp marked
      decide +kernel
  · next plain =>
    split at member
    · next run found =>
      have inTable := List.mem_of_find?_eq_some found
      have holds := List.find?_some found
      have sound := List.all_eq_true.mp caseRuns_isSound run inTable
      obtain ⟨same, low, high⟩ := CaseRun.toNat_image sound holds
      cases List.mem_singleton.mp member
      have undotted : Char.ofNat (c.toNat + run.shift).toNat ≠ 'İ' := by
        intro dotted
        have code := congrArg Char.toNat dotted
        rw [same] at code
        simp only [CaseRun.isSound, Bool.and_eq_true] at sound
        exact CaseRun.not_mem_of_misses sound.1.1.1.2 low high (by rw [code]; decide)
      have unheld : caseRuns.find? (·.holds (c.toNat + run.shift).toNat) = none := by
        refine List.find?_eq_none.mpr fun other member => ?_
        have settled := List.all_eq_true.mp (List.all_eq_true.mp caseRuns_settle run inTable) other
          member
        rw [CaseRun.not_holds_of_settles sound settled holds]
        decide
      rw [lowerChar_eq, if_neg undotted, same, unheld]
    · next unheld =>
      cases List.mem_singleton.mp member
      rw [lowerChar_eq, if_neg plain, unheld]

end ClusterClient.Text
