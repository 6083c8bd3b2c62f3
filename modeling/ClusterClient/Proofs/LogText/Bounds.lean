import ClusterClient.Proofs.LogText.Boundaries

namespace ClusterClient.LogText

/-- A text of printable characters alone. -/
def IsClean (text : String) : Prop := ∀ c ∈ text.toList, isPrintable c = true

instance (text : String) : Decidable (IsClean text) :=
  decidable_of_iff (text.toList.all isPrintable = true) List.all_eq_true

section Characters

variable {c : Char}

theorem isPrintable_iff : isPrintable c = true ↔ c = ' ' ∨ '!' ≤ c ∧ c ≤ '~' := by
  simp only [isPrintable, Bool.and_eq_true, decide_eq_true_eq, Char.le_def, UInt32.le_iff_toNat_le,
    Char.ext_iff, ← UInt32.toNat_inj]
  change 32 ≤ c.val.toNat ∧ c.val.toNat ≤ 126 ↔
    c.val.toNat = 32 ∨ 33 ≤ c.val.toNat ∧ c.val.toNat ≤ 126
  omega

theorem utf8Size_of_isPrintable (shows : isPrintable c = true) : c.utf8Size = 1 := by
  rw [isPrintable, Bool.and_eq_true, decide_eq_true_eq, decide_eq_true_eq] at shows
  exact Char.utf8Size_eq_one_iff.mpr (UInt32.le_trans shows.2 (by decide))

theorem isPrintable_of_isDigit (digit : c.isDigit = true) : isPrintable c = true := by
  rw [Char.isDigit, Bool.and_eq_true, decide_eq_true_eq, decide_eq_true_eq] at digit
  rw [isPrintable, Bool.and_eq_true, decide_eq_true_eq, decide_eq_true_eq]
  exact ⟨UInt32.le_trans (by decide) digit.1, UInt32.le_trans digit.2 (by decide)⟩

end Characters

section Clean

variable {text other : String}

theorem isClean_append : IsClean (text ++ other) ↔ IsClean text ∧ IsClean other := by
  simp only [IsClean, String.toList_append, List.forall_mem_append]

theorem isClean_toString (n : Nat) : IsClean (toString n) := by
  intro c member
  have spelled : (toString n).toList = Nat.toDigits 10 n := Nat.toList_repr
  rw [spelled] at member
  exact isPrintable_of_isDigit (Nat.isDigit_of_mem_toDigits (by decide) (by decide) member)

theorem isClean_printable : IsClean (printable text) := by
  intro c member
  rw [printable, String.toList_ofList] at member
  exact (List.mem_filter.mp member).2

theorem IsClean.filter_eq (clean : IsClean text) : text.toList.filter isPrintable = text.toList :=
  List.filter_eq_self.mpr clean

theorem IsClean.printable_eq (clean : IsClean text) : printable text = text := by
  rw [printable, clean.filter_eq, String.ofList_toList]

theorem printable_append : printable (text ++ other) = printable text ++ printable other := by
  rw [printable, String.toList_append, List.filter_append, String.ofList_append, printable,
    printable]

theorem length_le_utf8ByteSize (text : String) : text.length ≤ text.utf8ByteSize := by
  induction text using String.push_induction with
  | empty => exact Nat.le_refl 0
  | push text c ih =>
    have positive := c.utf8Size_pos
    rw [String.length_push, String.utf8ByteSize_push]
    omega

theorem IsClean.utf8ByteSize_eq (clean : IsClean text) : text.utf8ByteSize = text.length := by
  induction text using String.push_induction with
  | empty => rfl
  | push text c ih =>
    rw [← String.append_singleton, isClean_append] at clean
    have one := utf8Size_of_isPrintable (clean.2 c (by simp))
    rw [String.length_push, String.utf8ByteSize_push, ih clean.1, one]

end Clean

section Bodies

variable {body : String}

theorem isClean_cutMark : IsClean (cutMark body) :=
  isClean_append.mpr ⟨isClean_append.mpr ⟨by decide, isClean_toString _⟩, by decide⟩

theorem ofBody_of_le (short : body.utf8ByteSize ≤ bodyLimit) : ofBody body = printable body := by
  rw [ofBody, if_neg (Nat.not_lt.mpr short)]

theorem ofBody_of_lt (long : bodyLimit < body.utf8ByteSize) :
    ofBody body = printable (start bodyLimit body) ++ cutMark body := by
  rw [ofBody, if_pos long, printable_append, isClean_cutMark.printable_eq]

end Bodies

section Excerpts

variable {text : String}

/-- A text that is shown whole. -/
def Fits (text : String) : Prop := IsClean text ∧ text.length ≤ errorLimit

theorem toList_excerpt :
    (excerpt text).toList = (text.toList.filter isPrintable).take errorLimit :=
  String.toList_ofList

theorem isClean_excerpt : IsClean (excerpt text) := by
  intro c member
  rw [toList_excerpt] at member
  exact (List.mem_filter.mp (List.mem_of_mem_take member)).2

theorem length_excerpt : (excerpt text).length =
    min errorLimit (text.toList.filter isPrintable).length := by
  rw [excerpt, String.length_ofList, List.length_take]

theorem Fits.excerpt_eq (fits : Fits text) : excerpt text = text := by
  obtain ⟨clean, short⟩ := fits
  rw [← String.length_toList] at short
  rw [excerpt, clean.filter_eq, List.take_of_length_le short, String.ofList_toList]

/-- Something is missing from the excerpt of a text that does not fit, and so it has fewer bytes. -/
theorem utf8ByteSize_excerpt_lt (large : ¬ Fits text) :
    (excerpt text).utf8ByteSize < text.utf8ByteSize := by
  rw [isClean_excerpt.utf8ByteSize_eq, length_excerpt]
  refine Nat.lt_of_lt_of_le ?_ (length_le_utf8ByteSize text)
  rw [← String.length_toList]
  by_cases clean : IsClean text
  · rw [clean.filter_eq]
    have long : errorLimit < text.toList.length := by
      rw [String.length_toList]
      exact Nat.lt_of_not_le fun short => large ⟨clean, short⟩
    exact Nat.lt_of_le_of_lt (Nat.min_le_left ..) long
  · have dropped : (text.toList.filter isPrintable).length < text.toList.length :=
      List.length_filter_lt_length_iff_exists.mpr (by simpa [IsClean] using clean)
    exact Nat.lt_of_le_of_lt (Nat.min_le_right ..) dropped

theorem Fits.abridged_eq (fits : Fits text) : abridged text = text := by
  rw [abridged, fits.excerpt_eq, if_neg (Nat.lt_irrefl _)]

theorem abridged_of_not_fits (large : ¬ Fits text) : abridged text = excerpt text ++ "..." := by
  rw [abridged, if_pos (utf8ByteSize_excerpt_lt large)]

theorem isClean_abridged : IsClean (abridged text) := by
  rw [abridged]
  split
  · exact isClean_append.mpr ⟨isClean_excerpt, by decide⟩
  · exact isClean_excerpt

theorem length_abridged_le : (abridged text).length ≤ errorLimit + 3 := by
  have short : (excerpt text).length ≤ errorLimit := by
    rw [length_excerpt]
    exact Nat.min_le_left ..
  rw [abridged]
  split
  · rw [String.length_append]
    exact Nat.add_le_add_right short 3
  · exact Nat.le_add_right_of_le short

/-- A text that is too long comes out as it is only where it ends in dots just as a cut one. -/
theorem abridged_eq_self_iff : abridged text = text ↔ IsClean text ∧
    (text.length ≤ errorLimit ∨ ∃ first, first.length = errorLimit ∧ text = first ++ "...") := by
  constructor
  · intro same
    have clean : IsClean text := same ▸ isClean_abridged
    refine ⟨clean, ?_⟩
    by_cases short : text.length ≤ errorLimit
    · exact .inl short
    · have marked := abridged_of_not_fits fun fits => short fits.2
      refine .inr ⟨excerpt text, ?_, same.symm.trans marked⟩
      rw [length_excerpt, clean.filter_eq, String.length_toList]
      exact Nat.min_eq_left (Nat.le_of_not_le short)
  · rintro ⟨clean, short | ⟨first, full, rfl⟩⟩
    · exact Fits.abridged_eq ⟨clean, short⟩
    · have whole : excerpt (first ++ "...") = first := by
        rw [excerpt, clean.filter_eq, String.toList_append,
          List.take_left' (by rw [String.length_toList, full]), String.ofList_toList]
      rw [abridged_of_not_fits, whole]
      rintro ⟨-, short⟩
      rw [String.length_append, full] at short
      exact absurd short (by decide)

end Excerpts

/-- The errors that are shown by their own text. -/
def ShowsText : Error → Prop
  | .unauthorized .. | .forbidden .. | .transport .. => False
  | .serverRejection _ status => status.code ≠ 404 ∧ status.code ≠ 409 ∧ status.code < 500
  | _ => True

section Errors

variable {error : Error} {display : String}

theorem ShowsText.summary_eq (shows : ShowsText error) :
    summary error display = abridged display := by
  cases error with
  | serverRejection url status =>
    obtain ⟨found, agreed, answered⟩ := shows
    dsimp only [summary]
    rw [if_neg found, if_neg agreed, if_neg (Nat.not_le.mpr answered)]
  | unauthorized | forbidden | transport => exact shows.elim
  | unsupportedEndpoint | unsupportedOperation | configuration | materialization => rfl

/-- Every other text for the terminal is one of a few that are short and clean. -/
theorem summary_eq_or (error : Error) (display : String) :
    summary error display = abridged display ∨
      IsClean (summary error display) ∧ (summary error display).length ≤ errorLimit := by
  cases error with
  | unauthorized | forbidden | transport => exact .inr (by dsimp only [summary]; decide +kernel)
  | serverRejection url status =>
    dsimp only [summary]
    split
    · exact .inr (by decide +kernel)
    · split
      · exact .inr (by decide +kernel)
      · split
        · exact .inr (by decide +kernel)
        · exact .inl rfl
  | unsupportedEndpoint | unsupportedOperation | configuration | materialization => exact .inl rfl

theorem isClean_summary : IsClean (summary error display) := by
  rcases summary_eq_or error display with own | ⟨clean, -⟩
  · rw [own]
    exact isClean_abridged
  · exact clean

theorem length_summary_le : (summary error display).length ≤ errorLimit + 3 := by
  rcases summary_eq_or error display with own | ⟨-, short⟩
  · rw [own]
    exact length_abridged_le
  · exact Nat.le_add_right_of_le short

end Errors

/-- What is logged of a body: a long one is cut between characters, at most three bytes early. -/
structure IsLogged (body logged : String) : Prop where
  clean : IsClean logged
  short : body.utf8ByteSize ≤ 200 → logged = printable body
  long : 200 < body.utf8ByteSize →
    String.Pos.Raw.IsValid body ⟨boundary body 200⟩ ∧
    (197 ≤ boundary body 200 ∧ boundary body 200 ≤ 200) ∧
    ∃ first, first.utf8ByteSize = boundary body 200 ∧ IsLongestStart 200 first body ∧
      logged = printable first
        ++ ("... [truncated, " ++ toString body.utf8ByteSize ++ " bytes total]")

/-- What the terminal shows of an error with a text of its own. -/
structure IsShown (error : Error) (display shown : String) : Prop where
  bounded : shown.length ≤ 123
  clean : IsClean shown
  whole_iff : ShowsText error → (shown = display ↔ IsClean display ∧
    (display.length ≤ 120 ∨ ∃ first, first.length = 120 ∧ display = first ++ "..."))
  cut : ShowsText error → ¬ (IsClean display ∧ display.length ≤ 120) →
    shown = String.ofList ((display.toList.filter isPrintable).take 120) ++ "..."

theorem ofBody_isLogged (body : String) : IsLogged body (ofBody body) where
  clean := isClean_printable
  short := ofBody_of_le
  long := by
    intro long
    have near : 200 ≤ boundary body 200 + 3 := le_boundary_add_three (Nat.le_of_lt long)
    exact ⟨boundary_isValid body 200, ⟨by omega, boundary_le⟩,
      start 200 body, utf8ByteSize_start, start_isLongestStart, ofBody_of_lt long⟩

example : ofBody "a\nb\tc" = "abc" := by decide +kernel

theorem summary_isShown (error : Error) (display : String) :
    IsShown error display (summary error display) where
  bounded := length_summary_le
  clean := isClean_summary
  whole_iff := by
    intro shows
    rw [shows.summary_eq]
    exact abridged_eq_self_iff
  cut := by
    intro shows large
    rw [shows.summary_eq]
    exact abridged_of_not_fits large

/-- Bodies in the log and errors on the terminal are bounded texts of blanks and graphic ASCII
characters, whatever a server or another library has written. -/
theorem texts_bounded_clean (body display : String) (error : Error) :
    (∀ c, isPrintable c = true ↔ c = ' ' ∨ '!' ≤ c ∧ c ≤ '~') ∧
      IsLogged body (ofBody body) ∧ IsShown error error.message (ofError error) ∧
      IsShown error display (summary error display) :=
  ⟨fun _ => isPrintable_iff, ofBody_isLogged body, summary_isShown error error.message,
    summary_isShown error display⟩

/-- A body of 203 bytes with a character that begins before the offset 200 and ends behind it. -/
def accentedBody : String := String.ofList (List.replicate 199 'x') ++ "éé"

theorem texts_bounded_clean_accented :
    200 < accentedBody.utf8ByteSize ∧ boundary accentedBody 200 = 199 ∧
      (∃ first, first.utf8ByteSize = 199 ∧ IsLongestStart 200 first accentedBody ∧
        ofBody accentedBody = printable first ++ "... [truncated, 203 bytes total]") ∧
      ShowsText (.configuration (.rejected "a\tb")) ∧
      ofError (.configuration (.rejected "a\tb")) = "Configuration error: ab..." := by
  obtain ⟨-, logged, shown, -⟩ :=
    texts_bounded_clean accentedBody "" (.configuration (.rejected "a\tb"))
  have size : accentedBody.utf8ByteSize = 203 := by decide +kernel
  have search : boundary accentedBody 200 = 199 := by decide +kernel
  have long : 200 < accentedBody.utf8ByteSize := by omega
  obtain ⟨-, -, first, atBoundary, longest, text⟩ := logged.long long
  rw [size] at text
  refine ⟨long, search, ⟨first, atBoundary.trans search, longest, text⟩, trivial, ?_⟩
  rw [shown.cut trivial (by decide +kernel)]
  decide +kernel

/-- A server's message that has three dots at its end, just where a cut text has them. -/
def dottedError : Error :=
  .serverRejection "https://c.example/api/v1/pods"
    { code := 422, message := "pods is invalid: spec.containers needs at least one of the..." }

/-- A text of 123 characters is shown as it is. -/
theorem ofError_dotted :
    Error.ofResponse "https://c.example/api/v1/pods" 422
        "pods is invalid: spec.containers needs at least one of the..." = dottedError ∧
      ShowsText dottedError ∧ dottedError.message.length = 123 ∧
      ¬ (ofError dottedError = dottedError.message ↔
        IsClean dottedError.message ∧ dottedError.message.length ≤ 120) := by
  have length : dottedError.message.length = 123 := by decide +kernel
  have same : ofError dottedError = dottedError.message := by decide +kernel
  refine ⟨by decide +kernel, ⟨by decide, by decide, by decide⟩, length, ?_⟩
  rw [length]
  exact fun claimed => absurd (claimed.mp same).2 (by decide)

end ClusterClient.LogText
