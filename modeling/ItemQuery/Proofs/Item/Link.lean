import ItemQuery.Item.Link
import ItemQuery.Proofs.Text.Lower

/-!
The id in a link does not depend on blanks around the link: no blank stands in a mark or in a
number, so none is ever part of what is found, and none ends a number that would otherwise go on.
-/

namespace ItemQuery

namespace Text

/-- A run of characters that are not blank is the same before and after trimming at the end. -/
theorem takeWhile_trimEnd {p : Char → Bool} (hp : ∀ c, p c = true → isBlank c = false) (t : Text) :
    (trimEnd t).takeWhile p = t.takeWhile p := by
  induction t with
  | nil => rfl
  | cons c t ih =>
    rw [trimEnd_cons]
    split
    · rename_i h
      have hc : p c = false := by
        rw [← Bool.not_eq_true]
        intro hpc
        rw [hp c hpc] at h
        cases h.2
      simp [hc]
    · simp [List.takeWhile_cons, ih]

/-- What follows a beginning without blanks is trimmed with the text. -/
theorem after?_trimEnd {beginning : Text} (hb : ∀ c ∈ beginning, isBlank c = false) (t : Text) :
    after? beginning (trimEnd t) = (after? beginning t).map trimEnd := by
  induction beginning generalizing t with
  | nil => simp [after?]
  | cons b beginning ih =>
    cases t with
    | nil => rfl
    | cons c t =>
      rw [trimEnd_cons]
      split
      · rename_i h
        have hbc : b ≠ c := fun hbc => by
          have hblank := hb b (by simp)
          rw [hbc, h.2] at hblank
          cases hblank
        simp [after?, hbc]
      · by_cases hbc : b = c
        · simpa [after?, hbc] using ih (fun d hd => hb d (by simp [hd])) t
        · simp [after?, hbc]

end Text

namespace Link

theorem leadingNumber?_trimEnd (t : Text) : leadingNumber? (Text.trimEnd t) = leadingNumber? t := by
  have hdigits := Text.takeWhile_trimEnd (p := Text.isDigit) fun _ => Text.not_isBlank_of_isDigit
  cases t with
  | nil => rfl
  | cons c t =>
    by_cases hc : c = '-'
    · subst hc
      rw [Text.trimEnd_cons_of_not_blank (by decide)]
      simp only [leadingNumber?, hdigits t]
    · have htrim := hdigits (c :: t)
      rw [Text.trimEnd_cons] at htrim ⊢
      split at htrim
      · rename_i h
        rw [if_pos h]
        simp [leadingNumber?, hc, ← htrim]
      · rename_i h
        rw [if_neg h]
        simp [leadingNumber?, hc, htrim]

theorem firstNumber?_of_blank {t : Text} (h : ∀ c ∈ t, Text.isBlank c = true) :
    firstNumber? t = none := by
  induction t with
  | nil => rfl
  | cons c t ih =>
    have hc : 'i' ≠ c := by
      rintro rfl
      exact absurd (h 'i' (by simp)) (by decide)
    simpa [firstNumber?, idMark, Text.after?, hc] using ih fun d hd => h d (by simp [hd])

private theorem idMark_not_blank {c : Char} (h : c ∈ idMark) : Text.isBlank c = false := by
  have hall : (idMark.all fun c => !Text.isBlank c) = true := by decide
  simpa using List.all_eq_true.mp hall c h

theorem firstNumber?_trimEnd (t : Text) : firstNumber? (Text.trimEnd t) = firstNumber? t := by
  induction t with
  | nil => rfl
  | cons c t ih =>
    rw [Text.trimEnd_cons]
    split
    · rename_i h
      rw [firstNumber?_of_blank (t := c :: t)]
      · rfl
      · simpa [h.2] using Text.trimEnd_eq_nil_iff.mp h.1
    · rename_i h
      have hafter := Text.after?_trimEnd (fun _ => idMark_not_blank) (c :: t)
      rw [Text.trimEnd_cons, if_neg h] at hafter
      simp only [firstNumber?, ih, hafter]
      cases Text.after? idMark (c :: t) with
      | none => rfl
      | some rest => simp only [Option.map_some, Option.bind_some, leadingNumber?_trimEnd]

theorem firstNumber?_trimStart (t : Text) : firstNumber? (Text.trimStart t) = firstNumber? t := by
  induction t with
  | nil => rfl
  | cons c t ih =>
    cases hc : Text.isBlank c with
    | false => rw [Text.trimStart_cons_of_not_blank hc]
    | true =>
      have hi : 'i' ≠ c := by
        rintro rfl
        exact absurd hc (by decide)
      rw [Text.trimStart_cons_of_blank hc, ih]
      simp [firstNumber?, idMark, Text.after?, hi]

theorem itemId?_trim (t : Text) : itemId? (Text.trim t) = itemId? t := by
  unfold itemId? Text.trim
  rw [firstNumber?_trimEnd, firstNumber?_trimStart]

end Link

end ItemQuery
