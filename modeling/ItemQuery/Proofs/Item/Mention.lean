import ItemQuery.Proofs.Item.Ref

/-!
Where a link mentions an item: at the leftmost mark behind which a number stands, a minus or none and
then digits of any script, as many as there are. A mark without a number behind it counts for nothing
(`Link.firstNumber?_eq_some_iff`).
-/

namespace ItemQuery.Link

/-- At the start of a text stand these digits, and no further one. -/
structure IsRun (t written : Text) : Prop where
  ne_nil : written ≠ []
  isDigit : ∀ c ∈ written, Text.isDigit c = true
  behind : ∃ rest, t = written ++ rest ∧ ∀ c ∈ rest.head?, Text.isDigit c = false

/-- A text begins with a number: these digits, and a minus in front of them or none. -/
inductive HasNumber : Text → Bool → Text → Prop
  | plain {t written} : IsRun t written → HasNumber t false written
  | minus {t written} : IsRun t written → HasNumber ('-' :: t) true written

/-- Behind `before` stands a mark, and behind the mark a number. -/
def MarkedAt (t before : Text) (negative : Bool) (written : Text) : Prop :=
  ∃ rest, t = before ++ (idMark ++ rest) ∧ HasNumber rest negative written

/-- The number behind the leftmost mark that is followed by one. -/
def Mentions (t : Text) (negative : Bool) (written : Text) : Prop :=
  ∃ before, MarkedAt t before negative written ∧
    ∀ before' negative' written', MarkedAt t before' negative' written' →
      before.length ≤ before'.length

/-- What the digits of any script stand for. -/
def valuesOf (written : Text) : List Nat := written.filterMap Text.digitValue?

variable {t written before : Text} {negative : Bool} {digits : List Nat}

theorem valuesOf_cons {c : Char} (hc : Text.isDigit c = true) (written : Text) :
    ∃ d, valuesOf (c :: written) = d :: valuesOf written := by
  obtain ⟨d, hd⟩ := Option.isSome_iff_exists.mp hc
  exact ⟨d, List.filterMap_cons_some hd⟩

theorem length_valuesOf (h : ∀ c ∈ written, Text.isDigit c = true) :
    (valuesOf written).length = written.length := by
  induction written with
  | nil => rfl
  | cons c written ih =>
    obtain ⟨hc, hwritten⟩ := List.forall_mem_cons.mp h
    obtain ⟨d, hd⟩ := valuesOf_cons hc written
    rw [hd, List.length_cons, List.length_cons, ih hwritten]

/-! ## Numbers at the start -/

theorem IsRun.takeWhile_eq (h : IsRun t written) : t.takeWhile Text.isDigit = written := by
  obtain ⟨rest, rfl, hrest⟩ := h.behind
  exact Text.takeWhile_run h.isDigit hrest

theorem isRun_takeWhile (h : t.takeWhile Text.isDigit ≠ []) : IsRun t (t.takeWhile Text.isDigit) where
  ne_nil := h
  isDigit := List.all_eq_true.mp List.all_takeWhile
  behind := ⟨t.dropWhile Text.isDigit, List.takeWhile_append_dropWhile.symm,
    Text.head_dropWhile Text.isDigit t⟩

theorem IsRun.valuesOf_ne_nil (h : IsRun t written) : valuesOf written ≠ [] := by
  rw [← List.length_pos_iff, length_valuesOf h.isDigit, List.length_pos_iff]
  exact h.ne_nil

theorem not_isRun_minus (rest written : Text) : ¬IsRun ('-' :: rest) written := by
  intro h
  have hrun := h.takeWhile_eq
  rw [List.takeWhile_cons_of_neg (by decide)] at hrun
  exact h.ne_nil hrun.symm

theorem hasNumber_minus_iff :
    HasNumber ('-' :: t) negative written ↔ negative = true ∧ IsRun t written := by
  constructor
  · intro h
    cases h with
    | plain hrun => exact absurd hrun (not_isRun_minus t written)
    | minus hrun => exact ⟨rfl, hrun⟩
  · rintro ⟨rfl, hrun⟩
    exact .minus hrun

theorem hasNumber_iff_of_ne {c : Char} (hc : c ≠ '-') :
    HasNumber (c :: t) negative written ↔ negative = false ∧ IsRun (c :: t) written := by
  constructor
  · intro h
    cases h with
    | plain hrun => exact ⟨rfl, hrun⟩
    | minus hrun => exact absurd rfl hc
  · rintro ⟨rfl, hrun⟩
    exact .plain hrun

/-- The digits at the start of a text are read where there are any. -/
theorem run_eq_some_iff {negative' : Bool} :
    (if valuesOf (t.takeWhile Text.isDigit) = [] then none
      else some (negative', valuesOf (t.takeWhile Text.isDigit))) = some (negative, digits) ↔
      ∃ written, (negative = negative' ∧ IsRun t written) ∧ digits = valuesOf written := by
  constructor
  · intro h
    split at h
    · cases h
    · rename_i hne
      cases h
      have hrun : t.takeWhile Text.isDigit ≠ [] := fun hnil => hne (by rw [hnil]; rfl)
      exact ⟨_, ⟨rfl, isRun_takeWhile hrun⟩, rfl⟩
  · rintro ⟨written, ⟨rfl, hrun⟩, rfl⟩
    rw [hrun.takeWhile_eq, if_neg hrun.valuesOf_ne_nil]

theorem leadingNumber?_eq_some_iff : leadingNumber? t = some (negative, digits) ↔
    ∃ written, HasNumber t negative written ∧ digits = valuesOf written := by
  cases t with
  | nil =>
    refine iff_of_false nofun ?_
    rintro ⟨written, hnumber, -⟩
    cases hnumber with
    | plain hrun => exact hrun.ne_nil hrun.takeWhile_eq.symm
  | cons c t =>
    by_cases hc : c = '-'
    · subst hc
      rw [leadingNumber?_minus]
      simp only [hasNumber_minus_iff]
      exact run_eq_some_iff
    · rw [leadingNumber?_of_ne hc]
      simp only [hasNumber_iff_of_ne hc]
      exact run_eq_some_iff

/-! ## The leftmost number -/

theorem markedAt_nil_iff : MarkedAt t [] negative written ↔
    ∃ rest, Text.after? idMark t = some rest ∧ HasNumber rest negative written := by
  simp only [MarkedAt, List.nil_append, Text.after?_eq_some_iff]

theorem markedAt_cons_iff {c d : Char} :
    MarkedAt (c :: t) (d :: before) negative written ↔
      c = d ∧ MarkedAt t before negative written := by
  simp only [MarkedAt, List.cons_append, List.cons.injEq, and_assoc, exists_and_left]

/-- The number that stands behind a mark at the very start. -/
theorem firstHere_eq_some_iff :
    (Text.after? idMark t).bind leadingNumber? = some (negative, digits) ↔
      ∃ written, MarkedAt t [] negative written ∧ digits = valuesOf written := by
  simp only [Option.bind_eq_some_iff, leadingNumber?_eq_some_iff, markedAt_nil_iff]
  constructor
  · rintro ⟨rest, hafter, written, hnumber, hdigits⟩
    exact ⟨written, ⟨rest, hafter, hnumber⟩, hdigits⟩
  · rintro ⟨written, ⟨rest, hafter, hnumber⟩, hdigits⟩
    exact ⟨rest, hafter, written, hnumber, hdigits⟩

theorem not_markedAt_of_none (h : (Text.after? idMark t).bind leadingNumber? = none)
    (negative : Bool) (written : Text) : ¬MarkedAt t [] negative written := by
  intro hmarked
  have hsome := firstHere_eq_some_iff.mpr ⟨written, hmarked, rfl⟩
  rw [h] at hsome
  cases hsome

theorem mentions_of_markedAt_nil (h : MarkedAt t [] negative written) :
    Mentions t negative written :=
  ⟨[], h, fun _ _ _ _ => Nat.zero_le _⟩

/-- Where no number stands at the start, the rest mentions what the text mentions. -/
theorem mentions_cons_iff {c : Char}
    (h : ∀ negative written, ¬MarkedAt (c :: t) [] negative written) :
    Mentions (c :: t) negative written ↔ Mentions t negative written := by
  constructor
  · rintro ⟨before, hmarked, hfirst⟩
    cases before with
    | nil => exact absurd hmarked (h negative written)
    | cons d before =>
      obtain ⟨rfl, hrest⟩ := markedAt_cons_iff.mp hmarked
      refine ⟨before, hrest, fun before' negative' written' hother => ?_⟩
      have hle := hfirst (c :: before') negative' written' (markedAt_cons_iff.mpr ⟨rfl, hother⟩)
      simpa using hle
  · rintro ⟨before, hmarked, hfirst⟩
    refine ⟨c :: before, markedAt_cons_iff.mpr ⟨rfl, hmarked⟩, ?_⟩
    intro before' negative' written' hother
    cases before' with
    | nil => exact absurd hother (h negative' written')
    | cons d before' =>
      obtain ⟨-, hother⟩ := markedAt_cons_iff.mp hother
      simpa using hfirst before' negative' written' hother

theorem not_markedAt_nil (before : Text) : ¬MarkedAt [] before negative written := by
  rintro ⟨rest, h, -⟩
  have hlength := congrArg List.length h
  simp [idMark] at hlength

/-- The number that a link is read for is the one that it mentions. -/
theorem firstNumber?_eq_some_iff : firstNumber? t = some (negative, digits) ↔
    ∃ written, Mentions t negative written ∧ digits = valuesOf written := by
  induction t with
  | nil =>
    refine iff_of_false nofun ?_
    rintro ⟨written, ⟨before, hmarked, -⟩, -⟩
    exact not_markedAt_nil before hmarked
  | cons c t ih =>
    unfold firstNumber?
    cases hhere : (Text.after? idMark (c :: t)).bind leadingNumber? with
    | some found =>
      obtain ⟨negative', digits'⟩ := found
      obtain ⟨written', hmarked', rfl⟩ := firstHere_eq_some_iff.mp hhere
      dsimp only
      constructor
      · intro h
        cases h
        exact ⟨written', mentions_of_markedAt_nil hmarked', rfl⟩
      · rintro ⟨written, ⟨before, hmarked, hfirst⟩, rfl⟩
        have hlength := hfirst [] negative' written' hmarked'
        have hnil : before = [] := List.length_eq_zero_iff.mp (by simpa using hlength)
        rw [hnil] at hmarked
        rw [← hhere]
        exact firstHere_eq_some_iff.mpr ⟨written, hmarked, rfl⟩
    | none =>
      simp only [mentions_cons_iff (not_markedAt_of_none hhere)]
      exact ih

theorem firstNumber?_eq_none_iff :
    firstNumber? t = none ↔ ∀ before negative written, ¬MarkedAt t before negative written := by
  induction t with
  | nil => exact iff_of_true rfl fun before _ _ => not_markedAt_nil before
  | cons c t ih =>
    unfold firstNumber?
    cases hhere : (Text.after? idMark (c :: t)).bind leadingNumber? with
    | some found =>
      obtain ⟨negative', digits'⟩ := found
      obtain ⟨written', hmarked', -⟩ := firstHere_eq_some_iff.mp hhere
      exact iff_of_false (Option.some_ne_none _) fun h => h [] negative' written' hmarked'
    | none =>
      dsimp only
      rw [ih]
      constructor
      · intro h before negative' written' hmarked
        cases before with
        | nil => exact not_markedAt_of_none hhere negative' written' hmarked
        | cons d before =>
          exact h before negative' written' (markedAt_cons_iff.mp hmarked).2
      · intro h before negative' written' hmarked
        exact h (c :: before) negative' written' (markedAt_cons_iff.mpr ⟨rfl, hmarked⟩)

end ItemQuery.Link
