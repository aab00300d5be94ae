import ItemQuery.Text.Basic

/-!
What trimming and splitting keep of a text. A run of characters of one kind ends before the first
of another kind. Trimming removes blanks at the two ends, in either order and once for all; splitting
takes apart at every separator, so the pieces of a joined text are the pieces of its parts.
-/

namespace ItemQuery.Text

/-! ## Runs -/

section Runs

variable {p : Char → Bool} {a b t : Text}

theorem takeWhile_eq_nil_of_head (h : ∀ c ∈ t.head?, p c = false) : t.takeWhile p = [] := by
  cases t with
  | nil => rfl
  | cons c t => exact List.takeWhile_cons_of_neg (by simp [h c rfl])

theorem dropWhile_eq_self_of_head (h : ∀ c ∈ t.head?, p c = false) : t.dropWhile p = t := by
  cases t with
  | nil => rfl
  | cons c t => exact List.dropWhile_cons_of_neg (by simp [h c rfl])

/-- A run is all that is taken where no further character of its kind stands behind it. -/
theorem takeWhile_run (ha : ∀ c ∈ a, p c = true) (hb : ∀ c ∈ b.head?, p c = false) :
    (a ++ b).takeWhile p = a := by
  rw [List.takeWhile_append_of_pos ha, takeWhile_eq_nil_of_head hb, List.append_nil]

theorem dropWhile_run (ha : ∀ c ∈ a, p c = true) (hb : ∀ c ∈ b.head?, p c = false) :
    (a ++ b).dropWhile p = b := by
  rw [List.dropWhile_append_of_pos ha, dropWhile_eq_self_of_head hb]

/-- A run is followed by nothing or by a character of another kind. -/
theorem head_dropWhile (p : Char → Bool) (t : Text) :
    ∀ c ∈ (t.dropWhile p).head?, p c = false := by
  intro c hc
  have hhead := List.head?_dropWhile_not p t
  rw [Option.mem_def.mp hc] at hhead
  simpa using hhead

end Runs

/-! ## Trimming -/

theorem trimStart_cons_of_blank {c : Char} (h : isBlank c = true) (t : Text) :
    trimStart (c :: t) = trimStart t := by
  simp [trimStart, h]

theorem trimStart_cons_of_not_blank {c : Char} (h : isBlank c = false) (t : Text) :
    trimStart (c :: t) = c :: t := by
  simp [trimStart, h]

/-- Trimming at the end, from the left: the first character goes only if all the rest goes. -/
theorem trimEnd_cons (c : Char) (t : Text) :
    trimEnd (c :: t) = if trimEnd t = [] ∧ isBlank c = true then [] else c :: trimEnd t := by
  unfold trimEnd
  rw [List.reverse_cons, List.dropWhile_append]
  cases h : t.reverse.dropWhile isBlank with
  | nil => cases hc : isBlank c <;> simp [hc]
  | cons d rest => simp

theorem trimEnd_cons_of_not_blank {c : Char} (h : isBlank c = false) (t : Text) :
    trimEnd (c :: t) = c :: trimEnd t := by
  rw [trimEnd_cons, if_neg (by simp [h])]

theorem trimEnd_eq_nil_iff {t : Text} : trimEnd t = [] ↔ ∀ c ∈ t, isBlank c = true := by
  induction t with
  | nil => simp [trimEnd]
  | cons c t ih =>
    rw [trimEnd_cons]
    by_cases h : trimEnd t = [] ∧ isBlank c = true
    · simpa [h] using ih.mp h.1
    · simp only [h, ↓reduceIte, reduceCtorEq, List.mem_cons, forall_eq_or_imp, false_iff]
      rintro ⟨hc, ht⟩
      exact h ⟨ih.mpr ht, hc⟩

theorem trimStart_trimEnd (t : Text) : trimStart (trimEnd t) = trimEnd (trimStart t) := by
  induction t with
  | nil => rfl
  | cons c t ih =>
    cases hc : isBlank c with
    | false =>
      rw [trimEnd_cons_of_not_blank hc, trimStart_cons_of_not_blank hc,
        trimStart_cons_of_not_blank hc, trimEnd_cons_of_not_blank hc]
    | true =>
      rw [trimStart_cons_of_blank hc, ← ih, trimEnd_cons]
      by_cases ht : trimEnd t = []
      · simp [ht, hc]
      · rw [if_neg (by simp [ht]), trimStart_cons_of_blank hc]

theorem trimStart_trimStart (t : Text) : trimStart (trimStart t) = trimStart t := by
  induction t with
  | nil => rfl
  | cons c t ih =>
    cases hc : isBlank c with
    | false => rw [trimStart_cons_of_not_blank hc, trimStart_cons_of_not_blank hc]
    | true => rw [trimStart_cons_of_blank hc, ih]

theorem trimEnd_trimEnd (t : Text) : trimEnd (trimEnd t) = trimEnd t := by
  have h := trimStart_trimStart t.reverse
  unfold trimStart at h
  unfold trimEnd
  rw [List.reverse_reverse, h]

theorem trim_trimEnd (t : Text) : trim (trimEnd t) = trim t := by
  unfold trim
  rw [trimStart_trimEnd, trimEnd_trimEnd]

theorem trim_trim (t : Text) : trim (trim t) = trim t := by
  unfold trim
  rw [trimStart_trimEnd, trimEnd_trimEnd, trimStart_trimStart]

theorem trim_cons_of_blank {c : Char} (h : isBlank c = true) (t : Text) :
    trim (c :: t) = trim t := by
  unfold trim
  rw [trimStart_cons_of_blank h]

theorem trim_cons_of_not_blank {c : Char} (h : isBlank c = false) (t : Text) :
    trim (c :: t) = c :: trimEnd t := by
  unfold trim
  rw [trimStart_cons_of_not_blank h, trimEnd_cons_of_not_blank h]

theorem trimEnd_trim (t : Text) : trimEnd (trim t) = trim t := trimEnd_trimEnd _

/-- Trimming a text at the end stays within its last part, unless that is blank. -/
theorem trimEnd_append {b : Text} (hb : trimEnd b ≠ []) (a : Text) :
    trimEnd (a ++ b) = a ++ trimEnd b := by
  induction a with
  | nil => rfl
  | cons c a ih => simp [trimEnd_cons, ih, hb]

theorem trimStart_append_of_blank {a : Text} (ha : ∀ c ∈ a, isBlank c = true) (b : Text) :
    trimStart (a ++ b) = trimStart b :=
  List.dropWhile_append_of_pos ha

theorem trimEnd_append_of_blank {b : Text} (hb : ∀ c ∈ b, isBlank c = true) (a : Text) :
    trimEnd (a ++ b) = trimEnd a := by
  rw [trimEnd, List.reverse_append, List.dropWhile_append_of_pos (by simpa using hb)]
  rfl

theorem trimEnd_of_not_blank {t : Text} (ht : ∀ c ∈ t, isBlank c = false) : trimEnd t = t := by
  induction t with
  | nil => rfl
  | cons c t ih =>
    obtain ⟨hc, ht⟩ := List.forall_mem_cons.mp ht
    rw [trimEnd_cons_of_not_blank hc, ih ht]

/-- Blanks around a text that has none are all that is trimmed. -/
theorem trim_between_blanks {a t b : Text} (hne : t ≠ []) (ha : ∀ c ∈ a, isBlank c = true)
    (ht : ∀ c ∈ t, isBlank c = false) (hb : ∀ c ∈ b, isBlank c = true) :
    trim (a ++ (t ++ b)) = t := by
  obtain ⟨c, rest, rfl⟩ := List.exists_cons_of_ne_nil hne
  rw [trim, trimStart_append_of_blank ha, List.cons_append,
    trimStart_cons_of_not_blank (ht c List.mem_cons_self), ← List.cons_append,
    trimEnd_append_of_blank hb, trimEnd_of_not_blank ht]

/-- A text is blank when nothing is left of it. -/
theorem trim_eq_nil_iff {t : Text} : trim t = [] ↔ ∀ c ∈ t, isBlank c = true := by
  induction t with
  | nil => simp [trim, trimStart, trimEnd]
  | cons c t ih =>
    cases hc : isBlank c with
    | false => simp [trim_cons_of_not_blank hc, hc]
    | true => simp [trim_cons_of_blank hc, ih, hc]

theorem trim_append_of_blank {b : Text} (hb : ∀ c ∈ b, isBlank c = true) (a : Text) :
    trim (a ++ b) = trim a := by
  rw [← trim_trimEnd, trimEnd_append_of_blank hb, trim_trimEnd]

theorem trim_blank_append {a : Text} (ha : ∀ c ∈ a, isBlank c = true) (b : Text) :
    trim (a ++ b) = trim b := by
  rw [trim, trimStart_append_of_blank ha, trim]

theorem trim_ne_nil_of_mem {t : Text} {c : Char} (hc : c ∈ t) (h : isBlank c = false) :
    trim t ≠ [] := by
  intro ht
  have := trim_eq_nil_iff.mp ht c hc
  rw [h] at this
  cases this

/-! ## Trimmed texts -/

theorem trimStart_eq_self_iff {t : Text} :
    trimStart t = t ↔ ∀ c, t.head? = some c → isBlank c = false := by
  cases t with
  | nil => simp [trimStart]
  | cons c t =>
    cases hc : isBlank c with
    | false => simp [trimStart_cons_of_not_blank hc, hc]
    | true =>
      have hshort : (trimStart t).length ≤ t.length := (List.dropWhile_sublist isBlank).length_le
      have hne : trimStart t ≠ c :: t := by
        intro h
        rw [h, List.length_cons] at hshort
        omega
      simp [trimStart_cons_of_blank hc, hc, hne]

theorem trimStart_of_head {t : Text} {c : Char} (hc : t.head? = some c) (h : isBlank c = false) :
    trimStart t = t := by
  refine trimStart_eq_self_iff.mpr fun d hd => ?_
  rw [hc, Option.some.injEq] at hd
  rwa [← hd]

theorem trimEnd_eq_self_iff {t : Text} :
    trimEnd t = t ↔ ∀ c, t.getLast? = some c → isBlank c = false := by
  rw [← List.head?_reverse, ← trimStart_eq_self_iff]
  exact List.reverse_eq_iff

theorem trim_eq_self_iff {t : Text} : trim t = t ↔ trimStart t = t ∧ trimEnd t = t := by
  constructor
  · intro h
    have hstart : trimStart (trim t) = trim t := by
      unfold trim
      rw [trimStart_trimEnd, trimStart_trimStart]
    have hend := trimEnd_trim t
    rw [h] at hstart hend
    exact ⟨hstart, hend⟩
  · rintro ⟨hstart, hend⟩
    rw [trim, hstart, hend]

theorem trimEnd_of_append {a b : Text} (h : trimEnd (a ++ b) = a ++ b) : trimEnd b = b := by
  rw [trimEnd_eq_self_iff] at h ⊢
  intro c hc
  exact h c (by rw [List.getLast?_append, hc]; rfl)

theorem mem_of_mem_trim {c : Char} {t : Text} (h : c ∈ trim t) : c ∈ t := by
  have hend : c ∈ (trimStart t).reverse :=
    (List.dropWhile_sublist isBlank).subset (List.mem_reverse.mp h)
  exact (List.dropWhile_sublist isBlank).subset (List.mem_reverse.mp hend)

/-- A text that is trimmed at the end is trimmed at the start alone. -/
theorem trim_of_trimEnd {t : Text} (h : trimEnd t = t) : trim t = trimStart t := by
  rw [trim, ← trimStart_trimEnd, h]

theorem exists_blanks (t : Text) :
    ∃ space, (∀ c ∈ space, isBlank c = true) ∧ t = space ++ trimStart t :=
  ⟨t.takeWhile isBlank, List.all_eq_true.mp List.all_takeWhile,
    List.takeWhile_append_dropWhile.symm⟩

theorem exists_blanks_around (t : Text) : ∃ space behind, (∀ c ∈ space, isBlank c = true) ∧
    (∀ c ∈ behind, isBlank c = true) ∧ t = space ++ trim t ++ behind := by
  obtain ⟨space, hspace, hstart⟩ := exists_blanks t
  obtain ⟨behind, hbehind, hend⟩ := exists_blanks (trimStart t).reverse
  refine ⟨space, behind.reverse, hspace, by simpa using hbehind, ?_⟩
  have htrim : trimStart t = trim t ++ behind.reverse := by
    have hreverse := congrArg List.reverse hend
    rwa [List.reverse_reverse, List.reverse_append] at hreverse
  rw [List.append_assoc, ← htrim]
  exact hstart

/-! ## Beginnings -/

theorem after?_eq_some_iff {beginning t rest : Text} :
    after? beginning t = some rest ↔ t = beginning ++ rest := by
  induction beginning generalizing t with
  | nil => simp [after?]
  | cons b beginning ih =>
    cases t with
    | nil => simp [after?]
    | cons c t =>
      by_cases hbc : b = c
      · simp [after?, hbc, ih]
      · simp [after?, hbc, Ne.symm hbc]

/-! ## Contiguous pieces -/

theorem occursIn_iff {needle t : Text} : occursIn needle t = true ↔ needle <:+: t := by
  induction t with
  | nil => rw [occursIn, List.isEmpty_iff, List.infix_nil]
  | cons c t ih => rw [occursIn, Bool.or_eq_true, List.isPrefixOf_iff_prefix, ih, List.infix_cons_iff]

/-! ## Splitting -/

/-- A text goes on with the separator behind what stands before it. -/
theorem exists_before_append (sep : Char) (t : Text) : ∃ rest, t = before sep t ++ rest ∧
    t.drop (before sep t).length = rest ∧ ∀ c ∈ rest.head?, c = sep := by
  have hsplit : before sep t ++ t.dropWhile (· != sep) = t := List.takeWhile_append_dropWhile
  have hdrop : before sep t ++ t.drop (before sep t).length = t :=
    List.prefix_iff_eq_append.mp (List.takeWhile_prefix _)
  refine ⟨t.dropWhile (· != sep), hsplit.symm, ?_, fun c hc => ?_⟩
  · exact List.append_cancel_left (hdrop.trans hsplit.symm)
  · simpa using head_dropWhile (· != sep) t c hc

/-- What has no separator in it is what stands before one. -/
theorem before_append {sep : Char} {a b : Text} (ha : sep ∉ a) (hb : ∀ c ∈ b.head?, c = sep) :
    before sep (a ++ b) = a := by
  refine takeWhile_run (fun c hc => ?_) fun c hc => by simp [hb c hc]
  rw [bne_iff_ne]
  rintro rfl
  exact ha hc

theorem split_ne_nil (sep : Char) (t : Text) : split sep t ≠ [] := by
  cases t with
  | nil => simp [split]
  | cons c t =>
    simp only [split]
    split
    · simp
    · split <;> simp

@[simp] theorem split_cons_self (sep : Char) (t : Text) :
    split sep (sep :: t) = [] :: split sep t := by
  simp [split]

theorem split_append (sep : Char) (a b : Text) :
    split sep (a ++ sep :: b) = split sep a ++ split sep b := by
  induction a with
  | nil => simp [split]
  | cons c a ih =>
    by_cases hc : c = sep
    · subst hc
      simp [ih]
    · simp only [List.cons_append, split, hc, ↓reduceIte, ih]
      cases h : split sep a with
      | nil => exact absurd h (split_ne_nil sep a)
      | cons piece pieces => rfl

theorem exists_split_cons (sep : Char) (t : Text) : ∃ first back, split sep t = first :: back :=
  List.exists_cons_of_ne_nil (split_ne_nil sep t)

/-- What has no separator in it joins the first piece of the text behind it. -/
theorem split_append_of_not_mem {sep : Char} {x t first : Text} {back : List Text} (hx : sep ∉ x)
    (ht : split sep t = first :: back) : split sep (x ++ t) = (x ++ first) :: back := by
  induction x with
  | nil => exact ht
  | cons c x ih =>
    obtain ⟨hc, hx⟩ := List.ne_and_not_mem_of_not_mem_cons hx
    simp only [List.cons_append, split, Ne.symm hc, ↓reduceIte, ih hx]

/-- Whatever has no separator in it, between two texts it joins the last piece of the one and the
first piece of the other. -/
theorem exists_split_between (sep : Char) (a b : Text) : ∃ front last first back,
    split sep a = front ++ [last] ∧ split sep b = first :: back ∧
      ∀ x, sep ∉ x → split sep (a ++ (x ++ b)) = front ++ (last ++ (x ++ first)) :: back := by
  obtain ⟨first, back, hb⟩ := exists_split_cons sep b
  induction a with
  | nil =>
    refine ⟨[], [], first, back, rfl, hb, fun x hx => ?_⟩
    rw [List.nil_append, split_append_of_not_mem hx hb]
    rfl
  | cons c a ih =>
    obtain ⟨front, last, first', back', ha, hb', hbetween⟩ := ih
    by_cases hc : c = sep
    · subst hc
      refine ⟨[] :: front, last, first', back', by simp [ha], hb', fun x hx => ?_⟩
      rw [List.cons_append, split_cons_self, hbetween x hx]
      rfl
    · have hone : sep ∉ [c] := by simpa using Ne.symm hc
      cases front with
      | nil =>
        exact ⟨[], c :: last, first', back', split_append_of_not_mem hone ha, hb', fun x hx =>
          split_append_of_not_mem hone (hbetween x hx)⟩
      | cons piece front =>
        exact ⟨(c :: piece) :: front, last, first', back', split_append_of_not_mem hone ha, hb',
          fun x hx => split_append_of_not_mem hone (hbetween x hx)⟩

theorem split_of_not_mem {sep : Char} {t : Text} (h : sep ∉ t) : split sep t = [t] := by
  induction t with
  | nil => rfl
  | cons c t ih =>
    have hc : c ≠ sep := fun hc => h (by simp [hc])
    simp [split, hc, ih (fun ht => h (by simp [ht]))]

end ItemQuery.Text
