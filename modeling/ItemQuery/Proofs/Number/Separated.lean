import ItemQuery.Proofs.Number.Integer

/-!
Integers as they may be written: a sign or none, and digits of any script with a single underscore
between two of them or none. A trimmed text is read as an integer exactly when it is written so, with
no more digits than are ever read (`parseInt?_eq_some_iff`).
-/

namespace ItemQuery

/-- Digits with what they stand for, and underscores between some of them. -/
inductive Separated : Text → List Nat → Prop
  | last {c d} : Text.digitValue? c = some d → Separated [c] [d]
  | digit {c d t ds} : Text.digitValue? c = some d → Separated t ds → Separated (c :: t) (d :: ds)
  | underscore {c d t ds} : Text.digitValue? c = some d → Separated t ds →
      Separated (c :: '_' :: t) (d :: ds)

/-- `WritesInteger t n`: the text writes the integer `n`, and does not have too many digits. -/
inductive WritesInteger : Text → Int → Prop
  | plain {t ds} : Separated t ds → ds.length ≤ digitLimit → WritesInteger t (digitsValue ds)
  | plus {t ds} : Separated t ds → ds.length ≤ digitLimit → WritesInteger ('+' :: t) (digitsValue ds)
  | minus {t ds} : Separated t ds → ds.length ≤ digitLimit →
      WritesInteger ('-' :: t) (-digitsValue ds)

variable {t : Text} {ds : List Nat}

theorem Separated.head_isDigit (h : Separated t ds) : ∃ c ∈ t.head?, Text.isDigit c = true := by
  have hdigit {c : Char} {d : Nat} (hc : Text.digitValue? c = some d) : Text.isDigit c = true := by
    rw [Text.isDigit, hc]
    rfl
  cases h with
  | last hc => exact ⟨_, rfl, hdigit hc⟩
  | digit hc _ => exact ⟨_, rfl, hdigit hc⟩
  | underscore hc _ => exact ⟨_, rfl, hdigit hc⟩

theorem Separated.digits_lt (h : Separated t ds) : ∀ d ∈ ds, d < 10 := by
  induction h with
  | last hc => simpa using Text.digitValue?_lt hc
  | digit hc _ ih => exact List.forall_mem_cons.mpr ⟨Text.digitValue?_lt hc, ih⟩
  | underscore hc _ ih => exact List.forall_mem_cons.mpr ⟨Text.digitValue?_lt hc, ih⟩

theorem Separated.separatedDigits?_eq (h : Separated t ds) : separatedDigits? t = some ds := by
  induction h with
  | last hc => simp [separatedDigits?, hc]
  | @digit c d t ds hc ht ih =>
    obtain ⟨first, hfirst, hdigit⟩ := ht.head_isDigit
    cases t with
    | nil => cases hfirst
    | cons e t =>
      have hne : e ≠ '_' := by
        rintro rfl
        cases hfirst
        exact absurd hdigit (by decide)
      simp [separatedDigits?, hc, hne, ih]
  | underscore hc ht ih => simp [separatedDigits?, hc, ih]

theorem separated_of_separatedDigits? (h : separatedDigits? t = some ds) : Separated t ds := by
  induction t using separatedDigits?.induct generalizing ds with
  | case1 => cases h
  | case2 c =>
    obtain ⟨d, hd, rfl⟩ := Option.map_eq_some_iff.mp h
    exact .last hd
  | case3 c rest ih =>
    simp only [separatedDigits?, Option.bind_eq_bind, Option.bind_eq_some_iff] at h
    obtain ⟨d, hd, ds, hds, h⟩ := h
    cases h
    exact .underscore hd (ih hds)
  | case4 c rest hone hunderscore ih =>
    rw [separatedDigits?.eq_4 c rest hone hunderscore] at h
    simp only [Option.bind_eq_bind, Option.bind_eq_some_iff] at h
    obtain ⟨d, hd, ds, hds, h⟩ := h
    cases h
    exact .digit hd (ih hds)

theorem separatedDigits?_eq_some_iff : separatedDigits? t = some ds ↔ Separated t ds :=
  ⟨separated_of_separatedDigits?, Separated.separatedDigits?_eq⟩

theorem isReadable_of_parseInt? {n : Int} (h : parseInt? t = some n) : isReadable n = true := by
  unfold parseInt? at h
  dsimp only at h
  split at h
  · rename_i digits hdigits
    split at h
    · rename_i hlength
      cases h
      exact isReadable_of_digits (separatedDigits?_eq_some_iff.mp hdigits).digits_lt hlength
    · cases h
  · cases h

/-! ## Trimmed texts -/

theorem dropWhile_isNumberBlank (h : ∀ c, t.head? = some c → Text.isBlank c = false) :
    t.dropWhile isNumberBlank = t :=
  Text.dropWhile_eq_self_of_head fun c hc => by simp [isNumberBlank, h c hc]

/-- The blanks around a number are blanks. -/
theorem stripClass_of_trimmed (h : Text.trim t = t) : stripClass isNumberBlank t = t := by
  obtain ⟨hstart, hend⟩ := Text.trim_eq_self_iff.mp h
  rw [Text.trimStart_eq_self_iff] at hstart
  rw [Text.trimEnd_eq_self_iff, ← List.head?_reverse] at hend
  rw [stripClass, dropWhile_isNumberBlank hstart, dropWhile_isNumberBlank hend, List.reverse_reverse]

/-- Without a sign in front a text is read as its digits. -/
theorem takeSign_of_separated (h : Separated t ds) : takeSign t = (false, t) := by
  obtain ⟨c, hc, hdigit⟩ := h.head_isDigit
  cases t with
  | nil => cases hc
  | cons e t =>
    cases hc
    have hne (sign : Char) (hsign : Text.isDigit sign = false) : c ≠ sign := by
      rintro rfl
      rw [hdigit] at hsign
      cases hsign
    simp [takeSign, hne '-' (by decide), hne '+' (by decide)]

theorem WritesInteger.parseInt?_eq {n : Int} (htrim : Text.trim t = t) (h : WritesInteger t n) :
    parseInt? t = some n := by
  rw [parseInt?, stripClass_of_trimmed htrim]
  cases h with
  | plain hwritten hlength =>
    simp only [takeSign_of_separated hwritten, hwritten.separatedDigits?_eq, hlength, ↓reduceIte]
    rfl
  | plus hwritten hlength =>
    simp only [takeSign, hwritten.separatedDigits?_eq, hlength, ↓reduceIte]
    rfl
  | minus hwritten hlength =>
    simp only [takeSign, hwritten.separatedDigits?_eq, hlength, ↓reduceIte]
    rfl

theorem writesInteger_of_parseInt? {n : Int} (htrim : Text.trim t = t) (h : parseInt? t = some n) :
    WritesInteger t n := by
  rw [parseInt?, stripClass_of_trimmed htrim] at h
  cases hdigits : separatedDigits? (takeSign t).2 with
  | none => simp [hdigits] at h
  | some ds =>
    have hwritten := separatedDigits?_eq_some_iff.mp hdigits
    by_cases hlength : ds.length ≤ digitLimit
    · simp only [hdigits, hlength, ↓reduceIte, Option.some.injEq] at h
      subst h
      revert hwritten
      unfold takeSign
      split
      · exact fun hwritten => .minus hwritten hlength
      · exact fun hwritten => .plus hwritten hlength
      · exact fun hwritten => .plain hwritten hlength
    · simp [hdigits, hlength] at h

theorem parseInt?_eq_some_iff {n : Int} (htrim : Text.trim t = t) :
    parseInt? t = some n ↔ WritesInteger t n :=
  ⟨writesInteger_of_parseInt? htrim, WritesInteger.parseInt?_eq htrim⟩

end ItemQuery
