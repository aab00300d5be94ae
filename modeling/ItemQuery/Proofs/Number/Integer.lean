import ItemQuery.Number.Literal
import ItemQuery.Proofs.Text.Lower
import Mathlib.Algebra.Group.Nat.Defs
import Mathlib.Data.List.Basic

/-!
Integers in decimal text. What is written for an integer is read back, unless it has more digits
than are ever read (`parseInt?_intText`).
-/

namespace ItemQuery

/-! ## Written integers -/

namespace Text

theorem digitValue?_of_isDigit {c : Char} (h : c.isDigit = true) :
    digitValue? c = some (c.toNat - '0'.toNat) := by
  obtain ⟨hzero, hnine⟩ := Char.isDigit_iff_toNat.mp h
  have hzero' : 48 ≤ c.toNat := hzero
  have hnine' : c.toNat ≤ 57 := hnine
  have hblock : blockOf? c.toNat digitBlocks = some (48, 57) := by
    rw [digitBlocks, blockOf?, if_neg (by omega), if_pos hnine']
  simp only [digitValue?, hblock, Option.map_some, Char.reduceToNat, Option.some.injEq]
  omega

theorem isDigit_of_ascii {c : Char} (h : c.isDigit = true) : isDigit c = true := by
  rw [isDigit, digitValue?_of_isDigit h]
  rfl

theorem digitValue?_lt {c : Char} {d : Nat} (h : digitValue? c = some d) : d < 10 := by
  obtain ⟨block, -, rfl⟩ := Option.map_eq_some_iff.mp h
  exact Nat.mod_lt _ (by decide)

end Text

theorem isDigit_of_mem_natText {n : Nat} {c : Char} (h : c ∈ natText n) : c.isDigit = true :=
  Nat.isDigit_of_mem_toDigits (by decide) (by decide) h

/-- The values of the digits that are written for a number. -/
def writtenDigits (n : Nat) : List Nat := (natText n).map fun c => c.toNat - '0'.toNat

theorem filterMap_natText (n : Nat) : (natText n).filterMap Text.digitValue? = writtenDigits n :=
  List.filterMap_eq_map_iff_forall_eq_some.mpr fun _ hc =>
    Text.digitValue?_of_isDigit (isDigit_of_mem_natText hc)

theorem digitsValue_writtenDigits (n : Nat) : digitsValue (writtenDigits n) = n := by
  rw [digitsValue, writtenDigits, List.foldl_map]
  exact Nat.ofDigitChars_ten_toDigits

theorem writtenDigits_ne_nil (n : Nat) : writtenDigits n ≠ [] := by
  simp [writtenDigits, natText]

theorem applySign_writtenDigits (n : Int) :
    applySign (decide (n < 0)) (digitsValue (writtenDigits n.natAbs)) = n := by
  rw [digitsValue_writtenDigits, applySign]
  by_cases hneg : n < 0
  · rw [if_pos (decide_eq_true hneg)]
    omega
  · rw [if_neg (by simpa using hneg)]
    omega

theorem digitsValue_lt {digits : List Nat} (h : ∀ d ∈ digits, d < 10) :
    digitsValue digits < 10 ^ digits.length := by
  have hfold : ∀ value, digits.foldl (fun value d => 10 * value + d) value <
      (value + 1) * 10 ^ digits.length := by
    induction digits with
    | nil => simp
    | cons d digits ih =>
      intro value
      obtain ⟨hd, hdigits⟩ := List.forall_mem_cons.mp h
      calc digits.foldl (fun value d => 10 * value + d) (10 * value + d)
          < (10 * value + d + 1) * 10 ^ digits.length := ih hdigits _
        _ ≤ (10 * (value + 1)) * 10 ^ digits.length := Nat.mul_le_mul_right _ (by omega)
        _ = (value + 1) * 10 ^ (d :: digits).length := by
          rw [List.length_cons, Nat.pow_succ, Nat.mul_comm 10, Nat.mul_assoc, Nat.mul_comm 10]
  simpa [digitsValue] using hfold 0

theorem length_writtenDigits (n : Nat) : (writtenDigits n).length = (natText n).length :=
  List.length_map _

theorem isReadable_iff {n : Int} : isReadable n = true ↔ n.natAbs < 10 ^ digitLimit := by
  rw [isReadable, decide_eq_true_eq, natText]
  exact Nat.length_toDigits_le_iff (by decide) (by decide)

theorem isReadable_min {n m : Int} (hn : isReadable n = true) (hm : isReadable m = true) :
    isReadable (min n m) = true := by
  rcases Int.min_def n m ▸ ite_eq_or_eq (n ≤ m) n m with h | h
  · rw [h]
    exact hn
  · rw [h]
    exact hm

theorem writeInt_of_isReadable {n : Int} (h : isReadable n = true) :
    writeInt n = .ok (intText n) :=
  if_pos h

theorem writeInt_of_not_isReadable {n : Int} (h : ¬isReadable n = true) :
    writeInt n = .error .tooManyDigits :=
  if_neg h

/-- What is read is never written longer than it stood. -/
theorem isReadable_of_digits {negative : Bool} {digits : List Nat} (h : ∀ d ∈ digits, d < 10)
    (hlength : digits.length ≤ digitLimit) :
    isReadable (applySign negative (digitsValue digits)) = true := by
  have habs : (applySign negative (digitsValue digits)).natAbs = digitsValue digits := by
    cases negative <;> simp [applySign]
  refine isReadable_iff.mpr ?_
  rw [habs]
  exact Nat.lt_of_lt_of_le (digitsValue_lt h) (Nat.pow_le_pow_right (by decide) hlength)

/-! ## Reading them back -/

theorem stripClass_of_forall_not {member : Char → Bool} {t : Text}
    (h : ∀ c ∈ t, member c = false) : stripClass member t = t := by
  have hdrop : ∀ u : Text, (∀ c ∈ u, member c = false) → u.dropWhile member = u := fun u hu =>
    Text.dropWhile_eq_self_of_head fun c hc => hu c (List.mem_of_head? hc)
  rw [stripClass, hdrop t h, hdrop t.reverse (by simpa using h), List.reverse_reverse]

theorem separatedDigits?_of_isDigit {t : Text} (hne : t ≠ []) (h : ∀ c ∈ t, c.isDigit = true) :
    separatedDigits? t = some (t.map fun c => c.toNat - '0'.toNat) := by
  induction t with
  | nil => exact absurd rfl hne
  | cons c t ih =>
    obtain ⟨hc, ht⟩ := List.forall_mem_cons.mp h
    have hvalue := Text.digitValue?_of_isDigit hc
    cases t with
    | nil => simp [separatedDigits?, hvalue]
    | cons d t =>
      have hd : d ≠ '_' := by
        rintro rfl
        exact absurd (ht '_' List.mem_cons_self) (by decide)
      simp [separatedDigits?, hvalue, ih (by simp) ht, hd]

theorem natText_ne_nil (n : Nat) : natText n ≠ [] := Nat.toDigits_ne_nil

theorem separatedDigits?_natText (n : Nat) : separatedDigits? (natText n) = some (writtenDigits n) :=
  separatedDigits?_of_isDigit (natText_ne_nil n) fun _ hc => isDigit_of_mem_natText hc

theorem takeSign_intText (n : Int) :
    takeSign (intText n) = (decide (n < 0), natText n.natAbs) := by
  cases n with
  | ofNat n =>
    obtain ⟨c, rest, hcons⟩ := List.exists_cons_of_ne_nil (natText_ne_nil n)
    have hc : c.isDigit = true := isDigit_of_mem_natText (n := n) (hcons ▸ List.mem_cons_self)
    have hminus : c ≠ '-' := by
      rintro rfl
      revert hc
      decide
    have hplus : c ≠ '+' := by
      rintro rfl
      revert hc
      decide
    simp [intText, hcons, takeSign, hminus, hplus]
  | negSucc n => simp [intText, takeSign]

theorem mem_intText {n : Int} {c : Char} (h : c ∈ intText n) : c = '-' ∨ c.isDigit = true := by
  cases n with
  | ofNat n => exact .inr (isDigit_of_mem_natText h)
  | negSucc n =>
    rcases List.mem_cons.mp h with rfl | h
    · exact .inl rfl
    · exact .inr (isDigit_of_mem_natText h)

theorem intText_ne_nil (n : Int) : intText n ≠ [] := by
  cases n with
  | ofNat n => exact natText_ne_nil n
  | negSucc n => exact List.cons_ne_nil _ _

theorem not_isBlank_of_mem_intText {n : Int} {c : Char} (h : c ∈ intText n) :
    Text.isBlank c = false := by
  rcases mem_intText h with rfl | hc
  · decide
  · exact Text.not_isBlank_of_isDigit (Text.isDigit_of_ascii hc)

theorem parseInt?_intText {n : Int} (h : isReadable n = true) : parseInt? (intText n) = some n := by
  have hstrip : stripClass isNumberBlank (intText n) = intText n := by
    refine stripClass_of_forall_not fun c hc => ?_
    rw [isNumberBlank, not_isBlank_of_mem_intText hc, Bool.false_and]
  rw [isReadable, decide_eq_true_eq] at h
  simp only [parseInt?, hstrip, takeSign_intText, separatedDigits?_natText, length_writtenDigits, h,
    ↓reduceIte, applySign_writtenDigits]

end ItemQuery
