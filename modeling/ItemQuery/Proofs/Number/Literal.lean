import ItemQuery.Number.Literal
import ItemQuery.Proofs.Number.Integer
import ItemQuery.Proofs.Number.Order
import ItemQuery.Proofs.Query.Grammar

/-!
Numbers in a query, as they are written: digits behind a sign or none, and then a point and more
digits or nothing. What is written so is what is read (`Literal.read?_eq_some_iff`), an integer with
its value unless it has too many digits, and a decimal always with one that is ordered among the
others (`Number.exists_place_of_read?`).
-/

namespace ItemQuery

namespace Literal

/-! ## Digits -/

/-- One ASCII digit or more. -/
structure IsDigits (t : Text) : Prop where
  ne_nil : t ≠ []
  isDigit : ∀ c ∈ t, c.isDigit = true

def digitValues (t : Text) : List Nat := t.map fun c => c.toNat - '0'.toNat

theorem asciiDigit?_eq_some_iff {c : Char} {d : Nat} :
    asciiDigit? c = some d ↔ c.isDigit = true ∧ d = c.toNat - '0'.toNat := by
  have hrange : ('0' ≤ c ∧ c ≤ '9') ↔ c.isDigit = true := Char.isDigit_iff_toNat.symm
  unfold asciiDigit?
  by_cases h : '0' ≤ c ∧ c ≤ '9'
  · rw [if_pos h, Option.some.injEq]
    exact ⟨fun hd => ⟨hrange.mp h, hd.symm⟩, fun hd => hd.2.symm⟩
  · rw [if_neg h]
    exact iff_of_false nofun fun hd => h (hrange.mpr hd.1)

theorem mapM_asciiDigit?_eq_some_iff {t : Text} {digits : List Nat} :
    t.mapM asciiDigit? = some digits ↔ (∀ c ∈ t, c.isDigit = true) ∧ digits = digitValues t := by
  induction t generalizing digits with
  | nil =>
    exact ⟨fun h => ⟨List.forall_mem_nil _, (Option.some.inj h).symm⟩, fun h => congrArg some h.2.symm⟩
  | cons c t ih =>
    simp only [List.mapM_cons, Option.bind_eq_bind, Option.bind_eq_some_iff, asciiDigit?_eq_some_iff,
      ih, Option.pure_def, Option.some.injEq, List.forall_mem_cons, digitValues, List.map_cons]
    constructor
    · rintro ⟨d, ⟨hc, rfl⟩, ds, ⟨ht, rfl⟩, rfl⟩
      exact ⟨⟨hc, ht⟩, rfl⟩
    · rintro ⟨⟨hc, ht⟩, rfl⟩
      exact ⟨_, ⟨hc, rfl⟩, _, ⟨ht, rfl⟩, rfl⟩

theorem digits?_eq_some_iff {t : Text} {digits : List Nat} :
    digits? t = some digits ↔ IsDigits t ∧ digits = digitValues t := by
  cases t with
  | nil => exact iff_of_false nofun fun h => h.1.ne_nil rfl
  | cons c t =>
    rw [digits?, if_neg (by simp), mapM_asciiDigit?_eq_some_iff]
    exact and_congr_left' ⟨fun h => ⟨List.cons_ne_nil c t, h⟩, IsDigits.isDigit⟩

theorem digitsValue_digitValues (t : Text) :
    digitsValue (digitValues t) = Nat.ofDigitChars 10 t 0 := by
  rw [digitsValue, digitValues, List.foldl_map]
  rfl

/-! ## Numbers as they are written -/

/-- What may stand in front of the digits. -/
def signs : List Text := [[], ['+'], ['-']]

/-- `Writes literal t`: the number is written as `t`. -/
inductive Writes : Literal → Text → Prop
  | integer {sign whole} : sign ∈ signs → IsDigits whole →
      Writes ⟨sign = ['-'], digitValues whole, none⟩ (sign ++ whole)
  | decimal {sign whole fraction} : sign ∈ signs → IsDigits whole → IsDigits fraction →
      Writes ⟨sign = ['-'], digitValues whole, some (digitValues fraction)⟩
        (sign ++ (whole ++ '.' :: fraction))

/-- A text is a number, be it an integer or a decimal. -/
def IsNumeral (t : Text) : Prop := ∃ literal, Writes literal t

/-- `Denotes t n`: the text writes the integer `n`, with any leading zeros, and with no more digits
than are ever read. -/
def Denotes (t : Text) (n : Int) : Prop :=
  ∃ sign ∈ signs, ∃ digits, IsDigits digits ∧ digits.length ≤ digitLimit ∧ t = sign ++ digits ∧
    n = applySign (sign = ['-']) (Nat.ofDigitChars 10 digits 0)

theorem takeSign_append {sign : Text} (hsign : sign ∈ signs) {c : Char} (hc : c.isDigit = true)
    (rest : Text) : takeSign (sign ++ c :: rest) = (decide (sign = ['-']), c :: rest) := by
  have hne : ∀ d, d.isDigit = false → c ≠ d := by
    rintro d hd rfl
    rw [hc] at hd
    cases hd
  simp only [signs, List.mem_cons, List.not_mem_nil, or_false] at hsign
  rcases hsign with rfl | rfl | rfl
  · simp [takeSign, hne '-' (by decide), hne '+' (by decide)]
  · rfl
  · rfl

theorem exists_sign (t : Text) : ∃ sign ∈ signs, t = sign ++ (takeSign t).2 ∧
    (takeSign t).1 = decide (sign = ['-']) := by
  unfold takeSign
  split
  · exact ⟨['-'], by decide, rfl, rfl⟩
  · exact ⟨['+'], by decide, rfl, rfl⟩
  · exact ⟨[], by decide, rfl, rfl⟩

/-- Digits end where there is a point or nothing. -/
theorem IsDigits.before_point {whole : Text} (h : IsDigits whole) {rest : Text}
    (hrest : ∀ c ∈ rest.head?, c = '.') : Text.before '.' (whole ++ rest) = whole := by
  have hpoint : '.' ∉ whole := fun hmem => absurd (h.isDigit '.' hmem) (by decide)
  exact Text.before_append hpoint hrest

theorem Writes.read?_eq {literal : Literal} {t : Text} (h : Writes literal t) :
    read? t = some literal := by
  have hsigned : ∀ {sign whole rest : Text}, sign ∈ signs → IsDigits whole →
      takeSign (sign ++ (whole ++ rest)) = (decide (sign = ['-']), whole ++ rest) := by
    intro sign whole rest hsign hwhole
    obtain ⟨c, digits, rfl⟩ := List.exists_cons_of_ne_nil hwhole.ne_nil
    exact takeSign_append hsign (hwhole.isDigit c List.mem_cons_self) _
  cases h with
  | @integer sign whole hsign hwhole =>
    have htake : takeSign (sign ++ (whole ++ [])) = _ := hsigned hsign hwhole
    have hbefore : Text.before '.' (whole ++ []) = whole := hwhole.before_point nofun
    rw [List.append_nil] at htake hbefore
    simp [read?, htake, hbefore, digits?_eq_some_iff.mpr ⟨hwhole, rfl⟩]
  | @decimal sign whole fraction hsign hwhole hfraction =>
    have hbefore : Text.before '.' (whole ++ '.' :: fraction) = whole :=
      hwhole.before_point fun c hc => (Option.some.inj hc).symm
    simp [read?, hsigned hsign hwhole, hbefore, digits?_eq_some_iff.mpr ⟨hwhole, rfl⟩,
      digits?_eq_some_iff.mpr ⟨hfraction, rfl⟩]

theorem writes_of_read? {literal : Literal} {t : Text} (h : read? t = some literal) :
    Writes literal t := by
  obtain ⟨sign, hsign, hbody, hnegative⟩ := exists_sign t
  unfold read? at h
  generalize takeSign t = taken at h hbody hnegative
  obtain ⟨negative, body⟩ := taken
  obtain ⟨digits, hdigits, h⟩ := Option.bind_eq_some_iff.mp h
  obtain ⟨hwhole, rfl⟩ := digits?_eq_some_iff.mp hdigits
  obtain ⟨rest, hrest, hdrop, hpoint⟩ := Text.exists_before_append '.' body
  simp only at hbody hnegative h
  rw [hbody, hrest]
  rw [hnegative, hdrop] at h
  generalize Text.before '.' body = whole at hwhole h
  cases rest with
  | nil =>
    cases h
    rw [List.append_nil]
    exact .integer hsign hwhole
  | cons c fraction =>
    obtain rfl := hpoint c rfl
    obtain ⟨digits, hdigits, h⟩ := Option.bind_eq_some_iff.mp h
    obtain ⟨hfraction, rfl⟩ := digits?_eq_some_iff.mp hdigits
    cases h
    exact .decimal hsign hwhole hfraction

theorem read?_eq_some_iff {literal : Literal} {t : Text} :
    read? t = some literal ↔ Writes literal t :=
  ⟨writes_of_read?, Writes.read?_eq⟩

theorem isNumeral_iff {t : Text} : IsNumeral t ↔ (read? t).isSome := by
  rw [Option.isSome_iff_exists]
  exact exists_congr fun literal => read?_eq_some_iff.symm

instance (t : Text) : Decidable (IsNumeral t) := decidable_of_iff _ isNumeral_iff.symm

/-! ## Numbers are plain texts -/

/-- The characters that numbers are made of. -/
def alphabet : Text := "+-.0123456789".toList

theorem mem_alphabet_of_isDigit {c : Char} (h : c.isDigit = true) : c ∈ alphabet := by
  obtain ⟨hzero, hnine⟩ := Char.isDigit_iff_toNat.mp h
  have hzero' : 48 ≤ c.toNat := hzero
  have hnine' : c.toNat ≤ 57 := hnine
  have hdigits : ∀ n ∈ List.range' 48 10, Char.ofNat n ∈ alphabet := by decide
  rw [← Char.ofNat_toNat c]
  exact hdigits c.toNat (List.mem_range'_1.mpr (by omega))

theorem IsNumeral.mem_alphabet {t : Text} (h : IsNumeral t) {c : Char} (hc : c ∈ t) :
    c ∈ alphabet := by
  have hsigns : ∀ sign ∈ signs, sign ⊆ alphabet := by decide
  obtain ⟨literal, h⟩ := h
  cases h with
  | integer hsign hwhole =>
    rcases List.mem_append.mp hc with hc | hc
    · exact hsigns _ hsign hc
    · exact mem_alphabet_of_isDigit (hwhole.isDigit c hc)
  | decimal hsign hwhole hfraction =>
    simp only [List.mem_append, List.mem_cons] at hc
    rcases hc with hc | hc | rfl | hc
    · exact hsigns _ hsign hc
    · exact mem_alphabet_of_isDigit (hwhole.isDigit c hc)
    · decide
    · exact mem_alphabet_of_isDigit (hfraction.isDigit c hc)

theorem IsNumeral.ne_nil {t : Text} (h : IsNumeral t) : t ≠ [] := by
  obtain ⟨literal, h⟩ := h
  cases h with
  | integer _ hwhole => exact List.append_ne_nil_of_right_ne_nil _ hwhole.ne_nil
  | decimal _ _ _ => simp

/-- A number can stand in a query: it is trimmed and in small letters, and no operator begins it. -/
theorem IsNumeral.isPlain {t : Text} (h : IsNumeral t) : Atom.IsPlain t where
  ne_nil := h.ne_nil
  trim_eq := by
    have htable : (alphabet.all fun c => !Text.isBlank c) = true := by decide
    have hblank : ∀ c ∈ t, Text.isBlank c = false := fun c hc => by
      simpa using List.all_eq_true.mp htable c (h.mem_alphabet hc)
    have htrim := Text.trim_between_blanks h.ne_nil (List.forall_mem_nil _) hblank
      (List.forall_mem_nil _)
    rwa [List.nil_append, List.append_nil] at htrim
  take?_eq := by
    have htable : (alphabet.all fun c => !Operator.spellings.flatten.contains c) = true := by decide
    refine Operator.take?_eq_none_iff.mpr fun op hop hbegins => ?_
    obtain ⟨c, hhead, -⟩ := Operator.head_of_mem_spellings hop
    have hc : c ∈ op := List.mem_of_mem_head? hhead
    have hmark : c ∈ Operator.spellings.flatten := List.mem_flatten_of_mem hop hc
    simpa [hmark] using List.all_eq_true.mp htable c (h.mem_alphabet (hbegins.subset hc))
  lower_eq := by
    have htable : (alphabet.all fun c => Text.lowerings c == [c]) = true := by decide
    exact Text.lower_eq_self_iff.mpr fun c hc => by
      simpa using List.all_eq_true.mp htable c (h.mem_alphabet hc)
  not_mem_bar hc := absurd (h.mem_alphabet hc) (by decide)
  not_mem_ampersand hc := absurd (h.mem_alphabet hc) (by decide)

end Literal

open Literal (Denotes IsNumeral Writes)

/-! ## Reading a number -/

theorem Literal.Denotes.isNumeral {t : Text} {n : Int} (h : Denotes t n) : IsNumeral t := by
  obtain ⟨sign, hsign, digits, hdigits, -, rfl, -⟩ := h
  exact ⟨_, .integer hsign hdigits⟩

/-- What is written for a number denotes it, unless it is too long. -/
theorem Literal.denotes_natText {n : Nat} (h : isReadable n = true) : Denotes (natText n) n := by
  refine ⟨[], by decide, natText n, ⟨natText_ne_nil n, fun _ => isDigit_of_mem_natText⟩, ?_, rfl, ?_⟩
  · simpa [isReadable] using h
  · rw [show Nat.ofDigitChars 10 (natText n) 0 = n from Nat.ofDigitChars_ten_toDigits]
    rfl

theorem Double.isSome_value?_ofRatio (negative : Bool) (num den : Nat) :
    (Number.value? (.double (ofRatio negative num den))).isSome := by
  have hbounded : ∀ (significand : Nat) (exponent : Int), (Number.value? (.double
      (if greatestExponent < exponent then .infinite negative
        else .finite negative significand exponent))).isSome := by
    intro significand exponent
    split
    · rfl
    · rfl
  unfold ofRatio
  split
  · rfl
  · exact hbounded _ _

/-- No decimal is read as a NaN, however large or fine it is. -/
theorem Double.isSome_value?_ofDecimal (negative : Bool) (digits : Nat) (scale : Int) :
    (Number.value? (.double (ofDecimal negative digits scale))).isSome := by
  unfold ofDecimal
  split
  · rfl
  · split
    · rfl
    · split
      · rfl
      · split
        · exact isSome_value?_ofRatio _ _ _
        · exact isSome_value?_ofRatio _ _ _

theorem Literal.isSome_value?_of_value {literal : Literal} {n : Number}
    (h : literal.value = .ok n) : n.value?.isSome := by
  obtain ⟨negative, whole, fraction?⟩ := literal
  cases fraction? with
  | none =>
    by_cases hlength : whole.length ≤ digitLimit
    · simp only [value, if_pos hlength, Except.ok.injEq] at h
      rw [← h]
      rfl
    · simp [value, hlength] at h
  | some fraction =>
    simp only [value, Except.ok.injEq] at h
    rw [← h]
    exact Double.isSome_value?_ofDecimal _ _ _

namespace Number

variable {x : Text}

theorem read?_trim (x : Text) : read? (Text.trim x) = read? x := by
  unfold read?
  rw [Text.trim_trim]

theorem read?_of_denotes {n : Int} (h : Denotes x n) : read? x = .ok (some (.int n)) := by
  have htrim := h.isNumeral.isPlain.trim_eq
  obtain ⟨sign, hsign, digits, hdigits, hlength, rfl, rfl⟩ := h
  have hliteral := (Writes.integer hsign hdigits).read?_eq
  have hlimit : (Literal.digitValues digits).length ≤ digitLimit := by
    rwa [Literal.digitValues, List.length_map]
  rw [read?, htrim, hliteral]
  simp only [Literal.value, if_pos hlimit, Literal.digitsValue_digitValues]
  rfl

theorem read?_of_not_isNumeral (hx : Text.trim x = x) (h : ¬IsNumeral x) : read? x = .ok none := by
  have hnone : Literal.read? x = none :=
    Option.eq_none_iff_forall_ne_some.mpr fun literal hliteral =>
      h ⟨literal, Literal.writes_of_read? hliteral⟩
  rw [read?, hx, hnone]

variable {n : Number}

theorem exists_writes_of_read? (h : read? x = .ok (some n)) :
    ∃ literal, Writes literal (Text.trim x) ∧ literal.value = .ok n := by
  unfold read? at h
  cases hliteral : Literal.read? (Text.trim x) with
  | none => simp [hliteral] at h
  | some literal =>
    refine ⟨literal, Literal.writes_of_read? hliteral, ?_⟩
    rw [hliteral] at h
    cases hvalue : literal.value with
    | error fault => simp [hvalue, Except.map] at h
    | ok n' => simpa [hvalue, Except.map] using h

theorem isNumeral_of_read? (h : read? x = .ok (some n)) : IsNumeral (Text.trim x) := by
  obtain ⟨literal, hwrites, -⟩ := exists_writes_of_read? h
  exact ⟨literal, hwrites⟩

/-- What is read has its place among the other numbers. -/
theorem exists_place_of_read? (h : read? x = .ok (some n)) : ∃ v, n.place? = some v := by
  obtain ⟨literal, -, hvalue⟩ := exists_writes_of_read? h
  obtain ⟨v, hv⟩ := Option.isSome_iff_exists.mp (Literal.isSome_value?_of_value hvalue)
  exact ⟨v.place, by rw [place?, hv]; rfl⟩

end Number

end ItemQuery
