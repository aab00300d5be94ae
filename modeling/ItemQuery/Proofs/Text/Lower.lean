import ItemQuery.Proofs.Text.Pieces
import ItemQuery.Text.Alphanumeric
import ItemQuery.Text.Digit
import ItemQuery.Text.Lower

/-!
What lower-casing keeps of a text. Blanks and the marks of queries stay as they are and nothing
else becomes one of them, so that a text is blank, begins with a mark or holds one exactly when its
small form does. Letters and digits are neither. A text is its own small form when each of its
characters stays, so two such texts in a row are, too. A character that the search for the end of a
word does not look past divides a text: the parts on its two sides are lowered apart.
-/

namespace ItemQuery.Text

/-! ## Characters that stay -/

/-- The code points of blanks and of the marks that queries are made of. -/
def fixedBlocks : List (Nat × Nat) :=
  [(0x9, 0xd), (0x1c, 0x21), (0x26, 0x26), (0x3a, 0x3a), (0x3c, 0x3e), (0x7c, 0x7c), (0x7e, 0x7e),
   (0x85, 0x85), (0xa0, 0xa0), (0x1680, 0x1680), (0x2000, 0x200a), (0x2028, 0x2029),
   (0x202f, 0x202f), (0x205f, 0x205f), (0x3000, 0x3000)]

def isFixed (c : Char) : Bool :=
  fixedBlocks.any fun block => block.1 ≤ c.toNat && c.toNat ≤ block.2

theorem isFixed_of_isBlank {c : Char} (h : isBlank c = true) : isFixed c = true := by
  simp only [isBlank, Bool.or_eq_true, Bool.and_eq_true, decide_eq_true_eq, beq_iff_eq] at h
  simp only [isFixed, fixedBlocks, List.any_cons, List.any_nil, Bool.or_eq_true, Bool.and_eq_true,
    decide_eq_true_eq]
  omega

/-- Whether a range of code points has none in common with a block. -/
def apart (first last : Nat) (block : Nat × Nat) : Bool :=
  last.blt block.1 || block.2.blt first

private theorem lowerRuns_apart : (lowerRuns.all fun r => fixedBlocks.all fun block =>
    apart r.first r.last block && apart r.target (r.target + (r.last - r.first)) block) = true := by
  decide +kernel

theorem not_isFixed_of_apart {first last : Nat} {c : Char}
    (h : ∀ block ∈ fixedBlocks, apart first last block = true) (hfirst : first ≤ c.toNat)
    (hlast : c.toNat ≤ last) : isFixed c = false := by
  rw [isFixed, List.any_eq_false]
  intro block hb
  have := h block hb
  simp only [apart, Bool.or_eq_true, Nat.blt_eq] at this
  simp only [Bool.and_eq_true, decide_eq_true_eq]
  omega

/-! ## Letters and digits are neither blanks nor marks -/

theorem blockOf?_eq_some {n : Nat} {blocks : List (Nat × Nat)} {block : Nat × Nat}
    (h : blockOf? n blocks = some block) : block ∈ blocks ∧ block.1 ≤ n ∧ n ≤ block.2 := by
  induction blocks with
  | nil => simp [blockOf?] at h
  | cons b rest ih =>
    unfold blockOf? at h
    split at h
    · cases h
    · split at h
      · cases h
        exact ⟨by simp, by omega, by assumption⟩
      · obtain ⟨hmem, hbounds⟩ := ih h
        exact ⟨by simp [hmem], hbounds⟩

theorem not_isFixed_of_inBlocks {blocks : List (Nat × Nat)} {c : Char}
    (happart : (blocks.all fun b => fixedBlocks.all fun block => apart b.1 b.2 block) = true)
    (h : inBlocks c.toNat blocks = true) : isFixed c = false := by
  obtain ⟨b, hb⟩ := Option.isSome_iff_exists.mp h
  obtain ⟨hmem, hfirst, hlast⟩ := blockOf?_eq_some hb
  exact not_isFixed_of_apart (List.all_eq_true.mp (List.all_eq_true.mp happart b hmem)) hfirst hlast

private theorem digitBlocks_apart : (digitBlocks.all fun digits => fixedBlocks.all fun block =>
    apart digits.1 digits.2 block) = true := by
  decide +kernel

private theorem alphanumericBlocks_apart : (alphanumericBlocks.all fun b =>
    fixedBlocks.all fun block => apart b.1 b.2 block) = true := by
  decide +kernel

theorem not_isFixed_of_isDigit {c : Char} (h : isDigit c = true) : isFixed c = false := by
  unfold isDigit digitValue? at h
  rw [Option.isSome_map] at h
  exact not_isFixed_of_inBlocks digitBlocks_apart h

theorem not_isFixed_of_isAlphanumeric {c : Char} (h : isAlphanumeric c = true) :
    isFixed c = false :=
  not_isFixed_of_inBlocks alphanumericBlocks_apart h

theorem not_isBlank_of_not_isFixed {c : Char} (h : isFixed c = false) : isBlank c = false := by
  rw [← Bool.not_eq_true] at h ⊢
  exact fun hblank => h (isFixed_of_isBlank hblank)

theorem not_isBlank_of_isDigit {c : Char} (h : isDigit c = true) : isBlank c = false :=
  not_isBlank_of_not_isFixed (not_isFixed_of_isDigit h)

theorem not_isBlank_of_isAlphanumeric {c : Char} (h : isAlphanumeric c = true) :
    isBlank c = false :=
  not_isBlank_of_not_isFixed (not_isFixed_of_isAlphanumeric h)

/-! ## What characters are lowered to -/

theorem targetOf?_eq_some {n m : Nat} {runs : List CaseRun} (h : targetOf? n runs = some m) :
    ∃ r ∈ runs, r.first ≤ n ∧ n ≤ r.last ∧ (n - r.first) % r.step = 0 ∧
      m = r.target + (n - r.first) := by
  induction runs with
  | nil => simp [targetOf?] at h
  | cons r rest ih =>
    unfold targetOf? at h
    split at h
    · cases h
    · split at h
      · unfold CaseRun.apply? at h
        split at h
        · exact ⟨r, by simp, by omega, by assumption, by assumption, (Option.some.inj h).symm⟩
        · cases h
      · obtain ⟨r', hr', hbounds⟩ := ih h
        exact ⟨r', by simp [hr'], hbounds⟩

/-- What the table moves is neither a blank nor a mark, before or after. -/
theorem applyRuns_lowerRuns (c : Char) : applyRuns lowerRuns c = c ∨
    isFixed c = false ∧ isFixed (applyRuns lowerRuns c) = false := by
  unfold applyRuns
  cases ht : targetOf? c.toNat lowerRuns with
  | none => exact Or.inl rfl
  | some n =>
    obtain ⟨r, hr, hfirst, hlast, -, hn⟩ := targetOf?_eq_some ht
    have htable := List.all_eq_true.mp (List.all_eq_true.mp lowerRuns_apart r hr)
    simp only [Bool.and_eq_true] at htable
    refine Or.inr ⟨not_isFixed_of_apart (fun b hb => (htable b hb).1) hfirst hlast, ?_⟩
    show isFixed (Char.ofNat n) = false
    by_cases hv : n.isValidChar
    · have hcode : (Char.ofNat n).toNat = n := by
        rw [Char.ofNat, dif_pos hv]
        rfl
      exact not_isFixed_of_apart (fun b hb => (htable b hb).2) (by omega) (by omega)
    · rw [Char.ofNat, dif_neg hv]
      decide

/-- The characters that a character is lowered to in some place or other. -/
def lowerings (c : Char) : Text := if c = 'Σ' then ['σ', 'ς'] else lowerChar c

theorem lowerings_of_isFixed {c : Char} (h : isFixed c = true) : lowerings c = [c] := by
  have hs : c ≠ 'Σ' := by rintro rfl; revert h; decide
  have hi : c ≠ '\u0130' := by rintro rfl; revert h; decide
  rcases applyRuns_lowerRuns c with hc | ⟨hc, _⟩
  · simp [lowerings, lowerChar, hs, hi, hc]
  · rw [h] at hc
    cases hc

/-- Only a character that stays is lowered to one that stays. -/
theorem eq_of_mem_lowerings {c d : Char} (h : d ∈ lowerings c) (hd : isFixed d = true) :
    d = c := by
  unfold lowerings lowerChar at h
  split at h
  · simp only [List.mem_cons, List.not_mem_nil, or_false] at h
    rcases h with rfl | rfl
    · exact absurd hd (by decide)
    · exact absurd hd (by decide)
  · split at h
    · simp only [List.mem_cons, List.not_mem_nil, or_false] at h
      rcases h with rfl | rfl
      · exact absurd hd (by decide)
      · exact absurd hd (by decide)
    · rw [List.mem_singleton] at h
      subst h
      rcases applyRuns_lowerRuns c with hc | ⟨_, hc⟩
      · exact hc
      · rw [hd] at hc
        cases hc

theorem isBlank_of_mem_lowerings {c d : Char} (h : d ∈ lowerings c) : isBlank d = isBlank c := by
  cases hc : isBlank c with
  | true =>
    rw [lowerings_of_isFixed (isFixed_of_isBlank hc), List.mem_singleton] at h
    rw [h, hc]
  | false =>
    cases hd : isBlank d with
    | false => rfl
    | true =>
      rw [eq_of_mem_lowerings h (isFixed_of_isBlank hd), hc] at hd
      cases hd

/-! ## Texts, one character at a time -/

theorem lowerAfter_cons_eq (before : Text) (c : Char) (rest : Text) :
    ∃ piece, piece ≠ [] ∧ (∀ d ∈ piece, d ∈ lowerings c) ∧
      lowerAfter before (c :: rest) = piece ++ lowerAfter (c :: before) rest := by
  refine ⟨_, ?_, ?_, rfl⟩
  · split
    · simp
    · unfold lowerChar
      split <;> simp
  · intro d hd
    unfold lowerings
    split at hd
    · split at hd <;> simp_all
    · rename_i hs
      rwa [if_neg hs]

theorem lowerAfter_cons_of_lowerings_eq {c : Char} (h : lowerings c = [c]) (before rest : Text) :
    lowerAfter before (c :: rest) = c :: lowerAfter (c :: before) rest := by
  have hs : c ≠ 'Σ' := by
    rintro rfl
    simp [lowerings] at h
  rw [lowerings, if_neg hs] at h
  simp [lowerAfter, hs, h]

theorem lowerAfter_cons_of_isFixed {c : Char} (h : isFixed c = true) (before rest : Text) :
    lowerAfter before (c :: rest) = c :: lowerAfter (c :: before) rest :=
  lowerAfter_cons_of_lowerings_eq (lowerings_of_isFixed h) before rest

theorem mem_lowerAfter_iff {d : Char} (hd : isFixed d = true) (before t : Text) :
    d ∈ lowerAfter before t ↔ d ∈ t := by
  induction t generalizing before with
  | nil => simp [lowerAfter]
  | cons c t ih =>
    by_cases hc : isFixed c = true
    · simp [lowerAfter_cons_of_isFixed hc, ih]
    · obtain ⟨piece, -, hpiece, heq⟩ := lowerAfter_cons_eq before c t
      have hne : d ≠ c := fun h => hc (h ▸ hd)
      have hout : d ∉ piece := fun h => hne (eq_of_mem_lowerings (hpiece d h) hd)
      simp [heq, ih, hout, hne]

theorem lowerAfter_all_blank_iff (before t : Text) :
    (∀ d ∈ lowerAfter before t, isBlank d = true) ↔ ∀ c ∈ t, isBlank c = true := by
  induction t generalizing before with
  | nil => simp [lowerAfter]
  | cons c t ih =>
    obtain ⟨piece, hne, hpiece, heq⟩ := lowerAfter_cons_eq before c t
    have hblank : (∀ d ∈ piece, isBlank d = true) ↔ isBlank c = true := by
      constructor
      · intro h
        obtain ⟨d, hd⟩ := List.exists_mem_of_ne_nil piece hne
        rw [← isBlank_of_mem_lowerings (hpiece d hd)]
        exact h d hd
      · intro h d hd
        rw [isBlank_of_mem_lowerings (hpiece d hd), h]
    simp only [heq, List.mem_append, or_imp, forall_and, ih, hblank, List.mem_cons,
      forall_eq]

/-- Blanks at the start are trimmed before or after lowering alike. -/
theorem trimStart_lowerAfter (before t : Text) :
    ∃ before', trimStart (lowerAfter before t) = lowerAfter before' (trimStart t) := by
  induction t generalizing before with
  | nil => exact ⟨[], rfl⟩
  | cons c t ih =>
    cases hc : isBlank c with
    | true =>
      rw [lowerAfter_cons_of_isFixed (isFixed_of_isBlank hc), trimStart_cons_of_blank hc,
        trimStart_cons_of_blank hc]
      exact ih _
    | false =>
      obtain ⟨piece, hne, hpiece, heq⟩ := lowerAfter_cons_eq before c t
      obtain ⟨d, piece, rfl⟩ := List.exists_cons_of_ne_nil hne
      have hd : isBlank d = false := by rw [isBlank_of_mem_lowerings (hpiece d (by simp)), hc]
      refine ⟨before, ?_⟩
      rw [trimStart_cons_of_not_blank hc, heq, List.cons_append, trimStart_cons_of_not_blank hd]

theorem head?_lowerAfter_iff {d : Char} (hd : isFixed d = true) (before t : Text) :
    (lowerAfter before t).head? = some d ↔ t.head? = some d := by
  cases t with
  | nil => simp [lowerAfter]
  | cons c t =>
    by_cases hc : isFixed c = true
    · simp [lowerAfter_cons_of_isFixed hc]
    · obtain ⟨piece, hne, hpiece, heq⟩ := lowerAfter_cons_eq before c t
      obtain ⟨e, piece, rfl⟩ := List.exists_cons_of_ne_nil hne
      have hcd : c ≠ d := fun h => hc (h ▸ hd)
      have hed : e ≠ d := by
        rintro rfl
        exact hcd (eq_of_mem_lowerings (hpiece e (by simp)) hd).symm
      simp [heq, hcd, hed]

/-! ## Texts in small letters -/

theorem lowerings_eq_of_self_mem {c : Char} (h : c ∈ lowerings c) : lowerings c = [c] := by
  unfold lowerings lowerChar at h ⊢
  by_cases hs : c = 'Σ'
  · subst hs
    simp at h
  by_cases hi : c = '\u0130'
  · subst hi
    simp at h
  rw [if_neg hs, if_neg hi] at h ⊢
  rw [← List.mem_singleton.mp h]

theorem length_le_length_lowerAfter (before t : Text) : t.length ≤ (lowerAfter before t).length := by
  induction t generalizing before with
  | nil => exact Nat.zero_le _
  | cons c t ih =>
    obtain ⟨piece, hne, -, heq⟩ := lowerAfter_cons_eq before c t
    have hpiece := List.length_pos_iff.mpr hne
    have hrest := ih (c :: before)
    rw [heq, List.length_append, List.length_cons]
    omega

/-- A text stays as it is when each of its characters does: no character is lowered to nothing, so
none can make up for another that is lowered to two. -/
theorem lowerAfter_eq_self_iff {before t : Text} :
    lowerAfter before t = t ↔ ∀ c ∈ t, lowerings c = [c] := by
  induction t generalizing before with
  | nil => simp [lowerAfter]
  | cons c t ih =>
    have hrest := @ih (c :: before)
    rw [List.forall_mem_cons, ← hrest]
    constructor
    · obtain ⟨piece, hne, hpiece, heq⟩ := lowerAfter_cons_eq before c t
      obtain ⟨d, piece, rfl⟩ := List.exists_cons_of_ne_nil hne
      intro h
      rw [heq, List.cons_append, List.cons.injEq] at h
      obtain ⟨rfl, h⟩ := h
      have hlength := congrArg List.length h
      have hlong := length_le_length_lowerAfter (d :: before) t
      rw [List.length_append] at hlength
      have hnil : piece = [] := List.length_eq_zero_iff.mp (by omega)
      exact ⟨lowerings_eq_of_self_mem (hpiece d List.mem_cons_self), by rwa [hnil] at h⟩
    · rintro ⟨hc, ht⟩
      rw [lowerAfter_cons_of_lowerings_eq hc, ht]

theorem lower_append_of_lower_eq {a b : Text} (ha : lower a = a) (hb : lower b = b) :
    lower (a ++ b) = a ++ b := by
  unfold lower at ha hb ⊢
  rw [lowerAfter_eq_self_iff] at ha hb ⊢
  intro c hc
  rcases List.mem_append.mp hc with h | h
  · exact ha c h
  · exact hb c h

theorem lower_of_blank {t : Text} (h : ∀ c ∈ t, isBlank c = true) : lower t = t :=
  lowerAfter_eq_self_iff.mpr fun c hc => lowerings_of_isFixed (isFixed_of_isBlank (h c hc))

/-! ## Divided texts -/

/-- A character that stays, and that ends the search for a cased character without being one. -/
structure Divides (c : Char) : Prop where
  isFixed : isFixed c = true
  not_isCaseIgnorable : isCaseIgnorable c = false
  not_isCased : isCased c = false

theorem Divides.meetsCased_append {sep : Char} (h : Divides sep) (a b : Text) :
    meetsCased (a ++ sep :: b) = meetsCased a := by
  induction a with
  | nil => simp [meetsCased, h.not_isCaseIgnorable, h.not_isCased]
  | cons c a ih => simp only [List.cons_append, meetsCased, ih]

/-- What stands beyond a dividing character on the left is not seen. -/
theorem Divides.lowerAfter_before {sep : Char} (h : Divides sep) (near far t : Text) :
    lowerAfter (near ++ sep :: far) t = lowerAfter near t := by
  induction t generalizing near with
  | nil => rfl
  | cons c t ih =>
    have hrest := ih (c :: near)
    rw [List.cons_append] at hrest
    simp only [lowerAfter, h.meetsCased_append, hrest]

theorem Divides.lowerAfter_append {sep : Char} (h : Divides sep) (before a b : Text) :
    lowerAfter before (a ++ sep :: b) = lowerAfter before a ++ sep :: lower b := by
  induction a generalizing before with
  | nil =>
    rw [List.nil_append, lowerAfter_cons_of_isFixed h.isFixed]
    exact congrArg (sep :: ·) (h.lowerAfter_before [] before b)
  | cons c a ih =>
    simp only [List.cons_append, lowerAfter, h.meetsCased_append, ih, List.append_assoc]

theorem Divides.lower_append {sep : Char} (h : Divides sep) (a b : Text) :
    lower (a ++ sep :: b) = lower a ++ sep :: lower b :=
  h.lowerAfter_append [] a b

theorem Divides.lower_cons {sep : Char} (h : Divides sep) (t : Text) :
    lower (sep :: t) = sep :: lower t :=
  h.lower_append [] t

theorem divides_bar : Divides '|' := by constructor <;> decide

theorem divides_ampersand : Divides '&' := by constructor <;> decide

theorem divides_exclamation : Divides '!' := by constructor <;> decide

theorem divides_tilde : Divides '~' := by constructor <;> decide

/-- The code points of blanks. -/
def blankCodes : List Nat :=
  [0x9, 0xa, 0xb, 0xc, 0xd, 0x1c, 0x1d, 0x1e, 0x1f, 0x20, 0x85, 0xa0, 0x1680, 0x2000, 0x2001, 0x2002,
   0x2003, 0x2004, 0x2005, 0x2006, 0x2007, 0x2008, 0x2009, 0x200a, 0x2028, 0x2029, 0x202f, 0x205f,
   0x3000]

theorem mem_blankCodes_of_isBlank {c : Char} (h : isBlank c = true) : c.toNat ∈ blankCodes := by
  simp only [isBlank, Bool.or_eq_true, Bool.and_eq_true, decide_eq_true_eq, beq_iff_eq] at h
  simp only [blankCodes, List.mem_cons, List.not_mem_nil, or_false]
  omega

private theorem blankCodes_apart : (blankCodes.all fun n =>
    !inBlocks n caseIgnorableBlocks && !inBlocks n casedBlocks) = true := by
  decide +kernel

theorem divides_of_isBlank {c : Char} (h : isBlank c = true) : Divides c := by
  have hapart := List.all_eq_true.mp blankCodes_apart c.toNat (mem_blankCodes_of_isBlank h)
  simp only [Bool.and_eq_true, Bool.not_eq_true'] at hapart
  exact ⟨isFixed_of_isBlank h, hapart.1, hapart.2⟩

theorem lower_blank_append {space : Text} (hspace : ∀ c ∈ space, isBlank c = true) (t : Text) :
    lower (space ++ t) = space ++ lower t := by
  induction space with
  | nil => rfl
  | cons c space ih =>
    obtain ⟨hc, hspace⟩ := List.forall_mem_cons.mp hspace
    rw [List.cons_append, (divides_of_isBlank hc).lower_cons, ih hspace]
    rfl

theorem lower_append_blank {space : Text} (hspace : ∀ c ∈ space, isBlank c = true) (t : Text) :
    lower (t ++ space) = lower t ++ space := by
  cases space with
  | nil => rw [List.append_nil, List.append_nil]
  | cons c space =>
    obtain ⟨hc, hspace⟩ := List.forall_mem_cons.mp hspace
    rw [(divides_of_isBlank hc).lower_append, lower_of_blank hspace]

/-! ## Whole texts -/

theorem mem_lower_iff {d : Char} (hd : isFixed d = true) (t : Text) : d ∈ lower t ↔ d ∈ t :=
  mem_lowerAfter_iff hd [] t

theorem lower_eq_nil_iff {t : Text} : lower t = [] ↔ t = [] := by
  constructor
  · intro h
    have hlength := length_le_length_lowerAfter [] t
    rw [← lower, h] at hlength
    exact List.length_eq_zero_iff.mp (Nat.le_zero.mp hlength)
  · rintro rfl
    rfl

theorem trim_lower_eq_nil_iff (t : Text) : trim (lower t) = [] ↔ trim t = [] := by
  rw [trim_eq_nil_iff, trim_eq_nil_iff]
  exact lowerAfter_all_blank_iff [] t

theorem head?_trim (t : Text) : (trim t).head? = (trimStart t).head? := by
  induction t with
  | nil => rfl
  | cons c t ih =>
    cases hc : isBlank c with
    | true => rw [trim_cons_of_blank hc, trimStart_cons_of_blank hc, ih]
    | false => rw [trim_cons_of_not_blank hc, trimStart_cons_of_not_blank hc]; rfl

/-- A trimmed text begins with a given mark exactly when its small form does. -/
theorem head?_trim_lower_iff {d : Char} (hd : isFixed d = true) (t : Text) :
    (trim (lower t)).head? = some d ↔ (trim t).head? = some d := by
  obtain ⟨before, hstart⟩ := trimStart_lowerAfter [] t
  rw [head?_trim, head?_trim]
  unfold lower
  rw [hstart, head?_lowerAfter_iff hd]

end ItemQuery.Text
