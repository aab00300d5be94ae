import ItemQuery.Proofs.Query.Atoms
import ItemQuery.Proofs.Query.Evaluate

/-!
Texts that are searched for. A text that is trimmed and has no operator in front is read back as it
is, alone or behind a tag, and a query that is such a text alone is offered to all predicates that need
no tag (`Registry.evaluate_word`).
-/

namespace ItemQuery

/-! ## Texts that stand for themselves -/

/-- A text that an atom can be about: trimmed, not blank, and without an operator in front. -/
structure Atom.IsText (x : Text) : Prop where
  ne_nil : x ≠ []
  trim_eq : Text.trim x = x
  take?_eq : Operator.take? x = none

/-- A text that is also the same in small letters and holds no separator. -/
structure Atom.IsPlain (x : Text) : Prop extends Atom.IsText x where
  lower_eq : Text.lower x = x
  not_mem_bar : '|' ∉ x
  not_mem_ampersand : '&' ∉ x

/-- A plain text that is a whole query without a tag and without a negation. -/
structure Atom.IsWord (x : Text) : Prop extends Atom.IsPlain x where
  not_negated : ∀ m, Registry.isNegation m = true → x.head? ≠ some m
  untagged : (Atom.parse? x).map Atom.tag = some none

theorem Atom.isPlain_iff {x : Text} : Atom.IsPlain x ↔
    (x ≠ [] ∧ Text.trim x = x ∧ Operator.take? x = none) ∧ Text.lower x = x ∧
      x.contains '|' = false ∧ x.contains '&' = false := by
  simp only [← Bool.not_eq_true, List.contains_iff_mem]
  constructor
  · intro h
    exact ⟨⟨h.ne_nil, h.trim_eq, h.take?_eq⟩, h.lower_eq, h.not_mem_bar, h.not_mem_ampersand⟩
  · rintro ⟨⟨hne, htrim, htake⟩, hlower, hbar, hampersand⟩
    exact { ne_nil := hne, trim_eq := htrim, take?_eq := htake, lower_eq := hlower,
            not_mem_bar := hbar, not_mem_ampersand := hampersand }

instance (x : Text) : Decidable (Atom.IsPlain x) := decidable_of_iff _ Atom.isPlain_iff.symm

theorem Atom.isWord_iff {x : Text} : Atom.IsWord x ↔
    Atom.IsPlain x ∧ (x.head? ≠ some '!' ∧ x.head? ≠ some '~') ∧
      (Atom.parse? x).map Atom.tag = some none := by
  constructor
  · intro h
    exact ⟨h.toIsPlain, ⟨h.not_negated '!' rfl, h.not_negated '~' rfl⟩, h.untagged⟩
  · rintro ⟨hplain, ⟨hexclamation, htilde⟩, huntagged⟩
    refine { hplain with not_negated := fun m hm => ?_, untagged := huntagged }
    rcases Registry.isNegation_iff.mp hm with rfl | rfl
    · exact hexclamation
    · exact htilde

instance (x : Text) : Decidable (Atom.IsWord x) := decidable_of_iff _ Atom.isWord_iff.symm

/-- A tag that an atom can begin with. -/
structure Atom.IsTag (tag : Text) : Prop where
  ne_nil : tag ≠ []
  isAlphanumeric : ∀ c ∈ tag, Text.isAlphanumeric c = true

namespace Atom

variable {tag x : Text}

/-! ## Reading them back -/

theorem IsText.readBody? (hx : IsText x) (tag? : Option Text) :
    readBody? tag? x = some ⟨x, tag?, none⟩ := by
  obtain ⟨c, rest, rfl⟩ := List.exists_cons_of_ne_nil hx.ne_nil
  simp only [Atom.readBody?, hx.take?_eq, hx.trim_eq]

theorem IsTag.takeTag? (htag : IsTag tag) (x : Text) :
    Atom.takeTag? (tag ++ ':' :: x) = some (tag, x) := by
  have hcolon : ∀ c ∈ (':' :: x).head?, Text.isAlphanumeric c = false := by
    intro c hc
    cases hc
    decide
  have halnum := htag.isAlphanumeric
  obtain ⟨c, rest, rfl⟩ := List.exists_cons_of_ne_nil htag.ne_nil
  rw [Atom.takeTag?, Text.takeWhile_run halnum hcolon, Text.dropWhile_run halnum hcolon]
  rfl

theorem IsTag.not_mem (htag : IsTag tag) {c : Char} (hc : Text.isFixed c = true) : c ∉ tag := by
  intro hmem
  rw [Text.not_isFixed_of_isAlphanumeric (htag.isAlphanumeric c hmem)] at hc
  cases hc

/-- A letter or digit in front and a trimmed text behind: nothing is trimmed. -/
theorem IsText.trim_behind (hx : IsText x) (htag : IsTag tag) (between : Text) :
    Text.trim (tag ++ (between ++ x)) = tag ++ (between ++ x) := by
  obtain ⟨c, rest, rfl⟩ := List.exists_cons_of_ne_nil htag.ne_nil
  have hc := Text.not_isBlank_of_isAlphanumeric (htag.isAlphanumeric c List.mem_cons_self)
  have hend : Text.trimEnd x = x := by
    rw [← hx.trim_eq]
    exact Text.trimEnd_trim x
  rw [List.cons_append, Text.trim_cons_of_not_blank hc, ← List.append_assoc, Text.trimEnd_append,
    hend]
  rw [hend]
  exact hx.ne_nil

theorem IsText.trim_tagged (hx : IsText x) (htag : IsTag tag) :
    Text.trim (tag ++ ':' :: x) = tag ++ ':' :: x :=
  hx.trim_behind htag [':']

theorem parse?_of_trimmed {t : Text} (hne : t ≠ []) (ht : Text.trim t = t) :
    parse? t = match takeTag? t with
      | some (tag, rest) => readBody? (some (Text.lower tag)) (Text.trim rest)
      | none => readBody? none t := by
  obtain ⟨c, rest, rfl⟩ := List.exists_cons_of_ne_nil hne
  cases htag : takeTag? (c :: rest) with
  | none => simp only [parse?, ht, htag]
  | some found => simp only [parse?, ht, htag]

theorem IsText.parse?_tagged (hx : IsText x) (htag : IsTag tag) :
    parse? (tag ++ ':' :: x) = some ⟨x, some (Text.lower tag), none⟩ := by
  rw [parse?_of_trimmed (by simp) (hx.trim_tagged htag), htag.takeTag?]
  dsimp only
  rw [hx.trim_eq, hx.readBody?]

theorem tag_of_readBody? {tag? : Option Text} {t : Text} {atom : Atom}
    (h : Atom.readBody? tag? t = some atom) : atom.tag = tag? := by
  unfold Atom.readBody? at h
  split at h
  split at h
  · cases h
  · cases h
    rfl

theorem IsText.parse?_untagged (hx : IsText x) (h : (parse? x).map Atom.tag = some none) :
    parse? x = some ⟨x, none, none⟩ := by
  obtain ⟨atom, hatom, htag⟩ := Option.map_eq_some_iff.mp h
  rw [parse?_of_trimmed hx.ne_nil hx.trim_eq] at hatom ⊢
  cases hfound : takeTag? x with
  | none => exact hx.readBody? none
  | some found =>
    rw [hfound] at hatom
    rw [tag_of_readBody? hatom] at htag
    cases htag

end Atom

/-! ## Queries that are one such text -/

namespace Registry

variable {σ : Type} {x : Text}

open Atom (IsWord)

theorem evaluate_word (r : Registry σ) (item : Text) (hx : IsWord x) :
    r.evaluate item x = probe item none x r.predicates := by
  rw [evaluate_of_no_separator r item (by rw [hx.trim_eq]; exact hx.ne_nil) hx.not_mem_bar
      hx.not_mem_ampersand, hx.lower_eq,
    evaluateTerm_of_no_negation r item (by rw [hx.trim_eq]; exact hx.not_negated),
    evaluateAtom_eq, hx.parse?_untagged hx.untagged]
  rfl

end Registry

end ItemQuery
