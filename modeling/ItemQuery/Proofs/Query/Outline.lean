import ItemQuery.Proofs.Query.Evaluate
import ItemQuery.Proofs.Search

/-!
The outline of a query: its groups, each of them the list of its terms, without what is skipped. Only
blank groups and blank terms are skipped, so that a group may be left with no term at all. Evaluation
depends on the outline alone (`Registry.evaluateUnion_eq`), and the outline does not depend on blanks
around groups and terms.
-/

namespace ItemQuery

variable {σ β : Type}

/-! ## Pieces that count for what is read off them -/

/-- What is read off the pieces between the occurrences of a separator. -/
def Text.gather (sep : Char) (f : Text → Option β) (t : Text) : List β := (split sep t).filterMap f

namespace Text

variable {sep : Char} {f : Text → Option β} {x y : Text}

theorem gather_append (a b : Text) :
    gather sep f (a ++ sep :: b) = gather sep f a ++ gather sep f b := by
  rw [gather, split_append, List.filterMap_append]
  rfl

/-- Two beginnings that no piece tells apart. -/
theorem gather_congr_front (hx : sep ∉ x) (hy : sep ∉ y) (h : ∀ p, f (x ++ p) = f (y ++ p))
    (t : Text) : gather sep f (x ++ t) = gather sep f (y ++ t) := by
  obtain ⟨first, back, ht⟩ := exists_split_cons sep t
  rw [gather, gather, split_append_of_not_mem hx ht, split_append_of_not_mem hy ht,
    List.filterMap_cons, List.filterMap_cons, h]

/-- Two texts within a piece that it does not tell apart. -/
theorem gather_congr_between (hx : sep ∉ x) (hy : sep ∉ y)
    (h : ∀ p q, f (p ++ (x ++ q)) = f (p ++ (y ++ q))) (a b : Text) :
    gather sep f (a ++ (x ++ b)) = gather sep f (a ++ (y ++ b)) := by
  obtain ⟨front, last, first, back, -, -, hbetween⟩ := exists_split_between sep a b
  rw [gather, gather, hbetween x hx, hbetween y hy, List.filterMap_append, List.filterMap_append,
    List.filterMap_cons, List.filterMap_cons, h]

theorem not_mem_of_blank {space : Text} (hspace : ∀ c ∈ space, isBlank c = true)
    (hsep : isBlank sep = false) : sep ∉ space := by
  intro hmem
  have := hspace sep hmem
  rw [hsep] at this
  cases this

/-- Where blanks around a piece do not count, blanks around the whole text do not. -/
theorem gather_blank_append {space : Text} (hspace : ∀ c ∈ space, isBlank c = true)
    (hsep : isBlank sep = false) (h : ∀ p, f (space ++ p) = f p) (t : Text) :
    gather sep f (space ++ t) = gather sep f t :=
  gather_congr_front (not_mem_of_blank hspace hsep) List.not_mem_nil h t

theorem gather_append_blank {space : Text} (hspace : ∀ c ∈ space, isBlank c = true)
    (hsep : isBlank sep = false) (h : ∀ p, f (p ++ space) = f p) (t : Text) :
    gather sep f (t ++ space) = gather sep f t := by
  obtain ⟨front, last, _, _, ht, hnil, hbetween⟩ := exists_split_between sep t []
  cases hnil
  have hends := hbetween space (not_mem_of_blank hspace hsep)
  rw [List.append_nil] at hends
  rw [gather, gather, hends, ht, List.filterMap_append, List.filterMap_append, List.filterMap_cons,
    List.filterMap_cons, h]

end Text

/-! ## Outlines -/

/-- Asks in turn until an answer is false. -/
def Search.allOf : List (Search σ Bool) → Search σ Bool
  | [] => return true
  | x :: rest => do if ← x then allOf rest else return false

/-- A term that is not blank, split into what turns it around and what it is about. -/
structure SignedAtom where
  negated : Bool
  /-- Without blanks around it. -/
  atom : Text
  deriving DecidableEq

namespace SignedAtom

def ofTerm? (t : Text) : Option SignedAtom :=
  match Text.trim t with
  | [] => none
  | c :: rest => if Registry.isNegation c then some ⟨true, Text.trim rest⟩ else some ⟨false, c :: rest⟩

theorem ofTerm?_eq_none_iff {t : Text} : ofTerm? t = none ↔ Text.trim t = [] := by
  unfold ofTerm?
  cases Text.trim t with
  | nil => simp
  | cons c rest => cases h : Registry.isNegation c <;> simp [h]

/-- The terms of a group. -/
def ofGroup (t : Text) : List SignedAtom := Text.gather '&' ofTerm? t

def ofGroup? (t : Text) : Option (List SignedAtom) :=
  if (Text.trim t).isEmpty then none else some (ofGroup t)

/-- The groups of a union. -/
def ofUnion (t : Text) : List (List SignedAtom) := Text.gather '|' ofGroup? t

end SignedAtom

/-! ## Evaluation by the outline -/

namespace Registry

variable (r : Registry σ) (item : Text)

def evaluateSigned (l : SignedAtom) : Search σ Bool :=
  if l.negated then do return !(← r.evaluateAtom item l.atom true)
  else r.evaluateAtom item l.atom true

theorem evaluateTerm_eq {t : Text} {l : SignedAtom} (h : SignedAtom.ofTerm? t = some l) :
    r.evaluateTerm item t = r.evaluateSigned item l := by
  unfold SignedAtom.ofTerm? at h
  unfold evaluateTerm
  cases ht : Text.trim t with
  | nil => simp [ht] at h
  | cons c rest =>
    rw [ht] at h
    cases hc : isNegation c with
    | true =>
      simp only [hc, ↓reduceIte, Option.some.injEq] at h ⊢
      subst h
      rw [evaluateSigned, if_pos rfl, evaluateAtom_congr r item (Text.trim_trim rest)]
    | false =>
      simp only [hc, Bool.false_eq_true, ↓reduceIte, Option.some.injEq] at h ⊢
      subst h
      rfl

theorem evaluateTerms_eq (ts : List Text) :
    r.evaluateTerms item ts =
      .allOf ((ts.filterMap SignedAtom.ofTerm?).map (r.evaluateSigned item)) := by
  induction ts with
  | nil => rfl
  | cons t ts ih =>
    unfold evaluateTerms
    cases ht : SignedAtom.ofTerm? t with
    | none =>
      rw [List.filterMap_cons_none ht, SignedAtom.ofTerm?_eq_none_iff.mp ht]
      exact ih
    | some l =>
      have hne : Text.trim t ≠ [] := by
        rw [ne_eq, ← SignedAtom.ofTerm?_eq_none_iff, ht]
        exact Option.some_ne_none l
      rw [List.filterMap_cons_some ht, if_neg (by simpa using hne), r.evaluateTerm_eq item ht, ih]
      rfl

def evaluateAll (ls : List SignedAtom) : Search σ Bool := .allOf (ls.map (r.evaluateSigned item))

/-- A union is evaluated group by group, and a group term by term, of its outline. A blank group has no
place there, while one of blank terms has an empty one. -/
theorem evaluateUnion_eq (t : Text) :
    r.evaluateUnion item t = .anyOf ((SignedAtom.ofUnion t).map (r.evaluateAll item)) := by
  unfold evaluateUnion SignedAtom.ofUnion Text.gather
  induction Text.split '|' t with
  | nil => rfl
  | cons g gs ih =>
    unfold evaluateGroups
    by_cases hg : Text.trim g = []
    · have hnone : SignedAtom.ofGroup? g = none := by rw [SignedAtom.ofGroup?, hg]; rfl
      rw [List.filterMap_cons_none hnone, hg]
      exact ih
    · have hsome : SignedAtom.ofGroup? g = some (SignedAtom.ofGroup g) := if_neg (by simpa using hg)
      rw [List.filterMap_cons_some hsome, if_neg (by simpa using hg), evaluateGroup,
        evaluateTerms_eq, ih]
      rfl

end Registry

/-! ## Blanks -/

namespace SignedAtom

variable {space : Text}

theorem ofTerm?_congr {t u : Text} (h : Text.trim t = Text.trim u) : ofTerm? t = ofTerm? u := by
  unfold ofTerm?
  rw [h]

theorem ofGroup_append (a b : Text) : ofGroup (a ++ '&' :: b) = ofGroup a ++ ofGroup b :=
  Text.gather_append a b

theorem ofUnion_append (a b : Text) : ofUnion (a ++ '|' :: b) = ofUnion a ++ ofUnion b :=
  Text.gather_append a b

theorem ofGroup_blank_append (hspace : ∀ c ∈ space, Text.isBlank c = true) (t : Text) :
    ofGroup (space ++ t) = ofGroup t :=
  Text.gather_blank_append hspace (by decide)
    (fun p => ofTerm?_congr (Text.trim_blank_append hspace p)) t

theorem ofGroup_append_blank (hspace : ∀ c ∈ space, Text.isBlank c = true) (t : Text) :
    ofGroup (t ++ space) = ofGroup t :=
  Text.gather_append_blank hspace (by decide)
    (fun p => ofTerm?_congr (Text.trim_append_of_blank hspace p)) t

theorem ofGroup?_congr {t u : Text} (h : Text.trim t = Text.trim u) (h' : ofGroup t = ofGroup u) :
    ofGroup? t = ofGroup? u := by
  rw [ofGroup?, ofGroup?, h, h']

theorem ofUnion_blank_append (hspace : ∀ c ∈ space, Text.isBlank c = true) (t : Text) :
    ofUnion (space ++ t) = ofUnion t :=
  Text.gather_blank_append hspace (by decide) (fun p =>
    ofGroup?_congr (Text.trim_blank_append hspace p) (ofGroup_blank_append hspace p)) t

theorem ofUnion_append_blank (hspace : ∀ c ∈ space, Text.isBlank c = true) (t : Text) :
    ofUnion (t ++ space) = ofUnion t :=
  Text.gather_append_blank hspace (by decide) (fun p =>
    ofGroup?_congr (Text.trim_append_of_blank hspace p) (ofGroup_append_blank hspace p)) t

end SignedAtom

end ItemQuery
