import ItemQuery.Engine
import ItemQuery.Proofs.Query.Negation
import ItemQuery.Proofs.Query.Outline
import Mathlib.Logic.Relation

/-!
Spacing. Blanks around a query, a separator or a term, blanks behind a marker, doubled separators and
bars at the ends of a query change neither its outline nor anything that its evaluation does
(`Registry.evaluate_respaced`). A blank query is left out: it accepts every item, and a bar alone
accepts none.
-/

namespace ItemQuery

/-- Groups are separated by bars, and terms by ampersands. -/
def IsSeparator (c : Char) : Prop := c = '|' ∨ c = '&'

/-- What may stand in front of a term in a query. -/
inductive BeforeTerm : Text → Prop
  | first {space : Text} : (∀ c ∈ space, Text.isBlank c = true) → BeforeTerm space
  | behind {sep : Char} {space : Text} (a : Text) : IsSeparator sep →
      (∀ c ∈ space, Text.isBlank c = true) → BeforeTerm (a ++ sep :: space)

/-- One thing is added to a query that has no meaning where it stands. -/
inductive Respaced : Text → Text → Prop
  | front {space : Text} (q : Text) : (∀ c ∈ space, Text.isBlank c = true) →
      Respaced q (space ++ q)
  | back {space : Text} (q : Text) : (∀ c ∈ space, Text.isBlank c = true) →
      Respaced q (q ++ space)
  | before {sep : Char} {space : Text} (a b : Text) : IsSeparator sep →
      (∀ c ∈ space, Text.isBlank c = true) → Respaced (a ++ sep :: b) (a ++ (space ++ sep :: b))
  | behind {sep : Char} {space : Text} (a b : Text) : IsSeparator sep →
      (∀ c ∈ space, Text.isBlank c = true) → Respaced (a ++ sep :: b) (a ++ sep :: (space ++ b))
  | marker {a space : Text} {m : Char} (b : Text) : BeforeTerm a → Registry.isNegation m = true →
      (∀ c ∈ space, Text.isBlank c = true) → Respaced (a ++ m :: b) (a ++ m :: (space ++ b))
  | doubled {sep : Char} (a b : Text) : IsSeparator sep →
      Respaced (a ++ sep :: b) (a ++ sep :: sep :: b)
  | barInFront (q : Text) : Respaced q ('|' :: q)
  | barBehind (q : Text) : Respaced q (q ++ ['|'])

/-! ## Respaced queries in small letters -/

theorem IsSeparator.divides {c : Char} (h : IsSeparator c) : Text.Divides c := by
  rcases h with rfl | rfl
  · exact Text.divides_bar
  · exact Text.divides_ampersand

theorem BeforeTerm.lower {a : Text} (h : BeforeTerm a) : BeforeTerm (Text.lower a) := by
  cases h with
  | first hspace =>
    rw [Text.lower_of_blank hspace]
    exact .first hspace
  | behind a hsep hspace =>
    rw [hsep.divides.lower_append, Text.lower_of_blank hspace]
    exact .behind _ hsep hspace

/-- Blanks, separators and markers leave the letters on their two sides apart, so that what is added
does not change how a word is lowered. -/
theorem Respaced.lower {q q' : Text} (h : Respaced q q') :
    Respaced (Text.lower q) (Text.lower q') := by
  cases h with
  | front q hspace =>
    rw [Text.lower_blank_append hspace]
    exact .front _ hspace
  | back q hspace =>
    rw [Text.lower_append_blank hspace]
    exact .back _ hspace
  | before a b hsep hspace =>
    rw [hsep.divides.lower_append, ← List.append_assoc, hsep.divides.lower_append,
      Text.lower_append_blank hspace, List.append_assoc]
    exact .before _ _ hsep hspace
  | behind a b hsep hspace =>
    rw [hsep.divides.lower_append, hsep.divides.lower_append, Text.lower_blank_append hspace]
    exact .behind _ _ hsep hspace
  | marker b ha hm hspace =>
    have hdivides := Registry.divides_of_isNegation hm
    rw [hdivides.lower_append, hdivides.lower_append, Text.lower_blank_append hspace]
    exact .marker _ ha.lower hm hspace
  | doubled a b hsep =>
    rw [hsep.divides.lower_append, hsep.divides.lower_append, hsep.divides.lower_cons]
    exact .doubled _ _ hsep
  | barInFront q =>
    rw [Text.divides_bar.lower_cons]
    exact .barInFront _
  | barBehind q =>
    rw [Text.divides_bar.lower_append]
    exact .barBehind _

theorem Respaced.sublist {q q' : Text} (h : Respaced q q') : q.Sublist q' := by
  cases h with
  | front q _ => exact List.sublist_append_right _ q
  | back q _ => exact List.sublist_append_left q _
  | before a b _ _ => exact (List.sublist_append_right _ _).append_left a
  | behind a b _ _ => exact ((List.sublist_append_right _ b).cons_cons _).append_left a
  | marker b _ _ _ => exact ((List.sublist_append_right _ b).cons_cons _).append_left _
  | doubled a b _ => exact (List.sublist_cons_self _ _).append_left a
  | barInFront q => exact List.sublist_cons_self _ q
  | barBehind q => exact List.sublist_append_left q _

theorem Respaced.not_blank {q q' : Text} (h : Respaced q q') (hq : Text.trim q ≠ []) :
    Text.trim q' ≠ [] :=
  fun hq' => hq <| Text.trim_eq_nil_iff.mpr fun c hc =>
    Text.trim_eq_nil_iff.mp hq' c (h.sublist.subset hc)

/-! ## Outlines of respaced queries -/

namespace SignedAtom

variable {space x y : Text} {m : Char}

theorem not_isBlank_of_isNegation (hm : Registry.isNegation m = true) : Text.isBlank m = false := by
  rcases Registry.isNegation_iff.mp hm with rfl | rfl <;> decide

/-- Behind a marker only what is left of the trimmed rest counts. -/
theorem ofTerm?_marker (hm : Registry.isNegation m = true) (t : Text) :
    ofTerm? (m :: t) = some ⟨true, Text.trim t⟩ := by
  rw [ofTerm?, Text.trim_cons_of_not_blank (not_isBlank_of_isNegation hm)]
  simp only [hm, ↓reduceIte, Text.trim_trimEnd]

theorem ofTerm?_marker_blank (hm : Registry.isNegation m = true)
    (hspace : ∀ c ∈ space, Text.isBlank c = true) (t : Text) :
    ofTerm? (m :: (space ++ t)) = ofTerm? (m :: t) := by
  rw [ofTerm?_marker hm, ofTerm?_marker hm, Text.trim_blank_append hspace]

theorem not_mem_marker {sep : Char} (hsep : IsSeparator sep) (hm : Registry.isNegation m = true)
    (hspace : ∀ c ∈ space, Text.isBlank c = true) : sep ∉ m :: space := by
  intro hmem
  rcases List.mem_cons.mp hmem with rfl | hspace'
  · rcases hsep with rfl | rfl <;> cases hm
  · have := hspace sep hspace'
    rcases hsep with rfl | rfl <;> cases this

theorem ofGroup_marker (hm : Registry.isNegation m = true)
    (hspace : ∀ c ∈ space, Text.isBlank c = true) (t : Text) :
    ofGroup (m :: (space ++ t)) = ofGroup (m :: t) :=
  Text.gather_congr_front (not_mem_marker (.inr rfl) hm hspace)
    (not_mem_marker (.inr rfl) hm (List.forall_mem_nil _)) (ofTerm?_marker_blank hm hspace) t

theorem ofGroup?_of_mem {t : Text} {c : Char} (hc : c ∈ t) (hblank : Text.isBlank c = false) :
    ofGroup? t = some (ofGroup t) := by
  have hne := Text.trim_ne_nil_of_mem hc hblank
  exact if_neg (by simpa using hne)

theorem ofUnion_marker (hm : Registry.isNegation m = true)
    (hspace : ∀ c ∈ space, Text.isBlank c = true) (t : Text) :
    ofUnion (m :: (space ++ t)) = ofUnion (m :: t) := by
  have hblank := not_isBlank_of_isNegation hm
  refine Text.gather_congr_front (x := m :: space) (y := [m]) (not_mem_marker (.inl rfl) hm hspace)
    (not_mem_marker (.inl rfl) hm (List.forall_mem_nil _)) (fun p => ?_) t
  rw [ofGroup?_of_mem (by simp) hblank, ofGroup?_of_mem (by simp) hblank]
  exact congrArg some (ofGroup_marker hm hspace p)

/-- Two texts within a group that is not blank, because there is an ampersand in each of them. -/
theorem ofUnion_congr_group (hx : '|' ∉ x) (hy : '|' ∉ y) (hx' : '&' ∈ x) (hy' : '&' ∈ y)
    (h : ∀ p q, ofGroup (p ++ (x ++ q)) = ofGroup (p ++ (y ++ q))) (a b : Text) :
    ofUnion (a ++ (x ++ b)) = ofUnion (a ++ (y ++ b)) := by
  refine Text.gather_congr_between hx hy (fun p q => ?_) a b
  have hblank : Text.isBlank '&' = false := by decide
  rw [ofGroup?_of_mem (c := '&') (by simp [hx']) hblank,
    ofGroup?_of_mem (c := '&') (by simp [hy']) hblank, h]

theorem ofUnion_before_ampersand (hspace : ∀ c ∈ space, Text.isBlank c = true) (a b : Text) :
    ofUnion (a ++ (space ++ '&' :: b)) = ofUnion (a ++ '&' :: b) := by
  have hbar : '|' ∉ space := Text.not_mem_of_blank hspace (by decide)
  have hgroup (p q : Text) :
      ofGroup (p ++ (space ++ ['&'] ++ q)) = ofGroup (p ++ (['&'] ++ q)) := by
    rw [List.append_assoc, ← List.append_assoc p]
    show ofGroup (p ++ space ++ '&' :: q) = ofGroup (p ++ '&' :: q)
    rw [ofGroup_append, ofGroup_append_blank hspace, ofGroup_append]
  have hunion := ofUnion_congr_group (by simp [hbar]) (by simp) (by simp) (by simp) hgroup a b
  rwa [List.append_assoc] at hunion

theorem ofUnion_behind_ampersand (hspace : ∀ c ∈ space, Text.isBlank c = true) (a b : Text) :
    ofUnion (a ++ '&' :: (space ++ b)) = ofUnion (a ++ '&' :: b) := by
  have hbar : '|' ∉ space := Text.not_mem_of_blank hspace (by decide)
  have hgroup (p q : Text) :
      ofGroup (p ++ ('&' :: space ++ q)) = ofGroup (p ++ (['&'] ++ q)) := by
    show ofGroup (p ++ '&' :: (space ++ q)) = ofGroup (p ++ '&' :: q)
    rw [ofGroup_append, ofGroup_blank_append hspace, ofGroup_append]
  exact ofUnion_congr_group (by simp [hbar]) (by simp) (by simp) (by simp) hgroup a b

theorem ofUnion_doubled_ampersand (a b : Text) :
    ofUnion (a ++ '&' :: '&' :: b) = ofUnion (a ++ '&' :: b) := by
  have hgroup (p q : Text) : ofGroup (p ++ (['&', '&'] ++ q)) = ofGroup (p ++ (['&'] ++ q)) := by
    show ofGroup (p ++ '&' :: ([] ++ '&' :: q)) = ofGroup (p ++ '&' :: q)
    rw [ofGroup_append, ofGroup_append, ofGroup_append]
    rfl
  exact ofUnion_congr_group (by simp) (by simp) (by simp) (by simp) hgroup a b

/-- The blanks stand behind a marker that begins a term of the group. -/
theorem ofUnion_marker_behind_ampersand {space' : Text} (hm : Registry.isNegation m = true)
    (hspace : ∀ c ∈ space, Text.isBlank c = true) (hspace' : ∀ c ∈ space', Text.isBlank c = true)
    (a b : Text) :
    ofUnion (a ++ '&' :: (space' ++ m :: (space ++ b))) =
      ofUnion (a ++ '&' :: (space' ++ m :: b)) := by
  have hbar (marked : Text) (hmarked : '|' ∉ marked) : '|' ∉ '&' :: (space' ++ marked) := by
    simpa [hmarked] using Text.not_mem_of_blank hspace' (by decide)
  have hgroup (p q : Text) : ofGroup (p ++ ('&' :: (space' ++ m :: space) ++ q)) =
      ofGroup (p ++ ('&' :: (space' ++ [m]) ++ q)) := by
    rw [List.cons_append, List.cons_append, List.append_assoc, List.append_assoc, ofGroup_append,
      ofGroup_append, ofGroup_blank_append hspace', ofGroup_blank_append hspace']
    exact congrArg _ (ofGroup_marker hm hspace q)
  have hunion := ofUnion_congr_group (hbar _ (not_mem_marker (.inl rfl) hm hspace))
    (hbar _ (not_mem_marker (.inl rfl) hm (List.forall_mem_nil _)))
    List.mem_cons_self List.mem_cons_self hgroup a b
  rwa [List.cons_append, List.cons_append, List.append_assoc, List.append_assoc] at hunion

end SignedAtom

open SignedAtom (ofUnion_append ofUnion_blank_append ofUnion_append_blank ofUnion_marker)

theorem Respaced.ofUnion_eq {t t' : Text} (h : Respaced t t') :
    SignedAtom.ofUnion t' = SignedAtom.ofUnion t := by
  cases h with
  | front _ hspace => exact ofUnion_blank_append hspace t
  | back _ hspace => exact ofUnion_append_blank hspace t
  | before a b hsep hspace =>
    rcases hsep with rfl | rfl
    · rw [← List.append_assoc, ofUnion_append, ofUnion_append_blank hspace, ofUnion_append]
    · exact SignedAtom.ofUnion_before_ampersand hspace a b
  | behind a b hsep hspace =>
    rcases hsep with rfl | rfl
    · rw [ofUnion_append, ofUnion_blank_append hspace, ofUnion_append]
    · exact SignedAtom.ofUnion_behind_ampersand hspace a b
  | marker b ha hm hspace =>
    cases ha with
    | first hspace' =>
      rw [ofUnion_blank_append hspace', ofUnion_blank_append hspace', ofUnion_marker hm hspace]
    | behind a hsep hspace' =>
      rw [List.append_assoc, List.append_assoc, List.cons_append, List.cons_append]
      rcases hsep with rfl | rfl
      · rw [ofUnion_append, ofUnion_append, ofUnion_blank_append hspace',
          ofUnion_blank_append hspace', ofUnion_marker hm hspace]
      · exact SignedAtom.ofUnion_marker_behind_ampersand hm hspace hspace' a b
  | doubled a b hsep =>
    rcases hsep with rfl | rfl
    · rw [ofUnion_append, ofUnion_append]
      rfl
    · exact SignedAtom.ofUnion_doubled_ampersand a b
  | barInFront => exact ofUnion_append [] t
  | barBehind =>
    rw [ofUnion_append]
    exact List.append_nil _

/-! ## Evaluation -/

namespace Registry

variable {σ : Type}

theorem evaluate_of_respaced (r : Registry σ) (item : Text) {q q' : Text} (h : Respaced q q')
    (hq : Text.trim q ≠ []) : r.evaluate item q' = r.evaluate item q := by
  rw [evaluate_of_not_blank r item (h.not_blank hq), evaluate_of_not_blank r item hq,
    evaluateUnion_eq, evaluateUnion_eq, h.lower.ofUnion_eq]

theorem evaluate_of_respacings (r : Registry σ) (item : Text) {q q' : Text}
    (h : Relation.ReflTransGen Respaced q q') (hq : Text.trim q ≠ []) :
    Text.trim q' ≠ [] ∧ r.evaluate item q' = r.evaluate item q := by
  induction h with
  | refl => exact ⟨hq, rfl⟩
  | tail _ hstep ih =>
    obtain ⟨hne, heq⟩ := ih
    exact ⟨hstep.not_blank hne, (r.evaluate_of_respaced item hstep hne).trans heq⟩

/-- However a query that is not blank is spaced out, and however often its separators are doubled, its
evaluation gives the same answer or fault and the same final state and makes the same calls. -/
theorem evaluate_respaced (r : Registry σ) (item : Text) {q q' : Text}
    (h : Relation.ReflTransGen Respaced q q') (hq : Text.trim q ≠ []) :
    r.evaluate item q' = r.evaluate item q ∧ ∀ s, r.calls item q' s = r.calls item q s := by
  refine ⟨(r.evaluate_of_respacings item h hq).2, fun s => ?_⟩
  rw [calls, (r.traced.evaluate_of_respacings item h hq).2, calls]

/-- Blanks and separators are added behind a letter that is lowered differently at the end of a word,
behind a marker and at the ends. -/
theorem evaluate_respaced_wordEnd :
    let r : Registry (Memory Unit) := Engine.builtIn Catalog.empty.source ⟨[]⟩
    let item := "|Hitem:7:0|h[Ring]|h".toList
    let q := "ΟΣ&!b|c".toList
    let q' := " ΟΣ &&! b||c|".toList
    Relation.ReflTransGen Respaced q q' ∧ Text.trim q ≠ [] ∧
      r.evaluate item q' = r.evaluate item q ∧ ∀ s, r.calls item q' s = r.calls item q s := by
  intro r item q q'
  have hblank : ∀ c ∈ " ".toList, Text.isBlank c = true := List.all_eq_true.mp (by decide)
  have hfront : Respaced q " ΟΣ&!b|c".toList := .front _ hblank
  have hbefore : Respaced " ΟΣ&!b|c".toList " ΟΣ &!b|c".toList :=
    .before " ΟΣ".toList "!b|c".toList (.inr rfl) hblank
  have hdoubled : Respaced " ΟΣ &!b|c".toList " ΟΣ &&!b|c".toList :=
    .doubled " ΟΣ ".toList "!b|c".toList (.inr rfl)
  have hterm : BeforeTerm " ΟΣ &&".toList :=
    .behind " ΟΣ &".toList (.inr rfl) (List.forall_mem_nil _)
  have hmarker : Respaced " ΟΣ &&!b|c".toList " ΟΣ &&! b|c".toList :=
    .marker "b|c".toList hterm rfl hblank
  have hbars : Respaced " ΟΣ &&! b|c".toList " ΟΣ &&! b||c".toList :=
    .doubled " ΟΣ &&! b".toList "c".toList (.inl rfl)
  have hbehind : Respaced " ΟΣ &&! b||c".toList q' := .barBehind _
  have hall : Relation.ReflTransGen Respaced q q' :=
    ((((Relation.ReflTransGen.single hfront).tail hbefore).tail hdoubled).tail hmarker |>.tail
      hbars).tail hbehind
  have hq : Text.trim q ≠ [] := by decide
  exact ⟨hall, hq, evaluate_respaced r item hall hq⟩

end Registry

end ItemQuery
