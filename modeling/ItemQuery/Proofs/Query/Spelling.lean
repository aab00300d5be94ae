import ItemQuery.Proofs.Query.Extension
import ItemQuery.Proofs.Query.Grammar
import ItemQuery.Proofs.Query.Judgement
import ItemQuery.Proofs.Query.Negation

/-!
Operators between a tag and a text. An operator may stand right behind the tag or behind a colon, and
white space may follow it; a query of that form is judged by the predicate that the tag reaches, with
the operator and the text alone (`Registry.evaluate_behindTag`). So all spellings of one meaning are
interchangeable, and "not equal" turns equality around where the predicate understands the text
(`Registry.evaluate_synonyms`).
-/

namespace ItemQuery

namespace Operator

/-! ## The longest operator in front of a text -/

/-- All that could make an operator longer is the `=` that it may end in. -/
theorem eq_or_eq_append_of_isPrefix : ∀ op ∈ spellings, ∀ op' ∈ spellings, op <+: op' →
    op' = op ∨ op' = op ++ ['='] := by
  decide

/-- In front of a text that does not begin with one, an operator is read as it stands. -/
theorem leads_of_no_operator {op rest : Text} (hop : op ∈ spellings)
    (hrest : ∀ op ∈ spellings, ¬op <+: rest) : Leads (some op) rest (op ++ rest) := by
  refine .given hop fun op' hop' hbegins => ?_
  by_contra hlonger
  have hprefix : op <+: op' :=
    List.prefix_of_prefix_length_le (List.prefix_append op rest) hbegins (by omega)
  rcases eq_or_eq_append_of_isPrefix op hop op' hop' hprefix with rfl | rfl
  · exact hlonger (Nat.le_refl _)
  · rw [List.prefix_append_right_inj] at hbegins
    exact hrest ['='] (by decide) hbegins

/-- No operator begins with a blank. -/
theorem no_operator_behind_blanks {space x : Text} (hspace : ∀ c ∈ space, Text.isBlank c = true)
    (hx : ∀ op ∈ spellings, ¬op <+: x) : ∀ op ∈ spellings, ¬op <+: space ++ x := by
  intro op hop hbegins
  cases space with
  | nil => exact hx op hop hbegins
  | cons c space =>
    obtain ⟨d, hd, hblank, -⟩ := head_of_mem_spellings hop
    obtain ⟨tail, rfl⟩ := List.head?_eq_some_iff.mp hd
    obtain ⟨rfl, -⟩ := List.cons_prefix_cons.mp hbegins
    rw [hspace d List.mem_cons_self] at hblank
    cases hblank

/-! ## Marks behind a tag -/

/-- `Marks mark op?`: between a tag and a text `mark` is read as the operator `op?`. -/
inductive Marks : Text → Option Text → Prop
  | colon : Marks [':'] none
  | operator {op} : op ∈ spellings → op ≠ [':'] → Marks op (some op)
  | both {op} : op ∈ spellings → Marks (':' :: op) (some op)

variable {mark : Text} {op? : Option Text}

theorem marks_iff : Marks mark op? ↔ (mark = [':'] ∧ op? = none) ∨
    ((spellings.contains mark = true ∧ mark ≠ [':']) ∧ op? = some mark) ∨
    ((mark.head? = some ':' ∧ spellings.contains mark.tail = true) ∧ op? = some mark.tail) := by
  simp only [List.contains_iff_mem]
  constructor
  · intro h
    cases h with
    | colon => exact .inl ⟨rfl, rfl⟩
    | operator hop hne => exact .inr (.inl ⟨⟨hop, hne⟩, rfl⟩)
    | both hop => exact .inr (.inr ⟨⟨rfl, hop⟩, rfl⟩)
  · rintro (⟨rfl, rfl⟩ | ⟨⟨hop, hne⟩, rfl⟩ | ⟨⟨hcolon, hop⟩, rfl⟩)
    · exact .colon
    · exact .operator hop hne
    · obtain ⟨op, rfl⟩ := List.head?_eq_some_iff.mp hcolon
      exact .both hop

instance (mark : Text) (op? : Option Text) : Decidable (Marks mark op?) :=
  decidable_of_iff _ marks_iff.symm

theorem Marks.mem (h : Marks mark op?) {c : Char} (hc : c ∈ mark) : c ∈ "<>=!~:".toList := by
  have hmarks : ∀ op ∈ spellings, op ⊆ "<>=!~:".toList := by decide
  cases h with
  | colon =>
    rw [List.mem_singleton] at hc
    rw [hc]
    decide
  | operator hop _ => exact hmarks _ hop hc
  | both hop =>
    rcases List.mem_cons.mp hc with rfl | hc
    · decide
    · exact hmarks _ hop hc

theorem Marks.not_mem (h : Marks mark op?) {c : Char} (hc : c ∉ "<>=!~:".toList) : c ∉ mark :=
  fun hmem => hc (h.mem hmem)

theorem Marks.lower_eq (h : Marks mark op?) : Text.lower mark = mark := by
  have hfixed : ("<>=!~:".toList.all Text.isFixed) = true := by decide
  exact Text.lower_eq_self_iff.mpr fun c hc =>
    Text.lowerings_of_isFixed (List.all_eq_true.mp hfixed c (h.mem hc))

/-- What may stand between a tag and a text, sorted by meaning. -/
def synonyms : List (List Text) :=
  [[":", "=", "==", ":=", ":==", "::"], ["!=", "~=", ":!=", ":~="], ["<", ":<"], ["<=", ":<="],
    [">", ":>"], [">=", ":>="]].map (·.map String.toList)

/-- The operator that is read off a mark. -/
def ofMark : Text → Option Text
  | [':'] => none
  | ':' :: op => some op
  | op => some op

theorem marks_ofMark : ∀ group ∈ synonyms, ∀ mark ∈ group, Marks mark (ofMark mark) := by
  decide

theorem normalize_ofMark : ∀ group ∈ synonyms, ∀ mark ∈ group, ∀ mark' ∈ group,
    normalize (ofMark mark) = normalize (ofMark mark') := by
  decide

end Operator

open Operator (Leads Marks)

/-! ## Reading an operator behind a tag -/

namespace Atom

variable {tag mark space x : Text} {op? : Option Text}

theorem IsTag.leadingRun (htag : IsTag tag) {mark : Text} (hmark : Marks mark op?) (rest : Text) :
    LeadingRun tag (mark ++ rest) where
  toIsTag := htag
  maximal c hc := by
    cases hmark with
    | colon | both _ => exact (htag.leadingRun_colon _).maximal c hc
    | operator hop _ =>
      obtain ⟨d, hd, -, hmark⟩ := Operator.head_of_mem_spellings hop
      obtain ⟨tail, rfl⟩ := List.head?_eq_some_iff.mp hd
      cases hc
      exact hmark

/-- White space behind an operator is passed over, and so is white space behind a colon alone. -/
theorem IsText.reads_behindTag (hx : IsText x) (htag : IsTag tag) (hmark : Marks mark op?)
    (hspace : ∀ c ∈ space, Text.isBlank c = true) :
    ∃ space', Reads (some (Text.lower tag)) op? (space' ++ x) (tag ++ (mark ++ (space ++ x))) ∧
      (∀ c ∈ space', Text.isBlank c = true) ∧ (op? = none → space' = []) := by
  have hnone : ∀ op ∈ Operator.spellings, ¬op <+: x := Operator.take?_eq_none_iff.mp hx.take?_eq
  have hbehind := Operator.no_operator_behind_blanks hspace hnone
  have hrun := htag.leadingRun hmark (space ++ x)
  cases hmark with
  | colon =>
    have hreads : Reads (some (Text.lower tag)) none x (tag ++ ':' :: (space ++ x)) :=
      .colon hrun hspace (.absent hnone)
    exact ⟨[], hreads, List.forall_mem_nil _, fun _ => rfl⟩
  | operator hop hne =>
    exact ⟨space, .operator hrun hne (Operator.leads_of_no_operator hop hbehind), hspace, nofun⟩
  | @both op hop =>
    have hreads : Reads (some (Text.lower tag)) (some op) (space ++ x)
        (tag ++ ':' :: ([] ++ (op ++ (space ++ x)))) :=
      .colon hrun (List.forall_mem_nil _) (Operator.leads_of_no_operator hop hbehind)
    exact ⟨space, hreads, hspace, nofun⟩

theorem IsText.parse?_behindTag (hx : IsText x) (htag : IsTag tag) (hmark : Marks mark op?)
    (hspace : ∀ c ∈ space, Text.isBlank c = true) :
    parse? (tag ++ (mark ++ (space ++ x))) = some ⟨x, some (Text.lower tag), op?⟩ := by
  have htrim : Text.trim (tag ++ (mark ++ (space ++ x))) = tag ++ (mark ++ (space ++ x)) := by
    rw [← List.append_assoc mark]
    exact hx.trim_behind htag (mark ++ space)
  obtain ⟨space', hreads, hspace', hnil⟩ := hx.reads_behindTag htag hmark hspace
  refine IsReadFrom.parse?_eq ⟨⟨space', ?_, hspace', hnil⟩, hx.ne_nil, hx.trim_eq⟩
  rw [htrim]
  exact hreads

/-! ## Small letters and marks -/

section

variable {behind : Text} (hmark : Marks mark op?) (hspace : ∀ c ∈ space, Text.isBlank c = true)
  (hbehind : ∀ c ∈ behind, Text.isBlank c = true)

include hmark hspace hbehind

theorem IsPlain.lower_behindTag (hx : IsPlain x) (hsmall : Text.lower tag = tag) :
    Text.lower (tag ++ (mark ++ (space ++ x)) ++ behind) =
      tag ++ (mark ++ (space ++ x)) ++ behind := by
  have hbody : Text.lower (mark ++ (space ++ x)) = mark ++ (space ++ x) :=
    Text.lower_append_of_lower_eq hmark.lower_eq
      (Text.lower_append_of_lower_eq (Text.lower_of_blank hspace) hx.lower_eq)
  exact Text.lower_append_of_lower_eq (Text.lower_append_of_lower_eq hsmall hbody)
    (Text.lower_of_blank hbehind)

/-- A mark that no operator has stands in such a text only if it stands in what is searched for. -/
theorem IsTag.not_mem_behindTag (htag : IsTag tag) {c : Char} (hfixed : Text.isFixed c = true)
    (hblank : Text.isBlank c = false) (hmarks : c ∉ "<>=!~:".toList) (hx : c ∉ x) :
    c ∉ tag ++ (mark ++ (space ++ x)) ++ behind := by
  have hno : ∀ {t : Text}, (∀ c ∈ t, Text.isBlank c = true) → c ∉ t := by
    intro t ht hc
    rw [ht c hc] at hblank
    cases hblank
  simp [htag.not_mem hfixed, hmark.not_mem hmarks, hno hspace, hno hbehind, hx]

end

/-- A text that begins with a tag begins with no mark. -/
theorem IsTag.head?_trim_ne (htag : IsTag tag) (rest : Text) {m : Char}
    (hm : Text.isFixed m = true) : (Text.trim (tag ++ rest)).head? ≠ some m := by
  obtain ⟨c, letters, rfl⟩ := List.exists_cons_of_ne_nil htag.ne_nil
  have hc := Text.not_isBlank_of_isAlphanumeric (htag.isAlphanumeric c List.mem_cons_self)
  rw [List.cons_append, Text.trim_cons_of_not_blank hc, List.head?_cons, ne_eq, Option.some.injEq]
  rintro rfl
  exact htag.not_mem hm List.mem_cons_self

end Atom

/-! ## Queries with an operator behind a tag -/

namespace Registry

variable {σ : Type} {tag mark x : Text} {op? : Option Text}

open Atom (IsPlain IsTag)

/-- The predicate that the tag reaches is asked about the operator and the text. White space around the
text does not matter. -/
theorem evaluate_behindTag (r : Registry σ) (item : Text) (htag : IsTag tag)
    (hsmall : Text.lower tag = tag) (hmark : Marks mark op?) (hx : IsPlain x) {space behind : Text}
    (hspace : ∀ c ∈ space, Text.isBlank c = true) (hbehind : ∀ c ∈ behind, Text.isBlank c = true) :
    r.evaluate item (tag ++ mark ++ space ++ x ++ behind) = match r.resolve? tag with
      | none => return true
      | some p => p.judge item op? x := by
  have hassoc : tag ++ mark ++ space ++ x ++ behind = tag ++ (mark ++ (space ++ x)) ++ behind := by
    simp only [List.append_assoc]
  have hbar : '|' ∉ tag ++ (mark ++ (space ++ x)) ++ behind :=
    htag.not_mem_behindTag hmark hspace hbehind (by decide) (by decide) (by decide) hx.not_mem_bar
  have hampersand : '&' ∉ tag ++ (mark ++ (space ++ x)) ++ behind :=
    htag.not_mem_behindTag hmark hspace hbehind (by decide) (by decide) (by decide)
      hx.not_mem_ampersand
  have hstart : ∀ m, isNegation m = true →
      (Text.trim (tag ++ (mark ++ (space ++ x)) ++ behind)).head? ≠ some m := by
    intro m hm
    rw [List.append_assoc]
    exact htag.head?_trim_ne _ (divides_of_isNegation hm).isFixed
  rw [hassoc, evaluate_of_no_negation r item hbar hampersand hstart,
    hx.lower_behindTag hmark hspace hbehind hsmall,
    evaluateAtom_congr r item (Text.trim_append_of_blank hbehind _), evaluateAtom_eq,
    hx.toIsText.parse?_behindTag htag hmark hspace, hsmall]
  rfl

/-- An operator right behind a tag is handed on with the text. -/
theorem evaluate_operator (r : Registry σ) (item : Text) (htag : IsTag tag)
    (hsmall : Text.lower tag = tag) {p : Predicate σ} (hresolve : r.resolve? tag = some p)
    {op : Text} (hop : op ∈ Operator.spellings) (hx : IsPlain x) {space behind : Text}
    (hspace : ∀ c ∈ space, Text.isBlank c = true) (hbehind : ∀ c ∈ behind, Text.isBlank c = true) :
    r.evaluate item (tag ++ op ++ space ++ x ++ behind) = p.judge item (some op) x := by
  have hread : ∀ op ∈ Operator.spellings, Marks op (Operator.ofMark op) ∧
      Operator.normalize (Operator.ofMark op) = Operator.normalize (some op) := by
    decide
  obtain ⟨hmark, hnormal⟩ := hread op hop
  rw [evaluate_behindTag r item htag hsmall hmark hx hspace hbehind, hresolve]
  exact Predicate.judge_of_normalize_eq hnormal

/-- Behind a tag all spellings of one meaning are evaluated alike, with white space in front of the
text or without. Where the tag reaches no predicate every item is accepted; where it reaches one, an
item is "not equal" exactly when the predicate understands the text and the item is not "equal". -/
theorem evaluate_synonyms (r : Registry σ) (item : Text) (htag : IsTag tag)
    (hsmall : Text.lower tag = tag) (hx : IsPlain x) :
    let asked (mark space : Text) := r.evaluate item (tag ++ mark ++ space ++ x)
    (∀ group ∈ Operator.synonyms, ∀ mark ∈ group, ∀ mark' ∈ group, ∀ space space' : Text,
      (∀ c ∈ space, Text.isBlank c = true) → (∀ c ∈ space', Text.isBlank c = true) →
      asked mark space = asked mark' space') ∧
    (r.resolve? tag = none → ∀ group ∈ Operator.synonyms, ∀ mark ∈ group, ∀ space : Text,
      (∀ c ∈ space, Text.isBlank c = true) → asked mark space = pure true) ∧
    ∀ p, r.resolve? tag = some p → ∀ s,
      ((asked "!=".toList []).reply s = .ok true ↔
        (∃ capture s', p.canSearch none x s = .ok (some capture) s') ∧
          (asked ":".toList []).reply s = .ok false) := by
  intro asked
  have hasked : ∀ {mark : Text} {op? : Option Text}, Marks mark op? → ∀ space : Text,
      (∀ c ∈ space, Text.isBlank c = true) → asked mark space = match r.resolve? tag with
        | none => return true
        | some p => p.judge item op? x := by
    intro mark op? hmark space hspace
    have heval := r.evaluate_behindTag item htag hsmall hmark hx hspace (List.forall_mem_nil _)
    rwa [List.append_nil] at heval
  refine ⟨?agree, ?unknown, ?different⟩
  case agree =>
    intro group hgroup mark hmark mark' hmark' space space' hspace hspace'
    rw [hasked (Operator.marks_ofMark group hgroup mark hmark) space hspace,
      hasked (Operator.marks_ofMark group hgroup mark' hmark') space' hspace']
    cases r.resolve? tag with
    | none => rfl
    | some p =>
      exact Predicate.judge_of_normalize_eq
        (Operator.normalize_ofMark group hgroup mark hmark mark' hmark')
  case unknown =>
    intro hresolve group hgroup mark hmark space hspace
    rw [hasked (Operator.marks_ofMark group hgroup mark hmark) space hspace, hresolve]
  case different =>
    intro p hresolve s
    have hbang : Marks "!=".toList (some Operator.notEqual) := by decide
    have hdifferent := hasked hbang [] (List.forall_mem_nil _)
    have hequal := hasked .colon [] (List.forall_mem_nil _)
    rw [hresolve] at hdifferent hequal
    rw [hdifferent, show asked ":".toList [] = _ from hequal]
    exact Predicate.reply_judge_notEqual_iff p item x s

/-- The tag is the beginning of an alias, and the predicate that it reaches understands any text but
finds this one in no reference. -/
theorem evaluate_synonyms_ring :
    let r : Registry (Memory Journal) := after [(Script.seeking "word" ["W2x"] true).candidate]
    let tag := "w2".toList
    let x := "~ring".toList
    let asked (mark space : Text) := r.evaluate "item:7".toList (tag ++ mark ++ space ++ x)
    let s : Memory Journal := ⟨.empty, []⟩
    IsTag tag ∧ Text.lower tag = tag ∧ IsPlain x ∧
      (∀ c ∈ "\u3000 ".toList, Text.isBlank c = true) ∧
      asked "~=".toList "\u3000 ".toList = asked ":!=".toList [] ∧
      (∃ p, r.resolve? tag = some p ∧ (∃ capture s', p.canSearch none x s = .ok (some capture) s') ∧
        (asked ":".toList []).reply s = .ok false) ∧
      (asked "!=".toList []).reply s = .ok true := by
  intro r tag x asked s
  have htag : IsTag tag := ⟨by decide, List.all_eq_true.mp (by decide)⟩
  have hsmall : Text.lower tag = tag := by decide
  have hx : IsPlain x := by decide
  have hblank : ∀ c ∈ "\u3000 ".toList, Text.isBlank c = true := List.all_eq_true.mp (by decide)
  obtain ⟨hagree, -, hdifferent⟩ := evaluate_synonyms r "item:7".toList htag hsmall hx
  obtain ⟨p, hresolve, hcaptured⟩ : ∃ p, r.resolve? tag = some p ∧
      ∃ capture s', p.canSearch none x s = .ok (some capture) s' := ⟨_, rfl, _, _, rfl⟩
  have hequal : (asked ":".toList []).reply s = .ok false := by decide +kernel
  have hsame : asked "~=".toList "\u3000 ".toList = asked ":!=".toList [] :=
    hagree (["!=", "~=", ":!=", ":~="].map String.toList) (by decide) _ (by decide) _ (by decide) _ _
      hblank (List.forall_mem_nil _)
  exact ⟨htag, hsmall, hx, hblank, hsame, ⟨p, hresolve, hcaptured, hequal⟩,
    (hdifferent p hresolve s).mpr ⟨hcaptured, hequal⟩⟩

end Registry

end ItemQuery
