import ItemQuery.Proofs.Query.Order
import ItemQuery.Proofs.Query.Spelling

/-!
Operators in front of an atom without a tag. Every predicate that needs no tag is asked with the
operator, and one that accepts is enough. "Not equal" is turned around by each predicate for itself,
so that it asks for one that understands the text and does not judge the item equal, and not for the
opposite of "equal" (`Registry.evaluateAtom_notEqual`).
-/

namespace ItemQuery

open Operator (asked inverts)
open Search (Gives)

variable {σ : Type} {item x : Text} {op? : Option Text}

/-! ## What a predicate says of an item -/

/-- What a computation gives from every state, it gives from one of them. -/
theorem Search.Gives.eq {α : Type} {c : Search σ α} {a b : α} (ha : Gives c a) (hb : Gives c b)
    (s : σ) : a = b :=
  Except.ok.inj ((ha.reply_eq (s := s) trivial).symm.trans (hb.reply_eq trivial))

namespace Predicate

/-- A predicate understands equality with a text. -/
def Captures (p : Predicate σ) (x : Text) : Prop :=
  ∃ capture, Gives (p.canSearch none x) (some capture)

/-- A predicate understands equality with a text, and this is its answer about an item. -/
def Says (p : Predicate σ) (item x : Text) (answer : Bool) : Prop :=
  ∃ capture, Gives (p.canSearch none x) (some capture) ∧ Gives (p.evaluate item none capture) answer

variable {p : Predicate σ}

theorem Says.eq {a b : Bool} (ha : p.Says item x a) (hb : p.Says item x b) (s : σ) : a = b := by
  obtain ⟨capture, hcapture, hanswer⟩ := ha
  obtain ⟨capture', hcapture', hanswer'⟩ := hb
  cases hcapture.eq hcapture' s
  exact hanswer.eq hanswer' s

theorem Settled.exists_answer (h : p.Settled item) (hx : p.Captures x) :
    ∃ answer, p.Says item x answer := by
  obtain ⟨capture, hcapture⟩ := hx
  obtain ⟨answer, hanswer⟩ := h.evaluate none capture
  exact ⟨answer, capture, hcapture, hanswer⟩

/-- Under equality and inequality a predicate accepts an item when it understands the text and says
what the operator asks for. -/
theorem Settled.judge_iff (h : p.Settled item) (hasked : asked op? = none) (s : σ) :
    ∃ answer, Gives (p.judge item op? x) answer ∧
      (answer = true ↔ p.Says item x !inverts op?) := by
  obtain ⟨capture?, hcapture⟩ := h.canSearch none x
  have hcan : Gives (p.canSearch (asked op?) x) capture? := by rwa [hasked]
  cases capture? with
  | none =>
    refine ⟨false, .bind hcan (.pure false), iff_of_false Bool.false_ne_true ?_⟩
    rintro ⟨capture, hcapture', -⟩
    cases hcapture.eq hcapture' s
  | some capture =>
    obtain ⟨said, hsaid⟩ := h.evaluate none capture
    have heval : Gives (p.evaluate item (asked op?) capture) said := by rwa [hasked]
    have hturned : (said != inverts op?) = true ↔ said = !inverts op? := by
      cases said <;> cases inverts op? <;> simp
    refine ⟨said != inverts op?, .bind hcan (.bind heval (.pure _)), hturned.trans ⟨?_, ?_⟩⟩
    · intro heq
      exact ⟨capture, hcapture, heq ▸ hsaid⟩
    · intro hother
      exact Says.eq ⟨capture, hcapture, hsaid⟩ hother s

end Predicate

/-! ## Probing -/

namespace Registry

/-- Probing settled predicates asks whether one that needs no tag says what the operator asks for. -/
theorem probe_iff {ps : List (Predicate σ)} (h : ∀ p ∈ ps, p.Settled item) (x : Text)
    (hasked : asked op? = none) (s : σ) :
    ∃ answer, Gives (probe item op? x ps) answer ∧
      (answer = true ↔ ∃ p ∈ ps.filter (!·.tagOnly), p.Says item x !inverts op?) := by
  induction ps with
  | nil => exact ⟨false, .pure false, by simp⟩
  | cons p ps ih =>
    obtain ⟨hp, hps⟩ := List.forall_mem_cons.mp h
    obtain ⟨rest, hrest, hrestiff⟩ := ih hps
    unfold probe
    cases honly : p.tagOnly with
    | true =>
      rw [List.filter_cons_of_neg (by simp [honly])]
      exact ⟨rest, hrest, hrestiff⟩
    | false =>
      obtain ⟨answer, hanswer, hiff⟩ := hp.judge_iff (x := x) hasked s
      rw [List.filter_cons_of_pos (by simp [honly]), List.exists_mem_cons_iff, ← hiff, ← hrestiff]
      refine ⟨answer || rest, .bind hanswer ?_, Bool.or_eq_true_iff⟩
      cases answer with
      | true => exact .pure true
      | false => exact hrest

end Registry

/-- An operator in front of a text is read as it stands, also where a tag could be read in the text. -/
theorem Atom.IsText.parse?_behindOperator (hx : IsText x) {op : Text}
    (hop : op ∈ Operator.spellings) : parse? (op ++ x) = some ⟨x, none, some op⟩ := by
  have hleads := Operator.leads_of_no_operator hop (Operator.take?_eq_none_iff.mp hx.take?_eq)
  have hend : Text.trimEnd x = x := (Text.trim_eq_self_iff.mp hx.trim_eq).2
  have hwhole : Text.trimEnd (op ++ x) = op ++ x := by
    rw [Text.trimEnd_append (by rw [hend]; exact hx.ne_nil), hend]
  refine IsReadFrom.parse?_eq ⟨⟨[], ?_, List.forall_mem_nil _, nofun⟩, hx.ne_nil, hx.trim_eq⟩
  rw [hleads.trim_eq hwhole]
  exact .plain (not_isTagged_of_leads hleads) hleads

namespace Registry

theorem evaluateAtom_operator (r : Registry σ) (hx : Atom.IsText x) {op : Text}
    (hop : op ∈ Operator.spellings) (fallback : Bool) :
    r.evaluateAtom item (op ++ x) fallback = probe item (some op) x r.predicates := by
  rw [evaluateAtom_eq, hx.parse?_behindOperator hop]
  rfl

/-- Among settled predicates an item is "equal" to an untagged text when one that understands it says
so, and "not equal" when one that understands it denies it. So where some predicate understands the
text, an item is "equal", "not equal" or both, and the two are opposites exactly when all that
understand it say the same. -/
theorem evaluateAtom_notEqual (r : Registry σ) (hsettled : ∀ p ∈ r.predicates, p.Settled item)
    (hx : Atom.IsText x) (fallback : Bool) (s : σ) :
    let untagged := r.predicates.filter (!·.tagOnly)
    ∃ equal different,
      (r.evaluateAtom item ("=".toList ++ x) fallback).reply s = .ok equal ∧
      (r.evaluateAtom item ("!=".toList ++ x) fallback).reply s = .ok different ∧
      (equal = true ↔ ∃ p ∈ untagged, p.Says item x true) ∧
      (different = true ↔ ∃ p ∈ untagged, p.Says item x false) ∧
      ((∃ p ∈ untagged, p.Captures x) →
        (equal = true ∨ different = true) ∧
        (different = !equal ↔ ∀ p ∈ untagged, ∀ q ∈ untagged, ∀ a b,
          p.Says item x a → q.Says item x b → a = b)) := by
  intro untagged
  have hasks : asked (some "=".toList) = none := rfl
  have hturns : asked (some "!=".toList) = none := rfl
  obtain ⟨equal, hequal, hequaliff⟩ := probe_iff hsettled x hasks s
  obtain ⟨different, hdifferent, hdifferentiff⟩ := probe_iff hsettled x hturns s
  change equal = true ↔ ∃ p ∈ untagged, p.Says item x true at hequaliff
  change different = true ↔ ∃ p ∈ untagged, p.Says item x false at hdifferentiff
  rw [evaluateAtom_operator r hx (by decide), evaluateAtom_operator r hx (by decide)]
  refine ⟨equal, different, hequal.reply_eq trivial, hdifferent.reply_eq trivial, hequaliff,
    hdifferentiff, ?_⟩
  rintro ⟨p, hp, hcaptures⟩
  obtain ⟨answer, hanswer⟩ := (hsettled p (List.mem_filter.mp hp).1).exists_answer hcaptures
  have hone : equal = true ∨ different = true := by
    cases answer with
    | true => exact .inl (hequaliff.mpr ⟨p, hp, hanswer⟩)
    | false => exact .inr (hdifferentiff.mpr ⟨p, hp, hanswer⟩)
  refine ⟨hone, ?opposite, ?agree⟩
  case opposite =>
    intro hopposite q hq q' hq' a b ha hb
    have hnotboth : ¬((∃ p ∈ untagged, p.Says item x true) ∧ ∃ p ∈ untagged, p.Says item x false) := by
      rw [← hequaliff, ← hdifferentiff, hopposite]
      simp
    cases a with
    | true =>
      cases b with
      | true => rfl
      | false => exact absurd ⟨⟨q, hq, ha⟩, q', hq', hb⟩ hnotboth
    | false =>
      cases b with
      | true => exact absurd ⟨⟨q', hq', hb⟩, q, hq, ha⟩ hnotboth
      | false => rfl
  case agree =>
    intro hagree
    have hnotboth : ¬(equal = true ∧ different = true) := by
      rintro ⟨hequal, hdifferent⟩
      obtain ⟨q, hq, hsaid⟩ := hequaliff.mp hequal
      obtain ⟨q', hq', hdenied⟩ := hdifferentiff.mp hdifferent
      cases hagree q hq q' hq' true false hsaid hdenied
    cases equal <;> cases different <;> simp at hone hnotboth ⊢

/-- Scripts that do not fail are settled once they are registered. -/
theorem settled_after {scripts : List Script}
    (h : ∀ script ∈ scripts, ∀ words, script.outcome ≠ .fails words) (item : Text) :
    ∀ p ∈ (after (scripts.map Script.candidate)).predicates, p.Settled item := by
  intro p hp
  rw [after_eq_ofList] at hp
  obtain ⟨c, hc, hcheck⟩ := exists_of_mem_accepted (mem_of_mem_ofList hp)
  obtain ⟨script, hscript, rfl⟩ := List.mem_map.mp hc
  exact Script.settled hcheck (h script hscript) item

/-- One predicate finds the text, in which a tag could be read, in the reference; one refuses it, and
one that would deny it is asked by its tag alone. -/
theorem evaluateAtom_notEqual_found :
    let refusing := { Script.seeking "refusing" [] false with acceptance := .nothing }
    let denying := { Script.seeking "denying" ["item"] true with outcome := .fixed (.bool false) }
    let r := after ([refusing, Script.seeking "word" [] false, denying].map Script.candidate)
    let item := "item:7".toList
    let x := "item:7".toList
    let s : Memory Journal := ⟨.empty, []⟩
    let untagged := r.predicates.filter (!·.tagOnly)
    (∀ p ∈ r.predicates, p.Settled item) ∧ Atom.IsText x ∧ (∃ p ∈ untagged, p.Captures x) ∧
      (r.evaluateAtom item ("=".toList ++ x) true).reply s = .ok true ∧
      (r.evaluateAtom item ("!=".toList ++ x) true).reply s = .ok false ∧
      ∀ p ∈ untagged, ∀ q ∈ untagged, ∀ a b, p.Says item x a → q.Says item x b → a = b := by
  intro refusing denying r item x s untagged
  have hsettled : ∀ p ∈ r.predicates, p.Settled item := by
    refine settled_after ?_ item
    simp [refusing, denying, Script.seeking]
  have hx : Atom.IsText x := ⟨by decide, by decide, by decide⟩
  have hcaptures : ∃ p ∈ untagged, p.Captures x := by
    refine ⟨_, List.mem_cons_of_mem _ List.mem_cons_self, .text x, fun m _ => ⟨_, trivial, rfl⟩⟩
  have hequal : (r.evaluateAtom item ("=".toList ++ x) true).reply s = .ok true := by decide +kernel
  have hdifferent : (r.evaluateAtom item ("!=".toList ++ x) true).reply s = .ok false := by
    decide +kernel
  obtain ⟨equal, different, hequal', hdifferent', -, -, hboth⟩ :=
    evaluateAtom_notEqual r hsettled hx true s
  rw [hequal] at hequal'
  rw [hdifferent] at hdifferent'
  cases hequal'
  cases hdifferent'
  exact ⟨hsettled, hx, hcaptures, hequal, hdifferent, (hboth hcaptures).2.mp rfl⟩

/-- Two predicates understand the text and one of them denies it, so that the item is "equal" and "not
equal". -/
theorem evaluateAtom_notEqual_both :
    let denying := { Script.seeking "denying" [] false with outcome := .fixed (.bool false) }
    let r := after ([Script.seeking "word" [] false, denying].map Script.candidate)
    let item := "item:7".toList
    let x := "item".toList
    let s : Memory Journal := ⟨.empty, []⟩
    (∀ p ∈ r.predicates, p.Settled item) ∧ Atom.IsText x ∧
      (∃ p ∈ r.predicates.filter (!·.tagOnly), p.Captures x) ∧
      (r.evaluateAtom item ("=".toList ++ x) true).reply s = .ok true ∧
      (r.evaluateAtom item ("!=".toList ++ x) true).reply s = .ok true := by
  intro denying r item x s
  have hsettled : ∀ p ∈ r.predicates, p.Settled item := by
    refine settled_after ?_ item
    simp [denying, Script.seeking]
  have hx : Atom.IsText x := ⟨by decide, by decide, by decide⟩
  exact ⟨hsettled, hx, ⟨_, List.mem_cons_self, .text x, fun m _ => ⟨_, trivial, rfl⟩⟩,
    by decide +kernel, by decide +kernel⟩

end Registry

end ItemQuery
