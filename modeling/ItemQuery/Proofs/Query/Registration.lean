import ItemQuery.Proofs.Query.History
import ItemQuery.Scripted.Predicate

/-!
What a registry takes. An object is taken exactly when it has an id, both operations and tags that
are aliases (`Candidate.IsWellFormed`). Any other is refused for the first thing that is wrong with
it (`Candidate.Refused`), and as a malformed value, with one exception: a number or a truth value in
the place of the tags, which cannot even be gone through (`Registry.register_outcome`).
-/

namespace ItemQuery

variable {σ : Type}

namespace Candidate

/-! ## Objects that are taken, and objects that are not -/

/-- An object with an id and both operations. -/
structure IsOperational (c : Candidate σ) (id : Text) : Prop where
  id_eq : c.id = some (.text id)
  id_ne_nil : id ≠ []
  canSearch : c.canSearch.isSome = true
  evaluate : c.evaluate.isSome = true

/-- What stands in the place of the tags and what it lists, if it is no text and lists anything. -/
inductive Lists : Option Json → List Json → Prop
  | absent : Lists none []
  | null : Lists (some .null) []
  | array (items : List Json) : Lists (some (.array items)) items
  | object (members : List (Text × Json)) :
    Lists (some (.object members)) (members.map fun member => .text member.1)

/-- A value that cannot be gone through for what it lists. -/
inductive IsScalar : Json → Prop
  | bool (b : Bool) : IsScalar (.bool b)
  | number (n : Number) : IsScalar (.number n)

def IsAlias (v : Json) : Prop := ∃ t, v = .text t ∧ t ≠ []

def IsWellFormed (c : Candidate σ) : Prop :=
  (∃ id, c.IsOperational id) ∧ ∃ items, Lists c.tags items ∧ ∀ v ∈ items, IsAlias v

/-- Why an object is not taken. What is looked at later counts only where all before is in order. -/
inductive Refused (c : Candidate σ) : Fault → Prop
  | noId : (∀ id, c.id = some (.text id) → id = []) → Refused c (.missingId c.shown)
  | noCanSearch {id : Text} : c.id = some (.text id) → id ≠ [] → c.canSearch = none →
      Refused c (.missingMethod id .canSearch)
  | noEvaluate {id : Text} : c.id = some (.text id) → id ≠ [] → c.canSearch.isSome = true →
      c.evaluate = none → Refused c (.missingMethod id .evaluate)
  | textTags {id t : Text} : c.IsOperational id → c.tags = some (.text t) →
      Refused c (.tagsAreText (some id) t)
  | noAlias {id : Text} {items : List Json} {v : Json} : c.IsOperational id →
      Lists c.tags items → v ∈ items → ¬IsAlias v → Refused c (.malformedTags id)
  | scalarTags {id : Text} {v : Json} : c.IsOperational id → c.tags = some v → IsScalar v →
      Refused c .unsuitable

/-! ## What the checks say -/

theorem tag?_eq_some_of_isAlias {v : Json} (h : IsAlias v) : ∃ tag, tag? v = some tag := by
  obtain ⟨t, rfl, hne⟩ := h
  obtain ⟨c, rest, rfl⟩ := List.exists_cons_of_ne_nil hne
  exact ⟨c :: rest, rfl⟩

theorem mapM_tag?_of_aliases {items : List Json} (h : ∀ v ∈ items, IsAlias v) :
    ∃ tags, items.mapM tag? = some tags := by
  induction items with
  | nil => exact ⟨[], rfl⟩
  | cons v items ih =>
    obtain ⟨hv, hitems⟩ := List.forall_mem_cons.mp h
    obtain ⟨tag, htag⟩ := tag?_eq_some_of_isAlias hv
    obtain ⟨tags, htags⟩ := ih hitems
    refine ⟨tag :: tags, ?_⟩
    rw [List.mapM_cons, htag, htags]
    rfl

theorem mapM_tag?_of_not_isAlias {items : List Json} {v : Json} (hv : v ∈ items)
    (h : ¬IsAlias v) : items.mapM tag? = none := by
  cases htags : items.mapM tag? with
  | none => rfl
  | some tags =>
    obtain ⟨rfl, hne⟩ := mapM_tag?_eq_some htags
    obtain ⟨t, ht, rfl⟩ := List.mem_map.mp hv
    exact absurd ⟨t, rfl, hne t ht⟩ h

theorem Lists.tagsOf_eq {tags? : Option Json} {items : List Json} (h : Lists tags? items) :
    tagsOf tags? = .ok items := by
  cases h <;> rfl

theorem Lists.checkTags_of_some {tags? : Option Json} {items : List Json} {tags : List Text}
    (h : Lists tags? items) (htags : items.mapM tag? = some tags) (id : Text) :
    checkTags id tags? = .ok tags := by
  simp only [checkTags, h.tagsOf_eq, htags]

theorem Lists.checkTags_of_none {tags? : Option Json} {items : List Json} (h : Lists tags? items)
    (hnone : items.mapM tag? = none) (id : Text) :
    checkTags id tags? = .error (.malformedTags id) := by
  simp only [checkTags, h.tagsOf_eq, hnone]

variable {c : Candidate σ} {id : Text}

theorem checkId_of_text (hid : c.id = some (.text id)) (hne : id ≠ []) : c.checkId = .ok id := by
  obtain ⟨a, rest, rfl⟩ := List.exists_cons_of_ne_nil hne
  unfold checkId
  rw [hid]

theorem checkId_of_no_text (h : ∀ id, c.id = some (.text id) → id = []) :
    c.checkId = .error (.missingId c.shown) := by
  unfold checkId
  split
  · rename_i a rest hid
    exact absurd (h _ hid) (List.cons_ne_nil a rest)
  · rfl

/-- With an id and both operations, the tags alone decide. -/
theorem IsOperational.check_eq (h : c.IsOperational id) : ∃ p : List Text → Predicate σ,
    c.check = (checkTags id c.tags).map p := by
  obtain ⟨canSearch, hcan⟩ := Option.isSome_iff_exists.mp h.canSearch
  obtain ⟨evaluate, heval⟩ := Option.isSome_iff_exists.mp h.evaluate
  refine ⟨fun tags => ⟨id, c.tags.map fun _ => tags, c.tagOnly.map Json.isTruthy, canSearch,
    evaluate⟩, ?_⟩
  unfold check
  rw [checkId_of_text h.id_eq h.id_ne_nil, hcan, heval]
  show Except.bind (checkTags id c.tags) _ = _
  cases checkTags id c.tags <;> rfl

theorem IsOperational.check_of_checkTags_error (h : c.IsOperational id) {fault : Fault}
    (htags : checkTags id c.tags = .error fault) : c.check = .error fault := by
  obtain ⟨p, hcheck⟩ := h.check_eq
  rw [hcheck, htags]
  rfl

theorem IsWellFormed.check_eq (h : c.IsWellFormed) : ∃ p, c.check = .ok p := by
  obtain ⟨⟨id, hop⟩, items, hlists, haliases⟩ := h
  obtain ⟨tags, htags⟩ := mapM_tag?_of_aliases haliases
  obtain ⟨p, hcheck⟩ := hop.check_eq
  refine ⟨p tags, ?_⟩
  rw [hcheck, hlists.checkTags_of_some htags]
  rfl

theorem Refused.check_eq {fault : Fault} (h : c.Refused fault) : c.check = .error fault := by
  cases h with
  | noId hid =>
    unfold check
    rw [checkId_of_no_text hid]
    rfl
  | noCanSearch hid hne hcan =>
    unfold check
    rw [checkId_of_text hid hne, hcan]
    rfl
  | noEvaluate hid hne hcan heval =>
    obtain ⟨canSearch, hcan⟩ := Option.isSome_iff_exists.mp hcan
    unfold check
    rw [checkId_of_text hid hne, hcan, heval]
    rfl
  | textTags hop htags =>
    refine hop.check_of_checkTags_error ?_
    rw [htags]
    rfl
  | noAlias hop hlists hv hno =>
    exact hop.check_of_checkTags_error
      (hlists.checkTags_of_none (mapM_tag?_of_not_isAlias hv hno) _)
  | scalarTags hop htags hscalar =>
    refine hop.check_of_checkTags_error ?_
    rw [htags]
    cases hscalar <;> rfl

/-! ## Nothing else can be wrong -/

theorem lists_or_text_or_scalar (tags? : Option Json) : (∃ items, Lists tags? items) ∨
    (∃ t, tags? = some (.text t)) ∨ ∃ v, tags? = some v ∧ IsScalar v := by
  cases tags? with
  | none => exact .inl ⟨[], .absent⟩
  | some v =>
    cases v with
    | null => exact .inl ⟨[], .null⟩
    | array items => exact .inl ⟨items, .array items⟩
    | object members => exact .inl ⟨_, .object members⟩
    | text t => exact .inr (.inl ⟨t, rfl⟩)
    | bool b => exact .inr (.inr ⟨_, rfl, .bool b⟩)
    | number n => exact .inr (.inr ⟨_, rfl, .number n⟩)

theorem IsOperational.wellFormed_or_refused (h : c.IsOperational id) :
    c.IsWellFormed ∨ ∃ fault, c.Refused fault := by
  rcases lists_or_text_or_scalar c.tags with ⟨items, hlists⟩ | ⟨t, htext⟩ | ⟨v, htags, hscalar⟩
  · by_cases haliases : ∀ v ∈ items, IsAlias v
    · exact .inl ⟨⟨id, h⟩, items, hlists, haliases⟩
    · push Not at haliases
      obtain ⟨v, hv, hno⟩ := haliases
      exact .inr ⟨_, .noAlias h hlists hv hno⟩
  · exact .inr ⟨_, .textTags h htext⟩
  · exact .inr ⟨_, .scalarTags h htags hscalar⟩

theorem wellFormed_or_refused (c : Candidate σ) : c.IsWellFormed ∨ ∃ fault, c.Refused fault := by
  by_cases hid : ∃ id, c.id = some (.text id) ∧ id ≠ []
  · obtain ⟨id, hid, hne⟩ := hid
    cases hcan : c.canSearch with
    | none => exact .inr ⟨_, .noCanSearch hid hne hcan⟩
    | some canSearch =>
      have hcan := Option.isSome_of_eq_some hcan
      cases heval : c.evaluate with
      | none => exact .inr ⟨_, .noEvaluate hid hne hcan heval⟩
      | some evaluate =>
        exact IsOperational.wellFormed_or_refused
          ⟨hid, hne, hcan, Option.isSome_of_eq_some heval⟩
  · refine .inr ⟨_, .noId fun id heq => ?_⟩
    by_contra hne
    exact hid ⟨id, heq, hne⟩

theorem check_eq_ok_iff (c : Candidate σ) : (∃ p, c.check = .ok p) ↔ c.IsWellFormed := by
  constructor
  · rintro ⟨p, hp⟩
    rcases c.wellFormed_or_refused with hwell | ⟨fault, hrefused⟩
    · exact hwell
    · cases hp.symm.trans hrefused.check_eq
  · exact IsWellFormed.check_eq

theorem check_eq_error_iff {fault : Fault} : c.check = .error fault ↔ c.Refused fault := by
  constructor
  · intro hfault
    rcases c.wellFormed_or_refused with hwell | ⟨fault', hrefused⟩
    · obtain ⟨p, hp⟩ := hwell.check_eq
      cases hp.symm.trans hfault
    · cases hfault.symm.trans hrefused.check_eq
      exact hrefused
  · exact Refused.check_eq

/-- All reasons but one speak of a malformed value. -/
theorem Refused.isRefusal_iff {fault : Fault} (h : c.Refused fault) :
    fault.isRefusal = false ↔ fault = .unsuitable := by
  cases h <;> simp [Fault.isRefusal]

end Candidate

namespace Registry

theorem register_eq_ok_iff {r : Registry σ} {c : Candidate σ} :
    (∃ r', r.register c = .ok r') ↔ ∃ p, c.check = .ok p := by
  constructor
  · rintro ⟨r', h⟩
    obtain ⟨p, hcheck, -⟩ := register_eq_ok h
    exact ⟨p, hcheck⟩
  · rintro ⟨p, hcheck⟩
    refine ⟨r.insert p, ?_⟩
    rw [register, hcheck]
    rfl

theorem register_eq_error_iff {r : Registry σ} {c : Candidate σ} {fault : Fault} :
    r.register c = .error fault ↔ c.check = .error fault := by
  rw [register]
  cases c.check with
  | ok p => simp [Except.map]
  | error fault' => simp [Except.map]

/-- What comes of registering any object in any registry. It is taken exactly when it is well formed,
and each reason for which it is not taken is reported as such. As anything but a malformed value it is
turned away exactly when it has an id and both operations, and a number or a truth value in the place
of the tags. -/
theorem register_outcome (r : Registry σ) (c : Candidate σ) :
    ((∃ r', r.register c = .ok r') ↔ c.IsWellFormed) ∧
    (∀ fault, r.register c = .error fault ↔ c.Refused fault) ∧
    ((∃ fault, r.register c = .error fault ∧ fault.isRefusal = false) ↔
      (∃ id, c.IsOperational id) ∧ ∃ v, c.tags = some v ∧ Candidate.IsScalar v) := by
  refine ⟨register_eq_ok_iff.trans c.check_eq_ok_iff,
    fun fault => register_eq_error_iff.trans Candidate.check_eq_error_iff, ?_, ?_⟩
  · rintro ⟨fault, hfault, hkind⟩
    have hrefused := Candidate.check_eq_error_iff.mp (register_eq_error_iff.mp hfault)
    obtain rfl := hrefused.isRefusal_iff.mp hkind
    cases hrefused with
    | scalarTags hop htags hscalar => exact ⟨⟨_, hop⟩, _, htags, hscalar⟩
  · rintro ⟨⟨id, hop⟩, v, htags, hscalar⟩
    have hrefused : c.Refused .unsuitable := .scalarTags hop htags hscalar
    exact ⟨.unsuitable, register_eq_error_iff.mpr hrefused.check_eq, rfl⟩

/-- A number stands in the place of the tags: the object is not taken, and not for a malformed value. -/
theorem register_numberTags :
    let script : Script := ⟨some (.text "word".toList), some (.number (.int 5)), none, .any,
      .fixed (.bool true), []⟩
    Registry.empty.register script.candidate = .error .unsuitable ∧
      Fault.unsuitable.isRefusal = false ∧ ¬script.candidate.IsWellFormed := by
  intro script
  have herror : Registry.empty.register script.candidate = .error .unsuitable := rfl
  refine ⟨herror, rfl, fun hwell => ?_⟩
  obtain ⟨p, hcheck⟩ := hwell.check_eq
  cases hcheck.symm.trans (register_eq_error_iff.mp herror)

end Registry

end ItemQuery
