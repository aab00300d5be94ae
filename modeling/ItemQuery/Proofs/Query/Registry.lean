import ItemQuery.Proofs.Search
import ItemQuery.Query.Registry

/-!
What registering does: an accepted candidate is the predicate that it looks like, and of the
registered predicates at most the one with its id gives way to it. And what a tag reaches: the first
predicate that bears it, or else the first with an alias that begins with it.
-/

namespace ItemQuery

variable {σ : Type}

/-! ## Accepted candidates -/

theorem Candidate.checkMethod_eq_ok {α : Type} {id : Text} {method : Method} {f? : Option α}
    {f : α} (h : checkMethod id method f? = .ok f) : f? = some f := by
  cases f? with
  | none => cases h
  | some g => exact congrArg some (Except.ok.inj h)

/-- Everything that is known of the predicate when a candidate has passed its checks. -/
theorem Candidate.check_eq_ok {candidate : Candidate σ} {p : Predicate σ}
    (h : candidate.check = .ok p) :
    candidate.checkId = .ok p.id ∧ candidate.canSearch = some p.canSearch ∧
      candidate.evaluate = some p.evaluate ∧
      p.declaredTagOnly = candidate.tagOnly.map Json.isTruthy ∧
      ∃ tags, checkTags p.id candidate.tags = .ok tags ∧
        p.declaredTags = candidate.tags.map fun _ => tags := by
  obtain ⟨id, hid, h⟩ := Except.bind_eq_ok h
  obtain ⟨canSearch, hcan, h⟩ := Except.bind_eq_ok h
  obtain ⟨evaluate, heval, h⟩ := Except.bind_eq_ok h
  obtain ⟨tags, htags, h⟩ := Except.bind_eq_ok h
  cases h
  exact ⟨hid, checkMethod_eq_ok hcan, checkMethod_eq_ok heval, rfl, tags, htags, rfl⟩

namespace Registry

theorem mem_put {p q : Predicate σ} {ps : List (Predicate σ)} (h : q ∈ put p ps) :
    q = p ∨ q ∈ ps := by
  induction ps with
  | nil => exact .inl (List.mem_singleton.mp h)
  | cons p' ps ih =>
    unfold put at h
    split at h
    · rcases List.mem_cons.mp h with rfl | hrest
      · exact .inl rfl
      · exact .inr (List.mem_cons_of_mem _ hrest)
    · rcases List.mem_cons.mp h with rfl | hrest
      · exact .inr List.mem_cons_self
      · exact (ih hrest).imp_right (List.mem_cons_of_mem _)

theorem mem_insert {r : Registry σ} {p q : Predicate σ} (h : q ∈ (r.insert p).predicates) :
    q = p ∨ q ∈ r.predicates :=
  mem_put h

theorem register_eq_ok {r r' : Registry σ} {candidate : Candidate σ}
    (h : r.register candidate = .ok r') : ∃ p, candidate.check = .ok p ∧ r' = r.insert p := by
  obtain ⟨p, hcheck, h⟩ := Except.bind_eq_ok h
  exact ⟨p, hcheck, (Except.ok.inj h).symm⟩

end Registry

/-! ## Aliases and tags -/

/-- Some alias is the tag, without regard to case. -/
def Predicate.NamedBy (p : Predicate σ) (tag : Text) : Prop :=
  ∃ name ∈ p.tags, Text.lower name = Text.lower tag

/-- Some alias begins with the tag, without regard to case. -/
def Predicate.BegunBy (p : Predicate σ) (tag : Text) : Prop :=
  ∃ name ∈ p.tags, Text.lower tag <+: Text.lower name

instance (p : Predicate σ) (tag : Text) : Decidable (p.NamedBy tag) :=
  inferInstanceAs (Decidable (∃ name ∈ p.tags, Text.lower name = Text.lower tag))

theorem Predicate.NamedBy.begunBy {p : Predicate σ} {tag : Text} (h : p.NamedBy tag) :
    p.BegunBy tag := by
  obtain ⟨name, hname, heq⟩ := h
  exact ⟨name, hname, heq ▸ List.prefix_refl _⟩

namespace Registry

theorem hasAlias_iff {p : Predicate σ} {tag : Text} :
    hasAlias (Text.lower tag) p = true ↔ p.NamedBy tag := by
  simp [hasAlias, Predicate.NamedBy]

theorem hasAliasFrom_iff {p : Predicate σ} {tag : Text} :
    hasAliasFrom (Text.lower tag) p = true ↔ p.BegunBy tag := by
  simp [hasAliasFrom, Predicate.BegunBy]

theorem find?_hasAlias_eq_none {ps : List (Predicate σ)} {tag : Text} :
    ps.find? (hasAlias (Text.lower tag)) = none ↔ ∀ p ∈ ps, ¬p.NamedBy tag := by
  simp only [List.find?_eq_none, hasAlias_iff]

theorem find?_hasAliasFrom_eq_none {ps : List (Predicate σ)} {tag : Text} :
    ps.find? (hasAliasFrom (Text.lower tag)) = none ↔ ∀ p ∈ ps, ¬p.BegunBy tag := by
  simp only [List.find?_eq_none, hasAliasFrom_iff]

/-- A tag is looked for among whole aliases, and then among their beginnings. -/
theorem resolve?_eq (r : Registry σ) (tag : Text) :
    r.resolve? tag = (r.predicates.find? (hasAlias (Text.lower tag))).or
      (r.predicates.find? (hasAliasFrom (Text.lower tag))) :=
  rfl

end Registry

end ItemQuery
