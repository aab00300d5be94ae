import ItemQuery.Proofs.Query.Registry
import ItemQuery.Proofs.Query.Trace
import Mathlib.Data.List.Induction

/-!
Registries over a history of calls, some of which are refused. What has been accepted decides
everything: the ids in the order in which they first came, each with the last predicate that came
for it, and nothing is left of a refused call (`Registry.after_history`). So every registered object
can be read again for its aliases, and looking for a tag never fails.
-/

namespace ItemQuery

variable {σ : Type}

namespace Registry

/-! ## Calls -/

/-- Offers an object to a registry. -/
def offer (c : Candidate σ) : EStateM Fault (Registry σ) Unit := do
  let r ← get
  set (← Search.ofExcept (r.register c))

/-- The registry after a history of calls, whether they were refused or not. -/
def after (history : List (Candidate σ)) : Registry σ :=
  history.foldl (fun r c => finalState (offer c r)) empty

/-- The predicates that were accepted, in the order of the calls. -/
def accepted (history : List (Candidate σ)) : List (Predicate σ) :=
  history.filterMap fun c => c.check.toOption

theorem offer_of_ok {c : Candidate σ} {p : Predicate σ} (h : c.check = .ok p) (r : Registry σ) :
    offer c r = .ok () (r.insert p) := by
  have hregister : r.register c = .ok (r.insert p) := by
    rw [register, h]
    rfl
  show (Search.ofExcept (r.register c) >>= set : EStateM Fault (Registry σ) Unit) r = _
  rw [hregister]
  rfl

theorem offer_of_error {c : Candidate σ} {fault : Fault} (h : c.check = .error fault)
    (r : Registry σ) : offer c r = .error fault r := by
  have hregister : r.register c = .error fault := by
    rw [register, h]
    rfl
  show (Search.ofExcept (r.register c) >>= set : EStateM Fault (Registry σ) Unit) r = _
  rw [hregister]
  rfl

/-- A history does what registering the accepted predicates does. -/
theorem after_eq_ofList (history : List (Candidate σ)) : after history = ofList (accepted history) := by
  have hfold : ∀ r : Registry σ, history.foldl (fun r c => finalState (offer c r)) r =
      (accepted history).foldl insert r := by
    induction history with
    | nil => exact fun r => rfl
    | cons c history ih =>
      intro r
      cases h : c.check with
      | ok p =>
        have hcons : accepted (c :: history) = p :: accepted history := by
          simp [accepted, h, Except.toOption]
        rw [List.foldl_cons, offer_of_ok h, hcons, List.foldl_cons]
        exact ih (r.insert p)
      | error fault =>
        have hcons : accepted (c :: history) = accepted history := by
          simp [accepted, h, Except.toOption]
        rw [List.foldl_cons, offer_of_error h, hcons]
        exact ih r
  exact hfold empty

theorem exists_of_mem_accepted {history : List (Candidate σ)} {p : Predicate σ}
    (h : p ∈ accepted history) : ∃ c ∈ history, c.check = .ok p := by
  obtain ⟨c, hc, hp⟩ := List.mem_filterMap.mp h
  refine ⟨c, hc, ?_⟩
  cases hcheck : c.check with
  | ok q =>
    rw [hcheck] at hp
    cases hp
    rfl
  | error fault =>
    rw [hcheck] at hp
    cases hp

/-- Registered predicates come from objects of the history, one for each. -/
theorem exists_objects {history : List (Candidate σ)} {ps : List (Predicate σ)}
    (h : ∀ p ∈ ps, ∃ c ∈ history, c.check = .ok p) :
    ∃ objects, (∀ c ∈ objects, c ∈ history) ∧
      List.Forall₂ (fun c p => c.check = .ok p) objects ps := by
  induction ps with
  | nil => exact ⟨[], List.forall_mem_nil _, .nil⟩
  | cons p ps ih =>
    obtain ⟨⟨c, hc, hcheck⟩, hps⟩ := List.forall_mem_cons.mp h
    obtain ⟨objects, hobjects, hchecks⟩ := ih hps
    exact ⟨c :: objects, List.forall_mem_cons.mpr ⟨hc, hobjects⟩, .cons hcheck hchecks⟩

/-! ## One predicate more -/

/-- The ids of the registered predicates, in order. -/
def ids (r : Registry σ) : List Text := r.predicates.map (·.id)

theorem ids_insert (r : Registry σ) (p : Predicate σ) :
    (r.insert p).ids = if p.id ∈ r.ids then r.ids else r.ids ++ [p.id] := by
  obtain ⟨ps⟩ := r
  show (put p ps).map (·.id) = if p.id ∈ ps.map (·.id) then ps.map (·.id) else ps.map (·.id) ++ [p.id]
  induction ps with
  | nil => rfl
  | cons q ps ih =>
    unfold put
    by_cases hq : q.id = p.id
    · rw [if_pos hq, if_pos (by simp [hq]), List.map_cons, List.map_cons, hq]
    · rw [if_neg hq, List.map_cons, List.map_cons, ih]
      by_cases hp : p.id ∈ ps.map (·.id)
      · rw [if_pos hp, if_pos (List.mem_cons_of_mem _ hp)]
      · rw [if_neg hp, if_neg (by simp [hp, Ne.symm hq]), List.cons_append]

theorem get?_insert (r : Registry σ) (p : Predicate σ) (id : Text) :
    (r.insert p).get? id = if p.id = id then some p else r.get? id := by
  obtain ⟨ps⟩ := r
  show (put p ps).find? (·.id == id) = if p.id = id then some p else ps.find? (·.id == id)
  induction ps with
  | nil => by_cases hid : p.id = id <;> simp [put, hid]
  | cons q ps ih =>
    unfold put
    by_cases hq : q.id = p.id
    · by_cases hid : p.id = id <;> simp [hq, hid]
    · by_cases hqid : q.id = id
      · have hid : p.id ≠ id := fun hid => hq (hqid.trans hid.symm)
        rw [if_neg hq, if_neg hid, List.find?_cons_of_pos (by simpa using hqid),
          List.find?_cons_of_pos (by simpa using hqid)]
      · simpa [hq, hqid] using ih

theorem nodup_ids_insert {r : Registry σ} (h : r.ids.Nodup) (p : Predicate σ) :
    (r.insert p).ids.Nodup := by
  rw [ids_insert]
  by_cases hp : p.id ∈ r.ids
  · rwa [if_pos hp]
  · rw [if_neg hp]
    refine List.nodup_append.mpr ⟨h, List.nodup_cons.mpr ⟨List.not_mem_nil, List.nodup_nil⟩, ?_⟩
    rintro id hid other hother rfl
    exact hp (List.mem_singleton.mp hother ▸ hid)

/-! ## Any number of predicates -/

/-- Predicates are registered from the front, so that inductions over them go from the end. -/
theorem ofList_append (ps : List (Predicate σ)) (p : Predicate σ) :
    ofList (ps ++ [p]) = (ofList ps).insert p := by
  rw [ofList, List.foldl_append]
  rfl

/-- The ids stand in the order in which each came first. -/
theorem ids_ofList (ps : List (Predicate σ)) : (ofList ps).ids = (ps.map (·.id)).eraseDups := by
  induction ps using List.reverseRecOn with
  | nil => rfl
  | append_singleton ps p ih =>
    rw [ofList_append, ids_insert, ih, List.map_append, List.map_singleton, List.eraseDups_append]
    by_cases hp : p.id ∈ ps.map (·.id)
    · have hnone : [p.id].removeAll (ps.map (·.id)) = [] := List.filter_cons_of_neg (by simpa using hp)
      rw [if_pos (List.mem_eraseDups.mpr hp), hnone, List.eraseDups_nil, List.append_nil]
    · have hone : [p.id].removeAll (ps.map (·.id)) = [p.id] :=
        List.filter_cons_of_pos (by simpa using hp)
      rw [if_neg (fun h => hp (List.mem_eraseDups.mp h)), hone]
      rfl

theorem nodup_ids_ofList (ps : List (Predicate σ)) : (ofList ps).ids.Nodup := by
  induction ps using List.reverseRecOn with
  | nil => exact List.nodup_nil
  | append_singleton ps p ih =>
    rw [ofList_append]
    exact nodup_ids_insert ih p

/-- Each id has the last predicate that came for it. -/
theorem get?_ofList (ps : List (Predicate σ)) (id : Text) :
    (ofList ps).get? id = ps.reverse.find? (·.id == id) := by
  induction ps using List.reverseRecOn with
  | nil => rfl
  | append_singleton ps p ih =>
    rw [ofList_append, get?_insert, ih, List.reverse_append]
    by_cases hp : p.id = id <;> simp [hp]

theorem mem_of_mem_ofList {ps : List (Predicate σ)} {p : Predicate σ}
    (h : p ∈ (ofList ps).predicates) : p ∈ ps := by
  induction ps using List.reverseRecOn with
  | nil => exact absurd h List.not_mem_nil
  | append_singleton ps q ih =>
    rw [ofList_append] at h
    rcases mem_insert h with rfl | hold
    · exact List.mem_append_right ps (List.mem_singleton_self p)
    · exact List.mem_append_left [q] (ih hold)

/-- What is listed under an id is what is found for it. -/
theorem get?_of_mem {r : Registry σ} (h : r.ids.Nodup) {p : Predicate σ} (hp : p ∈ r.predicates) :
    r.get? p.id = some p := by
  obtain ⟨ps⟩ := r
  unfold ids at h
  unfold get?
  induction ps with
  | nil => exact absurd hp List.not_mem_nil
  | cons q ps ih =>
    rw [List.map_cons, List.nodup_cons] at h
    rcases List.mem_cons.mp hp with rfl | hrest
    · simp
    · have hq : q.id ≠ p.id := fun hq => h.1 (hq ▸ List.mem_map_of_mem hrest)
      simpa [hq] using ih h.2 hrest

theorem contains_iff_mem_ids (r : Registry σ) (id : Text) : r.contains id = true ↔ id ∈ r.ids := by
  rw [contains, get?, List.find?_isSome, ids, List.mem_map]
  simp only [beq_iff_eq]

end Registry

/-! ## Aliases of an object -/

namespace Candidate

theorem tag?_eq_some {v : Json} {tag : Text} (h : tag? v = some tag) : v = .text tag ∧ tag ≠ [] := by
  unfold tag? at h
  split at h
  · cases h
    exact ⟨rfl, List.cons_ne_nil _ _⟩
  · cases h

theorem mapM_tag?_eq_some {items : List Json} {tags : List Text} (h : items.mapM tag? = some tags) :
    items = tags.map .text ∧ ∀ tag ∈ tags, tag ≠ [] := by
  induction items generalizing tags with
  | nil =>
    cases h
    exact ⟨rfl, List.forall_mem_nil _⟩
  | cons v items ih =>
    rw [List.mapM_cons] at h
    obtain ⟨tag, htag, h⟩ := Option.bind_eq_some_iff.mp h
    obtain ⟨rest, hrest, h⟩ := Option.bind_eq_some_iff.mp h
    cases h
    obtain ⟨rfl, hne⟩ := tag?_eq_some htag
    obtain ⟨rfl, hall⟩ := ih hrest
    exact ⟨rfl, List.forall_mem_cons.mpr ⟨hne, hall⟩⟩

theorem checkTags_eq_ok {id : Text} {tags? : Option Json} {tags : List Text}
    (h : checkTags id tags? = .ok tags) :
    tagsOf tags? = .ok (tags.map .text) ∧ ∀ tag ∈ tags, tag ≠ [] := by
  unfold checkTags at h
  cases hitems : tagsOf tags? with
  | error fault =>
    rw [hitems] at h
    cases fault <;> cases h
  | ok items =>
    simp only [hitems] at h
    cases hread : items.mapM tag? with
    | none =>
      rw [hread] at h
      cases h
    | some read =>
      rw [hread] at h
      cases h
      obtain ⟨rfl, hne⟩ := mapM_tag?_eq_some hread
      exact ⟨rfl, hne⟩

theorem id_ne_nil_of_check {c : Candidate σ} {p : Predicate σ} (h : c.check = .ok p) : p.id ≠ [] := by
  have hid := (check_eq_ok h).1
  unfold checkId at hid
  split at hid
  · rw [← Except.ok.inj hid]
    exact List.cons_ne_nil _ _
  · cases hid

/-- An accepted object lists the tags of its predicate, and they are texts that are not empty. -/
theorem tags_of_check {c : Candidate σ} {p : Predicate σ} (h : c.check = .ok p) :
    tagsOf c.tags = .ok (p.tags.map .text) ∧ ∀ tag ∈ p.tags, tag ≠ [] := by
  obtain ⟨-, -, -, -, tags, htags, hdeclared⟩ := check_eq_ok h
  obtain ⟨hitems, hne⟩ := checkTags_eq_ok htags
  have hp : p.tags = tags := by
    unfold Predicate.tags
    rw [hdeclared]
    cases htagsOf : c.tags with
    | some v => rfl
    | none =>
      rw [htagsOf] at hitems
      exact (List.map_eq_nil_iff.mp (Except.ok.inj hitems).symm).symm
  rw [hp]
  exact ⟨hitems, hne⟩

/-- A value in small letters. Only a text has any. -/
def lowered : Json → Except Fault Text
  | .text t => .ok (Text.lower t)
  | _ => .error .noSuchPart

/-- Whether some alias passes a test. They are read one after the other, up to the first that does. -/
def anyAlias (test : Text → Bool) : List Json → Except Fault Bool
  | [] => .ok false
  | v :: rest => do if test (← lowered v) then return true else anyAlias test rest

/-- The first object with an alias that passes a test. -/
def findByAlias (test : Text → Bool) : List (Candidate σ) → Except Fault (Option (Candidate σ))
  | [] => .ok none
  | c :: rest => do
    if ← anyAlias test (← tagsOf c.tags) then return some c else findByAlias test rest

/-- The object that a tag reaches. Every alias is read anew, and may turn out to be none. -/
def resolve (objects : List (Candidate σ)) (tag : Text) : Except Fault (Option (Candidate σ)) := do
  let tag := Text.lower tag
  match ← findByAlias (· == tag) objects with
  | some c => return some c
  | none => findByAlias (tag.isPrefixOf ·) objects

theorem anyAlias_texts (test : Text → Bool) (tags : List Text) :
    anyAlias test (tags.map .text) = .ok (tags.any fun t => test (Text.lower t)) := by
  induction tags with
  | nil => rfl
  | cons t tags ih =>
    show (if test (Text.lower t) = true then .ok true else anyAlias test (tags.map .text)) = _
    rw [ih, List.any_cons]
    cases test (Text.lower t) <;> rfl

/-- Looking among accepted objects never fails and finds the object of the predicate found. -/
theorem findByAlias_of_check (test : Text → Bool) {objects : List (Candidate σ)}
    {ps : List (Predicate σ)} (h : List.Forall₂ (fun c p => c.check = .ok p) objects ps) :
    ∃ found, findByAlias test objects = .ok found ∧
      Option.Rel (fun c p => c.check = .ok p) found
        (ps.find? fun p => p.tags.any fun t => test (Text.lower t)) := by
  induction h with
  | nil => exact ⟨none, rfl, .none⟩
  | @cons c p objects ps hcheck _ ih =>
    obtain ⟨found, hfound, hrel⟩ := ih
    have hrun : findByAlias test (c :: objects) =
        if (p.tags.any fun t => test (Text.lower t)) = true then .ok (some c)
        else findByAlias test objects := by
      show (tagsOf c.tags >>= fun tags => anyAlias test tags >>= fun passed =>
        if passed = true then .ok (some c) else findByAlias test objects) = _
      rw [(tags_of_check hcheck).1]
      show (anyAlias test (p.tags.map .text) >>= fun passed =>
        if passed = true then .ok (some c) else findByAlias test objects) = _
      rw [anyAlias_texts]
      rfl
    rw [hrun, List.find?_cons]
    cases p.tags.any fun t => test (Text.lower t) with
    | true => exact ⟨some c, rfl, .some hcheck⟩
    | false => exact ⟨found, hfound, hrel⟩

end Candidate

namespace Registry

theorem resolve_of_check {objects : List (Candidate σ)} {r : Registry σ}
    (h : List.Forall₂ (fun c p => c.check = .ok p) objects r.predicates) (tag : Text) :
    ∃ found, Candidate.resolve objects tag = .ok found ∧
      Option.Rel (fun c p => c.check = .ok p) found (r.resolve? tag) := by
  obtain ⟨named, hnamed, hrelNamed⟩ := Candidate.findByAlias_of_check (· == Text.lower tag) h
  obtain ⟨begun, hbegun, hrelBegun⟩ :=
    Candidate.findByAlias_of_check ((Text.lower tag).isPrefixOf ·) h
  have hrun : Candidate.resolve objects tag = .ok (named.or begun) := by
    unfold Candidate.resolve
    simp only [hnamed]
    cases named with
    | none => exact hbegun
    | some c => rfl
  refine ⟨named.or begun, hrun, ?_⟩
  rw [resolve?_eq]
  change Option.Rel _ named (r.predicates.find? (hasAlias (Text.lower tag))) at hrelNamed
  generalize r.predicates.find? (hasAlias (Text.lower tag)) = p? at hrelNamed ⊢
  cases hrelNamed with
  | none => exact hrelBegun
  | some hcheck => exact .some hcheck

/-- The registry after any history of calls. Each id is listed once, in the order of its first
success, with the predicate of its last; a call that is refused changes nothing; and tags are looked
for without failing among the objects that were registered, whose aliases are read anew. -/
theorem after_history (history : List (Candidate σ)) :
    ((after history).ids = ((accepted history).map (·.id)).eraseDups ∧ (after history).ids.Nodup) ∧
    (∀ id, (after history).get? id = (accepted history).reverse.find? (·.id == id)) ∧
    ((∀ p ∈ (after history).predicates, (after history).get? p.id = some p) ∧
      (after history).size = (after history).ids.length ∧
      ∀ id, (after history).contains id = true ↔ id ∈ (after history).ids) ∧
    (∀ c, (∃ p, c.check = .ok p ∧ offer c (after history) = .ok () ((after history).insert p)) ∨
      ∃ fault, c.check = .error fault ∧ offer c (after history) = .error fault (after history)) ∧
    (∀ p ∈ (after history).predicates, p.id ≠ [] ∧ ∀ tag ∈ p.tags, tag ≠ []) ∧
    ∃ objects, (∀ c ∈ objects, c ∈ history) ∧
      List.Forall₂ (fun c p => c.check = .ok p) objects (after history).predicates ∧
      ∀ tag, ∃ found, Candidate.resolve objects tag = .ok found ∧
        Option.Rel (fun c p => c.check = .ok p) found ((after history).resolve? tag) := by
  have hnodup : (after history).ids.Nodup := by
    rw [after_eq_ofList]
    exact nodup_ids_ofList _
  have hchecked : ∀ p ∈ (after history).predicates, ∃ c ∈ history, c.check = .ok p := by
    rw [after_eq_ofList]
    exact fun p hp => exists_of_mem_accepted (mem_of_mem_ofList hp)
  refine ⟨⟨?ids, hnodup⟩, ?get, ⟨fun p hp => get?_of_mem hnodup hp, (List.length_map _).symm,
    contains_iff_mem_ids _⟩, ?calls, ?formed, ?resolves⟩
  case ids =>
    rw [after_eq_ofList]
    exact ids_ofList _
  case get =>
    rw [after_eq_ofList]
    exact get?_ofList _
  case calls =>
    intro c
    cases hcheck : c.check with
    | ok p => exact .inl ⟨p, rfl, offer_of_ok hcheck _⟩
    | error fault => exact .inr ⟨fault, rfl, offer_of_error hcheck _⟩
  case formed =>
    intro p hp
    obtain ⟨c, -, hcheck⟩ := hchecked p hp
    exact ⟨Candidate.id_ne_nil_of_check hcheck, (Candidate.tags_of_check hcheck).2⟩
  case resolves =>
    obtain ⟨objects, hobjects, hchecks⟩ := exists_objects hchecked
    exact ⟨objects, hobjects, hchecks, resolve_of_check hchecks⟩

end Registry

end ItemQuery
