import ItemQuery.Proofs.Engine.Alike
import ItemQuery.Proofs.Query.Registry
import ItemQuery.Session

/-!
Sessions over a catalog. Whatever is registered goes on answering by the catalog, and whatever is
remembered goes on being a fact of it. So two sessions that differ in nothing but what they remember
reply alike to every action but the count of a cache (`Session.perform_alike`).
-/

namespace ItemQuery

open Search (Alike SameReply)

variable {c : Catalog}

/-! ## Registered predicates -/

/-- A predicate that answers the same whichever facts of the catalog are remembered. -/
def Predicate.Steady (c : Catalog) (p : Predicate (Memory Journal)) : Prop :=
  ∀ item, p.Alike (c.BothRecall c) item item p

theorem Attribute.bind_steady (keywords : BindKeywords) (cache : Nat) :
    (bind c.source keywords cache).Steady c :=
  fun _ => bind_alike c c rfl (fun _ _ _ => rfl) keywords cache

theorem Engine.builtIn_steady (sets : NamedSets) {p : Predicate (Memory Journal)}
    (h : p ∈ (Engine.builtIn c.source sets).predicates) : p.Steady c :=
  fun item => List.forall₂_same.mp ((Catalog.SameItem.refl c item).builtIn_alike sets) p h

namespace Script

theorem note_sameReply (call : Call) : SameReply (Journal.note call) (Journal.note call) :=
  fun _ _ _ => .ok trivial

theorem canSearch_sameReply (script : Script) (operator : Option Text) (text : Text) :
    SameReply (script.canSearch operator text) (script.canSearch operator text) :=
  .bind (note_sameReply _) fun _ => .pure _

theorem judgement_sameReply (script : Script) (item : Text) (operator : Option Text)
    (capture : Json) :
    SameReply (script.judgement item operator capture) (script.judgement item operator capture) := by
  refine .bind (note_sameReply _) fun _ => ?_
  cases script.outcome with
  | fails words => exact .throw _
  | contains => exact .pure _
  | fixed value => exact .pure _

theorem steady {script : Script} {p : Predicate (Memory Journal)}
    (h : script.candidate.check = .ok p) : p.Steady c := by
  obtain ⟨-, hcan, heval, -⟩ := Candidate.check_eq_ok h
  have hR : Search.IgnoresWorld (c.BothRecall c : Memory Journal → Memory Journal → Prop) :=
    c.bothRecall_ignoresWorld c
  simp only [candidate, Option.ite_none_left_eq_some, Option.some.injEq] at hcan heval
  intro item
  exact {
    tags := rfl
    tagOnly := rfl
    canSearch := fun operator text => by
      rw [← hcan.2]
      exact .ofWorld hR (script.canSearch_sameReply operator text)
    evaluate := fun operator capture => by
      rw [← heval.2]
      exact .ofWorld hR (.bind (script.judgement_sameReply item operator capture) fun _ => .pure _) }

end Script

namespace Session

/-! ## Sessions that hold facts -/

/-- A session over a catalog whose predicates are steady and which remembers facts alone. -/
structure Sound (c : Catalog) (s : Session) : Prop where
  source : s.engine.source = c.source
  catalog : s.catalog = some c
  steady : ∀ p ∈ s.engine.registry.predicates, p.Steady c
  recalls : c.Recalls s.memory

/-- A sound session and the same one with another sound memory. -/
def Twins (c : Catalog) (s t : Session) : Prop :=
  s.Sound c ∧ ∃ m, c.Recalls m ∧ t = { s with memory := m }

theorem Sound.twins {s : Session} (h : s.Sound c) : Twins c s s :=
  ⟨h, s.memory, h.recalls, rfl⟩

theorem Twins.sound {s t : Session} (h : Twins c s t) : t.Sound c := by
  obtain ⟨hs, m, hm, rfl⟩ := h
  exact { hs with recalls := hm }

theorem Sound.registry_alike {s : Session} (h : s.Sound c) (item : Text) :
    s.engine.registry.Alike (c.BothRecall c) item item s.engine.registry :=
  List.forall₂_same.mpr fun p hp => h.steady p hp item

theorem Sound.inSet_alike {s : Session} (h : s.Sound c) (ref : Text) (search : Option Text) :
    Alike (c.BothRecall c) (s.engine.inSet (some ref) search) (s.engine.inSet (some ref) search) :=
  Engine.inSet_alike (.refl c ref) (c.bothRecall_ignoresWorld c) h.source h.source rfl search

/-! ## Steps of an action -/

variable {α β : Type}

theorem ofSearch_alike {x : Search (Memory Journal) α} (h : Alike (c.BothRecall c) x x) :
    Alike (Twins c) (ofSearch x) (ofSearch x) := by
  rintro s _ ⟨hs, m, hm, rfl⟩
  have hout := h s.memory m ⟨hs.recalls, hm⟩
  simp only [ofSearch]
  generalize x s.memory = u, x m = v at hout
  cases hout with
  | ok hmm => exact .ok ⟨{ hs with recalls := hmm.1 }, _, hmm.2, rfl⟩
  | error hmm => exact .error ⟨{ hs with recalls := hmm.1 }, _, hmm.2, rfl⟩

theorem ofExcept_alike (x : Except Fault α) : Alike (Twins c) (ofExcept x) (ofExcept x) := by
  cases x with
  | ok a => exact .pure a
  | error fault => exact .throw fault

/-- The session is read for something that its memory has no part in. -/
theorem get_alike {f : Session → Run α} (hf : ∀ s m, f { s with memory := m } = f s)
    (h : ∀ s : Session, s.Sound c → Alike (Twins c) (f s) (f s)) :
    Alike (Twins c) (get >>= f) (get >>= f) :=
  .get_bind fun s t hst => by
    obtain ⟨hs, m, hm, rfl⟩ := hst
    rw [hf s m]
    exact h s hs _ _ ⟨hs, m, hm, rfl⟩

/-- A reply that is read off the session. -/
theorem shown_alike {f : Session → Reply} (hf : ∀ s m, f { s with memory := m } = f s) :
    Alike (Twins c) (do return f (← get) : Run Reply) (do return f (← get)) :=
  get_alike (fun s m => congrArg pure (hf s m)) fun s _ => .pure (f s)

theorem shownOrFault_alike {f : Session → Except Fault α} {reply : α → Reply}
    (hf : ∀ s m, f { s with memory := m } = f s) :
    Alike (Twins c) (do return reply (← ofExcept (f (← get))) : Run Reply)
      (do return reply (← ofExcept (f (← get)))) :=
  get_alike (fun s m => by rw [hf]) fun s _ => .bind (ofExcept_alike _) fun a => .pure (reply a)

theorem searched_alike {x : Session → Search (Memory Journal) α} {reply : α → Reply}
    (hx : ∀ s m, x { s with memory := m } = x s)
    (h : ∀ s : Session, s.Sound c → Alike (c.BothRecall c) (x s) (x s)) :
    Alike (Twins c) (do return reply (← ofSearch (x (← get))) : Run Reply)
      (do return reply (← ofSearch (x (← get)))) :=
  get_alike (fun s m => by rw [hx]) fun s hs =>
    .bind (ofSearch_alike (h s hs)) fun a => .pure (reply a)

theorem predicate_alike (id : Text) {f : Predicate (Memory Journal) → Run α}
    (h : ∀ p, p.Steady c → Alike (Twins c) (f p) (f p)) :
    Alike (Twins c) (predicate id >>= f) (predicate id >>= f) := by
  unfold predicate
  simp only [bind_assoc]
  refine get_alike (fun _ _ => rfl) fun s hs => ?_
  cases hp : s.engine.registry.get? id with
  | none => exact fun _ _ ht => .error ht
  | some p =>
    simp only [pure_bind]
    exact h p (hs.steady p (List.mem_of_find?_eq_some hp))

theorem theCatalog_alike {f : Catalog → Run α} (h : Alike (Twins c) (f c) (f c)) :
    Alike (Twins c) (theCatalog >>= f) (theCatalog >>= f) := by
  unfold theCatalog
  simp only [bind_assoc]
  refine get_alike (fun _ _ => rfl) fun s hs => ?_
  rw [hs.catalog]
  simp only [pure_bind]
  exact h

end Session

end ItemQuery
