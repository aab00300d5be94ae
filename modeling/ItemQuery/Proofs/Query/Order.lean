import ItemQuery.Proofs.Query.Extension
import ItemQuery.Proofs.Query.Faults

/-!
The order of registration. Where the predicates are settled, an atom without a tag asks whether some
predicate accepts the item, and a tag that leaves no choice reaches one predicate in every order. So
the order is seen by ambiguous tags alone (`Registry.evaluate_of_perm`).
-/

namespace ItemQuery

open Search (Settles FaultsIn)

variable {σ ω α : Type}

/-! ## Settled predicates -/

/-- A computation that gives one value whatever the state, and raises nothing. -/
abbrev Search.Gives (x : Search σ α) (a : α) : Prop := Settles (fun _ => True) x a

theorem Search.Gives.faultsIn {x : Search σ α} {a : α} (h : Gives x a) (F : Fault → Prop) :
    FaultsIn F x := by
  intro s
  obtain ⟨s', -, hrun⟩ := h s trivial
  rw [hrun]
  trivial

theorem Search.Gives.ofWorld {x : Search ω α} {a : α} (h : Gives x a) :
    Gives (Search.ofWorld x) a := by
  intro m _
  obtain ⟨w, -, hrun⟩ := h m.world trivial
  exact ⟨{ m with world := w }, trivial, Search.ofWorld_of_ok hrun⟩

/-- A predicate whose operations raise nothing about an item and give the same in every state. -/
structure Predicate.Settled (item : Text) (p : Predicate σ) : Prop where
  canSearch : ∀ operator text, ∃ capture?, Search.Gives (p.canSearch operator text) capture?
  evaluate : ∀ operator capture, ∃ answer, Search.Gives (p.evaluate item operator capture) answer

theorem Predicate.Settled.judge {item : Text} {p : Predicate σ} (h : p.Settled item)
    (operator : Option Text) (text : Text) :
    ∃ answer, Search.Gives (p.judge item operator text) answer := by
  unfold Predicate.judge
  extract_lets normal negated plain
  obtain ⟨capture?, hcapture⟩ := h.canSearch plain text
  cases capture? with
  | none => exact ⟨false, .bind hcapture (.pure false)⟩
  | some capture =>
    obtain ⟨answer, hanswer⟩ := h.evaluate plain capture
    exact ⟨answer != negated, .bind hcapture (.bind hanswer (.pure _))⟩

/-- A script that does not fail is settled, although it writes its calls down. -/
theorem Script.settled {script : Script} {p : Predicate (Memory Journal)}
    (h : script.candidate.check = .ok p) (hreturns : ∀ words, script.outcome ≠ .fails words)
    (item : Text) : p.Settled item := by
  obtain ⟨-, hcan, heval, -⟩ := Candidate.check_eq_ok h
  simp only [candidate, Option.ite_none_left_eq_some, Option.some.injEq] at hcan heval
  have hnote (call : Call) : Search.Gives (Journal.note call) () := fun j _ => ⟨_, trivial, rfl⟩
  constructor
  · intro operator text
    rw [← hcan.2]
    exact ⟨_, .ofWorld (.bind (hnote _) (.pure _))⟩
  · intro operator capture
    rw [← heval.2]
    have hjudgement : ∃ value, Search.Gives (script.judgement item operator capture) value := by
      unfold judgement
      cases houtcome : script.outcome with
      | fails words => exact absurd houtcome (hreturns words)
      | contains => exact ⟨_, .bind (hnote _) (.pure _)⟩
      | fixed value => exact ⟨value, .bind (hnote _) (.pure value)⟩
    obtain ⟨value, hvalue⟩ := hjudgement
    exact ⟨_, .ofWorld (.bind hvalue (.pure _))⟩

namespace Registry

/-! ## Tags that leave no choice -/

/-- A tag that is an alias of just one predicate, or of none and the beginning of at most one's. -/
def Unambiguous (ps : List (Predicate σ)) (tag : Text) : Prop :=
  (∃ p ∈ ps, p.NamedBy tag ∧ ∀ q ∈ ps, q.NamedBy tag → q = p) ∨
  ((∀ p ∈ ps, ¬p.NamedBy tag) ∧ ∀ p ∈ ps, ∀ q ∈ ps, p.BegunBy tag → q.BegunBy tag → p = q)

/-- What passes a test that only one element passes is found in every order. -/
theorem find?_eq_of_perm {β : Type} {as bs : List β} {f : β → Bool} (h : as.Perm bs)
    (hone : ∀ a ∈ as, ∀ b ∈ as, f a = true → f b = true → a = b) : as.find? f = bs.find? f := by
  cases ha : as.find? f with
  | none =>
    rw [List.find?_eq_none] at ha
    rw [eq_comm, List.find?_eq_none]
    exact fun b hb => ha b (h.mem_iff.mpr hb)
  | some a =>
    have hmem := List.mem_of_find?_eq_some ha
    have htest := List.find?_some ha
    cases hb : bs.find? f with
    | none => exact absurd htest (List.find?_eq_none.mp hb a (h.mem_iff.mp hmem))
    | some b =>
      have hmem' := h.mem_iff.mpr (List.mem_of_find?_eq_some hb)
      rw [hone a hmem b hmem' htest (List.find?_some hb)]

/-- The one predicate that a tag names is found before any beginning is looked at, in whatever order. -/
theorem resolve?_of_perm {r r' : Registry σ} (h : r.predicates.Perm r'.predicates) {tag : Text}
    (htag : Unambiguous r.predicates tag) : r.resolve? tag = r'.resolve? tag := by
  rw [resolve?_eq, resolve?_eq]
  rcases htag with ⟨p, hp, hnamed, hone⟩ | ⟨hnone, hone⟩
  · have hexact := find?_eq_of_perm (f := hasAlias (Text.lower tag)) h fun a ha b hb hna hnb =>
      (hone a ha (hasAlias_iff.mp hna)).trans (hone b hb (hasAlias_iff.mp hnb)).symm
    have hfound : r.predicates.find? (hasAlias (Text.lower tag)) ≠ none :=
      fun hfind => find?_hasAlias_eq_none.mp hfind p hp hnamed
    obtain ⟨q, hq⟩ := Option.ne_none_iff_exists'.mp hfound
    rw [← hexact, hq]
    rfl
  · have hnone' : ∀ p ∈ r'.predicates, ¬p.NamedBy tag := fun p hp => hnone p (h.mem_iff.mpr hp)
    have hfrom := find?_eq_of_perm (f := hasAliasFrom (Text.lower tag)) h fun a ha b hb hba hbb =>
      hone a ha b hb (hasAliasFrom_iff.mp hba) (hasAliasFrom_iff.mp hbb)
    rw [find?_hasAlias_eq_none.mpr hnone, find?_hasAlias_eq_none.mpr hnone', hfrom]

/-! ## Registries in two orders -/

variable {r r' : Registry σ} {item : Text}

/-- Probing settled predicates asks whether one of them accepts, and the order is not seen. -/
theorem probe_of_perm {ps qs : List (Predicate σ)} (h : ps.Perm qs)
    (hsettled : ∀ p ∈ ps, p.Settled item) (operator : Option Text) (text : Text) :
    ∃ answer, Search.Gives (probe item operator text ps) answer ∧
      Search.Gives (probe item operator text qs) answer := by
  have hjudge : ∀ p, ∃ answer, p ∈ ps → Search.Gives (p.judge item operator text) answer := by
    intro p
    by_cases hp : p ∈ ps
    · obtain ⟨answer, hanswer⟩ := (hsettled p hp).judge operator text
      exact ⟨answer, fun _ => hanswer⟩
    · exact ⟨false, fun hp' => absurd hp' hp⟩
  choose answer hanswer using hjudge
  have hfilter := h.filter fun p => !p.tagOnly
  have hany : (ps.filter fun p => !p.tagOnly).any answer =
      (qs.filter fun p => !p.tagOnly).any answer := by
    rw [Bool.eq_iff_iff, List.any_eq_true, List.any_eq_true]
    simp only [hfilter.mem_iff]
  rw [probe_eq, probe_eq]
  refine ⟨_, .anyOf fun p hp => hanswer p (List.mem_filter.mp hp).1, ?_⟩
  rw [hany]
  exact .anyOf fun p hp => hanswer p (List.mem_filter.mp (hfilter.mem_iff.mpr hp)).1

theorem evaluateRead_of_perm (h : r.predicates.Perm r'.predicates)
    (hsettled : ∀ p ∈ r.predicates, p.Settled item) {atom : Atom}
    (htag : ∀ tag, atom.tag = some tag → Unambiguous r.predicates tag) (fallback : Bool) :
    ∃ answer, Search.Gives (r.evaluateRead item fallback atom) answer ∧
      Search.Gives (r'.evaluateRead item fallback atom) answer := by
  unfold evaluateRead
  cases hatom : atom.tag with
  | none => exact probe_of_perm h hsettled _ _
  | some tag =>
    dsimp only
    rw [← resolve?_of_perm h (htag tag hatom)]
    cases hresolve : r.resolve? tag with
    | none => exact ⟨fallback, .pure fallback, .pure fallback⟩
    | some p =>
      obtain ⟨answer, hanswer⟩ := (hsettled p (mem_of_resolve? hresolve)).judge atom.operator atom.text
      exact ⟨answer, hanswer, hanswer⟩

/-- Nothing is raised about an item by a query when the predicates are settled. -/
theorem evaluate_ends_of_settled (hsettled : ∀ p ∈ r.predicates, p.Settled item) (query : Text) :
    FaultsIn (fun _ => False) (r.evaluate item query) := by
  refine evaluate_ends fun atom _ p hp => ?_
  obtain ⟨answer, hanswer⟩ :=
    (hsettled p (mem_of_mem_reached hp)).judge atom.operator atom.text
  exact hanswer.faultsIn _

theorem predicates_ofList {ps : List (Predicate σ)} (h : (ps.map (·.id)).Nodup) :
    (ofList ps).predicates = ps := by
  induction ps using List.reverseRecOn with
  | nil => rfl
  | append_singleton ps p ih =>
    rw [List.map_append, List.nodup_append] at h
    obtain ⟨hps, -, hfresh⟩ := h
    have hp : p.id ∉ (ofList ps).ids := by
      rw [ids_ofList, List.mem_eraseDups]
      exact fun hid => hfresh p.id hid p.id (List.mem_singleton_self _) rfl
    rw [ofList_append, predicates_insert_of_fresh hp, ih hps]

/-- Settled predicates with ids of their own, registered in two orders: a query whose tags leave no
choice has the same answer in both registries, from whatever states, and raises nothing. -/
theorem evaluate_of_perm {ps qs : List (Predicate σ)} (h : ps.Perm qs) (hids : (ps.map (·.id)).Nodup)
    (hsettled : ∀ p ∈ ps, p.Settled item) {query : Text}
    (htags : ∀ atom ∈ Atom.ofQuery query, ∀ tag, atom.tag = some tag → Unambiguous ps tag)
    (s t : σ) :
    ∃ answer, ((ofList ps).evaluate item query).reply s = .ok answer ∧
      ((ofList qs).evaluate item query).reply t = .ok answer := by
  have hps := predicates_ofList hids
  have hqs := predicates_ofList ((h.map (·.id)).nodup_iff.mp hids)
  rw [← hps] at hsettled htags
  have hperm : (ofList ps).predicates.Perm (ofList qs).predicates := by rwa [hps, hqs]
  have halike : Search.Alike (fun _ _ => True ∧ True) ((ofList ps).evaluate item query)
      ((ofList qs).evaluate item query) := by
    refine evaluate_alike fun atom hatom => ?_
    obtain ⟨answer, hanswer, hanswer'⟩ :=
      evaluateRead_of_perm hperm hsettled (htags atom hatom) true
    exact hanswer.alike hanswer'
  have hreply := halike.reply_eq (s := s) (t := t) ⟨trivial, trivial⟩
  have hends := evaluate_ends_of_settled hsettled query s
  unfold Search.reply at hreply ⊢
  cases hrun : (ofList ps).evaluate item query s with
  | ok answer s' =>
    rw [hrun] at hreply
    exact ⟨answer, rfl, hreply.symm⟩
  | error fault s' =>
    rw [hrun] at hends
    exact hends.elim

/-- One tag is an alias that another predicate's alias begins with, the other the beginning of one. -/
theorem evaluate_of_perm_swapped :
    let title := (Script.seeking "title" ["Na", "Title"] false).candidate
    let name := (Script.seeking "name" ["name"] false).candidate
    let ps := accepted [title, name]
    let qs := accepted [name, title]
    let query := "NA:ring | !ti:gold & item".toList
    ps.Perm qs ∧ (ps.map (·.id)).Nodup ∧ (∀ p ∈ ps, p.Settled "item:7".toList) ∧
      (∀ atom ∈ Atom.ofQuery query, ∀ tag, atom.tag = some tag → Unambiguous ps tag) ∧
      ∃ answer,
        ((ofList ps).evaluate "item:7".toList query).reply ⟨.empty, []⟩ = .ok answer ∧
        ((ofList qs).evaluate "item:7".toList query).reply ⟨⟨[], 1, 2⟩, []⟩ = .ok answer := by
  intro title name ps qs query
  have hperm : ps.Perm qs := List.Perm.swap _ _ _
  have hids : (ps.map (·.id)).Nodup := by decide
  have hsettled : ∀ p ∈ ps, p.Settled "item:7".toList := by
    intro p hp
    obtain ⟨c, hc, hcheck⟩ := exists_of_mem_accepted hp
    rcases List.mem_pair.mp hc with rfl | rfl
    · exact Script.settled hcheck (by simp [Script.seeking]) _
    · exact Script.settled hcheck (by simp [Script.seeking]) _
  have hatoms : Atom.ofQuery query = [⟨"ring".toList, some "na".toList, none⟩,
      ⟨"gold".toList, some "ti".toList, none⟩, ⟨"item".toList, none, none⟩] := by decide
  have htags : ∀ atom ∈ Atom.ofQuery query, ∀ tag, atom.tag = some tag → Unambiguous ps tag := by
    obtain ⟨p, q, hps, hp, hq⟩ : ∃ p q, ps = [p, q] ∧ p.tags = ["Na", "Title"].map String.toList ∧
        q.tags = ["name".toList] := ⟨_, _, rfl, rfl, rfl⟩
    intro atom hatom tag htag
    rw [hatoms] at hatom
    rw [hps]
    simp only [Unambiguous, Predicate.NamedBy, Predicate.BegunBy, List.forall_mem_cons,
      List.exists_mem_cons_iff, hp, hq]
    simp only [List.mem_cons, List.not_mem_nil, or_false] at hatom
    rcases hatom with rfl | rfl | rfl
    · cases htag
      exact .inl (.inl ⟨by decide, fun _ => trivial, fun h => absurd h (by decide), by simp⟩)
    · cases htag
      refine .inr ⟨⟨by decide, by decide, by simp⟩, ?_⟩
      exact ⟨⟨fun _ _ => trivial, fun _ h => absurd h (by decide), by simp⟩,
        ⟨fun h => absurd h (by decide), fun _ _ => trivial, by simp⟩, by simp⟩
    · cases htag
  exact ⟨hperm, hids, hsettled, htags, evaluate_of_perm hperm hids hsettled htags _ _⟩

end Registry

end ItemQuery
