import ItemQuery.Proofs.Session.Alike

/-!
One action at a time. An action that counts no cache is carried out alike by sessions that differ in
what they remember (`Session.perform_alike`), and any action leaves a sound session sound; by
induction so does a history (`Session.Sound.after`).
-/

namespace ItemQuery.Session

open Search (Alike)

variable {c : Catalog}

/-! ## Registering -/

theorem registerScript_run (script : Script) (s : Session) :
    registerScript script s =
      match s.engine.registry.register script.candidate with
      | .error fault => .error fault s
      | .ok r => .ok () { s.setRegistry r with
          scripts := (script.idText, script) :: s.scripts
          bindCache := if script.idText = bindId then none else s.bindCache } := by
  show (ofExcept (s.engine.registry.register script.candidate) >>= _) s = _
  cases s.engine.registry.register script.candidate with
  | error fault => rfl
  | ok r => rfl

theorem registerScript_alike (script : Script) :
    Alike (Twins c) (registerScript script) (registerScript script) := by
  rintro s _ ⟨hs, m, hm, rfl⟩
  rw [registerScript_run, registerScript_run]
  cases hr : s.engine.registry.register script.candidate with
  | error fault => exact .error ⟨hs, m, hm, rfl⟩
  | ok r =>
    obtain ⟨p, hp, rfl⟩ := Registry.register_eq_ok hr
    have hsteady : ∀ q ∈ (s.engine.registry.insert p).predicates, q.Steady c := by
      intro q hq
      rcases Registry.mem_insert hq with rfl | hold
      · exact Script.steady hp
      · exact hs.steady q hold
    exact .ok ⟨⟨hs.source, hs.catalog, hsteady, hs.recalls⟩, m, hm, rfl⟩

theorem registerBind_alike (keywords : Option Attribute.BindKeywords) (shared : Bool) :
    Alike (Twins c) (registerBind keywords shared) (registerBind keywords shared) := by
  rintro s _ ⟨hs, m, hm, rfl⟩
  refine .ok ⟨⟨hs.source, hs.catalog, fun q hq => ?_, hs.recalls⟩, m, hm, rfl⟩
  rcases Registry.mem_insert hq with rfl | hold
  · rw [hs.source]
    exact Attribute.bind_steady _ _
  · exact hs.steady q hold

/-! ## Actions -/

theorem evaluateCapture_alike (id item : Text) (operator : Option Text) (capture : Json) :
    Alike (Twins c) (evaluateCapture id item operator capture)
      (evaluateCapture id item operator capture) := by
  refine predicate_alike id fun p hp => get_alike (fun _ _ => rfl) fun s _ => ?_
  cases s.scripts.lookup id with
  | none =>
    exact .bind (ofSearch_alike ((hp item).evaluate operator capture)) fun _ => .pure _
  | some script =>
    exact ofSearch_alike (.ofWorld (c.bothRecall_ignoresWorld c)
      (script.judgement_sameReply item operator capture))

theorem accepts_alike {s : Session} (hs : s.Sound c) (item query : Option Text) :
    Alike (c.BothRecall c) (s.engine.accepts item query) (s.engine.accepts item query) := by
  cases item with
  | none => exact .throw _
  | some item => exact Engine.accepts_alike (hs.registry_alike item) query

theorem inSet_alike {s : Session} (hs : s.Sound c) (item search : Option Text) :
    Alike (c.BothRecall c) (s.engine.inSet item search) (s.engine.inSet item search) := by
  cases item with
  | none => exact .throw _
  | some item => exact hs.inSet_alike item search

theorem tierFor_alike (text : Text) :
    Alike (Twins c) (perform (.tierFor text)) (perform (.tierFor text)) := by
  refine get_alike (fun _ _ => rfl) fun s _ => ?_
  split
  · exact .pure _
  · exact .throw _

/-- What two sessions remember is told apart by the count of a cache alone. -/
theorem perform_alike {action : Action} (h : action ≠ .cacheSize) :
    Alike (Twins c) (perform action) (perform action) := by
  cases action with
  | accepts item query => exact searched_alike (fun _ _ => rfl) fun s hs => accepts_alike hs item query
  | acceptsAll items query =>
    exact get_alike (fun _ _ => rfl) fun s hs =>
      .bind (.mapM (fun item => ofSearch_alike (accepts_alike hs item query)) items) fun _ => .pure _
  | inSet item search => exact searched_alike (fun _ _ => rfl) fun s hs => inSet_alike hs item search
  | register script => exact .bind (registerScript_alike script) fun _ => .pure _
  | registerBind keywords shared => exact .bind (registerBind_alike keywords shared) fun _ => .pure _
  | list => exact shown_alike fun _ _ => rfl
  | get id => exact shown_alike fun _ _ => rfl
  | size => exact shown_alike fun _ _ => rfl
  | contains id => exact shownOrFault_alike fun _ _ => rfl
  | ids => exact shown_alike fun _ _ => rfl
  | resolve tag => exact shown_alike fun _ _ => rfl
  | conforms id => exact shown_alike fun _ _ => rfl
  | evaluateAtom item text fallback =>
    exact searched_alike (fun _ _ => rfl) fun s hs =>
      (hs.registry_alike item).evaluateAtom text fallback
  | evaluateTerm item text =>
    exact searched_alike (fun _ _ => rfl) fun s hs => (hs.registry_alike item).evaluateTerm text
  | evaluateGroup item text =>
    exact searched_alike (fun _ _ => rfl) fun s hs => (hs.registry_alike item).evaluateTerms _
  | evaluateUnion item text =>
    exact searched_alike (fun _ _ => rfl) fun s hs => (hs.registry_alike item).evaluateGroups _
  | evaluate item text =>
    exact searched_alike (fun _ _ => rfl) fun s hs => (hs.registry_alike item).evaluate text
  | judge id item operator text =>
    exact predicate_alike id fun p hp =>
      .bind (ofSearch_alike ((hp item).judge operator text)) fun _ => .pure _
  | canSearch id operator text =>
    exact predicate_alike id fun p hp =>
      .bind (ofSearch_alike ((hp []).canSearch operator text)) fun _ => .pure _
  | evaluateCapture id item operator capture =>
    exact .bind (evaluateCapture_alike id item operator capture) fun _ => .pure _
  | tierFor text => exact tierFor_alike text
  | cacheSize => exact absurd rfl h
  | belongs id search => exact shown_alike fun _ _ => rfl
  | sets => exact shown_alike fun _ _ => rfl
  | collaborators => exact shown_alike fun _ _ => rfl
  | predicateList => exact shown_alike fun _ _ => rfl
  | entries => exact theCatalog_alike (.pure _)
  | find item => exact theCatalog_alike (.bind (ofExcept_alike _) fun _ => .pure _)
  | describe item => exact theCatalog_alike (.bind (ofExcept_alike _) fun _ => .pure _)
  | qualityLabels => exact theCatalog_alike (.pure _)
  | isEquippable item => exact theCatalog_alike (.bind (ofExcept_alike _) fun _ => .pure _)
  | lines item => exact theCatalog_alike (.bind (ofExcept_alike _) fun _ => .pure _)
  | line item i => exact theCatalog_alike (.bind (ofExcept_alike _) fun _ => .pure _)
  | search query limit =>
    exact theCatalog_alike <| searched_alike (fun _ _ => rfl) fun s hs =>
      Listing.search_alike (fun entry _ => accepts_alike hs entry.ref query) limit
  | runSearch query limit =>
    exact theCatalog_alike <| searched_alike (fun _ _ => rfl) fun s hs =>
      Listing.run_alike (fun entry _ => accepts_alike hs entry.ref query) limit
  | formatResults query limit note =>
    exact theCatalog_alike <| get_alike (fun _ _ => rfl) fun s hs =>
      .bind (ofSearch_alike <|
          Listing.search_alike (fun entry _ => accepts_alike hs entry.ref query) limit)
        fun found => .bind (ofExcept_alike _) fun _ => .pure _
  | checkSet item search =>
    exact theCatalog_alike <| searched_alike (fun _ _ => rfl) fun s hs =>
      Listing.checkSet_alike (fun ref search => hs.inSet_alike ref (some search)) item search

/-! ## Histories -/

theorem act_reply (s : Session) (action : Action) :
    (s.act action).1.reply = Search.reply (perform action) s.forgetCalls := by
  unfold act Search.reply
  cases perform action s.forgetCalls with
  | ok reply t => rfl
  | error fault t => rfl

theorem Twins.forgetCalls {s t : Session} (h : Twins c s t) :
    Twins c s.forgetCalls t.forgetCalls := by
  obtain ⟨hs, m, hm, rfl⟩ := h
  exact ⟨⟨hs.source, hs.catalog, hs.steady, hs.recalls⟩,
    { m with world := { m.world with calls := [] } }, hm, rfl⟩

theorem Twins.reply_eq {s t : Session} (h : Twins c s t) {action : Action}
    (haction : action ≠ .cacheSize) : (s.act action).1.reply = (t.act action).1.reply := by
  rw [act_reply, act_reply]
  exact (perform_alike haction).reply_eq h.forgetCalls

theorem act_cacheSize (s : Session) : (s.act .cacheSize).2 = s.forgetCalls := by
  obtain ⟨engine, memory, catalog, backend, scripts, bindCache, freshCache⟩ := s
  cases bindCache with
  | none => rfl
  | some cache => rfl

/-- Whatever is done keeps a session sound. Counting a cache is apart: the count depends on what is
remembered, but nothing changes. -/
theorem Sound.act {s : Session} (h : s.Sound c) (action : Action) : (s.act action).2.Sound c := by
  have htwins := h.twins.forgetCalls
  rcases eq_or_ne action .cacheSize with rfl | haction
  · rw [act_cacheSize]
    exact htwins.sound
  · have hout := perform_alike haction _ _ htwins
    unfold Session.act
    generalize perform action s.forgetCalls = u at hout
    cases hout with
    | ok ht => exact ht.sound
    | error ht => exact ht.sound

/-- The session that a history leaves. -/
def after (s : Session) (history : List Action) : Session :=
  history.foldl (fun s action => (s.act action).2) s

theorem Sound.after {s : Session} (h : s.Sound c) (history : List Action) :
    (s.after history).Sound c := by
  induction history generalizing s with
  | nil => exact h
  | cons action history ih => exact ih (h.act action)

/-- What a session over a catalog begins with. -/
theorem ofCatalog_eq_ok {chosen : Option Text} {fallback : Text} {s : Session}
    (h : ofCatalog c chosen fallback = .ok s) :
    ∃ sets, Backend.select (c.backendName chosen fallback) c.setData = .ok sets ∧
      s.engine = .ofSource c.source sets ∧ s.catalog = some c ∧ s.memory = emptyMemory := by
  obtain ⟨backend, -, h⟩ := Except.bind_eq_ok h
  obtain ⟨e, hengine, h⟩ := Except.bind_eq_ok h
  obtain ⟨sets, hsets, he⟩ := Except.bind_eq_ok hengine
  obtain rfl := Except.ok.inj he
  cases h
  exact ⟨sets, hsets, rfl, rfl, rfl⟩

/-- A session begins wherever the backend can read the catalog's sets. -/
theorem ofCatalog_of_select {chosen : Option Text} {fallback : Text} {sets : NamedSets}
    (h : Backend.select (c.backendName chosen fallback) c.setData = .ok sets) :
    ∃ s, ofCatalog c chosen fallback = .ok s ∧ s.engine = .ofSource c.source sets := by
  obtain ⟨backend, hbackend, -⟩ := Except.bind_eq_ok h
  simp only [ofCatalog, Catalog.engine, hbackend, h, bind, Except.bind]
  exact ⟨_, rfl, rfl⟩

theorem ofCatalog_sound {chosen : Option Text} {fallback : Text} {s : Session}
    (h : ofCatalog c chosen fallback = .ok s) : s.Sound c := by
  obtain ⟨sets, -, hengine, hcatalog, hmemory⟩ := ofCatalog_eq_ok h
  refine ⟨by rw [hengine]; rfl, hcatalog, fun p hp => ?_, ?_⟩
  · rw [hengine] at hp
    exact Engine.builtIn_steady sets hp
  · rw [hmemory]
    exact c.recalls_nil _

end ItemQuery.Session
