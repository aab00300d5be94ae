import ItemQuery.Proofs.Session.Actions

/-!
What the caches of bind predicates cannot change. Over a catalog they are never seen, whatever a
session did before (`Session.reply_withEmptyCaches`), and nothing but the id in a reference reaches an
answer (`Session.reply_of_itemId`).
-/

namespace ItemQuery

/-- A catalog of one ring, for trying things out. -/
def Catalog.oneRing : Catalog :=
  { Catalog.empty with entries := [{
      id := 7
      name := "Ring".toList
      link := none
      kind := none
      subkind := none
      slot := some "INVTYPE_FINGER".toList
      quality := none
      level := none
      equippable := none
      tooltip := ["Ring", "Binds when equipped"].map String.toList }] }

namespace Session

variable {c : Catalog} {chosen : Option Text} {fallback : Text} {s₀ : Session}

/-! ## Emptied caches -/

/-- The same session with nothing remembered in any cache. -/
def withEmptyCaches (s : Session) : Session := { s with memory := { s.memory with remembered := [] } }

theorem Sound.withEmptyCaches {s : Session} (h : s.Sound c) : Twins c s s.withEmptyCaches :=
  ⟨h, _, c.recalls_nil _, rfl⟩

/-- A bind predicate answers what the tooltip says, from whatever facts are remembered. -/
theorem Sound.bind_reply {s : Session} (h : s.Sound c) (keywords : Attribute.BindKeywords)
    (cache : Nat) {item : Text} (operator : Option Text) {id : Int} (t : Text)
    (hid : Link.itemId? item = .ok (some id)) :
    ((Attribute.bind c.source keywords cache).evaluate item operator (.text t)).reply s.memory =
      .ok (c.bears id (.text t)) := by
  obtain ⟨m, -, hrun⟩ := h.recalls.recallOr hid cache (.text t)
  simp only [Attribute.bind, hid, Search.ofExcept, pure_bind, Json.key?, Search.reply, hrun]

/-- No result that a cache holds shows in a later reply: after any history a session replies as if
every cache were empty, and a bind predicate, whatever its keywords and its cache, finds a text
exactly where the entry of the item's id has it in the second or the third line of its tooltip. -/
theorem reply_withEmptyCaches (h : ofCatalog c chosen fallback = .ok s₀) (history : List Action) :
    (∀ action, action ≠ .cacheSize →
      ((s₀.after history).act action).1.reply =
        ((s₀.after history).withEmptyCaches.act action).1.reply) ∧
    ∀ (keywords : Attribute.BindKeywords) (cache : Nat) (item : Text) (operator : Option Text),
      (∀ capture,
        ((Attribute.bind c.source keywords cache).evaluate item operator capture).reply
            (s₀.after history).memory =
          ((Attribute.bind c.source keywords cache).evaluate item operator capture).reply
            (s₀.after history).withEmptyCaches.memory) ∧
      ∀ id t, Link.itemId? item = .ok (some id) → ∃ found,
        ((Attribute.bind c.source keywords cache).evaluate item operator (.text t)).reply
            (s₀.after history).memory = .ok found ∧
          (found = true ↔
            ∃ e, c.byId? id = some e ∧ (e.tooltip[1]? = some t ∨ e.tooltip[2]? = some t)) := by
  have hsound := (ofCatalog_sound h).after history
  have htwins := hsound.withEmptyCaches
  refine ⟨fun action haction => htwins.reply_eq haction, fun keywords cache item operator => ⟨?_, ?_⟩⟩
  · intro capture
    exact ((Attribute.bind_steady keywords cache item).evaluate operator capture).reply_eq
      ⟨hsound.recalls, htwins.sound.recalls⟩
  · intro id t hid
    exact ⟨_, hsound.bind_reply keywords cache operator t hid, c.bears_text_iff id t⟩

/-- A ring was found bound through one link and is then asked about through another. -/
theorem reply_withEmptyCaches_oneRing :
    ∃ s₀, ofCatalog .oneRing none "equipment".toList = .ok s₀ ∧
      let s := s₀.after [.accepts (some "item:7".toList) (some "BoE".toList),
        .registerBind (some [("worn".toList, .text "Binds when equipped".toList)]) true,
        .accepts (some "item:7 ".toList) (some "worn".toList)]
      s.memory.remembered.length = 2 ∧
      (s.act (.accepts (some "|Hitem:7:0|h[Ring]|h".toList) (some "worn".toList))).1.reply =
        (s.withEmptyCaches.act
          (.accepts (some "|Hitem:7:0|h[Ring]|h".toList) (some "worn".toList))).1.reply ∧
      ∃ found, ((Attribute.bind Catalog.oneRing.source Attribute.defaultKeywords 0).evaluate
          " |Hitem:7|h".toList none (.text "Binds when equipped".toList)).reply s.memory =
            .ok found ∧
        (found = true ↔ ∃ e, Catalog.oneRing.byId? 7 = some e ∧
          (e.tooltip[1]? = some "Binds when equipped".toList ∨
            e.tooltip[2]? = some "Binds when equipped".toList)) := by
  have h : ofCatalog .oneRing none "equipment".toList = .ok _ := rfl
  exact ⟨_, h, by decide +kernel, (reply_withEmptyCaches h _).1 _ (by simp),
    ((reply_withEmptyCaches h _).2 _ _ _ _).2 7 _ rfl⟩

/-! ## References to one item -/

/-- The built-in attributes and the sets judge two references with one id alike, each after a history
of its own. -/
theorem reply_of_itemId (h : ofCatalog c chosen fallback = .ok s₀) {r₁ r₂ : Text} {id : Int}
    (h₁ : Link.itemId? r₁ = .ok (some id)) (h₂ : Link.itemId? r₂ = .ok (some id))
    (history₁ history₂ : List Action) :
    (∀ query, (s₀.engine.accepts (some r₁) query).reply (s₀.after history₁).memory =
      (s₀.engine.accepts (some r₂) query).reply (s₀.after history₂).memory) ∧
    ∀ search, (s₀.engine.inSet (some r₁) search).reply (s₀.after history₁).memory =
      (s₀.engine.inSet (some r₂) search).reply (s₀.after history₂).memory := by
  have hitem := c.sameItem_of_itemId h₁ h₂
  have hmemory : c.BothRecall c (s₀.after history₁).memory (s₀.after history₂).memory :=
    ⟨((ofCatalog_sound h).after history₁).recalls, ((ofCatalog_sound h).after history₂).recalls⟩
  obtain ⟨sets, -, hengine, -, -⟩ := ofCatalog_eq_ok h
  have hsource : s₀.engine.source = c.source := by rw [hengine]; rfl
  have hregistry : s₀.engine.registry.Alike (c.BothRecall c) r₁ r₂ s₀.engine.registry := by
    rw [hengine]
    exact hitem.builtIn_alike sets
  constructor
  · intro query
    exact (Engine.accepts_alike hregistry query).reply_eq hmemory
  · intro search
    exact (Engine.inSet_alike hitem (c.bothRecall_ignoresWorld c) hsource hsource rfl search).reply_eq
      hmemory

/-- The first reference is asked about before anything is remembered, the second one afterwards. -/
theorem reply_of_itemId_oneRing :
    ∃ s₀, ofCatalog .oneRing none "equipment".toList = .ok s₀ ∧
      Link.itemId? "  |cff00ff00|Hitem:7:1:2|h[Item:8]|h|r".toList = .ok (some 7) ∧
      Link.itemId? "item:007".toList = .ok (some 7) ∧
      (s₀.engine.accepts (some "  |cff00ff00|Hitem:7:1:2|h[Item:8]|h|r".toList)
          (some "boe & !ring".toList)).reply (s₀.after []).memory =
        (s₀.engine.accepts (some "item:007".toList) (some "boe & !ring".toList)).reply
          (s₀.after [.accepts (some "item:7".toList) (some "boe".toList)]).memory ∧
      (s₀.engine.inSet (some "  |cff00ff00|Hitem:7:1:2|h[Item:8]|h|r".toList) none).reply
          (s₀.after []).memory =
        (s₀.engine.inSet (some "item:007".toList) none).reply
          (s₀.after [.accepts (some "item:7".toList) (some "boe".toList)]).memory := by
  have h : ofCatalog .oneRing none "equipment".toList = .ok _ := rfl
  have h₁ : Link.itemId? "  |cff00ff00|Hitem:7:1:2|h[Item:8]|h|r".toList = .ok (some 7) := rfl
  have h₂ : Link.itemId? "item:007".toList = .ok (some 7) := rfl
  exact ⟨_, h, h₁, h₂, (reply_of_itemId h h₁ h₂ _ _).1 _, (reply_of_itemId h h₁ h₂ _ _).2 _⟩

end Session

end ItemQuery
