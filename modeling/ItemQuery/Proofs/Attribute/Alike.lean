import ItemQuery.Proofs.Catalog.Lookup
import ItemQuery.Proofs.Memory
import ItemQuery.Proofs.Query.Alike

/-!
The built-in attributes answer alike where what they read is alike: the described profile, the
quality labels, the equipment flag, the tooltip and the id in the reference. Over a catalog a
remembered result is a fact about an id and a bind text, so memories that hold such facts are never
told apart (`builtIn_alike`).
-/

namespace ItemQuery

open Search (SameReply IgnoresWorld)

namespace Attribute

variable {σ τ ω ω' : Type}

/-! ## Captures -/

theorem matchCapture_alike {R : σ → τ → Prop} (capture : Json) (candidates : List (Option Text)) :
    Search.Alike R (matchCapture capture candidates) (matchCapture capture candidates) := by
  unfold matchCapture
  cases capture.asText? with
  | none => exact .throw _
  | some fragment => exact .pure _

theorem compareCapture_alike {R : σ → τ → Prop} (operator : Option Text) (n : Int)
    (capture : Json) :
    Search.Alike R (compareCapture operator n capture) (compareCapture operator n capture) := by
  unfold compareCapture
  cases capture.asNumber? with
  | some m => exact .pure _
  | none =>
    by_cases h : Relation.ofOperator operator = .equal
    · simp only [h, ↓reduceIte]
      exact .pure _
    · simp only [h, ↓reduceIte]
      exact .throw _

theorem readNumber_alike {R : σ → τ → Prop} (text : Text) :
    Search.Alike R (do return (← Search.ofExcept (Number.read? text)).map Json.number)
      (do return (← Search.ofExcept (Number.read? text)).map Json.number) :=
  .bind (.ofExcept _) fun _ => .pure _

/-! ## Attributes of two sources -/

variable {source : Source ω} {source' : Source ω'} {R : Memory ω → Memory ω' → Prop}
  {item item' : Text}

theorem name_alike (hR : IgnoresWorld R)
    (h : SameReply (source.describe item) (source'.describe item')) :
    (name source).Alike R item item' (name source') where
  tags := rfl
  tagOnly := rfl
  canSearch _ _ := .pure _
  evaluate _ capture := by
    refine .bind (.ofWorld hR h) fun profile? => ?_
    cases profile? with
    | none => exact .pure _
    | some profile => exact matchCapture_alike _ _

theorem kind_alike (hR : IgnoresWorld R)
    (h : SameReply (source.describe item) (source'.describe item')) :
    (kind source).Alike R item item' (kind source') where
  tags := rfl
  tagOnly := rfl
  canSearch _ _ := .pure _
  evaluate _ capture := by
    refine .bind (.ofWorld hR h) fun profile? => ?_
    cases profile? with
    | none => exact .pure _
    | some profile => exact matchCapture_alike _ _

theorem quality_alike (hR : IgnoresWorld R) (hlabels : source.qualityLabels = source'.qualityLabels)
    (h : SameReply (source.describe item) (source'.describe item')) :
    (quality source).Alike R item item' (quality source') where
  tags := rfl
  tagOnly := rfl
  canSearch _ text := by
    unfold quality
    dsimp only
    rw [hlabels]
    cases tierFor? source'.qualityLabels text with
    | some tier => exact .pure _
    | none => exact readNumber_alike _
  evaluate operator capture := by
    refine .bind (.ofWorld hR h) fun profile? => ?_
    cases profile?.bind Profile.quality with
    | none => exact .pure _
    | some tier => exact compareCapture_alike _ _ _

theorem level_alike (hR : IgnoresWorld R)
    (h : SameReply (source.describe item) (source'.describe item')) :
    (level source).Alike R item item' (level source') where
  tags := rfl
  tagOnly := rfl
  canSearch _ _ := readNumber_alike _
  evaluate operator capture := by
    refine .bind (.ofWorld hR h) fun profile? => ?_
    cases profile?.bind Profile.level with
    | none => exact .pure _
    | some level => exact compareCapture_alike _ _ _

theorem tooltip_alike (hR : IgnoresWorld R)
    (h : SameReply (source.lines item) (source'.lines item')) :
    (tooltip source).Alike R item item' (tooltip source') where
  tags := rfl
  tagOnly := rfl
  canSearch _ _ := .pure _
  evaluate _ _ := .bind (.ofWorld hR h) fun _ => matchCapture_alike _ _

theorem inSet_sameReply (hid : Link.itemId? item = Link.itemId? item')
    (h : SameReply (source.isEquippable item) (source'.isEquippable item')) (sets : NamedSets)
    (search : Text) :
    SameReply (source.inSet sets item search) (source'.inSet sets item' search) := by
  unfold Source.inSet
  rw [hid]
  refine .bind h fun equippable => .ite (.bind (.ofExcept _) fun id? => ?_) (.pure _)
  cases id? with
  | none => exact .pure _
  | some id => exact .pure _

theorem sets_alike (hR : IgnoresWorld R) (hid : Link.itemId? item = Link.itemId? item')
    (h : SameReply (source.isEquippable item) (source'.isEquippable item')) (named : NamedSets) :
    (sets source named).Alike R item item' (sets source' named) where
  tags := rfl
  tagOnly := rfl
  canSearch _ _ := .pure _
  evaluate _ capture := by
    unfold sets
    dsimp only
    rw [hid]
    cases capture.asSearch? with
    | some search => exact .ofWorld hR (inSet_sameReply hid h named search)
    | none =>
      refine .ofWorld hR (.bind h fun equippable => .ite (.bind (.ofExcept _) fun id? => ?_)
        (.pure _))
      cases id? with
      | none => exact .pure _
      | some id => exact .throw _

end Attribute

/-! ## What a catalog's memory holds -/

variable {ω ω' : Type}

/-- Every remembered result is the one that the catalog gives for the id and the bind text. -/
def Catalog.Recalls (c : Catalog) (m : Memory ω) : Prop :=
  ∀ entry ∈ m.remembered, entry.2 = c.bears entry.1.id entry.1.sought

theorem Catalog.recalls_nil (c : Catalog) (w : ω) : c.Recalls ⟨w, []⟩ :=
  fun _ hentry => absurd hentry List.not_mem_nil

/-- Two memories, each of which holds facts of its catalog. -/
def Catalog.BothRecall (c c' : Catalog) (m : Memory ω) (m' : Memory ω') : Prop :=
  c.Recalls m ∧ c'.Recalls m'

theorem Catalog.bothRecall_ignoresWorld (c c' : Catalog) :
    IgnoresWorld (c.BothRecall c' : Memory ω → Memory ω' → Prop) :=
  fun _ _ _ _ h => h

theorem Catalog.Recalls.remember {c : Catalog} {m : Memory ω} (hm : c.Recalls m) (key : BindKey) :
    c.Recalls (m.remember key (c.bears key.id key.sought)) := by
  intro entry hentry
  rcases List.mem_append.mp hentry with hold | hnew
  · exact hm entry hold
  · rw [List.mem_singleton] at hnew
    rw [hnew]

/-- Recalled or scanned for anew, the result is the catalog's, and the memory goes on holding
facts. -/
theorem Catalog.Recalls.recallOr {c : Catalog} {m : Memory ω} (hm : c.Recalls m) {item : Text}
    {id : Int} (h : Link.itemId? item = .ok (some id)) (cache : Nat) (sought : Json.Key) :
    ∃ m', c.Recalls m' ∧ Search.recallOr ⟨cache, sought, id⟩
      (.ofWorld (Attribute.scanLines c.source item sought Attribute.bindLines)) m =
        .ok (c.bears id sought) m' := by
  rw [scanLines_source c h]
  cases hresult : m.result? ⟨cache, sought, id⟩ with
  | some found =>
    have hfound : found = c.bears id sought := hm _ (Memory.mem_of_result? hresult)
    exact ⟨m, hm, by rw [Search.recallOr_of_some hresult, hfound]⟩
  | none => exact ⟨_, hm.remember ⟨cache, sought, id⟩, Search.recallOr_of_none hresult _⟩

theorem Attribute.bind_alike (c c' : Catalog) {item item' : Text}
    (hid : Link.itemId? item = Link.itemId? item')
    (hbears : ∀ id sought, Link.itemId? item = .ok (some id) → c.bears id sought = c'.bears id sought)
    (keywords : BindKeywords) (cache : Nat) :
    (bind (c.source : Source ω) keywords cache).Alike (c.BothRecall c') item item'
      (bind (c'.source : Source ω') keywords cache) where
  tags := rfl
  tagOnly := rfl
  canSearch _ _ := .pure _
  evaluate _ capture := by
    unfold bind
    dsimp only
    rw [← hid]
    cases hitem : Link.itemId? item with
    | error fault => exact fun _ _ hm => .error hm
    | ok id? =>
      simp only [Search.ofExcept, pure_bind]
      cases id? with
      | none => exact .pure false
      | some id =>
        cases capture.key? with
        | none => exact .throw _
        | some sought =>
          intro m m' ⟨hm, hm'⟩
          obtain ⟨n, hn, hrun⟩ := hm.recallOr hitem cache sought
          obtain ⟨n', hn', hrun'⟩ := hm'.recallOr (hid ▸ hitem) cache sought
          dsimp only
          rw [hrun, hrun', hbears id sought hitem]
          exact .ok ⟨hn, hn'⟩

/-! ## The built-in registry -/

theorem Engine.builtIn_predicates (source : Source ω) (sets : NamedSets) :
    (Engine.builtIn source sets).predicates =
      [Attribute.name source, Attribute.kind source, Attribute.quality source,
        Attribute.level source, Attribute.bind source Attribute.defaultKeywords Engine.ownCache,
        Attribute.tooltip source, Attribute.sets source sets] :=
  rfl

/-- Two predicates that are reached in the same way and answer alike, those of a certain id under a
condition. -/
structure Predicate.AlikeUpTo (id : Text) (condition : Prop) (R : Memory ω → Memory ω' → Prop)
    (item item' : Text) (p : Predicate (Memory ω)) (q : Predicate (Memory ω')) : Prop where
  tags : p.tags = q.tags
  tagOnly : p.tagOnly = q.tagOnly
  alike : (p.id = id → condition) → p.Alike R item item' q

theorem Predicate.Alike.upTo {R : Memory ω → Memory ω' → Prop} {item item' : Text}
    {p : Predicate (Memory ω)} {q : Predicate (Memory ω')} (h : p.Alike R item item' q) (id : Text)
    (condition : Prop) : p.AlikeUpTo id condition R item item' q :=
  ⟨h.tags, h.tagOnly, fun _ => h⟩

def Attribute.tooltipId : Text := "tooltip".toList

variable {c c' : Catalog} {item item' : Text}

theorem Catalog.SameUpToTooltip.describe_sameReply (h : c.SameUpToTooltip c' item item') :
    SameReply ((c.source : Source ω).describe item) ((c'.source : Source ω').describe item') := by
  simp only [Catalog.source, h.describe]
  exact .ofExcept _

theorem Catalog.SameUpToTooltip.isEquippable_sameReply (h : c.SameUpToTooltip c' item item') :
    SameReply ((c.source : Source ω).isEquippable item)
      ((c'.source : Source ω').isEquippable item') := by
  simp only [Catalog.source, h.isEquippable]
  exact .ofExcept _

theorem Catalog.SameItem.isEquippable_sameReply (h : c.SameItem c' item item') :
    SameReply ((c.source : Source ω).isEquippable item)
      ((c'.source : Source ω').isEquippable item') :=
  h.sameUpToTooltip.isEquippable_sameReply

/-- The built-in attributes, but for the tooltip, tell neither two references apart that lead to the
same up to the tooltip nor two memories that hold facts of their catalogs. The tooltip does not
either where the whole tooltips are the same. -/
theorem Catalog.SameUpToTooltip.builtIn_alikeUpTo (h : c.SameUpToTooltip c' item item')
    (sets : NamedSets) :
    List.Forall₂ (Predicate.AlikeUpTo Attribute.tooltipId (c.lines item = c'.lines item')
        (c.BothRecall c') item item')
      (Engine.builtIn (c.source : Source ω) sets).predicates
      (Engine.builtIn (c'.source : Source ω') sets).predicates := by
  have hR : IgnoresWorld (c.BothRecall c' : Memory ω → Memory ω' → Prop) :=
    c.bothRecall_ignoresWorld c'
  have htooltip : (Attribute.tooltip (c.source : Source ω)).AlikeUpTo Attribute.tooltipId
      (c.lines item = c'.lines item') (c.BothRecall c') item item'
      (Attribute.tooltip (c'.source : Source ω')) := by
    refine ⟨rfl, rfl, fun hlines => Attribute.tooltip_alike hR ?_⟩
    simp only [Catalog.source, hlines rfl]
    exact .ofExcept _
  rw [Engine.builtIn_predicates, Engine.builtIn_predicates]
  exact .cons ((Attribute.name_alike hR h.describe_sameReply).upTo _ _) <|
    .cons ((Attribute.kind_alike hR h.describe_sameReply).upTo _ _) <|
    .cons ((Attribute.quality_alike hR h.qualityLabels h.describe_sameReply).upTo _ _) <|
    .cons ((Attribute.level_alike hR h.describe_sameReply).upTo _ _) <|
    .cons ((Attribute.bind_alike c c' h.itemId h.bears _ _).upTo _ _) <|
    .cons htooltip <|
    .cons ((Attribute.sets_alike hR h.itemId h.isEquippable_sameReply sets).upTo _ _) .nil

/-- The built-in attributes tell neither two references to the same entry apart nor two memories that
hold facts of their catalogs. -/
theorem Catalog.SameItem.builtIn_alike (h : c.SameItem c' item item') (sets : NamedSets) :
    (Engine.builtIn (c.source : Source ω) sets).Alike (c.BothRecall c') item item'
      (Engine.builtIn (c'.source : Source ω') sets) :=
  (h.sameUpToTooltip.builtIn_alikeUpTo sets).imp fun _ _ hpq => hpq.alike fun _ => h.lines_eq

end ItemQuery
