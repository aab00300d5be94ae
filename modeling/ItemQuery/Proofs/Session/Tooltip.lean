import ItemQuery.Proofs.Catalog.Valid
import ItemQuery.Proofs.Session.Actions

/-!
Who reads a tooltip. The bind keywords look at its second and its third line, and whatever else stands
in it is read by the tooltip's own predicate alone, which no atom reaches without a tag. So a query in
which no tag reaches that predicate cannot tell two catalogs apart that differ in other lines only
(`Session.reply_of_tooltipVariant`).
-/

namespace ItemQuery

/-! ## Lines that no keyword reads -/

/-- Two entries with the same data, except that their tooltips may differ in lines other than the
second and the third. -/
structure Entry.TooltipVariant (e e' : Entry) : Prop where
  rest : { e with tooltip := [] } = { e' with tooltip := [] }
  second : e.tooltip[1]? = e'.tooltip[1]?
  third : e.tooltip[2]? = e'.tooltip[2]?

namespace Entry.TooltipVariant

variable {e e' : Entry}

theorem id_eq (h : e.TooltipVariant e') : e.id = e'.id := (congrArg Entry.id h.rest :)

theorem name_eq (h : e.TooltipVariant e') : e.name = e'.name := (congrArg Entry.name h.rest :)

theorem profile_eq (h : e.TooltipVariant e') : e.profile = e'.profile :=
  (congrArg Entry.profile h.rest :)

theorem isEquippable_eq (h : e.TooltipVariant e') : e.isEquippable = e'.isEquippable :=
  (congrArg Entry.isEquippable h.rest :)

theorem bears_eq (h : e.TooltipVariant e') (sought : Json.Key) :
    e.bears sought = e'.bears sought := by
  simp only [Entry.bears, h.second, h.third]

end Entry.TooltipVariant

/-- Two catalogs with the same data and, place by place, such entries. -/
structure Catalog.TooltipVariant (c c' : Catalog) : Prop where
  rest : { c with entries := [] } = { c' with entries := [] }
  entries : List.Forall₂ Entry.TooltipVariant c.entries c'.entries

namespace Catalog.TooltipVariant

variable {c c' : Catalog}

theorem qualityLabels_eq (h : c.TooltipVariant c') : c.qualityLabels = c'.qualityLabels :=
  (congrArg Catalog.qualityLabels h.rest :)

theorem backend_eq (h : c.TooltipVariant c') : c.backend = c'.backend :=
  (congrArg Catalog.backend h.rest :)

theorem setData_eq (h : c.TooltipVariant c') : c.setData = c'.setData :=
  (congrArg Catalog.setData h.rest :)

theorem byId?_rel (h : c.TooltipVariant c') (id : Int) :
    Option.Rel Entry.TooltipVariant (c.byId? id) (c'.byId? id) :=
  find?_rel (fun e e' he => by rw [he.id_eq]) (List.rel_reverse h.entries)

theorem byName?_rel (h : c.TooltipVariant c') (name : Text) :
    Option.Rel Entry.TooltipVariant (c.byName? name) (c'.byName? name) :=
  find?_rel (fun e e' he => by rw [he.name_eq]) h.entries

/-- What is read off the entry that a reference leads to, if it is the same for both entries. -/
theorem read_find {α : Type} (h : c.TooltipVariant c') (item : Text) (f : Option Entry → α)
    (hf : ∀ e? e'?, Option.Rel Entry.TooltipVariant e? e'? → f e? = f e'?) :
    (do return f (← c.find item) : Except Fault α) = do return f (← c'.find item) := by
  rw [c.find_eq, c'.find_eq]
  cases Link.itemId? item with
  | error fault => rfl
  | ok id? =>
    cases id? with
    | some id => exact congrArg Except.ok (hf _ _ (h.byId?_rel id))
    | none =>
      cases parseInt? (Text.trim item) with
      | some id => exact congrArg Except.ok (hf _ _ (h.byId?_rel id))
      | none => exact congrArg Except.ok (hf _ _ (h.byName?_rel _))

theorem sameUpToTooltip (h : c.TooltipVariant c') (item : Text) : c.SameUpToTooltip c' item item where
  itemId := rfl
  qualityLabels := h.qualityLabels_eq
  describe := by
    refine h.read_find item (Option.map Entry.profile) fun e? e'? he => ?_
    cases he with
    | none => rfl
    | some he => exact congrArg some he.profile_eq
  isEquippable := by
    refine h.read_find item (fun e? => (e?.map Entry.isEquippable).getD false) fun e? e'? he => ?_
    cases he with
    | none => rfl
    | some he => exact he.isEquippable_eq
  bears id sought _ := by
    unfold Catalog.bears
    have he := h.byId?_rel id
    generalize c.byId? id = e?, c'.byId? id = e'? at he ⊢
    cases he with
    | none => rfl
    | some he => exact he.bears_eq sought

end Catalog.TooltipVariant

/-! ## Queries that do not ask for the tooltip -/

/-- Whether no tag of the query reaches the predicate that reads whole tooltips. -/
def Registry.SparesTooltip {σ : Type} (r : Registry σ) (query : Text) : Prop :=
  ∀ atom ∈ Atom.ofQuery query, ∀ tag ∈ atom.tag, ∀ p ∈ r.resolve? tag, p.id ≠ Attribute.tooltipId

instance {σ : Type} (r : Registry σ) (query : Text) : Decidable (r.SparesTooltip query) :=
  inferInstanceAs (Decidable (∀ atom ∈ Atom.ofQuery query, ∀ tag ∈ atom.tag,
    ∀ p ∈ r.resolve? tag, p.id ≠ Attribute.tooltipId))

namespace Engine

variable {ω ω' : Type} {c c' : Catalog} {item item' : Text}

/-- The ids of the built-in predicates, each with whether it needs a tag. -/
theorem builtIn_ids (source : Source ω) (sets : NamedSets) :
    (builtIn source sets).predicates.map (fun p => (p.id, p.tagOnly)) =
      [("name", false), ("type", false), ("quality", false), ("level", false), ("bind", false),
        ("tooltip", true), ("sets", false)].map fun | (id, tagOnly) => (id.toList, tagOnly) :=
  rfl

/-- The tooltip's predicate is the only one of its id, and it needs a tag. -/
theorem tagOnly_of_id {source : Source ω} {sets : NamedSets} {p : Predicate (Memory ω)}
    (hp : p ∈ (builtIn source sets).predicates) (hid : p.id = Attribute.tooltipId) :
    p.tagOnly = true := by
  have hmem : (p.id, p.tagOnly) ∈ (builtIn source sets).predicates.map fun p => (p.id, p.tagOnly) :=
    List.mem_map.mpr ⟨p, hp, rfl⟩
  rw [builtIn_ids, hid] at hmem
  cases honly : p.tagOnly with
  | true => rfl
  | false =>
    rw [honly] at hmem
    exact absurd hmem (by decide)

/-- No atom of such a query is offered to the tooltip: without a tag none ever is. -/
theorem id_ne_of_mem_reached {source : Source ω} {sets : NamedSets} {query : Text}
    (hquery : (builtIn source sets).SparesTooltip query) {atom : Atom}
    (hatom : atom ∈ Atom.ofQuery query) {p : Predicate (Memory ω)}
    (hp : p ∈ (builtIn source sets).reached atom) : p.id ≠ Attribute.tooltipId := by
  intro hid
  have honly := tagOnly_of_id (Registry.mem_of_mem_reached hp) hid
  unfold Registry.reached at hp
  cases htag : atom.tag with
  | none =>
    rw [htag] at hp
    simp [honly] at hp
  | some tag =>
    rw [htag] at hp
    exact hquery atom hatom tag htag p (Option.mem_toList.mp hp) hid

/-- Two catalogs in which two references lead to the same up to the tooltip answer alike to a query
that does not ask for tooltips. -/
theorem accepts_alike_of_sameUpToTooltip (h : c.SameUpToTooltip c' item item') (sets : NamedSets)
    {query : Text} (hquery : (builtIn (c.source : Source ω) sets).SparesTooltip query) :
    Search.Alike (c.BothRecall c')
      ((ofSource (c.source : Source ω) sets).accepts (some item) (some query))
      ((ofSource (c'.source : Source ω') sets).accepts (some item') (some query)) := by
  refine Registry.evaluate_alike fun atom hatom => Registry.evaluateRead_alike ?_ true
  have hbuiltIn : List.Forall₂ _ (builtIn (c.source : Source ω) sets).predicates
      (builtIn (c'.source : Source ω') sets).predicates := h.builtIn_alikeUpTo sets
  have hreached := Registry.reached_rel (fun _ _ h => h.tags) (fun _ _ h => h.tagOnly) hbuiltIn atom
  have hspared : ∀ p ∈ (builtIn (c.source : Source ω) sets).reached atom,
      p.id ≠ Attribute.tooltipId :=
    fun p hp => id_ne_of_mem_reached hquery hatom hp
  exact ((List.forall₂_and_left _ _).mpr ⟨hspared, hreached⟩).imp fun p q ⟨hne, hpq⟩ =>
    hpq.alike fun hid => absurd hid hne

end Engine

namespace Session

variable {c c' : Catalog} {chosen : Option Text} {fallback : Text} {s₀ : Session}

/-- Where a session over a catalog begins, one over a variant begins as well. Each after a history of
its own, they reply alike, be it with a value or a fault, to every reference and every query in which
no tag reaches the tooltip. -/
theorem reply_of_tooltipVariant (hc : c.TooltipVariant c')
    (h : ofCatalog c chosen fallback = .ok s₀) :
    ∃ s₁, ofCatalog c' chosen fallback = .ok s₁ ∧
      ∀ (history history' : List Action) (item query : Text),
        s₀.engine.registry.SparesTooltip query →
        (s₀.engine.accepts (some item) (some query)).reply (s₀.after history).memory =
          (s₁.engine.accepts (some item) (some query)).reply (s₁.after history').memory := by
  obtain ⟨sets, hsets, hengine, -, -⟩ := ofCatalog_eq_ok h
  have hsets' : Backend.select (c'.backendName chosen fallback) c'.setData = .ok sets := by
    unfold Catalog.backendName at hsets ⊢
    rw [← hc.backend_eq, ← hc.setData_eq]
    exact hsets
  obtain ⟨s₁, hs₁, hengine₁⟩ := ofCatalog_of_select hsets'
  refine ⟨s₁, hs₁, fun history history' item query hquery => ?_⟩
  have hmemory : c.BothRecall c' (s₀.after history).memory (s₁.after history').memory :=
    ⟨((ofCatalog_sound h).after history).recalls, ((ofCatalog_sound hs₁).after history').recalls⟩
  rw [hengine] at hquery ⊢
  rw [hengine₁]
  exact (Engine.accepts_alike_of_sameUpToTooltip (hc.sameUpToTooltip item) sets hquery).reply_eq
    hmemory

/-- Two rings with different words around the lines that say how they are bound. A query that asks for
the tooltip by the beginning of one of its tags tells them apart. -/
theorem reply_of_tooltipVariant_rings :
    let ring (tooltip : List String) : Catalog :=
      .ofEntries [{ Entry.named 7 "Ring" with tooltip := tooltip.map String.toList }]
    let c := ring ["Ring", "Finger", "Binds when equipped", "Sharp"]
    let c' := ring ["Band", "Finger", "Binds when equipped"]
    let item := some "item:7".toList
    let query := "n:ring & boe & !sharp".toList
    let history := [Action.accepts item (some "boe".toList)]
    c.TooltipVariant c' ∧
    ∃ s₀ s₁, ofCatalog c none "equipment".toList = .ok s₀ ∧
      ofCatalog c' none "equipment".toList = .ok s₁ ∧ s₀.engine.registry.SparesTooltip query ∧
      (s₀.engine.accepts item (some query)).reply (s₀.after []).memory =
        (s₁.engine.accepts item (some query)).reply (s₁.after history).memory ∧
      ¬s₀.engine.registry.SparesTooltip "to:sharp".toList ∧
      (s₀.engine.accepts item (some "to:sharp".toList)).reply s₀.memory = .ok true ∧
      (s₁.engine.accepts item (some "to:sharp".toList)).reply s₁.memory = .ok false := by
  intro ring c c' item query history
  have hc : c.TooltipVariant c' := ⟨rfl, .cons ⟨rfl, rfl, rfl⟩ .nil⟩
  have h : ofCatalog c none "equipment".toList = .ok _ := rfl
  obtain ⟨s₁, hs₁, hreply⟩ := reply_of_tooltipVariant hc h
  have hspares : (Engine.builtIn (c.source : Source Journal) .empty).SparesTooltip query := by
    decide +kernel
  obtain rfl := Except.ok.inj (hs₁.symm.trans (rfl : ofCatalog c' none "equipment".toList = .ok _))
  exact ⟨hc, _, _, h, hs₁, hspares, hreply [] history _ query hspares, by decide +kernel, rfl, rfl⟩

end Session

end ItemQuery
