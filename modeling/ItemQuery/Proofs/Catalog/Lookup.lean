import ItemQuery.Attribute.Tooltip
import ItemQuery.Engine
import ItemQuery.Proofs.Item.Link

/-!
What a catalog answers about a reference. A reference with an id leads to the entry of that id,
whatever else stands in it, and the scan for a bind text says whether the second or the third line
of that entry's tooltip is the text (`scanLines_source`).
-/

namespace ItemQuery

/-! ## Entries by id -/

/-- The blanks around a reference have no part in the id that it is read for. -/
theorem Catalog.find_eq (c : Catalog) (item : Text) :
    c.find item = match Link.itemId? item with
      | .error fault => .error fault
      | .ok (some id) => .ok (c.byId? id)
      | .ok none => match parseInt? (Text.trim item) with
        | some id => .ok (c.byId? id)
        | none => .ok (c.byName? (Text.trim item)) := by
  simp only [find, Link.itemId?_trim]
  cases Link.itemId? item with
  | error fault => rfl
  | ok id? =>
    cases id? with
    | some id => rfl
    | none => cases parseInt? (Text.trim item) <;> rfl

theorem Catalog.find_of_itemId (c : Catalog) {item : Text} {id : Int}
    (h : Link.itemId? item = .ok (some id)) : c.find item = .ok (c.byId? id) := by
  rw [c.find_eq, h]

theorem Catalog.find_of_itemId_error (c : Catalog) {item : Text} {fault : Fault}
    (h : Link.itemId? item = .error fault) : c.find item = .error fault := by
  rw [c.find_eq, h]

/-- Whatever a reference is, failing to read the id in it is the only fault. -/
theorem Catalog.find_eq_error_iff (c : Catalog) {item : Text} {fault : Fault} :
    c.find item = .error fault ↔ Link.itemId? item = .error fault := by
  rw [c.find_eq]
  cases Link.itemId? item with
  | error fault' => simp only [Except.error.injEq]
  | ok id? =>
    cases id? with
    | some id => simp only [reduceCtorEq]
    | none => cases parseInt? (Text.trim item) <;> simp only [reduceCtorEq]

theorem Catalog.mem_of_byId? {c : Catalog} {id : Int} {e : Entry} (h : c.byId? id = some e) :
    e ∈ c.entries :=
  List.mem_reverse.mp (List.mem_of_find?_eq_some h)

theorem Catalog.id_of_byId? {c : Catalog} {id : Int} {e : Entry} (h : c.byId? id = some e) :
    e.id = id := by
  simpa using List.find?_some h

theorem Catalog.exists_byId? {c : Catalog} {e : Entry} (h : e ∈ c.entries) :
    ∃ last, c.byId? e.id = some last := by
  rw [← Option.isSome_iff_exists, byId?, List.find?_isSome]
  exact ⟨e, List.mem_reverse.mpr h, beq_self_eq_true e.id⟩

/-- Behind the entry that is found by an id there is no other of that id. -/
theorem Catalog.exists_split_of_byId? {c : Catalog} {id : Int} {last : Entry}
    (h : c.byId? id = some last) :
    ∃ before after, c.entries = before ++ last :: after ∧ ∀ later ∈ after, later.id ≠ id := by
  obtain ⟨-, passed, rest, hsplit, hpassed⟩ := List.find?_eq_some_iff_append.mp h
  refine ⟨rest.reverse, passed.reverse, ?_, fun later hlater => ?_⟩
  · rw [← List.reverse_reverse c.entries, hsplit]
    simp
  · simpa using hpassed later (List.mem_reverse.mp hlater)

theorem Catalog.mem_of_find {c : Catalog} {item : Text} {e : Entry} (h : c.find item = .ok (some e)) :
    e ∈ c.entries := by
  rw [c.find_eq] at h
  split at h
  · cases h
  · exact mem_of_byId? (Except.ok.inj h)
  · split at h
    · exact mem_of_byId? (Except.ok.inj h)
    · exact List.mem_of_find?_eq_some (Except.ok.inj h)

/-- Two catalogs in which two references have the same id and lead to the same entry. -/
structure Catalog.SameItem (c c' : Catalog) (item item' : Text) : Prop where
  itemId : Link.itemId? item = Link.itemId? item'
  find : c.find item = c'.find item'
  qualityLabels : c.qualityLabels = c'.qualityLabels

theorem Catalog.SameItem.refl (c : Catalog) (item : Text) : c.SameItem c item item := ⟨rfl, rfl, rfl⟩

theorem Catalog.sameItem_of_itemId (c : Catalog) {item item' : Text} {id : Int}
    (h : Link.itemId? item = .ok (some id)) (h' : Link.itemId? item' = .ok (some id)) :
    c.SameItem c item item' where
  itemId := h.trans h'.symm
  find := by rw [c.find_of_itemId h, c.find_of_itemId h']
  qualityLabels := rfl

/-! ## Equipment -/

/-- An entry's flag says whether it is equipment; without one it is if it has a slot, and not the
bag's. -/
theorem Entry.isEquippable_eq_true_iff {e : Entry} : e.isEquippable = true ↔
    e.equippable = some true ∨
      e.equippable = none ∧ ∃ slot, e.slot = some slot ∧ slot ≠ [] ∧ slot ≠ Slot.bag := by
  unfold isEquippable
  cases e.equippable with
  | some b => simp
  | none => cases e.slot <;> simp

/-! ## Bind texts -/

/-- Whether the second or the third line of the tooltip is what is sought. -/
def Entry.bears (e : Entry) (sought : Json.Key) : Bool :=
  [e.tooltip[1]?, e.tooltip[2]?].any fun line? => line?.any fun line => decide (.text line = sought)

/-- Whether there is an entry of an id and it bears what is sought. -/
def Catalog.bears (c : Catalog) (id : Int) (sought : Json.Key) : Bool :=
  (c.byId? id).any fun e => e.bears sought

theorem Catalog.bears_text_iff (c : Catalog) (id : Int) (t : Text) :
    c.bears id (.text t) = true ↔
      ∃ e, c.byId? id = some e ∧ (e.tooltip[1]? = some t ∨ e.tooltip[2]? = some t) := by
  simp [Catalog.bears, Entry.bears, Option.any_eq_true]

theorem Catalog.SameItem.bears_eq {c c' : Catalog} {item item' : Text} (h : c.SameItem c' item item')
    {id : Int} (hid : Link.itemId? item = .ok (some id)) (sought : Json.Key) :
    c.bears id sought = c'.bears id sought := by
  have hfind := h.find
  rw [c.find_of_itemId hid, c'.find_of_itemId (h.itemId ▸ hid)] at hfind
  simp only [Catalog.bears, Except.ok.inj hfind]

/-- Two catalogs in which two references have the same id and lead to items of which the same is
known, except that the tooltips may differ where no bind text is looked for. -/
structure Catalog.SameUpToTooltip (c c' : Catalog) (item item' : Text) : Prop where
  itemId : Link.itemId? item = Link.itemId? item'
  qualityLabels : c.qualityLabels = c'.qualityLabels
  describe : c.describe item = c'.describe item'
  isEquippable : c.isEquippable item = c'.isEquippable item'
  bears : ∀ id sought, Link.itemId? item = .ok (some id) → c.bears id sought = c'.bears id sought

theorem Catalog.SameItem.sameUpToTooltip {c c' : Catalog} {item item' : Text}
    (h : c.SameItem c' item item') : c.SameUpToTooltip c' item item' where
  itemId := h.itemId
  qualityLabels := h.qualityLabels
  describe := by simp only [Catalog.describe, h.find]
  isEquippable := by simp only [Catalog.isEquippable, h.find]
  bears _ sought hid := h.bears_eq hid sought

theorem Catalog.SameItem.lines_eq {c c' : Catalog} {item item' : Text}
    (h : c.SameItem c' item item') : c.lines item = c'.lines item' := by
  simp only [Catalog.lines, h.find]

open Attribute in
/-- A scan looks at the second line and then at the third, which no tooltip has without a second. -/
theorem scanLines_source {ω : Type} (c : Catalog) {item : Text} {id : Int}
    (h : Link.itemId? item = .ok (some id)) (sought : Json.Key) :
    scanLines (c.source : Source ω) item sought bindLines = pure (c.bears id sought) := by
  have hline (i : Int) : (c.source : Source ω).line item i =
      pure ((c.byId? id).bind (·.line? i)) := by
    simp only [Catalog.source, Catalog.line, c.find_of_itemId h]
    rfl
  simp only [bindLines, scanLines, hline, pure_bind, Catalog.bears]
  cases c.byId? id with
  | none => rfl
  | some e =>
    have h₂ : e.line? 2 = e.tooltip[1]? := rfl
    have h₃ : e.line? 3 = e.tooltip[2]? := rfl
    simp only [Option.bind_some, h₂, h₃, Option.any_some, Entry.bears]
    cases hsecond : e.tooltip[1]? with
    | none =>
      have hthird : e.tooltip[2]? = none := by
        rw [List.getElem?_eq_none_iff] at hsecond ⊢
        omega
      simp [hthird]
    | some second =>
      by_cases hs : Json.Key.text second = sought
      · simp [hs]
      · cases e.tooltip[2]? with
        | none => simp [hs]
        | some third => by_cases ht : Json.Key.text third = sought <;> simp [hs, ht]

end ItemQuery
