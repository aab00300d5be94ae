import ItemQuery.Engine
import ItemQuery.Proofs.Number.Integer
import ItemQuery.Proofs.Search
import ItemQuery.Proofs.Sets.Basic
import ItemQuery.Proofs.Validation.Form

/-!
The three backends read the same sets out of their own data. Data of any of the three forms denotes
sets by the ids that its used slots or its leading fields carry; it is accepted, and what is read
holds those ids under those names (`Backend.readSets_of_denotes`). So nothing that is asked about
sets tells the backends apart (`Backend.interchangeable`).
-/

namespace ItemQuery

open Schema.Reader (Accepts)

namespace Backend

/-! ## What is written -/

def outfitSlotForm : Form OutfitSlot := Form.object fun v slot =>
  Form.optional "item_id" none Form.int.nullable v slot.itemId ∧
    Form.optional "used" true Form.bool v slot.used

def outfitForm : Form Outfit := Form.object fun v o =>
  Form.required "name" Form.text v o.name ∧
    Form.optional "slots" [] outfitSlotForm.list v o.slots

def rackEntryForm : Form RackEntry
  | v, .id n => Form.int v n
  | v, .item t => Form.text v t

def rackSetForm : Form (List RackEntry) := Form.object (Form.optional "equip" [] rackEntryForm.list)

/-- The ids in the slots of an outfit that are used. -/
def Outfit.Carries (o : Outfit) (id : Int) : Prop :=
  ∃ slot ∈ o.slots, slot.used = true ∧ slot.itemId = some id

/-- What an entry of a rack carries: its id, the id written in front, with blanks around it or not, or
nothing when no integer stands in front. Behind the first colon anything may stand. -/
inductive RackEntry.Carries : RackEntry → Option Int → Prop
  | id (n : Int) : Carries (.id n) (some n)
  | written {n : Int} (hn : isReadable n = true) {before after rest : Text}
      (hbefore : ∀ c ∈ before, Text.isBlank c = true) (hafter : ∀ c ∈ after, Text.isBlank c = true)
      (hrest : rest = [] ∨ rest.head? = some ':') :
      Carries (.item (before ++ (intText n ++ after) ++ rest)) (some n)
  | other {t : Text} (ht : parseInt? (Text.trim (Text.before ':' t)) = none) : Carries (.item t) none

/-- The data in which a backend keeps sets. Outfits of one name make up one set, and so do the
entries of a rack; what has no id adds none. -/
def Denotes : Backend → Json → NamedSets → Prop
  | .equipment, data, sets => Form.int.list.members data sets.members
  | .outfit, data, sets => ∃ outfits, outfitForm.list data outfits ∧
      ∀ name id, id ∈ sets.idsOf name ↔ ∃ o ∈ outfits, o.name = name ∧ o.Carries id
  | .rack, data, sets => ∃ racks, rackSetForm.members data racks ∧
      (∀ rack ∈ racks, ∀ entry ∈ rack.2, ∃ id?, entry.Carries id?) ∧
      ∀ name id, id ∈ sets.idsOf name ↔
        ∃ entries, (name, entries) ∈ racks ∧ ∃ entry ∈ entries, entry.Carries (some id)

/-! ## What is read -/

theorem readOutfitSlot_accepts : Accepts outfitSlotForm readOutfitSlot := by
  refine .object fun v slot hslot => ?_
  have hid := (Accepts.int.nullable fun _ h => nomatch h).optional "item_id" none v _ hslot.1
  have hused := Accepts.bool.optional "used" true v _ hslot.2
  exact Validated.seq_valid (Validated.map_valid hid) hused

theorem readOneOutfit_accepts : Accepts outfitForm readOneOutfit := by
  refine .object fun v o ho => ?_
  have hname := Accepts.text.required "name" v _ ho.1
  have hslots := readOutfitSlot_accepts.list.optional "slots" [] v _ ho.2
  exact Validated.seq_valid (Validated.map_valid hname) hslots

theorem readRackEntry_accepts : Accepts rackEntryForm readRackEntry := by
  intro v entry hentry
  cases entry with
  | id n =>
    cases hentry
    rfl
  | item t =>
    cases hentry
    rfl

theorem readRackSet_accepts : Accepts rackSetForm readRackSet :=
  .object (readRackEntry_accepts.list.optional "equip" [])

theorem Outfit.mem_ids_iff {o : Outfit} {id : Int} : id ∈ o.ids ↔ o.Carries id := by
  simp only [ids, Carries, List.mem_filterMap, Option.ite_none_right_eq_some]

theorem RackEntry.Carries.itemId?_eq {entry : RackEntry} {id? : Option Int}
    (h : entry.Carries id?) : entry.itemId? = id? := by
  cases h with
  | id n => rfl
  | other ht => exact ht
  | @written n hn before after rest hbefore hafter hrest =>
    have hcolon : Text.isBlank ':' = false := by decide
    have hfield : ':' ∉ before ++ (intText n ++ after) := by
      intro hmem
      rcases List.mem_append.mp hmem with h | h
      · exact absurd (hbefore ':' h) (by simp [hcolon])
      · rcases List.mem_append.mp h with h | h
        · exact absurd (mem_intText h) (by decide)
        · exact absurd (hafter ':' h) (by simp [hcolon])
    have hrest : ∀ c ∈ rest.head?, c = ':' := by
      rcases hrest with rfl | hrest
      · exact fun c hc => absurd hc (Option.not_mem_none c)
      · intro c hc
        rw [hrest] at hc
        exact (Option.some.inj hc).symm
    rw [itemId?, Text.before_append hfield hrest, Text.trim_between_blanks (intText_ne_nil n)
      hbefore (fun _ hc => not_isBlank_of_mem_intText hc) hafter, parseInt?_intText hn]

/-! ## Whole data -/

theorem members_object (ms : List (Text × Json)) : members (.object ms) = .ok ms := by
  cases ms with
  | nil => rfl
  | cons m ms => rfl

/-- What is read of each member is read of all of them, name by name. -/
theorem mapM_members {α β : Type} {form : Form α} {g : α → β}
    {f : Text × Json → Except Fault (Text × β)}
    (h : ∀ name v a, form v a → f (name, v) = .ok (name, g a)) {ms : List (Text × Json)}
    {as : List (Text × α)} (hms : List.Forall₂ (fun m a => m.1 = a.1 ∧ form m.2 a.2) ms as) :
    ms.mapM f = .ok (as.map fun a => (a.1, g a.2)) := by
  refine Except.mapM_eq_ok_iff.mpr (List.forall₂_map_right_iff.mpr (hms.imp ?_))
  rintro ⟨name, v⟩ ⟨_, a⟩ ⟨rfl, ha⟩
  exact h name v a ha

theorem toInt_of_form {items : List Json} {ids : List Int} (h : List.Forall₂ Form.int items ids) :
    items.mapM toInt = .ok ids :=
  Except.mapM_eq_ok_iff.mpr (h.imp fun _ _ hv => by rw [hv]; rfl)

theorem readEquipment_of_form {data : Json} {sets : List (Text × List Int)}
    (h : Form.int.list.members data sets) : readEquipment data = .ok ⟨sets⟩ := by
  obtain ⟨ms, rfl, -, hms⟩ := h
  unfold readEquipment
  rw [members_object]
  show Except.bind (ms.mapM _) _ = _
  rw [mapM_members (g := id) ?ids hms]
  case ids =>
    rintro name _ ids ⟨items, rfl, hitems⟩
    show Except.bind (items.mapM toInt) _ = _
    rw [toInt_of_form hitems]
    rfl
  show Except.ok (NamedSets.mk (sets.map id)) = _
  rw [List.map_id]

theorem readOutfit_of_form {data : Json} {outfits : List Outfit} (h : outfitForm.list data outfits) :
    readOutfit data = .ok (.gather (outfits.map fun o => (o.name, o.ids))) := by
  obtain ⟨items, rfl, hitems⟩ := h
  have hread : items.mapM (fun v => (readOneOutfit v).toExcept) = .ok outfits :=
    Except.mapM_eq_ok_iff.mpr (hitems.imp fun v o ho => by rw [readOneOutfit_accepts v o ho]; rfl)
  have helements : readOutfit (.array items) = Except.bind
      (items.mapM fun v => (readOneOutfit v).toExcept)
      fun outfits => .ok (.gather (outfits.map fun o => (o.name, o.ids))) := by
    cases items with
    | nil => rfl
    | cons v items => rfl
  rw [helements, hread]
  rfl

theorem readRack_of_form {data : Json} {racks : List (Text × List RackEntry)}
    (h : rackSetForm.members data racks) :
    readRack data = .ok ⟨racks.map fun rack => (rack.1, rack.2.filterMap RackEntry.itemId?)⟩ := by
  obtain ⟨ms, rfl, -, hms⟩ := h
  unfold readRack
  rw [members_object]
  show Except.bind (ms.mapM _) _ = _
  rw [mapM_members (g := List.filterMap RackEntry.itemId?) ?entries hms]
  case entries =>
    intro name v entries hv
    dsimp only
    rw [readRackSet_accepts v entries hv]
    rfl
  rfl

theorem lists_outfits {outfits : List Outfit} {name : Text} {id : Int} :
    NamedSets.Lists (outfits.map fun o => (o.name, o.ids)) name id ↔
      ∃ o ∈ outfits, o.name = name ∧ o.Carries id := by
  simp only [NamedSets.Lists, List.mem_map, Prod.mk.injEq, ← Outfit.mem_ids_iff]
  constructor
  · rintro ⟨_, ⟨o, ho, hname, rfl⟩, hid⟩
    exact ⟨o, ho, hname, hid⟩
  · rintro ⟨o, ho, hname, hid⟩
    exact ⟨o.ids, ⟨o, ho, hname, rfl⟩, hid⟩

theorem lists_racks {racks : List (Text × List RackEntry)}
    (h : ∀ rack ∈ racks, ∀ entry ∈ rack.2, ∃ id?, entry.Carries id?) {name : Text} {id : Int} :
    NamedSets.Lists (racks.map fun rack => (rack.1, rack.2.filterMap RackEntry.itemId?)) name id ↔
      ∃ entries, (name, entries) ∈ racks ∧ ∃ entry ∈ entries, entry.Carries (some id) := by
  simp only [NamedSets.Lists, List.mem_map, Prod.mk.injEq]
  constructor
  · rintro ⟨_, ⟨⟨_, entries⟩, hrack, rfl, rfl⟩, hid⟩
    obtain ⟨entry, hentry, hitem⟩ := List.mem_filterMap.mp hid
    obtain ⟨id?, hcarries⟩ := h _ hrack entry hentry
    rw [hcarries.itemId?_eq] at hitem
    exact ⟨entries, hrack, entry, hentry, hitem ▸ hcarries⟩
  · rintro ⟨entries, hrack, entry, hentry, hcarries⟩
    exact ⟨_, ⟨(name, entries), hrack, rfl, rfl⟩,
      List.mem_filterMap.mpr ⟨entry, hentry, hcarries.itemId?_eq⟩⟩

/-- A backend accepts all data that denotes sets and reads these sets out of it. -/
theorem readSets_of_denotes {b : Backend} {data : Json} {sets : NamedSets}
    (h : b.Denotes data sets) : ∃ s, b.readSets data = .ok s ∧ s.names.Nodup ∧
      ∀ name id, id ∈ s.idsOf name ↔ id ∈ sets.idsOf name := by
  cases b with
  | equipment =>
    exact ⟨sets, readEquipment_of_form h, Form.names_of_members h, fun _ _ => Iff.rfl⟩
  | outfit =>
    obtain ⟨outfits, hform, hsets⟩ := h
    refine ⟨_, readOutfit_of_form hform, NamedSets.nodup_names_gather _, fun name id => ?_⟩
    rw [NamedSets.mem_idsOf_gather_iff, lists_outfits, hsets]
  | rack =>
    obtain ⟨racks, hform, hcarries, hsets⟩ := h
    have hnames : (NamedSets.mk (racks.map fun rack =>
        (rack.1, rack.2.filterMap RackEntry.itemId?))).names.Nodup := by
      rw [NamedSets.names, List.map_map]
      exact Form.names_of_members hform
    refine ⟨_, readRack_of_form hform, hnames, fun name id => ?_⟩
    rw [NamedSets.mem_idsOf_iff hnames, lists_racks hcarries, hsets]

/-! ## One set in three forms -/

/-- A set with a negative id, and a set without a name. -/
def tankAndNameless : NamedSets := ⟨[("tank".toList, [7, -3]), ([], [9])]⟩

def tankOutfits : List Outfit :=
  [⟨"tank".toList, [⟨some 7, true⟩, ⟨none, true⟩, ⟨some 5, false⟩]⟩, ⟨[], [⟨some 9, true⟩]⟩,
    ⟨"tank".toList, [⟨some (-3), true⟩]⟩]

def tankRacks : List (Text × List RackEntry) :=
  [([], [.id 9]), ("tank".toList, [.item " -3 :0:0".toList, .item "empty".toList, .item "7".toList])]

/-- The outfits of the tank are two; the id of a slot and its being used may be left out. -/
def tankOutfitData : Json :=
  .array [
    .object [("name".toList, .text "tank".toList), ("slots".toList, .array [
      .object [("item_id".toList, .number (.int 7))],
      .object [("item_id".toList, .null), ("used".toList, .bool true)],
      .object [("item_id".toList, .number (.int 5)), ("used".toList, .bool false)]])],
    .object [("slots".toList, .array [.object [("item_id".toList, .number (.int 9))]]),
      ("name".toList, .text [])],
    .object [("name".toList, .text "tank".toList), ("slots".toList, .array [
      .object [("item_id".toList, .number (.int (-3))), ("used".toList, .bool true)]])]]

def tankRackData : Json :=
  .object [([], .object [("equip".toList, .array [.number (.int 9)])]),
    ("tank".toList, .object [("equip".toList,
      .array [.text " -3 :0:0".toList, .text "empty".toList, .text "7".toList])])]

def tankEquipmentData : Json :=
  .object [("tank".toList, .array [.number (.int 7), .number (.int (-3))]),
    ([], .array [.number (.int 9)])]

theorem mem_tankAndNameless {name : Text} {id : Int} : id ∈ tankAndNameless.idsOf name ↔
    NamedSets.Lists tankAndNameless.members name id :=
  NamedSets.mem_idsOf_iff (by decide)

theorem tankOutfitData_denotes : outfit.Denotes tankOutfitData tankAndNameless := by
  have hslot {members : List (Text × Json)} {slot : OutfitSlot}
      (hid : Form.optional "item_id" none Form.int.nullable (.object members) slot.itemId)
      (hused : Form.optional "used" true Form.bool (.object members) slot.used) :
      outfitSlotForm (.object members) slot :=
    ⟨⟨members, rfl⟩, hid, hused⟩
  have houtfit {members : List (Text × Json)} {slots : List Json} {o : Outfit}
      (hname : Form.required "name" Form.text (.object members) o.name)
      (hmember : (Json.object members).member? "slots" = some (.array slots))
      (hslots : List.Forall₂ outfitSlotForm slots o.slots) : outfitForm (.object members) o :=
    ⟨⟨members, rfl⟩, hname, .given hmember ⟨slots, rfl, hslots⟩⟩
  refine ⟨tankOutfits, ⟨_, rfl, ?_⟩, fun name id => ?_⟩
  · refine .cons (houtfit ⟨_, rfl, rfl⟩ rfl ?_) (.cons (houtfit ⟨_, rfl, rfl⟩ rfl ?_)
      (.cons (houtfit ⟨_, rfl, rfl⟩ rfl ?_) .nil))
    · exact .cons (hslot (.given rfl rfl) (.absent rfl))
        (.cons (hslot (.given rfl rfl) (.given rfl rfl))
          (.cons (hslot (.given rfl rfl) (.given rfl rfl)) .nil))
    · exact .cons (hslot (.given rfl rfl) (.absent rfl)) .nil
    · exact .cons (hslot (.given rfl rfl) (.given rfl rfl)) .nil
  · have hlists : tankOutfits.map (fun o => (o.name, o.ids)) =
        [("tank".toList, [7]), ([], [9]), ("tank".toList, [-3])] := by decide
    rw [mem_tankAndNameless, ← lists_outfits, hlists]
    simp only [tankAndNameless, NamedSets.lists_cons, List.mem_cons]
    tauto

theorem tankRackData_denotes : rack.Denotes tankRackData tankAndNameless := by
  have hminus : (RackEntry.item " -3 :0:0".toList).Carries (some (-3)) := by
    have htext : " ".toList ++ (intText (-3) ++ " ".toList) ++ ":0:0".toList = " -3 :0:0".toList := by
      decide
    rw [← htext]
    exact .written (by decide) (List.all_eq_true.mp rfl) (List.all_eq_true.mp rfl) (.inr rfl)
  have hseven : (RackEntry.item "7".toList).Carries (some 7) :=
    @RackEntry.Carries.written 7 (by decide) [] [] [] (List.forall_mem_nil _)
      (List.forall_mem_nil _) (.inl rfl)
  have hcarries : ∀ rack ∈ tankRacks, ∀ entry ∈ rack.2, ∃ id?, entry.Carries id? := by
    simp only [tankRacks, List.forall_mem_cons]
    exact ⟨⟨⟨_, .id 9⟩, by simp⟩, ⟨⟨_, hminus⟩, ⟨_, .other (by decide)⟩, ⟨_, hseven⟩, by simp⟩,
      by simp⟩
  refine ⟨tankRacks, ⟨_, rfl, by decide, ?_⟩, hcarries, fun name id => ?_⟩
  · exact .cons ⟨rfl, ⟨_, rfl⟩, .given rfl ⟨_, rfl, .cons rfl .nil⟩⟩
      (.cons ⟨rfl, ⟨_, rfl⟩, .given rfl
        ⟨_, rfl, .cons rfl (.cons rfl (.cons rfl .nil))⟩⟩ .nil)
  · have hlists : tankRacks.map (fun rack => (rack.1, rack.2.filterMap RackEntry.itemId?)) =
        [([], [9]), ("tank".toList, [-3, 7])] := by decide
    rw [mem_tankAndNameless, ← lists_racks hcarries, hlists]
    simp only [tankAndNameless, NamedSets.lists_cons, List.mem_cons]
    tauto

theorem tankEquipmentData_denotes : equipment.Denotes tankEquipmentData tankAndNameless :=
  ⟨_, rfl, by decide, .cons ⟨rfl, _, rfl, .cons rfl (.cons rfl .nil)⟩
    (.cons ⟨rfl, _, rfl, .cons rfl .nil⟩ .nil)⟩

end Backend

/-! ## Engines over the same sets -/

variable {ω : Type}

theorem Source.inSet_congr (source : Source ω) {sets sets' : NamedSets}
    (h : ∀ id search, sets.belongs id search = sets'.belongs id search) :
    source.inSet sets = source.inSet sets' := by
  funext item search
  simp only [inSet, h]

theorem Attribute.sets_congr (source : Source ω) {named named' : NamedSets}
    (h : ∀ id search, named.belongs id search = named'.belongs id search) :
    sets source named = sets source named' := by
  unfold sets
  rw [source.inSet_congr h]

/-- Sets are asked about membership alone, by the predicate for them and by the engine itself. -/
theorem Engine.ofSource_congr (source : Source ω) {sets sets' : NamedSets}
    (h : ∀ id search, sets.belongs id search = sets'.belongs id search) :
    (ofSource source sets).inSet = (ofSource source sets').inSet ∧
      (ofSource source sets).accepts = (ofSource source sets').accepts := by
  have hregistry : builtIn source sets = builtIn source sets' := by
    unfold builtIn
    rw [Attribute.sets_congr source h]
  constructor
  · funext item search
    simp only [inSet, ofSource, source.inSet_congr h]
  · funext item query
    simp only [accepts, ofSource, hregistry]

namespace Backend

/-- Two backends whose data denotes the same sets accept it, under any spelling of their names, and
nothing tells them apart: each set holds the ids that it holds in the other, and an engine gives the
same answers and raises the same over either. -/
theorem interchangeable {sets : NamedSets} {b b' : Backend} {data data' : Json}
    (h : b.Denotes data sets) (h' : b'.Denotes data' sets) {name name' : Text}
    (hname : ofName name = .ok b) (hname' : ofName name' = .ok b') :
    ∃ s s', select name data = .ok s ∧ select name' data' = .ok s' ∧
      (∀ set id, (id ∈ s.idsOf set ↔ id ∈ sets.idsOf set) ∧
        (id ∈ s'.idsOf set ↔ id ∈ sets.idsOf set)) ∧
      (∀ id search, s.belongs id search = s'.belongs id search) ∧
      ∀ {ω : Type} (source : Source ω),
        (Engine.ofSource source s).inSet = (Engine.ofSource source s').inSet ∧
        (Engine.ofSource source s).accepts = (Engine.ofSource source s').accepts := by
  obtain ⟨s, hread, hnodup, hs⟩ := readSets_of_denotes h
  obtain ⟨s', hread', hnodup', hs'⟩ := readSets_of_denotes h'
  have hbelongs := NamedSets.belongs_congr hnodup hnodup' fun set id =>
    (hs set id).trans (hs' set id).symm
  refine ⟨s, s', ?_, ?_, fun set id => ⟨hs set id, hs' set id⟩, hbelongs,
    fun source => Engine.ofSource_congr source hbelongs⟩
  · rw [select, hname]
    exact hread
  · rw [select, hname']
    exact hread'

/-- Equipment against outfits, and outfits against racks, with names in other spellings. -/
theorem interchangeable_tank :
    equipment.Denotes tankEquipmentData tankAndNameless ∧
      outfit.Denotes tankOutfitData tankAndNameless ∧ rack.Denotes tankRackData tankAndNameless ∧
      ofName "Equipment".toList = .ok equipment ∧ ofName "outfit".toList = .ok outfit ∧
      ofName "RACK".toList = .ok rack ∧
      (∃ s s', select "Equipment".toList tankEquipmentData = .ok s ∧
        select "outfit".toList tankOutfitData = .ok s' ∧
        ∀ {ω : Type} (source : Source ω),
          (Engine.ofSource source s).accepts = (Engine.ofSource source s').accepts) ∧
      ∃ s s', select "outfit".toList tankOutfitData = .ok s ∧
        select "RACK".toList tankRackData = .ok s' ∧
        (∀ set id, (id ∈ s.idsOf set ↔ id ∈ tankAndNameless.idsOf set) ∧
          (id ∈ s'.idsOf set ↔ id ∈ tankAndNameless.idsOf set)) ∧
        (∀ id search, s.belongs id search = s'.belongs id search) ∧
        ∀ {ω : Type} (source : Source ω),
          (Engine.ofSource source s).inSet = (Engine.ofSource source s').inSet ∧
          (Engine.ofSource source s).accepts = (Engine.ofSource source s').accepts := by
  have hequipment : ofName "Equipment".toList = .ok equipment := rfl
  have houtfit : ofName "outfit".toList = .ok outfit := rfl
  have hrack : ofName "RACK".toList = .ok rack := rfl
  obtain ⟨s, s', hs, hs', -, -, hengines⟩ :=
    interchangeable tankEquipmentData_denotes tankOutfitData_denotes hequipment houtfit
  exact ⟨tankEquipmentData_denotes, tankOutfitData_denotes, tankRackData_denotes, hequipment,
    houtfit, hrack, ⟨s, s', hs, hs', fun source => (hengines source).2⟩,
    interchangeable tankOutfitData_denotes tankRackData_denotes houtfit hrack⟩

end Backend

end ItemQuery
