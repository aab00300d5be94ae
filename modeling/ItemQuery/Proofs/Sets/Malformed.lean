import ItemQuery.Proofs.Search
import ItemQuery.Proofs.Sets.Backend

/-!
Set data that cannot be read. Whatever stands in the place of the data, a backend reads its sets or
refuses it as malformed, but for the shapes that it breaks on (`Backend.BreaksOn`): sets by name that
are no object, outfits or ids that cannot be gone through, and ids that are no number at all or an
infinite one. These are all there are, whatever the data (`Backend.select_outcome`).
-/

namespace ItemQuery.Backend

variable {data v : Json} {fault : Fault}

/-! ## Shapes that a backend breaks on -/

/-- A value that has no elements. -/
inductive IsUnlisted : Json → Prop
  | null : IsUnlisted .null
  | bool (b : Bool) : IsUnlisted (.bool b)
  | number (n : Number) : IsUnlisted (.number n)

/-- A value that is converted to no integer, not for what it says but for what it is. -/
inductive Unconvertible : Json → Fault → Prop
  | null : Unconvertible .null .unsuitable
  | array (items : List Json) : Unconvertible (.array items) .unsuitable
  | object (members : List (Text × Json)) : Unconvertible (.object members) .unsuitable
  | infinite (negative : Bool) :
    Unconvertible (.number (.double (.infinite negative))) .infiniteInteger

/-- The ids that a value lists. -/
def readIds (v : Json) : Except Fault (List Int) := do (← elements v).mapM toInt

/-- What stands in the place of ids and breaks their reading: it has no elements, or the first of them
that is no id is none for what it is. -/
inductive IdsBreakOn : Json → Fault → Prop
  | unlisted {v : Json} : IsUnlisted v → IdsBreakOn v .unsuitable
  | element {v x : Json} {before after : List Json} {fault : Fault} :
      elements v = .ok (before ++ x :: after) → (∀ y ∈ before, ∃ n, toInt y = .ok n) →
      Unconvertible x fault → IdsBreakOn v fault

/-- What stands in the place of set data and breaks a backend. Values that count as no data never do. -/
inductive BreaksOn : Backend → Json → Fault → Prop
  | unnamed {b : Backend} {data : Json} : b ≠ .outfit → data.isTruthy = true →
      (∀ ms, data ≠ .object ms) → BreaksOn b data .noSuchPart
  | unlisted {data : Json} : data.isTruthy = true → IsUnlisted data →
      BreaksOn .outfit data .unsuitable
  | ids {before after : List (Text × Json)} {name : Text} {v : Json} {fault : Fault} :
      (∀ m ∈ before, ∃ ids, readIds m.2 = .ok ids) → IdsBreakOn v fault →
      BreaksOn .equipment (.object (before ++ (name, v) :: after)) fault

/-! ## Reading in order -/

/-- Values are read up to the first that cannot be. -/
theorem mapM_eq_error_iff {α β ε : Type} {f : α → Except ε β} {as : List α} {fault : ε} :
    as.mapM f = .error fault ↔ ∃ before a after, as = before ++ a :: after ∧
      (∀ b ∈ before, ∃ v, f b = .ok v) ∧ f a = .error fault := by
  induction as with
  | nil =>
    refine iff_of_false (fun h => by cases h) ?_
    rintro ⟨before, a, after, hsplit, -⟩
    simp at hsplit
  | cons a as ih =>
    rw [List.mapM_cons, Except.bind_eq_error_iff]
    constructor
    · rintro (hfault | ⟨v, hv, hrest⟩)
      · exact ⟨[], a, as, rfl, List.forall_mem_nil _, hfault⟩
      · rcases Except.bind_eq_error_iff.mp hrest with hfault | ⟨vs, -, hpure⟩
        · obtain ⟨before, b, after, rfl, hbefore, hb⟩ := ih.mp hfault
          exact ⟨a :: before, b, after, rfl, List.forall_mem_cons.mpr ⟨⟨v, hv⟩, hbefore⟩, hb⟩
        · cases hpure
    · rintro ⟨before, b, after, hsplit, hbefore, hb⟩
      cases before with
      | nil =>
        obtain ⟨rfl, rfl⟩ := List.cons.inj hsplit
        exact .inl hb
      | cons c before =>
        obtain ⟨rfl, rfl⟩ := List.cons.inj hsplit
        obtain ⟨⟨v, hv⟩, hbefore⟩ := List.forall_mem_cons.mp hbefore
        have hrest := ih.mpr ⟨before, b, after, rfl, hbefore, hb⟩
        exact .inr ⟨v, hv, Except.bind_eq_error_iff.mpr (.inl hrest)⟩

/-! ## Ids -/

theorem toInt_breaks_iff :
    toInt v = .error fault ∧ fault.isRefusal = false ↔ Unconvertible v fault := by
  constructor
  · rintro ⟨hfault, hkind⟩
    cases v with
    | null =>
      cases hfault
      exact .null
    | bool b => cases hfault
    | number n =>
      cases n with
      | int n => cases hfault
      | double d =>
        cases d with
        | nan negative payload =>
          cases hfault
          cases hkind
        | infinite negative =>
          cases hfault
          exact .infinite negative
        | finite negative significand exponent => cases hfault
    | text t =>
      cases hparse : parseInt? t with
      | some n => simp [toInt, hparse] at hfault
      | none =>
        simp only [toInt, hparse, Except.error.injEq] at hfault
        rw [← hfault] at hkind
        cases hkind
    | array items =>
      cases hfault
      exact .array items
    | object members =>
      cases hfault
      exact .object members
  · intro h
    cases h <;> exact ⟨rfl, rfl⟩

theorem elements_eq_error_iff :
    elements v = .error fault ↔ fault = .unsuitable ∧ IsUnlisted v := by
  constructor
  · intro hfault
    cases v with
    | null =>
      cases hfault
      exact ⟨rfl, .null⟩
    | bool b =>
      cases hfault
      exact ⟨rfl, .bool b⟩
    | number n =>
      cases hfault
      exact ⟨rfl, .number n⟩
    | text t => cases hfault
    | array items => cases hfault
    | object members => cases hfault
  · rintro ⟨rfl, h⟩
    cases h <;> rfl

theorem readIds_breaks_iff :
    readIds v = .error fault ∧ fault.isRefusal = false ↔ IdsBreakOn v fault := by
  unfold readIds
  rw [Except.bind_eq_error_iff]
  constructor
  · rintro ⟨hunlisted | ⟨items, helements, hitems⟩, hkind⟩
    · obtain ⟨rfl, hv⟩ := elements_eq_error_iff.mp hunlisted
      exact .unlisted hv
    · obtain ⟨before, x, after, rfl, hbefore, hx⟩ := mapM_eq_error_iff.mp hitems
      exact .element helements hbefore (toInt_breaks_iff.mp ⟨hx, hkind⟩)
  · intro h
    cases h with
    | unlisted hv => exact ⟨.inl (elements_eq_error_iff.mpr ⟨rfl, hv⟩), rfl⟩
    | element helements hbefore hx =>
      obtain ⟨hfault, hkind⟩ := toInt_breaks_iff.mpr hx
      exact ⟨.inr ⟨_, helements, mapM_eq_error_iff.mpr ⟨_, _, _, rfl, hbefore, hfault⟩⟩, hkind⟩

/-! ## Members -/

theorem members_eq_error_iff : members data = .error fault ↔
    fault = .noSuchPart ∧ data.isTruthy = true ∧ ∀ ms, data ≠ .object ms := by
  unfold members
  cases htruthy : data.isTruthy with
  | false => simp
  | true =>
    cases data with
    | object ms => simp
    | _ => simp [eq_comm]

theorem members_eq_ok {ms : List (Text × Json)} (h : members data = .ok ms) :
    data = .object ms ∨ ms = [] := by
  unfold members at h
  cases htruthy : data.isTruthy with
  | false =>
    rw [htruthy] at h
    cases h
    exact .inr rfl
  | true =>
    rw [htruthy] at h
    cases data with
    | object members =>
      cases h
      exact .inl rfl
    | _ => cases h

/-- What fails at the members of an object fails at the first that cannot be read. -/
theorem members_mapM_eq_error_iff {α : Type} {f : Text × Json → Except Fault α} :
    (members data >>= fun ms => ms.mapM f) = .error fault ↔
      members data = .error fault ∨ ∃ before m after, data = .object (before ++ m :: after) ∧
        (∀ b ∈ before, ∃ a, f b = .ok a) ∧ f m = .error fault := by
  rw [Except.bind_eq_error_iff]
  refine or_congr_right ⟨?_, ?_⟩
  · rintro ⟨ms, hms, hfault⟩
    obtain ⟨before, m, after, rfl, hbefore, hm⟩ := mapM_eq_error_iff.mp hfault
    have hdata := (members_eq_ok hms).resolve_right (by simp)
    exact ⟨before, m, after, hdata, hbefore, hm⟩
  · rintro ⟨before, m, after, rfl, hbefore, hm⟩
    exact ⟨_, members_object _, mapM_eq_error_iff.mpr ⟨before, m, after, rfl, hbefore, hm⟩⟩

/-- What is made of values that have been read adds no failure. -/
theorem bind_ok_eq_error_iff {α β ε : Type} {x : Except ε α} {f : α → β} {fault : ε} :
    (x >>= fun a => .ok (f a)) = .error fault ↔ x = .error fault := by
  rw [Except.bind_eq_error_iff]
  simp

/-! ## The three backends -/

/-- A set of an equipment. -/
def readMember : Text × Json → Except Fault (Text × List Int) := fun (name, v) => do
  return (name, ← (← elements v).mapM toInt)

theorem readMember_eq (m : Text × Json) : readMember m = (readIds m.2).map (m.1, ·) := by
  obtain ⟨name, v⟩ := m
  simp only [readMember, readIds]
  cases elements v with
  | error fault => rfl
  | ok items =>
    show Except.bind (items.mapM toInt) _ = Except.map _ (items.mapM toInt)
    cases items.mapM toInt <;> rfl

theorem readMember_eq_error_iff {m : Text × Json} :
    readMember m = .error fault ↔ readIds m.2 = .error fault := by
  rw [readMember_eq]
  cases readIds m.2 <;> simp [Except.map]

theorem exists_readMember_iff {m : Text × Json} :
    (∃ set, readMember m = .ok set) ↔ ∃ ids, readIds m.2 = .ok ids := by
  rw [readMember_eq]
  cases readIds m.2 <;> simp [Except.map]

theorem readEquipment_eq_error_iff : readEquipment data = .error fault ↔
    (members data >>= fun ms => ms.mapM readMember) = .error fault := by
  have hread : readEquipment data =
      (members data >>= fun ms => ms.mapM readMember) >>= fun sets => .ok ⟨sets⟩ := by
    unfold readEquipment
    cases members data <;> rfl
  rw [hread, bind_ok_eq_error_iff]

theorem readEquipment_breaks_iff : readEquipment data = .error fault ∧ fault.isRefusal = false ↔
    BreaksOn .equipment data fault := by
  rw [readEquipment_eq_error_iff, members_mapM_eq_error_iff, members_eq_error_iff]
  simp only [exists_readMember_iff, readMember_eq_error_iff]
  constructor
  · rintro ⟨⟨rfl, htruthy, hobject⟩ | ⟨before, ⟨name, v⟩, after, rfl, hbefore, hv⟩, hkind⟩
    · exact .unnamed (by decide) htruthy hobject
    · exact .ids hbefore (readIds_breaks_iff.mp ⟨hv, hkind⟩)
  · intro h
    cases h with
    | unnamed hb htruthy hobject => exact ⟨.inl ⟨rfl, htruthy, hobject⟩, rfl⟩
    | ids hbefore hv =>
      obtain ⟨hfault, hkind⟩ := readIds_breaks_iff.mpr hv
      exact ⟨.inr ⟨_, _, _, rfl, hbefore, hfault⟩, hkind⟩

/-- What a schema does not accept is refused. -/
theorem isRefusal_of_toExcept {α : Type} {v? : Validated α} (h : v?.toExcept = .error fault) :
    fault.isRefusal = true := by
  cases v? with
  | valid a => cases h
  | invalid issues =>
    cases h
    rfl

theorem readOutfit_eq_error_iff : readOutfit data = .error fault ↔
    ((if data.isTruthy then elements data else .ok []) >>= fun vs =>
      vs.mapM fun v => (readOneOutfit v).toExcept) = .error fault := by
  have hread : readOutfit data = ((if data.isTruthy then elements data else .ok []) >>= fun vs =>
      vs.mapM fun v => (readOneOutfit v).toExcept) >>= fun outfits =>
        .ok (.gather (outfits.map fun o => (o.name, o.ids))) := by
    unfold readOutfit
    cases data.isTruthy with
    | false => rfl
    | true => cases elements data <;> rfl
  rw [hread, bind_ok_eq_error_iff]

theorem readOutfit_breaks_iff : readOutfit data = .error fault ∧ fault.isRefusal = false ↔
    BreaksOn .outfit data fault := by
  rw [readOutfit_eq_error_iff, Except.bind_eq_error_iff]
  constructor
  · rintro ⟨hunlisted | ⟨vs, -, houtfits⟩, hkind⟩
    · cases htruthy : data.isTruthy with
      | false => simp [htruthy] at hunlisted
      | true =>
        rw [htruthy, if_pos rfl] at hunlisted
        obtain ⟨rfl, hdata⟩ := elements_eq_error_iff.mp hunlisted
        exact .unlisted htruthy hdata
    · obtain ⟨before, v, after, -, -, hv⟩ := mapM_eq_error_iff.mp houtfits
      rw [isRefusal_of_toExcept hv] at hkind
      cases hkind
  · intro h
    cases h with
    | unnamed hb => exact absurd rfl hb
    | unlisted htruthy hdata =>
      rw [htruthy, if_pos rfl]
      exact ⟨.inl (elements_eq_error_iff.mpr ⟨rfl, hdata⟩), rfl⟩

/-- A set of a rack. -/
def readRackMember : Text × Json → Except Fault (Text × List Int) := fun (name, v) => do
  return (name, (← (readRackSet v).toExcept).filterMap RackEntry.itemId?)

theorem isRefusal_of_readRackMember {m : Text × Json} (h : readRackMember m = .error fault) :
    fault.isRefusal = true := by
  unfold readRackMember at h
  rcases Except.bind_eq_error_iff.mp h with hset | ⟨entries, -, hpure⟩
  · exact isRefusal_of_toExcept hset
  · cases hpure

theorem readRack_eq_error_iff : readRack data = .error fault ↔
    (members data >>= fun ms => ms.mapM readRackMember) = .error fault := by
  have hread : readRack data =
      (members data >>= fun ms => ms.mapM readRackMember) >>= fun sets => .ok ⟨sets⟩ := by
    unfold readRack
    cases members data <;> rfl
  rw [hread, bind_ok_eq_error_iff]

theorem readRack_breaks_iff : readRack data = .error fault ∧ fault.isRefusal = false ↔
    BreaksOn .rack data fault := by
  rw [readRack_eq_error_iff, members_mapM_eq_error_iff, members_eq_error_iff]
  constructor
  · rintro ⟨⟨rfl, htruthy, hobject⟩ | ⟨before, m, after, -, -, hm⟩, hkind⟩
    · exact .unnamed (by decide) htruthy hobject
    · rw [isRefusal_of_readRackMember hm] at hkind
      cases hkind
  · intro h
    cases h with
    | unnamed hb htruthy hobject => exact ⟨.inl ⟨rfl, htruthy, hobject⟩, rfl⟩

theorem readSets_breaks_iff {b : Backend} :
    b.readSets data = .error fault ∧ fault.isRefusal = false ↔ b.BreaksOn data fault := by
  cases b with
  | equipment => exact readEquipment_breaks_iff
  | outfit => exact readOutfit_breaks_iff
  | rack => exact readRack_breaks_iff

/-! ## Whatever stands in the place of the data -/

theorem isRefusal_of_ofName {name : Text} (h : ofName name = .error fault) :
    fault.isRefusal = true := by
  unfold ofName at h
  split at h
  · cases h
  · cases h
    rfl

theorem select_breaks_iff {name : Text} :
    select name data = .error fault ∧ fault.isRefusal = false ↔
      ∃ b, ofName name = .ok b ∧ b.BreaksOn data fault := by
  unfold select
  rw [Except.bind_eq_error_iff]
  constructor
  · rintro ⟨hname | ⟨b, hb, hsets⟩, hkind⟩
    · rw [isRefusal_of_ofName hname] at hkind
      cases hkind
    · exact ⟨b, hb, readSets_breaks_iff.mp ⟨hsets, hkind⟩⟩
  · rintro ⟨b, hb, hbreaks⟩
    obtain ⟨hsets, hkind⟩ := readSets_breaks_iff.mpr hbreaks
    exact ⟨.inr ⟨b, hb, hsets⟩, hkind⟩

/-- A backend of any name, over whatever stands in the place of its data, gives sets or refuses a value
that it was given, unless the data is of a shape that it breaks on. It breaks on every such shape, in
the way that belongs to it, and on no other. -/
theorem select_outcome (name : Text) (data : Json) :
    ((∃ sets, select name data = .ok sets) ∨
      (∃ fault, select name data = .error fault ∧ fault.isRefusal = true) ∨
      ∃ b fault, ofName name = .ok b ∧ b.BreaksOn data fault) ∧
    ∀ fault, select name data = .error fault ∧ fault.isRefusal = false ↔
      ∃ b, ofName name = .ok b ∧ b.BreaksOn data fault := by
  refine ⟨?_, fun fault => select_breaks_iff⟩
  cases hselect : select name data with
  | ok sets => exact .inl ⟨sets, rfl⟩
  | error fault =>
    cases hkind : fault.isRefusal with
    | true => exact .inr (.inl ⟨fault, rfl, hkind⟩)
    | false =>
      obtain ⟨b, hb, hbreaks⟩ := select_breaks_iff.mp ⟨hselect, hkind⟩
      exact .inr (.inr ⟨b, fault, hb, hbreaks⟩)

/-- A list in the place of sets by name, an infinite id, and a number in the place of outfits. -/
theorem select_broken :
    let tank (id : Json) : Json := .object [("tank".toList, .array [id])]
    select "equipment".toList (.array [.number (.int 1)]) = .error .noSuchPart ∧
      select "equipment".toList (tank (.number (.double (.infinite false)))) =
        .error .infiniteInteger ∧
      select "outfit".toList (.number (.int 7)) = .error .unsuitable ∧
      [Fault.noSuchPart, .infiniteInteger, .unsuitable].all (!·.isRefusal) = true :=
  ⟨rfl, rfl, rfl, rfl⟩

end ItemQuery.Backend
