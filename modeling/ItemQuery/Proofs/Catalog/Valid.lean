import ItemQuery.Catalog.Basic

/-!
What is known of a value once it has been validated. A property of the values that a reader accepts is
put together along the schema (`Validated.Ensures`). The entries of a validated catalog have no
defective links (`Catalog.linkDefect?_of_read`).
-/

namespace ItemQuery

variable {α β : Type}

/-! ## Validated values -/

/-- The value has a property, if it is valid. -/
def Validated.Ensures (P : α → Prop) (a? : Validated α) : Prop := ∀ a, a? = .valid a → P a

namespace Validated.Ensures

variable {P : α → Prop} {Q : β → Prop}

theorem trivial (a? : Validated α) : a?.Ensures fun _ => True := fun _ _ => True.intro

theorem valid {a : α} (h : P a) : (Validated.valid a).Ensures P := by
  rintro _ ⟨⟩
  exact h

theorem invalid (issues : List Issue) : (Validated.invalid issues).Ensures P := by
  rintro _ ⟨⟩

theorem map {f : α → β} {a? : Validated α} (h : a?.Ensures fun a => Q (f a)) :
    (f <$> a?).Ensures Q := by
  cases a? with
  | valid a => exact .valid (h a rfl)
  | invalid issues => exact .invalid issues

theorem seq {f? : Validated (α → β)} {a? : Validated α}
    (hf : f?.Ensures fun f => ∀ a, P a → Q (f a)) (ha : a?.Ensures P) :
    (f? <*> a?).Ensures Q := by
  cases f? with
  | invalid issues => cases a? <;> exact .invalid _
  | valid f =>
    cases a? with
    | invalid issues => exact .invalid issues
    | valid a => exact .valid (hf f rfl a (ha a rfl))

theorem within {a? : Validated α} (h : a?.Ensures P) (step : PathStep) :
    (a?.within step).Ensures P := by
  cases a? with
  | valid a => exact h
  | invalid issues => exact .invalid _

theorem andThen {a? : Validated α} {next : α → Validated β} (ha : a?.Ensures P)
    (h : ∀ a, P a → (next a).Ensures Q) : (a?.andThen next).Ensures Q := by
  cases a? with
  | valid a => exact h a (ha a rfl)
  | invalid issues => exact .invalid issues

end Validated.Ensures

/-! ## Readers -/

namespace Schema

variable {P : α → Prop} {read : Reader α}

theorem readFrom_ensures {items : List Json} (h : ∀ v ∈ items, (read v).Ensures P) (i : Nat) :
    (readFrom read i items).Ensures fun as => ∀ a ∈ as, P a := by
  induction items generalizing i with
  | nil => exact .valid (List.forall_mem_nil _)
  | cons v rest ih =>
    obtain ⟨hv, hrest⟩ := List.forall_mem_cons.mp h
    refine .seq (.map ?_) (ih hrest (i + 1))
    exact fun a ha as has => List.forall_mem_cons.mpr ⟨hv.within (.index i) a ha, has⟩

theorem readList_ensures {v : Json}
    (h : ∀ items, v = .array items → ∀ v ∈ items, (read v).Ensures P) :
    (readList read v).Ensures fun as => ∀ a ∈ as, P a := by
  cases v with
  | array items => exact readFrom_ensures (h items rfl) 0
  | _ => exact .invalid _

theorem nullable_ensures {v : Json} (h : (read v).Ensures P) :
    (nullable read v).Ensures fun a? => ∀ a ∈ a?, P a := by
  cases v with
  | null => exact .valid fun a ha => absurd ha (Option.not_mem_none a)
  | _ => exact .map fun a ha b hb => Option.mem_some.mp hb ▸ h a ha

theorem required_ensures (name : String) {v : Json}
    (h : ∀ member, v.member? name = some member → (read member).Ensures P) :
    (required name read v).Ensures P := by
  unfold required
  cases hmember : v.member? name with
  | none => exact .within (.invalid _) _
  | some member => exact (h member hmember).within _

theorem optional_ensures (name : String) {default : α} {v : Json} (hd : P default)
    (h : ∀ member, v.member? name = some member → (read member).Ensures P) :
    (optional name default read v).Ensures P := by
  unfold optional
  cases hmember : v.member? name with
  | none => exact .valid hd
  | some member => exact (h member hmember).within _

theorem readObject_ensures {read : Json → Validated α} {v : Json} (h : (read v).Ensures P) :
    (readObject read v).Ensures P := by
  cases v with
  | object members => exact h
  | _ => exact .invalid _

end Schema

/-! ## Catalogs -/

theorem Entry.checkLink_ensures (e : Entry) : e.checkLink.Ensures fun e => e.linkDefect? = none := by
  unfold checkLink
  cases h : e.linkDefect? with
  | none => exact .valid h
  | some defect => exact .invalid _

theorem Entry.read_ensures (v : Json) : (Entry.read v).Ensures fun e => e.linkDefect? = none :=
  .andThen (.trivial _) fun e _ => e.checkLink_ensures

/-- A property of every entry that is read from one of the items is one of all entries. -/
theorem Catalog.read_ensures {P : Entry → Prop} {v : Json}
    (h : ∀ items, v.member? "items" = some (.array items) → ∀ item ∈ items,
      (Entry.read item).Ensures P) :
    (Catalog.read v).Ensures fun c => ∀ e ∈ c.entries, P e := by
  refine Schema.readObject_ensures ?_
  have hentries : (Schema.optional "items" [] (Schema.readList Entry.read) v).Ensures
      fun entries => ∀ e ∈ entries, P e := by
    refine Schema.optional_ensures "items" (List.forall_mem_nil _) fun member hmember => ?_
    exact Schema.readList_ensures fun items hitems => h items (hitems ▸ hmember)
  refine .seq (.seq (.seq (.map ?_) hentries) (.trivial _)) (.trivial _)
  exact fun labels _ entries hentries backend _ setData _ => hentries

/-- No entry of a validated catalog leads to another one by its link. -/
theorem Catalog.linkDefect?_of_read {data : Json} {c : Catalog} (h : read data = .valid c) :
    ∀ e ∈ c.entries, e.linkDefect? = none :=
  read_ensures (fun _ _ item _ => Entry.read_ensures item) c h

/-! ## Catalogs of names -/

/-- An entry of which only the id and the name are known. -/
def Entry.named (id : Int) (name : String) : Entry where
  id := id
  name := name.toList
  link := none
  kind := none
  subkind := none
  slot := none
  quality := none
  level := none
  equippable := none
  tooltip := []

/-- A catalog of entries with default labels and no sets. -/
def Catalog.ofEntries (entries : List Entry) : Catalog := { Catalog.empty with entries := entries }

def Entry.namedJson (id : Int) (name : String) : Json :=
  .object [("id".toList, .number (.int id)), ("name".toList, .text name.toList)]

/-- A catalog of which only the items are given. -/
def Catalog.itemsJson (items : List Json) : Json := .object [("items".toList, .array items)]

end ItemQuery
