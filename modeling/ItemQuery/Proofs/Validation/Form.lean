import ItemQuery.Validation.Schema
import Mathlib.Data.List.Forall2

/-!
Well-typed values. A form says which JSON stands for which value, with every part of the type that a
schema gives it; the reader of the schema accepts such JSON and gives the value unchanged
(`Schema.Reader.Accepts`).
-/

namespace ItemQuery

variable {α β : Type}

/-- Which JSON stands for which value. -/
abbrev Form (α : Type) := Json → α → Prop

namespace Form

def text : Form Text := fun v t => v = .text t

def int : Form Int := fun v n => v = .number (.int n)

def bool : Form Bool := fun v b => v = .bool b

/-- Nothing is written as `null`. -/
def nullable (form : Form α) : Form (Option α)
  | v, none => v = .null
  | v, some a => form v a

def list (form : Form α) : Form (List α) := fun v as =>
  ∃ items, v = .array items ∧ List.Forall₂ form items as

/-- An object of which only some members are looked at. -/
def object (form : Form α) : Form α := fun v a => (∃ members, v = .object members) ∧ form v a

/-- A member that has to be there. -/
def required (name : String) (form : Form α) : Form α := fun v a =>
  ∃ member, v.member? name = some member ∧ form member a

/-- A member that may be left out. -/
inductive optional (name : String) (default : α) (form : Form α) : Form α
  | given {v member : Json} {a : α} (h : v.member? name = some member) (ha : form member a) :
    optional name default form v a
  | absent {v : Json} (h : v.member? name = none) : optional name default form v default

/-- An object whose members are all of one form, each with a name of its own. -/
def members (form : Form α) : Form (List (Text × α)) := fun v as =>
  ∃ ms, v = .object ms ∧ (ms.map Prod.fst).Nodup ∧
    List.Forall₂ (fun m a => m.1 = a.1 ∧ form m.2 a.2) ms as

end Form

/-- Members of one form are read under the names that they have. -/
theorem Form.names_of_members {form : Form α} {v : Json} {as : List (Text × α)}
    (h : form.members v as) : (as.map Prod.fst).Nodup := by
  obtain ⟨ms, -, hnodup, hms⟩ := h
  have hnames : ms.map Prod.fst = as.map Prod.fst := by
    clear hnodup
    induction hms with
    | nil => rfl
    | cons hm _ ih => rw [List.map_cons, List.map_cons, hm.1, ih]
  rwa [← hnames]

theorem Validated.map_valid {f : α → β} {a? : Validated α} {a : α} (ha : a? = .valid a) :
    f <$> a? = .valid (f a) := by
  rw [ha]
  rfl

theorem Validated.seq_valid {f? : Validated (α → β)} {f : α → β} {a? : Validated α} {a : α}
    (hf : f? = .valid f) (ha : a? = .valid a) : f? <*> a? = .valid (f a) := by
  rw [hf, ha]
  rfl

namespace Schema

/-- Whatever is written in the form is accepted and read as what it stands for. -/
def Reader.Accepts (form : Form α) (read : Reader α) : Prop :=
  ∀ v a, form v a → read v = .valid a

namespace Reader.Accepts

variable {form : Form α} {read : Reader α}

theorem text : Accepts Form.text readText := by
  rintro _ t rfl
  rfl

theorem int : Accepts Form.int readInt := by
  rintro _ n rfl
  rfl

theorem bool : Accepts Form.bool readBool := by
  rintro _ b rfl
  rfl

theorem nullable (h : Accepts form read) (hnull : ∀ a, ¬form .null a) :
    Accepts form.nullable (Schema.nullable read) := by
  intro v a? hv
  cases a? with
  | none =>
    cases hv
    rfl
  | some a =>
    have hread := h v a hv
    cases v with
    | null => exact absurd hv (hnull a)
    | _ => simp only [Schema.nullable, hread, Validated.map]

theorem readFrom (h : Accepts form read) (i : Nat) {items : List Json} {as : List α}
    (hitems : List.Forall₂ form items as) : Schema.readFrom read i items = .valid as := by
  induction hitems generalizing i with
  | nil => rfl
  | cons hv _ ih => simp only [Schema.readFrom, h _ _ hv, ih, Validated.within, Validated.map,
      Validated.apply]

theorem list (h : Accepts form read) : Accepts form.list (readList read) := by
  rintro _ as ⟨items, rfl, hitems⟩
  exact h.readFrom 0 hitems

theorem object {read : Json → Validated α} (h : Accepts form read) :
    Accepts form.object (readObject read) := by
  rintro _ a ⟨⟨members, rfl⟩, ha⟩
  exact h _ a ha

theorem required (h : Accepts form read) (name : String) :
    Accepts (form.required name) (Schema.required name read) := by
  rintro v a ⟨member, hmember, ha⟩
  rw [Schema.required, hmember]
  simp only [h member a ha, Validated.within]

theorem optional (h : Accepts form read) (name : String) (default : α) :
    Accepts (form.optional name default) (Schema.optional name default read) := by
  intro v a ha
  cases ha with
  | given hmember ha => simp only [Schema.optional, hmember, h _ a ha, Validated.within]
  | absent hnone => rw [Schema.optional, hnone]

end Reader.Accepts

end Schema

end ItemQuery
