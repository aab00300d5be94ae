import ItemQuery.Proofs.Text.Pieces
import ItemQuery.Sets.Basic
import Mathlib.Data.List.Basic
import Mathlib.Data.List.Nodup

/-!
What named sets hold. Sets are asked through the ids under their names alone (`NamedSets.belongs_iff`),
and a search finds those names that are not empty and hold it (`NamedSets.finds_iff`). Gathering what is
listed in several places adds nothing to the sets and leaves nothing out
(`NamedSets.mem_idsOf_gather_iff`).
-/

namespace ItemQuery.NamedSets

/-- The ids under a name, none when there is no set of that name. -/
def idsOf (s : NamedSets) (name : Text) : List Int := (s.members.lookup name).getD []

def names (s : NamedSets) : List Text := s.members.map Prod.fst

/-- Whether an id is listed under a name. -/
def Lists (parts : List (Text × List Int)) (name : Text) (id : Int) : Prop :=
  ∃ ids, (name, ids) ∈ parts ∧ id ∈ ids

theorem lists_cons {n name : Text} {ids : List Int} {parts : List (Text × List Int)} {id : Int} :
    Lists ((n, ids) :: parts) name id ↔ (name = n ∧ id ∈ ids) ∨ Lists parts name id := by
  unfold Lists
  constructor
  · rintro ⟨known, hknown, hid⟩
    rcases List.mem_cons.mp hknown with heq | hrest
    · cases heq
      exact .inl ⟨rfl, hid⟩
    · exact .inr ⟨known, hrest, hid⟩
  · rintro (⟨rfl, hid⟩ | ⟨known, hrest, hid⟩)
    · exact ⟨ids, List.mem_cons_self, hid⟩
    · exact ⟨known, List.mem_cons_of_mem _ hrest, hid⟩

theorem mem_idsOf_iff {s : NamedSets} (h : s.names.Nodup) {name : Text} {id : Int} :
    id ∈ s.idsOf name ↔ Lists s.members name id := by
  obtain ⟨members⟩ := s
  induction members with
  | nil => simp [idsOf, Lists]
  | cons m members ih =>
    obtain ⟨n, ids⟩ := m
    obtain ⟨hn, hmembers⟩ := List.nodup_cons.mp h
    have hrest := ih hmembers
    rw [lists_cons]
    by_cases hname : name = n
    · subst hname
      have hout : ¬Lists members name id :=
        fun ⟨known, hknown, _⟩ => hn (List.mem_map.mpr ⟨(name, known), hknown, rfl⟩)
      simp [idsOf, hout]
    · have hbeq : (name == n) = false := by simpa using hname
      simpa [idsOf, List.lookup_cons, hbeq, hname] using hrest

theorem finds_iff {search name : Text} : finds search name = true ↔
    name ≠ [] ∧ (search = anySet ∨ Text.lower search <:+: Text.lower name) := by
  rw [finds, Bool.and_eq_true, Bool.not_eq_true', List.isEmpty_eq_false_iff, Bool.or_eq_true,
    beq_iff_eq, Text.occursIn_iff]

theorem belongs_eq_true_iff {s : NamedSets} {id : Int} {search : Text} :
    s.belongs id search = true ↔
      ∃ name ids, (name, ids) ∈ s.members ∧ finds search name = true ∧ id ∈ ids := by
  simp only [belongs, List.any_eq_true, Bool.and_eq_true, List.contains_iff_mem, Prod.exists]

/-- An id belongs to what a search finds when it stands under a name that the search finds. -/
theorem belongs_iff {s : NamedSets} (h : s.names.Nodup) {id : Int} {search : Text} :
    s.belongs id search = true ↔ ∃ name, finds search name = true ∧ id ∈ s.idsOf name := by
  simp only [mem_idsOf_iff h, belongs_eq_true_iff, Lists]
  constructor
  · rintro ⟨name, ids, hmem, hfinds, hid⟩
    exact ⟨name, hfinds, ids, hmem, hid⟩
  · rintro ⟨name, hfinds, ids, hmem, hid⟩
    exact ⟨name, ids, hmem, hfinds, hid⟩

theorem belongs_congr {s s' : NamedSets} (h : s.names.Nodup) (h' : s'.names.Nodup)
    (heq : ∀ name id, id ∈ s.idsOf name ↔ id ∈ s'.idsOf name) (id : Int) (search : Text) :
    s.belongs id search = s'.belongs id search := by
  rw [Bool.eq_iff_iff, belongs_iff h, belongs_iff h']
  simp only [heq]

/-! ## Gathering -/

theorem lists_extend {known : List (Text × List Int)} {n name : Text} {ids : List Int} {id : Int} :
    Lists (extend n ids known) name id ↔ Lists known name id ∨ (name = n ∧ id ∈ ids) := by
  induction known with
  | nil => simp [extend, Lists]
  | cons m known ih =>
    obtain ⟨n', ids'⟩ := m
    unfold extend
    split
    · rename_i heq
      subst heq
      rw [lists_cons, lists_cons, List.mem_append]
      tauto
    · rw [lists_cons, lists_cons, ih]
      tauto

theorem names_extend (n : Text) (ids : List Int) (known : List (Text × List Int)) :
    (extend n ids known).map Prod.fst =
      if n ∈ known.map Prod.fst then known.map Prod.fst else known.map Prod.fst ++ [n] := by
  induction known with
  | nil => rfl
  | cons m known ih =>
    obtain ⟨n', ids'⟩ := m
    unfold extend
    by_cases hn : n' = n
    · simp [hn]
    · have hn' : ¬n = n' := fun h => hn h.symm
      rw [if_neg hn, List.map_cons, ih]
      by_cases hknown : n ∈ known.map Prod.fst
      · simp [hknown]
      · simp [hknown, hn']

theorem nodup_names_extend {known : List (Text × List Int)} (h : (known.map Prod.fst).Nodup)
    (n : Text) (ids : List Int) : ((extend n ids known).map Prod.fst).Nodup := by
  rw [names_extend]
  split
  · exact h
  · rename_i hn
    exact List.nodup_append.mpr ⟨h, List.nodup_singleton n, fun a ha b hb hab => by
      rw [List.mem_singleton] at hb
      exact hn (hb ▸ hab ▸ ha)⟩

/-- Gathering on top of what is known keeps the names apart and lists what either of them lists. -/
theorem gathered {known : List (Text × List Int)} (h : (known.map Prod.fst).Nodup)
    (parts : List (Text × List Int)) :
    let sets := parts.foldl (fun sets (name, ids) => extend name ids sets) known
    (sets.map Prod.fst).Nodup ∧
      ∀ name id, Lists sets name id ↔ Lists known name id ∨ Lists parts name id := by
  induction parts generalizing known with
  | nil => exact ⟨h, fun name id => by simp [Lists]⟩
  | cons part parts ih =>
    obtain ⟨n, ids⟩ := part
    obtain ⟨hnodup, hlists⟩ := ih (nodup_names_extend h n ids)
    refine ⟨hnodup, fun name id => ?_⟩
    rw [List.foldl_cons, hlists, lists_extend, lists_cons, or_assoc]

theorem nodup_names_gather (parts : List (Text × List Int)) : (gather parts).names.Nodup :=
  (@gathered [] List.nodup_nil parts).1

theorem mem_idsOf_gather_iff {parts : List (Text × List Int)} {name : Text} {id : Int} :
    id ∈ (gather parts).idsOf name ↔ Lists parts name id := by
  have hnil : ¬Lists [] name id := fun ⟨_, hmem, _⟩ => List.not_mem_nil hmem
  rw [mem_idsOf_iff (nodup_names_gather parts), gather,
    (@gathered [] List.nodup_nil parts).2 name id]
  exact or_iff_right hnil

end ItemQuery.NamedSets
