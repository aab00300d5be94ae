import ItemQuery.Memory

/-!
What is remembered. A result that is found was remembered under its key, so that none is found in an
empty cache, and asking for a key either recalls its result or computes it once and remembers it.
-/

namespace ItemQuery

variable {ω : Type}

theorem Memory.mem_of_result? {m : Memory ω} {key : BindKey} {found : Bool}
    (h : m.result? key = some found) : (key, found) ∈ m.remembered := by
  unfold Memory.result? at h
  split at h
  · obtain ⟨before, after, hsplit, -⟩ := List.lookup_eq_some_iff.mp h
    rw [hsplit]
    exact List.mem_append_right before List.mem_cons_self
  · cases h

theorem Memory.result?_eq_none_of_cacheSize {m : Memory ω} {key : BindKey}
    (h : m.cacheSize key.cache = 0) : m.result? key = none := by
  cases hresult : m.result? key with
  | none => rfl
  | some found =>
    have hempty : m.remembered.filter (·.1.cache == key.cache) = [] :=
      List.length_eq_zero_iff.mp h
    have hmem : (key, found) ∈ m.remembered.filter (·.1.cache == key.cache) :=
      List.mem_filter.mpr ⟨mem_of_result? hresult, beq_self_eq_true _⟩
    rw [hempty] at hmem
    cases hmem

namespace Search

theorem recallOr_of_some {key : BindKey} {m : Memory ω} {found : Bool}
    (h : m.result? key = some found) (compute : Search (Memory ω) Bool) :
    recallOr key compute m = .ok found m := by
  have hget : (get : Search (Memory ω) (Memory ω)) m = .ok m m := rfl
  unfold recallOr
  show EStateM.bind get _ m = _
  rw [EStateM.bind, hget]
  dsimp only
  rw [h]
  rfl

theorem recallOr_of_none {key : BindKey} {m : Memory ω} (h : m.result? key = none)
    (compute : Search (Memory ω) Bool) :
    recallOr key compute m = (do
      let found ← compute
      modify (·.remember key found)
      return found : Search (Memory ω) Bool) m := by
  have hget : (get : Search (Memory ω) (Memory ω)) m = .ok m m := rfl
  unfold recallOr
  show EStateM.bind get _ m = _
  rw [EStateM.bind, hget]
  dsimp only
  rw [h]

end Search

end ItemQuery
