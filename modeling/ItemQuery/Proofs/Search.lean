import ItemQuery.Memory
import Mathlib.Data.List.Forall2

/-!
Two runs side by side. Computations are alike when from related states they give the same reply,
be it a value or a fault, and leave related states. The relation says what may differ between the
runs: what is remembered, what is written down, or the data that both read.
A computation settles to a value when it gives that value from every state with a property, and keeps
the property; asking several such in turn settles as well.
-/

namespace ItemQuery

/-- A value of two computations in a row, neither of which has a state, is given by the second after a
value of the first. -/
theorem Except.bind_eq_ok {ε α β : Type} {x : Except ε α} {f : α → Except ε β} {b : β}
    (h : x >>= f = .ok b) : ∃ a, x = .ok a ∧ f a = .ok b := by
  cases x with
  | error fault => cases h
  | ok a => exact ⟨a, rfl, h⟩

theorem Except.bind_eq_error_iff {ε α β : Type} {x : Except ε α} {f : α → Except ε β} {fault : ε} :
    x >>= f = .error fault ↔ x = .error fault ∨ ∃ a, x = .ok a ∧ f a = .error fault := by
  cases x with
  | error fault' => simp [bind, Except.bind]
  | ok a => simp [bind, Except.bind]

/-- Values are read of all members, one by one. -/
theorem Except.mapM_eq_ok_iff {ε α β : Type} {f : α → Except ε β} {as : List α} {bs : List β} :
    as.mapM f = .ok bs ↔ List.Forall₂ (fun a b => f a = .ok b) as bs := by
  constructor
  · intro h
    induction as generalizing bs with
    | nil =>
      cases h
      exact .nil
    | cons a as ih =>
      rw [List.mapM_cons] at h
      obtain ⟨b, hb, h⟩ := bind_eq_ok h
      obtain ⟨bs', hbs, h⟩ := bind_eq_ok h
      cases h
      exact .cons hb (ih hbs)
  · intro h
    induction h with
    | nil => rfl
    | cons hab _ ih =>
      rw [List.mapM_cons, hab, ih]
      rfl

theorem Except.exists_mapM_eq_ok {ε α β : Type} {f : α → Except ε β} {as : List α}
    (h : ∀ a ∈ as, ∃ b, f a = .ok b) : ∃ bs, as.mapM f = .ok bs := by
  induction as with
  | nil => exact ⟨[], rfl⟩
  | cons a as ih =>
    obtain ⟨⟨b, hb⟩, has⟩ := List.forall_mem_cons.mp h
    obtain ⟨bs, hbs⟩ := ih has
    exact ⟨b :: bs, mapM_eq_ok_iff.mpr (.cons hb (mapM_eq_ok_iff.mp hbs))⟩

namespace Search

variable {σ τ ω α β : Type}

/-- The value or the fault that a computation gives from a state. -/
def reply (x : Search σ α) (s : σ) : Except Fault α :=
  match x s with
  | .ok a _ => .ok a
  | .error fault _ => .error fault

theorem bind_of_ok {x : Search σ α} {s s' : σ} {a : α} (h : x s = .ok a s')
    (f : α → Search σ β) : (x >>= f) s = f a s' := by
  show EStateM.bind x f s = f a s'
  unfold EStateM.bind
  rw [h]

theorem bind_of_error {x : Search σ α} {s s' : σ} {fault : Fault} (h : x s = .error fault s')
    (f : α → Search σ β) : (x >>= f) s = .error fault s' := by
  show EStateM.bind x f s = .error fault s'
  unfold EStateM.bind
  rw [h]

/-- What is returned of a reply changes its value and leaves its faults. -/
theorem reply_map (x : Search σ α) (f : α → β) (s : σ) :
    (do return f (← x) : Search σ β).reply s = (x.reply s).map f := by
  unfold reply
  cases h : x s with
  | ok a s' =>
    rw [bind_of_ok h]
    rfl
  | error fault s' =>
    rw [bind_of_error h]
    rfl

theorem reply_ofExcept {x : Except Fault α} {s : σ} : (Search.ofExcept x).reply s = x := by
  cases x <;> rfl

theorem exists_run_of_reply {x : Search σ α} {s : σ} {a : α} (h : x.reply s = .ok a) :
    ∃ s', x s = .ok a s' := by
  unfold reply at h
  cases hx : x s with
  | ok b s' =>
    rw [hx] at h
    cases h
    exact ⟨s', rfl⟩
  | error fault s' =>
    rw [hx] at h
    cases h

/-- A value that two computations in a row give is given by the second, after a value of the first. -/
theorem bind_reply_eq_ok {x : Search σ α} {f : α → Search σ β} {s : σ} {b : β}
    (h : (x >>= f).reply s = .ok b) : ∃ a s', x s = .ok a s' ∧ (f a).reply s' = .ok b := by
  unfold reply at h
  change (match EStateM.bind x f s with | .ok b _ => _ | .error fault _ => _) = _ at h
  unfold EStateM.bind at h
  cases hx : x s with
  | ok a s' =>
    rw [hx] at h
    exact ⟨a, s', rfl, h⟩
  | error fault s' =>
    rw [hx] at h
    cases h

/-- Where a fault is turned into another, the values stay. -/
theorem reply_tryCatch_eq_ok {x : Search σ α} {fault : Fault} {s : σ} {a : α} :
    (tryCatch x fun _ => throw fault : Search σ α).reply s = .ok a ↔ x.reply s = .ok a := by
  unfold reply
  change (match EStateM.tryCatch x _ s with | .ok b _ => _ | .error fault _ => _) = _ ↔ _
  unfold EStateM.tryCatch
  cases x s with
  | ok b s' => rfl
  | error fault' s' => exact iff_of_false nofun nofun

/-- Two outcomes with the same reply and related states. -/
inductive SameOutcome (R : σ → τ → Prop) :
    EStateM.Result Fault σ α → EStateM.Result Fault τ α → Prop
  | ok {a : α} {s : σ} {t : τ} : R s t → SameOutcome R (.ok a s) (.ok a t)
  | error {fault : Fault} {s : σ} {t : τ} : R s t → SameOutcome R (.error fault s) (.error fault t)

def Alike (R : σ → τ → Prop) (x : Search σ α) (y : Search τ α) : Prop :=
  ∀ s t, R s t → SameOutcome R (x s) (y t)

variable {R : σ → τ → Prop}

theorem Alike.reply_eq {x : Search σ α} {y : Search τ α} (h : Alike R x y) {s : σ} {t : τ}
    (hst : R s t) : x.reply s = y.reply t := by
  have hout := h s t hst
  unfold reply
  generalize x s = u, y t = v at hout
  cases hout with
  | ok => rfl
  | error => rfl

theorem Alike.refl (x : Search σ α) : Alike Eq x x := by
  rintro s _ rfl
  cases x s with
  | ok a t => exact .ok rfl
  | error fault t => exact .error rfl

/-- Alike from equal states and with equal states left, computations are the same. -/
theorem Alike.eq {x y : Search σ α} (h : Alike Eq x y) : x = y := by
  funext s
  have hout := h s s rfl
  generalize x s = u, y s = v at hout ⊢
  cases hout with
  | ok hst => rw [hst]
  | error hst => rw [hst]

theorem Alike.pure (a : α) : Alike R (Pure.pure a) (Pure.pure a) := fun _ _ h => .ok h

theorem Alike.throw (fault : Fault) :
    Alike R (MonadExcept.throw fault : Search σ α) (MonadExcept.throw fault) :=
  fun _ _ h => .error h

theorem Alike.ofExcept (x : Except Fault α) : Alike R (Search.ofExcept x) (.ofExcept x) := by
  cases x with
  | ok a => exact .pure a
  | error fault => exact .throw fault

theorem Alike.bind {x : Search σ α} {y : Search τ α} {f : α → Search σ β} {g : α → Search τ β}
    (hxy : Alike R x y) (hfg : ∀ a, Alike R (f a) (g a)) : Alike R (x >>= f) (y >>= g) := by
  intro s t hst
  have hout := hxy s t hst
  show SameOutcome R (EStateM.bind x f s) (EStateM.bind y g t)
  unfold EStateM.bind
  generalize x s = u, y t = v at hout
  cases hout with
  | ok h => exact hfg _ _ _ h
  | error h => exact .error h

/-- A fault is caught with the state that it left. -/
theorem Alike.tryCatch {x : Search σ α} {y : Search τ α} {f : Fault → Search σ α}
    {g : Fault → Search τ α} (hxy : Alike R x y) (hfg : ∀ fault, Alike R (f fault) (g fault)) :
    Alike R (MonadExcept.tryCatch x f) (MonadExcept.tryCatch y g) := by
  intro s t hst
  have hout := hxy s t hst
  show SameOutcome R (EStateM.tryCatch x f s) (EStateM.tryCatch y g t)
  unfold EStateM.tryCatch
  generalize x s = u, y t = v at hout
  cases hout with
  | ok h => exact .ok h
  | error h => exact hfg _ _ _ h

/-- The state is read and then used: the uses have to be alike in any two related states. -/
theorem Alike.get_bind {f : σ → Search σ β} {g : τ → Search τ β}
    (h : ∀ s t, R s t → SameOutcome R (f s s) (g t t)) : Alike R (get >>= f) (get >>= g) :=
  fun s t hst => h s t hst

theorem Alike.ite {x x' : Search σ α} {y y' : Search τ α} {b : Bool} (h : Alike R x y)
    (h' : Alike R x' y') : Alike R (if b then x else x') (if b then y else y') := by
  cases b with
  | true => exact h
  | false => exact h'

theorem Alike.mapM {γ : Type} {f : γ → Search σ α} {g : γ → Search τ α}
    (h : ∀ c, Alike R (f c) (g c)) (cs : List γ) : Alike R (cs.mapM f) (cs.mapM g) := by
  induction cs with
  | nil => exact .pure []
  | cons c cs ih =>
    rw [List.mapM_cons, List.mapM_cons]
    exact .bind (h c) fun a => .bind ih fun as => .pure (a :: as)

/-! ## Settled answers -/

/-- From every state with a property, a computation gives one and the same value and leaves a state
with the property. -/
def Settles (P : σ → Prop) (x : Search σ α) (a : α) : Prop :=
  ∀ s, P s → ∃ s', P s' ∧ x s = .ok a s'

variable {P : σ → Prop}

/-- What is replied alike from any two states with a property is settled by one of them. -/
theorem Alike.settles {x : Search σ α} {a : α} {s₀ : σ} (h : Alike (fun s t => P s ∧ P t) x x)
    (h₀ : P s₀) (ha : x.reply s₀ = .ok a) : Settles P x a := by
  intro s hs
  have hout := h s s₀ ⟨hs, h₀⟩
  unfold reply at ha
  generalize x s = u, x s₀ = v at hout ha
  cases hout with
  | ok hst =>
    cases ha
    exact ⟨_, hst.1, rfl⟩
  | error => cases ha

/-- A value that is given in one state with a property is replied from any other, and the property is
kept. -/
theorem Alike.of_run {x : Search σ α} {a : α} {s s' s₀ : σ} (h : Alike (fun s t => P s ∧ P t) x x)
    (hs : P s) (h₀ : P s₀) (hrun : x s = .ok a s') : P s' ∧ x.reply s₀ = .ok a := by
  refine ⟨?_, ?_⟩
  · have hout := h s s ⟨hs, hs⟩
    rw [hrun] at hout
    cases hout with
    | ok hst => exact hst.1
  · rw [← h.reply_eq ⟨hs, h₀⟩, reply, hrun]

theorem Settles.reply_eq {x : Search σ α} {a : α} (h : Settles P x a) {s : σ} (hs : P s) :
    x.reply s = .ok a := by
  obtain ⟨s', -, hrun⟩ := h s hs
  unfold reply
  rw [hrun]

theorem Settles.alike {x y : Search σ α} {a : α} (hx : Settles P x a) (hy : Settles P y a) :
    Alike (fun s t => P s ∧ P t) x y := by
  rintro s t ⟨hs, ht⟩
  obtain ⟨s', hs', hrun⟩ := hx s hs
  obtain ⟨t', ht', hrun'⟩ := hy t ht
  rw [hrun, hrun']
  exact .ok ⟨hs', ht'⟩

theorem Settles.pure (a : α) : Settles P (Pure.pure a : Search σ α) a := fun s hs => ⟨s, hs, rfl⟩

theorem Settles.bind {x : Search σ α} {f : α → Search σ β} {a : α} {b : β} (hx : Settles P x a)
    (hf : Settles P (f a) b) : Settles P (x >>= f) b := by
  intro s hs
  obtain ⟨s', hs', hrun⟩ := hx s hs
  rw [bind_of_ok hrun]
  exact hf s' hs'

/-- Asks in turn until an answer is true. -/
def anyOf : List (Search σ Bool) → Search σ Bool
  | [] => return false
  | x :: rest => do if ← x then return true else anyOf rest

theorem anyOf_append (xs ys : List (Search σ Bool)) :
    anyOf (xs ++ ys) = (do if ← anyOf xs then return true else anyOf ys) := by
  induction xs with
  | nil => simp [anyOf]
  | cons x xs ih =>
    rw [List.cons_append, anyOf, anyOf, bind_assoc]
    congr 1
    funext b
    cases b with
    | true => simp
    | false => exact ih

theorem reply_bind_ite {x y : Search σ Bool} {s s' : σ} {b : Bool} (h : x s = .ok b s') :
    (do if ← x then return true else y : Search σ Bool).reply s =
      if b then .ok true else y.reply s' := by
  unfold reply
  rw [bind_of_ok h]
  cases b <;> rfl

theorem Settles.anyOf {γ : Type} {x : γ → Search σ Bool} {answer : γ → Bool} {cs : List γ}
    (h : ∀ c ∈ cs, Settles P (x c) (answer c)) : Settles P (.anyOf (cs.map x)) (cs.any answer) := by
  induction cs with
  | nil => exact .pure false
  | cons c cs ih =>
    obtain ⟨hc, hcs⟩ := List.forall_mem_cons.mp h
    rw [List.map_cons, List.any_cons]
    refine .bind hc ?_
    cases answer c with
    | true => exact .pure true
    | false => exact ih hcs

/-! ## Computations of a source -/

theorem ofWorld_of_ok {x : Search ω α} {m : Memory ω} {a : α} {w : ω} (h : x m.world = .ok a w) :
    Search.ofWorld x m = .ok a { m with world := w } := by
  unfold Search.ofWorld
  rw [h]

theorem ofWorld_of_error {x : Search ω α} {m : Memory ω} {fault : Fault} {w : ω}
    (h : x m.world = .error fault w) : Search.ofWorld x m = .error fault { m with world := w } := by
  unfold Search.ofWorld
  rw [h]

theorem reply_ofWorld (x : Search ω α) (m : Memory ω) :
    (Search.ofWorld x).reply m = x.reply m.world := by
  unfold reply
  cases h : x m.world with
  | ok a w => rw [ofWorld_of_ok h]
  | error fault w => rw [ofWorld_of_error h]

/-- A relation that is about what is remembered alone. -/
def IgnoresWorld {ω' : Type} (R : Memory ω → Memory ω' → Prop) : Prop :=
  ∀ m m' w w', R m m' → R { m with world := w } { m' with world := w' }

/-- Two computations that give the same reply from any two states. -/
abbrev SameReply (x : Search σ α) (y : Search τ α) : Prop := Alike (fun _ _ => True) x y

/-- What a source replies whatever its state is replied also beside anything remembered. -/
theorem Alike.ofWorld {ω' : Type} {R : Memory ω → Memory ω' → Prop} (hR : IgnoresWorld R)
    {x : Search ω α} {y : Search ω' α} (h : SameReply x y) :
    Alike R (Search.ofWorld x) (Search.ofWorld y) := by
  intro m m' hm
  have hout := h m.world m'.world trivial
  unfold Search.ofWorld
  generalize x m.world = u, y m'.world = v at hout
  cases hout with
  | ok => exact .ok (hR _ _ _ _ hm)
  | error => exact .error (hR _ _ _ _ hm)

end Search

end ItemQuery
