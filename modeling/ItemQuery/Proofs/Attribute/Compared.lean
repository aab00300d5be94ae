import ItemQuery.Attribute.Described
import ItemQuery.Proofs.Number.Literal
import ItemQuery.Proofs.Query.Comparison
import ItemQuery.Proofs.Search

/-!
The attributes that are compared. Whatever number the level or the quality is asked for, the described
one is compared with it (`level_measures`, `quality_measures`). The quality is asked for by a label or
by a number, and a label goes first: of those that contain the text, the first says the tier
(`tierFor?_eq_some_iff`).
-/

namespace ItemQuery

/-! ## What is known of an item -/

theorem Search.exists_reply_ofWorld_bind {ω α β : Type} {x : Search ω α} {m : Memory ω} {a : α}
    (h : x.reply m.world = .ok a) (f : α → Search (Memory ω) β) :
    ∃ m', (Search.ofWorld x >>= f).reply m = (f a).reply m' := by
  obtain ⟨w, hrun⟩ := exists_run_of_reply h
  refine ⟨{ m with world := w }, ?_⟩
  unfold Search.reply
  rw [bind_of_ok (ofWorld_of_ok hrun)]

namespace Attribute

variable {ω : Type} {source : Source ω} {item x : Text} {m : Memory ω} {found? : Option Profile}
  {n : Number}

theorem readNumber_of_ok {σ : Type} {n? : Option Number} (h : Number.read? x = .ok n?) :
    (do return (← Search.ofExcept (Number.read? x)).map Json.number : Search σ (Option Json)) =
      pure (n?.map Json.number) := by
  rw [h]
  rfl

/-- Whatever number the level is asked for, the described one is compared with it. -/
theorem level_measures (hfound : (source.describe item).reply m.world = .ok found?)
    (hread : Number.read? x = .ok (some n)) :
    (level source).Measures item x m (found?.bind Profile.level) n where
  captures _ := readNumber_of_ok hread
  evaluates op? := by
    obtain ⟨m', hm'⟩ := Search.exists_reply_ofWorld_bind hfound fun found? => _
    refine hm'.trans ?_
    cases found?.bind Profile.level with
    | none => rfl
    | some k => rfl

/-- What is no number is no level. -/
theorem level_refuses (hx : Text.trim x = x) (hnumeral : ¬Literal.IsNumeral x)
    (op? : Option Text) : (level source).canSearch op? x = pure none :=
  readNumber_of_ok (Number.read?_of_not_isNumeral hx hnumeral)

/-! ## Tiers -/

/-- `IsTier labels x tier`: the label of the tier contains a text without regard to case, and none
before it does. -/
def IsTier (labels : List Text) (x : Text) (tier : Nat) : Prop :=
  ∃ earlier label later, labels = earlier ++ label :: later ∧ earlier.length = tier ∧
    Text.lower x <:+: Text.lower label ∧ ∀ other ∈ earlier, ¬Text.lower x <:+: Text.lower other

def Unlabelled (labels : List Text) (x : Text) : Prop :=
  ∀ label ∈ labels, ¬Text.lower x <:+: Text.lower label

theorem tierFor?_eq_none_iff {labels : List Text} : tierFor? labels x = none ↔ Unlabelled labels x := by
  rw [tierFor?, List.findIdx?_eq_none_iff]
  refine forall₂_congr fun label _ => ?_
  rw [← Text.occursIn_iff, Bool.not_eq_true]

theorem tierFor?_eq_some_iff {labels : List Text} {tier : Nat} :
    tierFor? labels x = some tier ↔ IsTier labels x tier := by
  constructor
  · intro h
    obtain ⟨hlength, hcontains, hearlier⟩ := List.findIdx?_eq_some_iff_getElem.mp h
    refine ⟨labels.take tier, labels[tier], labels.drop (tier + 1), ?_, ?_, ?_, ?_⟩
    · rw [← List.drop_eq_getElem_cons hlength, List.take_append_drop]
    · exact List.length_take_of_le (Nat.le_of_lt hlength)
    · exact Text.occursIn_iff.mp hcontains
    · intro other hother hcontained
      obtain ⟨i, hi, rfl⟩ := List.mem_take_iff_getElem.mp hother
      exact hearlier i (by omega) (Text.occursIn_iff.mpr hcontained)
  · rintro ⟨earlier, label, later, rfl, rfl, hcontains, hearlier⟩
    have hnone : tierFor? earlier x = none := tierFor?_eq_none_iff.mpr hearlier
    have hfound := Text.occursIn_iff.mpr hcontains
    unfold tierFor? at hnone ⊢
    rw [List.findIdx?_append, hnone, List.findIdx?_cons, hfound, if_pos rfl, Option.none_or,
      Option.map_some, Nat.zero_add]

theorem exists_isTier {labels : List Text} (h : ¬Unlabelled labels x) : ∃ tier, IsTier labels x tier := by
  rw [← tierFor?_eq_none_iff] at h
  obtain ⟨tier, htier⟩ := Option.ne_none_iff_exists'.mp h
  exact ⟨tier, tierFor?_eq_some_iff.mp htier⟩

/-! ## Quality -/

theorem quality_canSearch (op? : Option Text) : (quality source).canSearch op? x =
    match tierFor? source.qualityLabels x with
    | some tier => return some (.number (.int tier))
    | none => do return (← .ofExcept (Number.read? x)).map .number :=
  rfl

theorem quality_canSearch_of_tier {tier : Nat} (h : IsTier source.qualityLabels x tier)
    (op? : Option Text) :
    (quality source).canSearch op? x = pure (some (.number (.int tier))) := by
  rw [quality_canSearch, tierFor?_eq_some_iff.mpr h]

/-- A text in none of the labels is read as a number. -/
theorem quality_canSearch_of_unlabelled (h : Unlabelled source.qualityLabels x)
    {n? : Option Number} (hread : Number.read? x = .ok n?) (op? : Option Text) :
    (quality source).canSearch op? x = pure (n?.map Json.number) := by
  rw [quality_canSearch, tierFor?_eq_none_iff.mpr h]
  exact readNumber_of_ok hread

/-- Whatever number a quality is asked for, the described one is compared with it. -/
theorem quality_measures (hfound : (source.describe item).reply m.world = .ok found?)
    (hcaptures : ∀ op?, (quality source).canSearch op? x = pure (some (.number n))) :
    (quality source).Measures item x m ((found?.bind Profile.quality).map Nat.cast) n where
  captures := hcaptures
  evaluates op? := by
    obtain ⟨m', hm'⟩ := Search.exists_reply_ofWorld_bind hfound fun found? => _
    refine hm'.trans ?_
    cases found?.bind Profile.quality with
    | none => rfl
    | some q => rfl

end Attribute

end ItemQuery
