import ItemQuery.Engine
import ItemQuery.Proofs.Catalog.Valid
import ItemQuery.Proofs.Search
import ItemQuery.Proofs.Sets.Basic
import ItemQuery.Proofs.Text.Case
import Mathlib.Data.List.Infix

/-!
How far a search for sets reaches. A piece of a search finds every set that the search finds,
although `*` is a search of its own and may stand in a longer one. The search `*` finds every set that
has a name, and so does the blank search, which a missing one counts as (`Engine.inSet_reaches`).
-/

namespace ItemQuery

/-! ## What a search finds -/

/-- Small letters stay as they are in every piece of a small form. -/
theorem Text.lower_of_isInfix {piece t : Text} (h : piece <:+: lower t) : lower piece = piece := by
  have hsmall := lower_eq_self_iff.mp (lower_lower t)
  exact lower_eq_self_iff.mpr fun c hc => hsmall c (h.subset hc)

namespace NamedSets

/-- Whatever one search finds, the other one finds as well. -/
def Covers (wide search : Text) : Prop := ∀ name, finds search name = true → finds wide name = true

variable {s : NamedSets} {search wide piece name : Text} {id : Int}

theorem lower_anySet : Text.lower anySet = anySet := by decide

theorem finds_anySet_iff : finds anySet name = true ↔ name ≠ [] := by
  rw [finds_iff]
  exact and_iff_left (.inl rfl)

theorem finds_blank_iff : finds [] name = true ↔ name ≠ [] := by
  rw [finds_iff]
  exact and_iff_left (.inr List.nil_infix)

/-- The pieces of `*` are `*` itself and the blank search, so `*` loses nothing by being cut. -/
theorem covers_of_isInfix (h : piece <:+: Text.lower search) :
    Covers (Text.lower piece) (Text.lower search) := by
  intro name hfinds
  obtain ⟨hname, hany | hwithin⟩ := finds_iff.mp hfinds
  · rw [Text.lower_of_isInfix h]
    rw [hany, anySet, List.infix_singleton_iff] at h
    rcases h with rfl | rfl
    · exact finds_blank_iff.mpr hname
    · exact finds_anySet_iff.mpr hname
  · refine finds_iff.mpr ⟨hname, .inr ?_⟩
    rw [Text.lower_lower] at hwithin ⊢
    rw [Text.lower_of_isInfix h]
    exact h.trans hwithin

theorem Covers.belongs (h : Covers wide search) (hbelongs : s.belongs id search = true) :
    s.belongs id wide = true := by
  obtain ⟨name, ids, hmem, hfinds, hid⟩ := belongs_eq_true_iff.mp hbelongs
  exact belongs_eq_true_iff.mpr ⟨name, ids, hmem, h name hfinds, hid⟩

theorem belongs_blank (s : NamedSets) (id : Int) : s.belongs id [] = s.belongs id anySet := by
  rw [Bool.eq_iff_iff, belongs_eq_true_iff, belongs_eq_true_iff]
  simp only [finds_blank_iff, finds_anySet_iff]

end NamedSets

/-! ## What is replied -/

variable {ω : Type}

/-- The reply about an item, put together from what its source replies and the id in the reference. -/
theorem Source.inSet_reply_eq (source : Source ω) (sets : NamedSets) (item search : Text) (w : ω) :
    (source.inSet sets item search).reply w = (do
      if ← (source.isEquippable item).reply w then
        return (← Link.itemId? item).any fun id => sets.belongs id (Text.lower search)
      else return false) := by
  unfold inSet Search.reply
  cases hsource : source.isEquippable item w with
  | error fault w' =>
    rw [Search.bind_of_error hsource]
    rfl
  | ok equippable w' =>
    rw [Search.bind_of_ok hsource]
    cases equippable with
    | false => rfl
    | true =>
      cases hid : Link.itemId? item with
      | error fault => rfl
      | ok id? => cases id? <;> rfl

namespace Engine

variable {e : Engine ω} {item : Text} {m : Memory ω}

theorem inSet_reply_eq (search? : Option Text) : (e.inSet (some item) search?).reply m = (do
    if ← (e.source.isEquippable item).reply m.world then
      return (← Link.itemId? item).any fun id => e.sets.belongs id (Text.lower (search?.getD []))
    else return false) :=
  (Search.reply_ofWorld _ m).trans (Source.inSet_reply_eq ..)

theorem inSet_reply_eq_true_iff {search? : Option Text} :
    (e.inSet (some item) search?).reply m = .ok true ↔
      (e.source.isEquippable item).reply m.world = .ok true ∧
        ∃ id, Link.itemId? item = .ok (some id) ∧
          e.sets.belongs id (Text.lower (search?.getD [])) = true := by
  rw [inSet_reply_eq]
  cases (e.source.isEquippable item).reply m.world with
  | error fault => simp [bind, Except.bind]
  | ok equippable =>
    cases equippable with
    | false => simp [bind, Except.bind, pure, Except.pure]
    | true =>
      cases Link.itemId? item with
      | error fault => simp [bind, Except.bind]
      | ok id? => cases id? <;> simp [bind, Except.bind, pure, Except.pure]

theorem inSet_reply_eq_error_iff {search? : Option Text} {fault : Fault} :
    (e.inSet (some item) search?).reply m = .error fault ↔
      (e.source.isEquippable item).reply m.world = .error fault ∨
        (e.source.isEquippable item).reply m.world = .ok true ∧ Link.itemId? item = .error fault := by
  rw [inSet_reply_eq, Except.bind_eq_error_iff]
  refine or_congr_right ?_
  constructor
  · rintro ⟨equippable, hequippable, hfault⟩
    cases equippable with
    | false => cases hfault
    | true =>
      rcases Except.bind_eq_error_iff.mp hfault with hid | ⟨id?, -, hreturn⟩
      · exact ⟨hequippable, hid⟩
      · cases hreturn
  · rintro ⟨hequippable, hid⟩
    exact ⟨true, hequippable, Except.bind_eq_error_iff.mpr (.inl hid)⟩

theorem inSet_blank (e : Engine ω) (item : Text) :
    e.inSet (some item) (some []) = e.inSet (some item) (some NamedSets.anySet) := by
  have hsame (id : Int) :
      e.sets.belongs id (Text.lower []) = e.sets.belongs id (Text.lower NamedSets.anySet) := by
    rw [NamedSets.lower_anySet]
    exact e.sets.belongs_blank id
  simp only [inSet, Option.getD_some, Source.inSet, hsame]

/-- Whether the question for an item's sets fails does not depend on the search: it fails when the
source does, or when the item is equipment and its id has too many digits. An item that a search finds
is found by every piece of the small form of the search. The search `*`, the blank search and a missing
search are one and the same, and find the equipment whose id is in a set with a name. -/
theorem inSet_reaches (e : Engine ω) (item : Text) (m : Memory ω) :
    (∀ search? fault, (e.inSet (some item) search?).reply m = .error fault ↔
      (e.source.isEquippable item).reply m.world = .error fault ∨
        (e.source.isEquippable item).reply m.world = .ok true ∧ Link.itemId? item = .error fault) ∧
    (∀ search piece, piece <:+: Text.lower search →
      (e.inSet (some item) (some search)).reply m = .ok true →
      (e.inSet (some item) (some piece)).reply m = .ok true) ∧
    e.inSet (some item) (some []) = e.inSet (some item) (some NamedSets.anySet) ∧
    e.inSet (some item) none = e.inSet (some item) (some NamedSets.anySet) ∧
    ((e.inSet (some item) (some NamedSets.anySet)).reply m = .ok true ↔
      (e.source.isEquippable item).reply m.world = .ok true ∧
        ∃ id, Link.itemId? item = .ok (some id) ∧
          ∃ name ids, (name, ids) ∈ e.sets.members ∧ name ≠ [] ∧ id ∈ ids) := by
  refine ⟨fun _ _ => inSet_reply_eq_error_iff, fun search piece hpiece hfound => ?piece,
    inSet_blank e item, inSet_blank e item, ?any⟩
  case piece =>
    obtain ⟨hequippable, id, hid, hbelongs⟩ := inSet_reply_eq_true_iff.mp hfound
    exact inSet_reply_eq_true_iff.mpr
      ⟨hequippable, id, hid, (NamedSets.covers_of_isInfix hpiece).belongs hbelongs⟩
  case any =>
    simp only [inSet_reply_eq_true_iff, Option.getD_some, NamedSets.lower_anySet,
      NamedSets.belongs_eq_true_iff, NamedSets.finds_anySet_iff]

/-- A star stands in a search and in the name of a set, and is itself a piece of the search. Another
item is in a set without a name alone, which no search finds. -/
theorem inSet_reaches_star :
    let ring := { Entry.named 7 "Ring" with equippable := some true }
    let band := { Entry.named 8 "Band" with equippable := some true }
    let source : Source Unit := (Catalog.ofEntries [ring, band]).source
    let e := ofSource source ⟨[([], [7, 8]), ("Tank*Gear".toList, [7])]⟩
    let m : Memory Unit := ⟨(), []⟩
    let search := "K*ge".toList
    (e.inSet (some "item:7".toList) (some search)).reply m = .ok true ∧
      NamedSets.anySet <:+: Text.lower search ∧
      (e.inSet (some "item:7".toList) (some NamedSets.anySet)).reply m = .ok true ∧
      (e.inSet (some "item:8".toList) (some NamedSets.anySet)).reply m ≠ .ok true := by
  intro ring band source e m search
  have hfound : (e.inSet (some "item:7".toList) (some search)).reply m = .ok true := rfl
  have hpiece : NamedSets.anySet <:+: Text.lower search := ⟨['k'], "ge".toList, by decide⟩
  refine ⟨hfound, hpiece, (inSet_reaches e _ m).2.1 search _ hpiece hfound, ?_⟩
  rw [ne_eq, (inSet_reaches e _ m).2.2.2.2]
  rintro ⟨-, id, hid, name, ids, hmem, hname, hids⟩
  have height : Link.itemId? "item:8".toList = .ok (some 8) := rfl
  cases height.symm.trans hid
  have hmembers : e.sets.members = [([], [7, 8]), ("Tank*Gear".toList, [7])] := rfl
  rw [hmembers, List.mem_cons, List.mem_singleton] at hmem
  rcases hmem with hmem | hmem
  · cases hmem
    exact hname rfl
  · cases hmem
    exact absurd hids (by decide)

end Engine

end ItemQuery
