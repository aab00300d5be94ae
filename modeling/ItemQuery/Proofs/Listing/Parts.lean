import ItemQuery.Proofs.Attribute.Containment
import ItemQuery.Proofs.Catalog.Reference
import ItemQuery.Proofs.Listing.Text
import Mathlib.Data.List.Nodup

/-!
What the kind of an item is asked about is what its line in a listing shows: the kind, the subkind and
the label of the slot, each where there is one. A slot that is given by a token is asked about and shown
by its label alone, and no slot is ever asked about or shown by a token (`Catalog.kind_evaluate_ref`).
-/

namespace ItemQuery

/-! ## Slots -/

namespace Slot

private theorem nodup_tokens : (labels.map Prod.fst).Nodup := by decide +kernel

private theorem labels_apart : (labels.all fun entry =>
    !entry.2.toList.isEmpty && labels.all fun other => entry.2.toList != other.1.toList) = true := by
  decide +kernel

variable {token shown : String}

theorem label_of_mem (h : (token, shown) ∈ labels) : label token.toList = shown.toList := by
  unfold label
  cases hfound : labels.find? fun entry => entry.1.toList == token.toList with
  | none => exact absurd (beq_self_eq_true token.toList) (List.find?_eq_none.mp hfound _ h)
  | some entry =>
    have hsame := List.find?_some hfound
    have htoken : entry.1 = token := String.toList_inj.mp (beq_iff_eq.mp hsame)
    have hentry : entry = (token, shown) :=
      List.inj_on_of_nodup_map nodup_tokens (List.mem_of_find?_eq_some hfound) h htoken
    rw [hentry]

theorem ne_nil_of_mem_labels (h : (token, shown) ∈ labels) : shown.toList ≠ [] := by
  have hentry := List.all_eq_true.mp labels_apart _ h
  rw [Bool.and_eq_true, Bool.not_eq_true', List.isEmpty_eq_false_iff] at hentry
  exact hentry.1

/-- Neither a label nor what stands for itself is a token. -/
theorem label_ne_token (slot : Text) (h : (token, shown) ∈ labels) : label slot ≠ token.toList := by
  unfold label
  cases hfound : labels.find? fun entry => entry.1.toList == slot with
  | none =>
    rintro rfl
    exact List.find?_eq_none.mp hfound _ h (beq_self_eq_true token.toList)
  | some entry =>
    have hentry := List.all_eq_true.mp labels_apart _ (List.mem_of_find?_eq_some hfound)
    rw [Bool.and_eq_true] at hentry
    exact bne_iff_ne.mp (List.all_eq_true.mp hentry.2 _ h)

end Slot

/-! ## The parts of an entry -/

namespace Entry

variable {e : Entry} {part x : Text}

theorem mem_shownParts_iff : part ∈ e.shownParts ↔
    part ≠ [] ∧ some part ∈ [e.kind, e.subkind, e.slot.map Slot.label] := by
  rw [shownParts, List.mem_filterMap]
  constructor
  · rintro ⟨part?, hmem, hshown⟩
    split at hshown
    · cases hshown
      exact ⟨List.cons_ne_nil _ _, hmem⟩
    · cases hshown
  · rintro ⟨hne, hmem⟩
    obtain ⟨c, rest, rfl⟩ := List.exists_cons_of_ne_nil hne
    exact ⟨_, hmem, rfl⟩

/-- What is known of an entry's kind contains a text exactly when a part that is shown does. -/
theorem containsAny_profile_iff :
    Text.containsAny x [e.profile.kind, e.profile.subkind, e.profile.slot] = true ↔
      ∃ part ∈ e.shownParts, Text.lower x <:+: Text.lower part := by
  rw [Text.containsAny_eq_true_iff]
  simp only [mem_shownParts_iff]
  constructor
  · rintro ⟨part, hmem, hne, hwithin⟩
    exact ⟨part, ⟨hne, hmem⟩, hwithin⟩
  · rintro ⟨part, ⟨hne, hmem⟩, hwithin⟩
    exact ⟨part, hmem, hne, hwithin⟩

variable {token shown : String}

theorem shown_of_token (h : (token, shown) ∈ Slot.labels) (hslot : e.slot = some token.toList) :
    e.profile.slot = some shown.toList ∧ shown.toList ∈ e.shownParts := by
  have hlabel : e.slot.map Slot.label = some shown.toList := by
    rw [hslot, Option.map_some, Slot.label_of_mem h]
  exact ⟨hlabel, mem_shownParts_iff.mpr ⟨Slot.ne_nil_of_mem_labels h, by simp [hlabel]⟩⟩

theorem slot_ne_token (e : Entry) (h : (token, shown) ∈ Slot.labels) :
    e.profile.slot ≠ some token.toList := by
  intro hslot
  obtain ⟨slot, -, hlabel⟩ := Option.map_eq_some_iff.mp hslot
  exact Slot.label_ne_token slot h hlabel

/-- A token is shown only where it stands as the kind or the subkind. -/
theorem kind_of_token_shown (h : (token, shown) ∈ Slot.labels)
    (hpart : token.toList ∈ e.shownParts) :
    e.kind = some token.toList ∨ e.subkind = some token.toList := by
  obtain ⟨-, hmem⟩ := mem_shownParts_iff.mp hpart
  simp only [List.mem_cons, List.not_mem_nil, or_false] at hmem
  rcases hmem with hkind | hsubkind | hslot
  · exact .inl hkind.symm
  · exact .inr hsubkind.symm
  · exact absurd hslot.symm (e.slot_ne_token h)

end Entry

/-! ## Entries asked about by their references -/

namespace Catalog

variable {ω : Type} {data : Json} {c : Catalog} {e : Entry}

theorem byId?_of_only (he : e ∈ c.entries)
    (honly : ∀ other ∈ c.entries, other.id = e.id → other = e) : c.byId? e.id = some e := by
  obtain ⟨last, hlast⟩ := exists_byId? he
  rw [hlast, honly last (mem_of_byId? hlast) (id_of_byId? hlast)]

theorem describe_ref (hread : read data = .valid c) (he : e ∈ c.entries)
    (honly : ∀ other ∈ c.entries, other.id = e.id → other = e) :
    c.describe e.ref =
      if isReadable e.id = true then .ok (some e.profile) else .error .tooManyDigits := by
  rw [describe, c.find_ref (linkDefect?_of_read hread e he), byId?_of_only he honly]
  split <;> rfl

/-- A catalog has no state, so what it says about an item settles what the kind is asked about. -/
theorem kind_evaluate_eq (c : Catalog) (item x : Text) (m : Memory ω) :
    ((Attribute.kind c.source).evaluate item none (.text x)).reply m =
      (c.describe item).map fun found? => found?.any fun profile =>
        Text.containsAny x [profile.kind, profile.subkind, profile.slot] := by
  simp only [Attribute.kind, source]
  cases c.describe item with
  | error fault => rfl
  | ok found? => cases found? <;> rfl

/-- The kind of an entry that is alone with its id is asked about by the entry's reference. What is
asked for is found exactly when it occurs, in whatever case, in a part that the entry's line in a
listing shows before the level. The parts are the kind, the subkind and the label of the slot, without
those that are missing or empty. A slot that is a token is asked about and shown by its label, and no
slot is asked about or shown by a token. An id or a level with too many digits is in no catalog that
comes as text. -/
theorem kind_evaluate_ref (hread : read data = .valid c) (he : e ∈ c.entries)
    (honly : ∀ other ∈ c.entries, other.id = e.id → other = e) (x : Text) (m : Memory ω) :
    let reply := ((Attribute.kind c.source).evaluate e.ref none (.text x)).reply m
    (if isReadable e.id = true then
      ∃ found, reply = .ok found ∧
        (found = true ↔ ∃ part ∈ e.shownParts, Text.lower x <:+: Text.lower part)
    else reply = .error .tooManyDigits) ∧
    (∀ t, parse t = .valid c → isReadable e.id = true ∧ e.level.all isReadable = true) ∧
    (if e.level.all isReadable = true then
      e.details = .ok (Text.join " | ".toList (e.shownParts ++
        (e.level.map fun level => "ilvl ".toList ++ intText level).toList))
    else e.details = .error .tooManyDigits) ∧
    (∀ part, part ∈ e.shownParts ↔
      part ≠ [] ∧ some part ∈ [e.kind, e.subkind, e.slot.map Slot.label]) ∧
    ∀ token shown, (token, shown) ∈ Slot.labels →
      (e.slot = some token.toList →
        e.profile.slot = some shown.toList ∧ shown.toList ∈ e.shownParts) ∧
      e.profile.slot ≠ some token.toList ∧
      (token.toList ∈ e.shownParts → e.kind = some token.toList ∨ e.subkind = some token.toList) := by
  intro reply
  refine ⟨?reply, fun t ht => Bool.and_eq_true_iff.mp (isWritable_of_parse ht e he), e.details_eq,
    fun part => Entry.mem_shownParts_iff, fun token shown h => ?slot⟩
  case reply =>
    have hreply : reply = _ := kind_evaluate_eq c e.ref x m
    rw [hreply, describe_ref hread he honly]
    split
    · exact ⟨_, rfl, Entry.containsAny_profile_iff⟩
    · rfl
  case slot =>
    exact ⟨Entry.shown_of_token h, e.slot_ne_token h, Entry.kind_of_token_shown h⟩

/-- A ring whose slot is a token and whose subkind is empty is found by a piece of the label, in any
case, and not by a piece of the token. -/
theorem kind_evaluate_ref_finger :
    let ring := { Entry.named 7 "Ring" with
      kind := some "Armor".toList
      subkind := some []
      slot := some "INVTYPE_FINGER".toList
      level := some 80 }
    let data := itemsJson [.object [("id".toList, .number (.int 7)),
      ("name".toList, .text "Ring".toList), ("type".toList, .text "Armor".toList),
      ("sub_type".toList, .text []), ("equip_slot".toList, .text "INVTYPE_FINGER".toList),
      ("level".toList, .number (.int 80))]]
    let c := ofEntries [ring]
    let asked (x : String) : Search (Memory Unit) Bool :=
      (Attribute.kind c.source).evaluate ring.ref none (.text x.toList)
    read data = .valid c ∧ ring ∈ c.entries ∧
      (∀ other ∈ c.entries, other.id = ring.id → other = ring) ∧ isReadable ring.id = true ∧
      ring.details = .ok "Armor | Finger | ilvl 80".toList ∧
      (asked "fING").reply ⟨(), []⟩ = .ok true ∧
      ¬∃ part ∈ ring.shownParts, Text.lower "INVTYPE".toList <:+: Text.lower part := by
  intro ring data c asked
  have hread : read data = .valid c := rfl
  have hring : ring ∈ c.entries := List.mem_singleton_self ring
  have honly : ∀ other ∈ c.entries, other.id = ring.id → other = ring :=
    fun other hother _ => List.mem_singleton.mp hother
  have hid : isReadable ring.id = true := by decide
  have hasked (x : String) := (kind_evaluate_ref hread hring honly x.toList (⟨(), []⟩ : Memory Unit)).1
  simp only [if_pos hid] at hasked
  refine ⟨hread, hring, honly, hid, rfl, ?found, ?token⟩
  case found =>
    obtain ⟨found, hreply, hfound⟩ := hasked "fING"
    have hpart : "Finger".toList ∈ ring.shownParts := by decide
    have hwithin : Text.lower "fING".toList <:+: Text.lower "Finger".toList :=
      ⟨[], "er".toList, by decide⟩
    exact hreply.trans (congrArg Except.ok (hfound.mpr ⟨_, hpart, hwithin⟩))
  case token =>
    obtain ⟨found, hreply, hfound⟩ := hasked "INVTYPE"
    have hnot : (asked "INVTYPE").reply ⟨(), []⟩ = .ok false := rfl
    cases hnot.symm.trans hreply
    exact fun h => Bool.false_ne_true (hfound.mpr h)

end Catalog

end ItemQuery
