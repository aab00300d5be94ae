import ItemQuery.Proofs.Engine.Faults
import ItemQuery.Proofs.Engine.Untagged
import ItemQuery.Proofs.Sets.Reach

/-!
Three ways to ask about sets. A plain text behind the tag of the sets asks what the engine is asked
directly, and the answer about an item of the catalog reports that reply, unless the item is no
equipment (`Catalog.engine_membership`).
-/

namespace ItemQuery

variable {ω : Type}

/-! ## Behind the tag and directly -/

namespace Engine

theorem accepts_set_eq_inSet (source : Source ω) (sets : NamedSets) (item : Text) {x : Text}
    (hx : Atom.IsPlain x) :
    (ofSource source sets).accepts (some item) (some ("s:".toList ++ x)) =
      (ofSource source sets).inSet (some item) (some x) := by
  obtain ⟨-, -, -, -, hasked⟩ := acceptsTagged_eq source sets item hx
  have hcapture : (Attribute.sets source sets).canSearch none x = pure (some (.text x)) := by
    simp [Attribute.sets, Attribute.plainCapture, Operator.isGiven, hx.ne_nil]
  calc (ofSource source sets).accepts (some item) (some ("s:".toList ++ x))
      = (ofSource source sets).acceptsTagged item x "s" := rfl
    _ = (Attribute.sets source sets).judge item none x := hasked
    _ = (Attribute.sets source sets).evaluate item none (.text x) :=
        Predicate.judge_of_canSearch item hcapture
    _ = (ofSource source sets).inSet (some item) (some x) := rfl

variable {c : Catalog} {item : Text} {id : Int}

/-- What an item with an id is in, where it is known whether it is equipment. -/
theorem inSet_reply {equippable : Bool} (hid : Link.itemId? item = .ok (some id))
    (hequip : c.isEquippable item = .ok equippable) (sets : NamedSets) (search : Text)
    (m : Memory ω) :
    ((ofSource c.source sets).inSet (some item) (some search)).reply m =
      .ok (equippable && sets.belongs id (Text.lower search)) := by
  have hsource : ((ofSource c.source sets).source.isEquippable item).reply m.world =
      .ok equippable := by
    simp only [ofSource, Catalog.source, hequip]
    rfl
  rw [inSet_reply_eq, hsource, hid]
  cases equippable <;> rfl

end Engine

/-! ## What is reported -/

namespace Listing

def inSetText (e : Entry) (search : Text) : Text :=
  subject e ++ " is in a set matching ".toList ++ ('\'' :: search ++ "'.".toList)

def notInSetText (e : Entry) (search : Text) : Text :=
  subject e ++ " is not in any set matching ".toList ++ ('\'' :: search ++ "'.".toList)

def notEquippableText (e : Entry) : Text := subject e ++ " is not equippable.".toList

theorem inSetText_ne_notInSetText (e : Entry) (search : Text) :
    inSetText e search ≠ notInSetText e search := by
  simp [inSetText, notInSetText]

theorem inSetText_ne_notEquippableText (e : Entry) (search : Text) :
    inSetText e search ≠ notEquippableText e := by
  simp [inSetText, notEquippableText]

theorem notInSetText_ne_notEquippableText (e : Entry) (search : Text) :
    notInSetText e search ≠ notEquippableText e := by
  simp [notInSetText, notEquippableText]

variable {c : Catalog} {engine : Engine ω} {item search : Text} {e : Entry}

theorem checkSet_reply {equippable found : Bool} {m : Memory ω} (h : c.find item = .ok (some e))
    (hread : isReadable e.id = true) (hequip : c.isEquippable e.ref = .ok equippable)
    (hfound : (engine.inSet (some e.ref) (some search)).reply m = .ok found) :
    (checkSet engine c item search).reply m = .ok (
      if equippable then if found then inSetText e search else notInSetText e search
      else notEquippableText e) := by
  obtain ⟨m', hrun⟩ := Search.exists_run_of_reply hfound
  simp only [checkSet, h, Entry.ref?_of_isReadable hread, hequip, Entry.title_eq, if_pos hread,
    Search.ofExcept, pure_bind]
  cases equippable with
  | false => rfl
  | true =>
    unfold Search.reply
    simp only [↓reduceIte]
    rw [Search.bind_of_ok hrun]
    cases found <;> rfl

theorem checkSet_reply_of_error {fault : Fault} (h : c.find item = .ok (some e))
    (href : e.ref? = .error fault) (m : Memory ω) :
    (checkSet engine c item search).reply m = .error fault := by
  simp only [checkSet, h, href, Search.ofExcept, pure_bind]
  rfl

end Listing

/-! ## The three ways together -/

namespace Catalog

variable {data : Json} {c : Catalog} {chosen : Option Text} {fallback : Text} {e : Engine ω}

/-- Whether an entry is equipment is told by the last one with its id, and it can be told exactly when
that id can be read. -/
theorem isEquippable_ref {entry : Entry} (hdefect : ∀ entry ∈ c.entries, entry.linkDefect? = none)
    (hentry : entry ∈ c.entries) :
    if isReadable entry.id = true then
      Link.itemId? entry.ref = .ok (some entry.id) ∧ ∃ last, c.byId? entry.id = some last ∧
        c.isEquippable entry.ref = .ok last.isEquippable
    else Link.isOverlong entry.ref = true ∧ c.isEquippable entry.ref = .error .tooManyDigits := by
  have hid := Entry.itemId?_ref (hdefect entry hentry)
  split
  · rename_i hread
    rw [if_pos hread] at hid
    obtain ⟨last, hlast⟩ := exists_byId? hentry
    refine ⟨hid, last, hlast, ?_⟩
    rw [isEquippable, c.find_of_itemId hid, hlast]
    rfl
  · rename_i hread
    rw [if_neg hread] at hid
    refine ⟨(Link.itemId?_eq_error_iff.mp hid).2, ?_⟩
    rw [isEquippable, c.find_of_itemId_error hid]
    rfl

/-- Asked by a query for its sets, an item of a validated catalog is answered as when it is asked about
directly, be the reply a value or a fault. It is equipment if the last entry with its id is, by the flag
or else by the slot. What is reported about an item that a reference leads to is that reply, unless the
item is no equipment, which is then reported; and something is reported whenever the item's id can be
read. -/
theorem engine_membership (hread : read data = .valid c) (h : c.engine chosen fallback = .ok e)
    {entry : Entry} (hentry : entry ∈ c.entries) {x : Text} (hx : Atom.IsPlain x) :
    e.accepts (some entry.ref) (some ("s:".toList ++ x)) = e.inSet (some entry.ref) (some x) ∧
    (isReadable entry.id = true → ∃ last, c.byId? entry.id = some last ∧
      (c.isEquippable entry.ref = .ok true ↔ last.equippable = some true ∨
        last.equippable = none ∧ ∃ slot, last.slot = some slot ∧ slot ≠ [] ∧ slot ≠ Slot.bag)) ∧
    ∀ (item : Text) (m : Memory ω), c.find item = .ok (some entry) →
      let reported := (Listing.checkSet e c item x).reply m
      let listed := (e.accepts (some entry.ref) (some ("s:".toList ++ x))).reply m
      (reported = .ok (Listing.inSetText entry x) ↔ listed = .ok true) ∧
      (reported = .ok (Listing.notEquippableText entry) ↔ c.isEquippable entry.ref = .ok false) ∧
      (reported = .ok (Listing.notInSetText entry x) ↔
        listed ≠ .ok true ∧ c.isEquippable entry.ref = .ok true) ∧
      if isReadable entry.id = true then (∃ t, reported = .ok t) ∧ ∃ b, listed = .ok b
      else reported = .error .tooManyDigits ∧ listed = .error .tooManyDigits := by
  obtain ⟨sets, rfl⟩ := engine_eq_ok h
  have hsame := Engine.accepts_set_eq_inSet (c.source : Source ω) sets entry.ref hx
  have hequip := isEquippable_ref (linkDefect?_of_read hread) hentry
  refine ⟨hsame, fun hid => ?equipment, ?reports⟩
  case equipment =>
    rw [if_pos hid] at hequip
    obtain ⟨-, last, hlast, hequip⟩ := hequip
    refine ⟨last, hlast, ?_⟩
    rw [hequip, Except.ok.injEq]
    exact Entry.isEquippable_eq_true_iff
  case reports =>
    intro item m hfind reported listed
    have hlisted : listed =
        ((Engine.ofSource c.source sets).inSet (some entry.ref) (some x)).reply m :=
      congrArg (Search.reply · m) hsame
    by_cases hid : isReadable entry.id = true
    · rw [if_pos hid] at hequip ⊢
      obtain ⟨href, last, -, hequip⟩ := hequip
      have hfound := Engine.inSet_reply href hequip sets x m
      have hreported := Listing.checkSet_reply hfind hid hequip hfound
      rw [hlisted, hfound, show reported = _ from hreported, hequip]
      have hne := Listing.inSetText_ne_notInSetText entry x
      have hne' := Listing.inSetText_ne_notEquippableText entry x
      have hne'' := Listing.notInSetText_ne_notEquippableText entry x
      cases last.isEquippable <;> cases sets.belongs entry.id (Text.lower x) <;>
        simp [hne, hne.symm, hne', hne'.symm, hne'', hne''.symm]
    · rw [if_neg hid] at hequip ⊢
      obtain ⟨hlong, hequip⟩ := hequip
      have href := Entry.ref?_of_linkDefect? (linkDefect?_of_read hread entry hentry)
      rw [if_neg hid] at href
      have hreported : reported = .error .tooManyDigits :=
        Listing.checkSet_reply_of_error hfind href m
      rw [hlisted, hreported, Engine.inSet_of_overlong hlong, hequip]
      simp

/-- A ring is found by its name and is in a set of which a piece of the name is given. -/
theorem engine_membership_ring :
    let ring := { Entry.named 7 "Ring" with slot := some "INVTYPE_FINGER".toList }
    let sets := Json.object [("Tank Gear".toList, .array [.number (.int 7)])]
    let data := Json.object [("items".toList, .array [.object [("id".toList, .number (.int 7)),
      ("name".toList, .text "Ring".toList), ("equip_slot".toList, .text "INVTYPE_FINGER".toList)]]),
      ("sets".toList, sets)]
    let c := { ofEntries [ring] with setData := sets }
    let x := "k g".toList
    read data = .valid c ∧ ring ∈ c.entries ∧ Atom.IsPlain x ∧
      c.find " RING ".toList = .ok (some ring) ∧
      ∃ e : Engine Unit, c.engine none "equipment".toList = .ok e ∧
        e.accepts (some ring.ref) (some "s:k g".toList) = e.inSet (some ring.ref) (some x) ∧
        c.isEquippable ring.ref = .ok true ∧
        (Listing.checkSet e c " RING ".toList x).reply ⟨(), []⟩ =
          .ok "[7] Ring is in a set matching 'k g'.".toList := by
  intro ring sets data c x
  have hread : read data = .valid c := rfl
  have hring : ring ∈ c.entries := List.mem_singleton_self ring
  have hx : Atom.IsPlain x := {
    ne_nil := by decide
    trim_eq := by decide
    take?_eq := by decide
    lower_eq := by decide
    not_mem_bar := by decide
    not_mem_ampersand := by decide }
  have hfind : c.find " RING ".toList = .ok (some ring) := rfl
  have h : c.engine none "equipment".toList = .ok (_ : Engine Unit) := rfl
  obtain ⟨hsame, hequipment, hreported⟩ := engine_membership hread h hring hx
  obtain ⟨last, hlast, hequip⟩ := hequipment (by decide)
  obtain rfl : ring = last := Option.some.inj hlast
  refine ⟨hread, hring, hx, hfind, _, h, hsame, hequip.mpr (.inr ⟨rfl, _, rfl, ?_, ?_⟩),
    (hreported _ ⟨(), []⟩ hfind).1.mpr rfl⟩
  · decide
  · decide

end Catalog

end ItemQuery
