import ItemQuery.Proofs.Catalog.Lookup
import ItemQuery.Proofs.Catalog.Valid
import ItemQuery.Proofs.Item.Ref
import ItemQuery.Proofs.Json.Readable

/-!
From an entry to its reference and back. The reference of an entry that was accepted carries the
entry's id, whatever stands in its name or around its own link. In a catalog the reference, the bare
id and every link that is built for the id lead to one entry, the last one with that id
(`Catalog.find_reference`).
-/

namespace ItemQuery

/-! ## Three references to one id -/

/-- In a written integer there is no mark that a number could follow. -/
theorem Link.itemId?_intText (id : Int) : itemId? (intText id) = .ok none := by
  have hmark : 'i' ∉ intText id := by
    intro hmem
    rcases mem_intText hmem with hminus | hdigit
    · exact absurd hminus (by decide)
    · exact absurd hdigit (by decide)
  have hnumber : firstNumber? (intText id) = none := by
    have happend := firstNumber?_append_of_not_mem hmark []
    rwa [List.append_nil] at happend
  rw [itemId?, hnumber]

theorem Text.trim_intText (id : Int) : trim (intText id) = intText id := by
  have htrim := trim_between_blanks (a := []) (b := []) (intText_ne_nil id) (List.forall_mem_nil _)
    (fun _ => not_isBlank_of_mem_intText) (List.forall_mem_nil _)
  rwa [List.append_nil, List.nil_append] at htrim

namespace Catalog

variable {c : Catalog} {id : Int}

theorem find_intText (h : isReadable id = true) : c.find (intText id) = .ok (c.byId? id) := by
  rw [c.find_eq, Link.itemId?_intText, Text.trim_intText, parseInt?_intText h]

theorem find_build (h : isReadable id = true) (name : Text) :
    ∃ link, Link.build id name Link.defaultColor = .ok link ∧ c.find link = .ok (c.byId? id) := by
  refine ⟨_, by rw [Link.build, writeInt_of_isReadable h]; rfl, c.find_of_itemId ?_⟩
  rw [Link.itemId?_around, if_pos h]

end Catalog

/-! ## References of accepted entries -/

theorem Entry.itemId?_ref_of_isReadable {e : Entry} (h : e.linkDefect? = none)
    (hid : isReadable e.id = true) : Link.itemId? e.ref = .ok (some e.id) := by
  rw [itemId?_ref h, if_pos hid]

namespace Catalog

/-- Whatever else stands in it, the reference of an entry leads to the last entry with its id. -/
theorem find_ref (c : Catalog) {e : Entry} (h : e.linkDefect? = none) : c.find e.ref =
    if isReadable e.id = true then .ok (c.byId? e.id) else .error .tooManyDigits := by
  have hid := Entry.itemId?_ref h
  split
  · rename_i hreadable
    rw [if_pos hreadable] at hid
    exact c.find_of_itemId hid
  · rename_i hreadable
    rw [if_neg hreadable] at hid
    exact c.find_of_itemId_error hid

/-- The reference of an accepted entry is read as the entry's id. In a validated catalog it leads to
the last entry with that id, and so do the id as it is written and every link that is built for the
id, whatever the name. An id with too many digits to be read is in no catalog that comes as text. -/
theorem find_reference :
    (∀ (v : Json) (e : Entry), Entry.read v = .valid e → isReadable e.id = true →
      Link.itemId? e.ref = .ok (some e.id)) ∧
    (∀ (data : Json) (c : Catalog), read data = .valid c → ∀ e ∈ c.entries, isReadable e.id = true →
      Link.itemId? e.ref = .ok (some e.id) ∧
      ∃ before last after, c.entries = before ++ last :: after ∧ last.id = e.id ∧
        (∀ later ∈ after, later.id ≠ e.id) ∧ c.find e.ref = .ok (some last) ∧
        c.find (intText e.id) = .ok (some last) ∧
        ∀ name, ∃ link, Link.build e.id name Link.defaultColor = .ok link ∧
          c.find link = .ok (some last)) ∧
    ∀ (t : Text) (c : Catalog), parse t = .valid c → ∀ e ∈ c.entries, isReadable e.id = true := by
  refine ⟨?entry, ?catalog, fun t c => isReadable_of_parse⟩
  case entry =>
    intro v e hread hid
    exact Entry.itemId?_ref_of_isReadable (Entry.read_ensures v e hread) hid
  case catalog =>
    intro data c hread e he hid
    have href := Entry.itemId?_ref_of_isReadable (linkDefect?_of_read hread e he) hid
    obtain ⟨last, hlast⟩ := exists_byId? he
    obtain ⟨before, after, hsplit, hafter⟩ := exists_split_of_byId? hlast
    refine ⟨href, before, last, after, hsplit, id_of_byId? hlast, hafter, ?_, ?_, fun name => ?_⟩
    · rw [c.find_of_itemId href, hlast]
    · rw [find_intText hid, hlast]
    · rw [← hlast]
      exact find_build hid name

/-- Two entries share a negative id. The first has a link of its own, in which a mark without a number
comes first; the name of the second reads like a link to another item. -/
theorem find_reference_negative :
    let link := " [item:] item:-07x item:8".toList
    let linked := { Entry.named (-7) "Ring" with link := some link }
    let disguised := Entry.named (-7) "item:9|h]\n|Hitem:-3"
    let linkedJson := Json.object [("id".toList, .number (.int (-7))),
      ("name".toList, .text "Ring".toList), ("link".toList, .text link)]
    let data := itemsJson [linkedJson, Entry.namedJson (-7) "item:9|h]\n|Hitem:-3"]
    let c := ofEntries [linked, disguised]
    Entry.read linkedJson = .valid linked ∧ read data = .valid c ∧ linked ∈ c.entries ∧
      isReadable (-7) = true ∧ Link.itemId? linked.ref = .ok (some (-7)) ∧
      c.find "-7".toList = .ok (some disguised) ∧
      ∀ name, ∃ link, Link.build (-7) name Link.defaultColor = .ok link ∧
        c.find link = .ok (some disguised) := by
  intro link linked disguised linkedJson data c
  have hitem : Entry.read linkedJson = .valid linked := rfl
  have hread : read data = .valid c := rfl
  have he : linked ∈ c.entries := List.mem_cons_self
  have hid : isReadable (-7) = true := by decide
  obtain ⟨-, before, last, after, -, -, -, hlast, hwritten, hbuilt⟩ :=
    find_reference.2.1 data c hread linked he hid
  have hdisguised : last = disguised := by
    have hfind : c.find linked.ref = .ok (some disguised) := rfl
    rw [hfind] at hlast
    exact (Option.some.inj (Except.ok.inj hlast)).symm
  rw [hdisguised] at hwritten hbuilt
  exact ⟨hitem, hread, he, hid, find_reference.1 linkedJson linked hitem hid, hwritten, hbuilt⟩

end Catalog

end ItemQuery
