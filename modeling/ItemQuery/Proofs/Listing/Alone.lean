import ItemQuery.Proofs.Catalog.Reference
import ItemQuery.Proofs.Listing.Search

/-!
An entry in a catalog and by itself. In a validated catalog a reference leads to the last entry with
its id, and nothing else of the catalog has a part in the answer. So an entry is listed if and only
if the last entry with its id is listed by itself (`Session.search_alone`). An entry with a later one
of the same id is judged by the later one's data (`Session.search_twoSevens`).
-/

namespace ItemQuery

open Search (Alike)

/-! ## The entry that a reference leads to -/

/-- The catalog of one entry with everything else as it was. -/
def Catalog.alone (c : Catalog) (e : Entry) : Catalog := { c with entries := [e] }

namespace Catalog

variable {c : Catalog} {e last : Entry}

theorem byId?_alone (c : Catalog) (e : Entry) : (c.alone e).byId? e.id = some e := by
  simp [byId?, alone]

/-- An entry's reference in a catalog and the reference of the last entry with its id, when that one
is alone, come to the same. -/
theorem sameItem_alone (he : e.linkDefect? = none) (hlast : last.linkDefect? = none)
    (h : c.byId? e.id = some last) : c.SameItem (c.alone last) e.ref last.ref := by
  have hid : last.id = e.id := id_of_byId? h
  have hitem : Link.itemId? e.ref = Link.itemId? last.ref := by
    rw [Entry.itemId?_ref he, Entry.itemId?_ref hlast, hid]
  have hfind : c.find e.ref = (c.alone last).find last.ref := by
    rw [c.find_ref he, (c.alone last).find_ref hlast, byId?_alone, hid, h]
  exact ⟨hitem, hfind, rfl⟩

end Catalog

/-- A catalog of two entries with one id. -/
def Catalog.twoSevens : Catalog := .ofEntries [.named 7 "Alpha", .named 7 "Beta"]

def Catalog.twoSevensJson : Json :=
  itemsJson [Entry.namedJson 7 "Alpha", Entry.namedJson 7 "Beta"]

theorem Catalog.read_twoSevensJson : read twoSevensJson = .valid twoSevens := rfl

/-! ## Searches that return -/

/-- A search that cannot reach its limit asks about every entry, so that it returns only where each
of them has an answer. -/
theorem Listing.exists_reply_of_searchFrom {σ : Type} {P : σ → Prop} {m₀ : σ}
    {ask : Entry → Search σ Bool} {limit : Int} {entries : List Entry}
    (h : ∀ e ∈ entries, Alike (fun m m' => P m ∧ P m') (ask e) (ask e)) (h₀ : P m₀)
    {found found' : List Entry} (hlimit : found.length + entries.length < limit) {m : σ}
    (hm : P m) (hrun : (searchFrom ask limit found entries).reply m = .ok found') :
    ∀ e ∈ entries, ∃ b, (ask e).reply m₀ = .ok b := by
  induction entries generalizing found m with
  | nil => exact List.forall_mem_nil _
  | cons e entries ih =>
    obtain ⟨he, hentries⟩ := List.forall_mem_cons.mp h
    rw [List.length_cons] at hlimit
    have hone : (found ++ [e]).length = found.length + 1 := by simp
    rcases searchFrom_cons_returns hrun with
      ⟨m', hask, hrest⟩ | ⟨m', hask, ⟨hreached, -⟩ | ⟨-, hrest⟩⟩
    · obtain ⟨hm', hreply⟩ := he.of_run hm h₀ hask
      exact List.forall_mem_cons.mpr ⟨⟨false, hreply⟩, ih hentries (by omega) hm' hrest⟩
    · omega
    · obtain ⟨hm', hreply⟩ := he.of_run hm h₀ hask
      exact List.forall_mem_cons.mpr ⟨⟨true, hreply⟩, ih hentries (by omega) hm' hrest⟩

namespace Session

variable {data : Json} {c : Catalog} {chosen : Option Text} {fallback : Text} {s₀ : Session}

/-- An entry of a validated catalog and the last entry with its id, alone, answer alike to a query. -/
theorem accepts_alone (hread : Catalog.read data = .valid c)
    (h : ofCatalog c chosen fallback = .ok s₀) {e last : Entry} (he : e ∈ c.entries)
    (hlast : c.byId? e.id = some last) :
    ∃ s₁, ofCatalog (c.alone last) chosen fallback = .ok s₁ ∧ ∀ query,
      Alike (c.BothRecall (c.alone last)) (s₀.engine.accepts (some e.ref) query)
        (s₁.engine.accepts (some last.ref) query) ∧
      Alike (c.BothRecall (c.alone last)) (Listing.asks s₀.engine.accepts query e)
        (Listing.asks s₁.engine.accepts query last) := by
  have hdefect := Catalog.linkDefect?_of_read hread
  have hlink := hdefect e he
  have hlink' := hdefect last (Catalog.mem_of_byId? hlast)
  have hitem := Catalog.sameItem_alone hlink hlink' hlast
  obtain ⟨sets, hsets, hengine, -, -⟩ := ofCatalog_eq_ok h
  have hselect : Backend.select ((c.alone last).backendName chosen fallback)
      (c.alone last).setData = .ok sets := hsets
  obtain ⟨s₁, hs₁, hengine₁⟩ := ofCatalog_of_select hselect
  refine ⟨s₁, hs₁, fun query => ?_⟩
  have haccepts : Alike (c.BothRecall (c.alone last)) (s₀.engine.accepts (some e.ref) query)
      (s₁.engine.accepts (some last.ref) query) := by
    rw [hengine, hengine₁]
    exact Engine.accepts_alike (hitem.builtIn_alike sets) query
  exact ⟨haccepts, Listing.asks_alike_of_id hlink hlink' (Catalog.id_of_byId? hlast).symm haccepts⟩

/-- Where no entry raises anything, a search that cannot reach its limit finds all matches. -/
theorem Sound.search_reply {s : Session} (hs : s.Sound c) {query : Option Text}
    (hreturns : ∀ e ∈ c.entries, ∃ b,
      (Listing.asks s.engine.accepts query e).reply emptyMemory = .ok b)
    {limit : Int} (hlimit : c.entries.length < limit) {m : Memory Journal} (hm : c.Recalls m) :
    (Listing.search s.engine.accepts c query limit).reply m =
      .ok (c.entries.filter (s.isMatch query)) := by
  have hfew := List.length_filter_le (s.isMatch query) c.entries
  exact (Listing.search_few (fun e he => hs.asks_settles query (hreturns e he))
    (by omega)).settles.reply_eq hm

/-- A search that cannot reach its limit returns only where no entry raises anything. -/
theorem Sound.search_returns {s : Session} (hs : s.Sound c) {query : Option Text} {limit : Int}
    (hlimit : c.entries.length < limit) {m : Memory Journal} (hm : c.Recalls m) {found : List Entry}
    (hfound : (Listing.search s.engine.accepts c query limit).reply m = .ok found) :
    (∀ e ∈ c.entries, ∃ b,
      (Listing.asks s.engine.accepts query e).reply emptyMemory = .ok b) ∧
      found = c.entries.filter (s.isMatch query) := by
  have hreturns := Listing.exists_reply_of_searchFrom
    (fun e _ => Listing.asks_alike (accepts_alike hs (some e.ref) query)) (recalls_emptyMemory c)
    (by simpa using hlimit) hm hfound
  have hreply := hs.search_reply hreturns hlimit hm
  rw [hfound] at hreply
  exact ⟨hreturns, Except.ok.inj hreply⟩

/-- An entry is judged like the last entry with its id, alone in a catalog with the same labels and
sets, be the reply a value or a fault. So a search that returns lists the entry exactly when the same
search finds that last one alone. -/
theorem search_alone (hread : Catalog.read data = .valid c)
    (h : ofCatalog c chosen fallback = .ok s₀) {e : Entry} (he : e ∈ c.entries)
    (query : Option Text) (history : List Action) :
    ∃ last s₁, c.byId? e.id = some last ∧ ofCatalog (c.alone last) chosen fallback = .ok s₁ ∧
      ∀ history',
        (s₀.engine.accepts (some e.ref) query).reply (s₀.after history).memory =
          (s₁.engine.accepts (some last.ref) query).reply (s₁.after history').memory ∧
        ∀ limit found, (c.entries.length : Int) < limit →
          (Listing.search s₀.engine.accepts c query limit).reply (s₀.after history).memory = .ok found →
          ∃ found', (Listing.search s₁.engine.accepts (c.alone last) query limit).reply
              (s₁.after history').memory = .ok found' ∧ (e ∈ found ↔ last ∈ found') := by
  obtain ⟨last, hlast⟩ := Catalog.exists_byId? he
  obtain ⟨s₁, hs₁, halike⟩ := accepts_alone hread h he hlast
  have hsound := ofCatalog_sound h
  have hsound₁ := ofCatalog_sound hs₁
  have hm := (hsound.after history).recalls
  refine ⟨last, s₁, hlast, hs₁, fun history' => ?_⟩
  have hm₁ := (hsound₁.after history').recalls
  obtain ⟨haccepts, hasks⟩ := halike query
  refine ⟨haccepts.reply_eq ⟨hm, hm₁⟩, fun limit found hlimit hfound => ?_⟩
  obtain ⟨hreturns, rfl⟩ := hsound.search_returns hlimit hm hfound
  have hsame : (Listing.asks s₀.engine.accepts query e).reply emptyMemory =
      (Listing.asks s₁.engine.accepts query last).reply emptyMemory :=
    hasks.reply_eq ⟨recalls_emptyMemory c, recalls_emptyMemory (c.alone last)⟩
  have hreturns₁ : ∀ e' ∈ (c.alone last).entries, ∃ b,
      (Listing.asks s₁.engine.accepts query e').reply emptyMemory = .ok b := by
    intro e' he'
    obtain rfl : e' = last := List.mem_singleton.mp he'
    rw [← hsame]
    exact hreturns e he
  have hmatch : s₁.isMatch query last = s₀.isMatch query e := by
    unfold isMatch
    rw [hsame]
  have hlimit₁ : ((c.alone last).entries.length : Int) < limit := by
    have hpos : 0 < c.entries.length := List.length_pos_of_mem he
    have hone : (c.alone last).entries.length = 1 := rfl
    omega
  refine ⟨_, hsound₁.search_reply hreturns₁ hlimit₁ hm₁, ?_⟩
  rw [List.mem_filter, List.mem_filter, hmatch]
  exact and_congr_left fun _ => iff_of_true he (List.mem_singleton_self last)

/-- Of two entries with one id both are found by the name of the last. -/
theorem search_alone_twoSevens :
    let query := some "n:beta".toList
    Catalog.read Catalog.twoSevensJson = .valid .twoSevens ∧
    ∃ s₀, ofCatalog .twoSevens none "equipment".toList = .ok s₀ ∧
      (Listing.search s₀.engine.accepts .twoSevens query 10).reply (s₀.after []).memory =
        .ok [.named 7 "Alpha", .named 7 "Beta"] ∧
      ∃ last s₁, Catalog.twoSevens.byId? 7 = some last ∧
        ofCatalog (Catalog.twoSevens.alone last) none "equipment".toList = .ok s₁ ∧
        (s₀.engine.accepts (some (Entry.named 7 "Alpha").ref) query).reply (s₀.after []).memory =
          (s₁.engine.accepts (some last.ref) query).reply (s₁.after []).memory ∧
        ∃ found', (Listing.search s₁.engine.accepts (Catalog.twoSevens.alone last) query 10).reply
            (s₁.after []).memory = .ok found' ∧
          (.named 7 "Alpha" ∈ [Entry.named 7 "Alpha", .named 7 "Beta"] ↔ last ∈ found') := by
  intro query
  have h : ofCatalog .twoSevens none "equipment".toList = .ok _ := rfl
  have hlimit : (Catalog.twoSevens.entries.length : Int) < 10 := by decide
  have he : Entry.named 7 "Alpha" ∈ Catalog.twoSevens.entries := by decide
  obtain ⟨last, s₁, hlast, hs₁, halone⟩ := search_alone Catalog.read_twoSevensJson h he query []
  refine ⟨Catalog.read_twoSevensJson, _, h, ?found, last, s₁, hlast, hs₁, (halone []).1,
    (halone []).2 10 _ hlimit ?found⟩
  rfl

/-- The first of two entries with one id is not found by its own name, by which it would be found
alone. -/
theorem search_twoSevens :
    let query := some "n:alpha".toList
    let alone := Catalog.twoSevens.alone (.named 7 "Alpha")
    Catalog.read Catalog.twoSevensJson = .valid .twoSevens ∧
    .named 7 "Alpha" ∈ Catalog.twoSevens.entries ∧
    ∃ s₀ s₁, ofCatalog .twoSevens none "equipment".toList = .ok s₀ ∧
      ofCatalog alone none "equipment".toList = .ok s₁ ∧
      (Listing.search s₀.engine.accepts .twoSevens query 10).reply s₀.memory = .ok [] ∧
      (Listing.search s₁.engine.accepts alone query 10).reply s₁.memory = .ok [.named 7 "Alpha"] := by
  intro query alone
  exact ⟨Catalog.read_twoSevensJson, by decide, _, _, rfl, rfl, rfl, rfl⟩

end Session

end ItemQuery
