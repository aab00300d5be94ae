import ItemQuery.Listing
import ItemQuery.Proofs.Attribute.Alike
import ItemQuery.Proofs.Item.Ref

/-!
What is asked of an engine is answered alike wherever its registry answers alike, and so are the
searches over a catalog.
-/

namespace ItemQuery

open Search (SameReply IgnoresWorld)

variable {ω ω' : Type} {R : Memory ω → Memory ω' → Prop} {e : Engine ω} {e' : Engine ω'}
  {item item' : Text}

/-! ## Answers of an engine -/

theorem Engine.accepts_alike (h : e.registry.Alike R item item' e'.registry)
    (query : Option Text) :
    Search.Alike R (e.accepts (some item) query) (e'.accepts (some item') query) := by
  cases query with
  | none => exact .pure true
  | some query => exact h.evaluate query

theorem Engine.inSet_alike {c c' : Catalog} (h : c.SameItem c' item item') (hR : IgnoresWorld R)
    (hsource : e.source = c.source) (hsource' : e'.source = c'.source) (hsets : e.sets = e'.sets)
    (search : Option Text) :
    Search.Alike R (e.inSet (some item) search) (e'.inSet (some item') search) := by
  simp only [Engine.inSet, hsource, hsource', hsets]
  exact .ofWorld hR (Attribute.inSet_sameReply h.itemId h.isEquippable_sameReply _ _)

namespace Listing

/-! ## Searches over a catalog -/

variable {σ σ' : Type} {S : σ → σ' → Prop}

theorem searchFrom_alike {accepts : Entry → Search σ Bool} {accepts' : Entry → Search σ' Bool}
    (limit : Int) {entries : List Entry}
    (h : ∀ entry ∈ entries, Search.Alike S (accepts entry) (accepts' entry)) (found : List Entry) :
    Search.Alike S (searchFrom accepts limit found entries)
      (searchFrom accepts' limit found entries) := by
  induction entries generalizing found with
  | nil => exact .pure found
  | cons entry entries ih =>
    obtain ⟨hentry, hentries⟩ := List.forall_mem_cons.mp h
    refine .bind hentry fun accepted => .ite ?_ (ih hentries found)
    by_cases hlimit : limit ≤ (found ++ [entry]).length
    · simp only [hlimit, ↓reduceIte]
      exact .pure _
    · simp only [hlimit, ↓reduceIte]
      exact ih hentries _

variable {c : Catalog} {accepts : Question σ} {accepts' : Question σ'} {query : Option Text}

theorem asks_of_isReadable {entry : Entry} (h : isReadable entry.id = true) :
    asks accepts query entry = accepts (some entry.ref) query := by
  rw [asks, Entry.ref?_of_isReadable h]
  rfl

theorem asks_alike {entry : Entry}
    (h : Search.Alike S (accepts (some entry.ref) query) (accepts' (some entry.ref) query)) :
    Search.Alike S (asks accepts query entry) (asks accepts' query entry) := by
  unfold asks
  cases href : entry.ref? with
  | error fault => exact .throw fault
  | ok ref => exact Entry.ref_of_ref? href ▸ h

/-- Entries of one id either both have a link to be asked about by, or neither has. -/
theorem asks_alike_of_id {entry entry' : Entry} (hlink : entry.linkDefect? = none)
    (hlink' : entry'.linkDefect? = none) (hid : entry.id = entry'.id)
    (h : Search.Alike S (accepts (some entry.ref) query) (accepts' (some entry'.ref) query)) :
    Search.Alike S (asks accepts query entry) (asks accepts' query entry') := by
  rw [asks, asks, Entry.ref?_of_linkDefect? hlink, Entry.ref?_of_linkDefect? hlink', hid]
  split
  · exact h
  · exact .throw _

theorem search_alike
    (h : ∀ entry ∈ c.entries,
      Search.Alike S (accepts (some entry.ref) query) (accepts' (some entry.ref) query))
    (limit : Int) :
    Search.Alike S (search accepts c query limit) (search accepts' c query limit) :=
  searchFrom_alike limit (fun entry hentry => asks_alike (h entry hentry)) []

theorem run_alike
    (h : ∀ entry ∈ c.entries,
      Search.Alike S (accepts (some entry.ref) query) (accepts' (some entry.ref) query))
    (limit : Int) :
    Search.Alike S (run accepts c query limit) (run accepts' c query limit) :=
  .bind (search_alike h (limit + 1)) fun _ => .ofExcept _

theorem checkSet_alike
    (h : ∀ ref search, Search.Alike R (e.inSet (some ref) (some search))
      (e'.inSet (some ref) (some search))) (item search : Text) :
    Search.Alike R (checkSet e c item search) (checkSet e' c item search) := by
  refine .bind (.ofExcept (c.find item)) fun entry? => ?_
  cases entry? with
  | none => exact .pure _
  | some entry =>
    have htitled (t : Text → Text) : Search.Alike R
        (do return t (← .ofExcept entry.title) : Search (Memory ω) Text)
        (do return t (← .ofExcept entry.title) : Search (Memory ω') Text) :=
      .bind (.ofExcept entry.title) fun title => .pure _
    exact .bind (.ofExcept entry.ref?) fun ref =>
      .bind (.ofExcept (c.isEquippable ref)) fun equippable =>
        .ite (.bind (h ref search) fun found => .ite (htitled _) (htitled _)) (htitled _)

end Listing

end ItemQuery
