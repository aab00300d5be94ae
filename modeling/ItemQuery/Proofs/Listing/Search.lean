import ItemQuery.Proofs.Listing.Text
import ItemQuery.Proofs.Query.Trace
import ItemQuery.Proofs.Session.Actions

/-!
Searches over a catalog. Where the answer about each entry is settled whatever is remembered, a
search finds the entries with the answer "yes", in order and up to the limit, and asks about no entry
after the one that fills it (`Listing.search_few`, `Listing.search_full`). Over a catalog the answers
are settled, so that a result list tells exactly what there is to find (`Session.run_reply`).
-/

namespace ItemQuery

open Search (Alike Settles)

variable {σ : Type}

namespace Listing

/-! ## Asking about entries -/

/-- The same question; each time that it is asked, the item that it is about is noted. -/
def noted (accepts : Question σ) : Question (σ × List (Option Text)) := fun item query =>
  .noting item (accepts item query)

/-- The references of which a result list asks whether they are accepted, in order. -/
def asked (accepts : Question σ) (c : Catalog) (query : Option Text) (limit : Int) (s : σ) :
    List (Option Text) :=
  (Registry.finalState (run (noted accepts) c query limit (s, []))).2

def refs (entries : List Entry) : List (Option Text) := entries.map fun e => some e.ref

variable {accepts : Question σ} {query : Option Text} {isMatch : Entry → Bool} {P : σ → Prop}

theorem noted_forget (accepts : Question σ) (item query : Option Text) :
    Alike (fun (s : σ) (t : σ × List (Option Text)) => s = t.1) (accepts item query)
      (noted accepts item query) :=
  Search.noting_forget item _

/-- A result list is the same where the questions are noted. -/
theorem run_noted (accepts : Question σ) (c : Catalog) (query : Option Text) (limit : Int)
    (t : σ × List (Option Text)) :
    (run (noted accepts) c query limit).reply t = (run accepts c query limit).reply t.1 := by
  have halike : Alike (fun (s : σ) (t : σ × List (Option Text)) => s = t.1)
      (run accepts c query limit) (run (noted accepts) c query limit) :=
    run_alike (fun e _ => noted_forget accepts (some e.ref) query) limit
  exact (halike.reply_eq rfl).symm

theorem asks_noted {e : Entry} (h : Settles P (asks accepts query e) (isMatch e))
    {t : σ × List (Option Text)} (ht : P t.1) :
    ∃ t', P t'.1 ∧ t'.2 = t.2 ++ refs [e] ∧
      asks (noted accepts) query e t = .ok (isMatch e) t' := by
  obtain ⟨s, hs, hrun⟩ := h t.1 ht
  unfold asks at hrun ⊢
  cases href : e.ref? with
  | error fault =>
    rw [href] at hrun
    cases hrun
  | ok ref =>
    obtain rfl := Entry.ref_of_ref? href
    rw [href] at hrun
    have haccepts : accepts (some e.ref) query t.1 = .ok (isMatch e) s := hrun
    refine ⟨(s, t.2 ++ refs [e]), hs, rfl, ?_⟩
    show Search.noting (some e.ref) (accepts (some e.ref) query) t = _
    simp only [Search.noting, haccepts]
    rfl

/-- One step of a search: an entry is asked about and kept if it matches. -/
theorem searchFrom_cons {e : Entry} (h : Settles P (asks accepts query e) (isMatch e))
    {t : σ × List (Option Text)} (ht : P t.1) (limit : Int) (found rest : List Entry) :
    ∃ t', P t'.1 ∧ t'.2 = t.2 ++ refs [e] ∧
      searchFrom (asks (noted accepts) query) limit found (e :: rest) t =
        (if isMatch e then
          if limit ≤ (found ++ [e]).length then pure (found ++ [e])
          else searchFrom (asks (noted accepts) query) limit (found ++ [e]) rest
        else searchFrom (asks (noted accepts) query) limit found rest :
          Search (σ × List (Option Text)) (List Entry)) t' := by
  obtain ⟨t', ht', hlog, hrun⟩ := asks_noted h ht
  exact ⟨t', ht', hlog, Search.bind_of_ok hrun _⟩

/-- As long as the matches do not fill the limit, a search goes on with the rest: what has been passed
is noted, and its matches stand behind those that were found before. -/
theorem searchFrom_append {before : List Entry}
    (h : ∀ e ∈ before, Settles P (asks accepts query e) (isMatch e)) (limit : Int)
    (found rest : List Entry) (hfew : found.length + (before.filter isMatch).length < limit)
    {t : σ × List (Option Text)} (ht : P t.1) :
    ∃ t', P t'.1 ∧ t'.2 = t.2 ++ refs before ∧
      searchFrom (asks (noted accepts) query) limit found (before ++ rest) t =
        searchFrom (asks (noted accepts) query) limit (found ++ before.filter isMatch) rest t' := by
  induction before generalizing found t with
  | nil => exact ⟨t, ht, by simp [refs], by simp⟩
  | cons e before ih =>
    obtain ⟨he, hbefore⟩ := List.forall_mem_cons.mp h
    obtain ⟨t₁, ht₁, hlog₁, hrun₁⟩ := searchFrom_cons he ht limit found (before ++ rest)
    rw [List.cons_append, hrun₁]
    by_cases hmatch : isMatch e = true
    · rw [List.filter_cons_of_pos hmatch, List.length_cons] at hfew
      have hlength : (found ++ [e]).length = found.length + 1 := by simp
      obtain ⟨t₂, ht₂, hlog₂, hrun₂⟩ := ih hbefore (found ++ [e]) (by omega) ht₁
      refine ⟨t₂, ht₂, by simp [hlog₂, hlog₁, refs], ?_⟩
      rw [if_pos hmatch, if_neg (by omega), hrun₂, List.filter_cons_of_pos hmatch,
        List.append_assoc, List.singleton_append]
    · rw [List.filter_cons_of_neg hmatch] at hfew
      obtain ⟨t₂, ht₂, hlog₂, hrun₂⟩ := ih hbefore found hfew ht₁
      refine ⟨t₂, ht₂, by simp [hlog₂, hlog₁, refs], ?_⟩
      rw [if_neg hmatch, hrun₂, List.filter_cons_of_neg hmatch]

/-! ## Whole searches -/

/-- What a search that returns did with its first entry: it passed over it, ended with it or kept it and
went on. -/
theorem searchFrom_cons_returns {ask : Entry → Search σ Bool} {limit : Int} {e : Entry}
    {found found' rest : List Entry} {s : σ}
    (h : (searchFrom ask limit found (e :: rest)).reply s = .ok found') :
    (∃ s', ask e s = .ok false s' ∧ (searchFrom ask limit found rest).reply s' = .ok found') ∨
      ∃ s', ask e s = .ok true s' ∧
        (limit ≤ found.length + 1 ∧ found' = found ++ [e] ∨
          ¬limit ≤ found.length + 1 ∧
            (searchFrom ask limit (found ++ [e]) rest).reply s' = .ok found') := by
  obtain ⟨accepted, s', haccepted, hrest⟩ := Search.bind_reply_eq_ok h
  have hlength : ((found ++ [e]).length : Int) = found.length + 1 := by simp
  cases accepted with
  | false => exact .inl ⟨s', haccepted, hrest⟩
  | true =>
    refine .inr ⟨s', haccepted, ?_⟩
    by_cases hreached : limit ≤ ((found ++ [e]).length : Int)
    · simp only [↓reduceIte, if_pos hreached] at hrest
      exact .inl ⟨hlength ▸ hreached, (Except.ok.inj hrest).symm⟩
    · simp only [↓reduceIte, if_neg hreached] at hrest
      exact .inr ⟨hlength ▸ hreached, hrest⟩

/-- Whatever its limit, a search over entries with settled answers returns. -/
theorem searchFrom_returns {ask : Entry → Search σ Bool} {entries : List Entry}
    (h : ∀ e ∈ entries, Settles P (ask e) (isMatch e)) (limit : Int)
    (found : List Entry) {s : σ} (hs : P s) :
    ∃ found' s', P s' ∧ searchFrom ask limit found entries s = .ok found' s' := by
  induction entries generalizing found s with
  | nil => exact ⟨found, s, hs, rfl⟩
  | cons e entries ih =>
    obtain ⟨he, hentries⟩ := List.forall_mem_cons.mp h
    obtain ⟨s₁, hs₁, hrun⟩ := he s hs
    unfold searchFrom
    rw [Search.bind_of_ok hrun]
    cases isMatch e with
    | false => exact ih hentries found hs₁
    | true =>
      by_cases hreached : limit ≤ ((found ++ [e]).length : Int)
      · exact ⟨found ++ [e], s₁, hs₁, by simp only [↓reduceIte, if_pos hreached]; rfl⟩
      · simp only [↓reduceIte, if_neg hreached]
        exact ih hentries (found ++ [e]) hs₁

variable {c : Catalog} {limit : Int}

/-- A search finds certain entries and asks about certain ones, from every state with a property, which
it keeps. -/
def Finds (P : σ → Prop) (accepts : Question σ) (c : Catalog) (query : Option Text) (limit : Int)
    (found visited : List Entry) : Prop :=
  ∀ t : σ × List (Option Text), P t.1 → ∃ t', P t'.1 ∧ t'.2 = t.2 ++ refs visited ∧
    search (noted accepts) c query limit t = .ok found t'

/-- With fewer matches than the limit, all entries are asked about and all matches are found. -/
theorem search_few (h : ∀ e ∈ c.entries, Settles P (asks accepts query e) (isMatch e))
    (hfew : (c.entries.filter isMatch).length < limit) :
    Finds P accepts c query limit (c.entries.filter isMatch) c.entries := by
  intro t ht
  obtain ⟨t', ht', hlog, hrun⟩ := searchFrom_append h limit [] [] (by simpa using hfew) ht
  rw [List.append_nil, List.nil_append] at hrun
  exact ⟨t', ht', hlog, hrun⟩

/-- The match that fills the limit is the last entry that is asked about. -/
theorem search_full {before after : List Entry} {e : Entry}
    (hsplit : c.entries = before ++ e :: after)
    (h : ∀ e ∈ c.entries, Settles P (asks accepts query e) (isMatch e)) (he : isMatch e = true)
    (hfull : (before.filter isMatch).length + 1 = limit) :
    Finds P accepts c query limit ((before ++ [e]).filter isMatch) (before ++ [e]) := by
  intro t ht
  have hbefore : ∀ e ∈ before, Settles P (asks accepts query e) (isMatch e) := fun e he =>
    h e (by simp [hsplit, he])
  obtain ⟨t₁, ht₁, hlog₁, hrun₁⟩ := searchFrom_append hbefore limit [] (e :: after)
    (by simp only [List.length_nil]; omega) ht
  obtain ⟨t₂, ht₂, hlog₂, hrun₂⟩ := searchFrom_cons (h e (by simp [hsplit])) ht₁ limit
    (before.filter isMatch) after
  have hreached : limit ≤ ((before.filter isMatch ++ [e]).length : Int) := by
    simp only [List.length_append, List.length_singleton]
    omega
  refine ⟨t₂, ht₂, by simp [hlog₂, hlog₁, refs], ?_⟩
  unfold search
  rw [hsplit, hrun₁, List.nil_append, hrun₂, if_pos he, if_pos hreached, List.filter_append,
    List.filter_cons_of_pos he, List.filter_nil]
  rfl

/-- The entry at which a search reaches a number of matches, when there are more of them. -/
theorem exists_split_of_lt (isMatch : Entry → Bool) (entries : List Entry) (n : Nat)
    (h : n < (entries.filter isMatch).length) :
    ∃ before e after, entries = before ++ e :: after ∧ isMatch e = true ∧
      before.filter isMatch = (entries.filter isMatch).take n := by
  have hsplit : entries.filter isMatch =
      (entries.filter isMatch).take n ++ (entries.filter isMatch).drop n :=
    (List.take_append_drop n _).symm
  rw [List.drop_eq_getElem_cons h] at hsplit
  obtain ⟨before, rest, hentries, hbefore, hrest⟩ := List.filter_eq_append_iff.mp hsplit
  obtain ⟨skipped, after, hafter, hskipped, he, -⟩ := List.filter_eq_cons_iff.mp hrest
  refine ⟨before ++ skipped, _, after, ?_, he, ?_⟩
  · rw [List.append_assoc, ← hafter]
    exact hentries
  · rw [List.filter_append, hbefore, List.filter_eq_nil_iff.mpr hskipped, List.append_nil]

/-- Of the matches a search finds as many as its limit lets it. -/
theorem exists_finds (h : ∀ e ∈ c.entries, Settles P (asks accepts query e) (isMatch e))
    (hlimit : 1 ≤ limit) :
    ∃ visited, Finds P accepts c query limit ((c.entries.filter isMatch).take limit.toNat)
      visited := by
  by_cases hfew : (c.entries.filter isMatch).length < limit
  · rw [List.take_of_length_le (by omega)]
    exact ⟨c.entries, search_few h hfew⟩
  · obtain ⟨before, e, after, hsplit, he, hbefore⟩ :=
      exists_split_of_lt isMatch c.entries (limit.toNat - 1) (by omega)
    have hlength : (before.filter isMatch).length = limit.toNat - 1 := by
      rw [hbefore, List.length_take]
      omega
    have hfound : (c.entries.filter isMatch).take limit.toNat = (before ++ [e]).filter isMatch := by
      rw [hsplit, List.append_cons, List.filter_append]
      refine List.take_left' ?_
      rw [List.filter_append, List.length_append, hlength, List.filter_cons_of_pos he,
        List.filter_nil, List.length_singleton]
      omega
    rw [hfound]
    exact ⟨_, search_full hsplit h he (by omega)⟩

section Finds

variable {found visited : List Entry}

/-- The notes make no difference to what is found. -/
theorem Finds.settles (h : Finds P accepts c query limit found visited) :
    Settles P (search accepts c query limit) found := by
  intro s hs
  obtain ⟨t', ht', -, hrun⟩ := h (s, []) hs
  have halike : Alike (fun (s : σ) (t : σ × List (Option Text)) => s = t.1)
      (search accepts c query limit) (search (noted accepts) c query limit) :=
    search_alike (fun e _ => noted_forget accepts (some e.ref) query) limit
  have hout := halike s (s, []) rfl
  rw [hrun] at hout
  generalize search accepts c query limit s = u at hout
  cases hout with
  | ok hsame => exact ⟨_, hsame ▸ ht', rfl⟩

/-- A search for one entry more than the limit decides on what is shown, and nothing is asked after
it. -/
theorem run_of_search {s s' : σ} (h : search accepts c query (limit + 1) s = .ok found s') :
    (run accepts c query limit).reply s = shown c found limit ∧
      Registry.finalState (run accepts c query limit s) = s' := by
  have hrun : run accepts c query limit s = Search.ofExcept (shown c found limit) s' :=
    Search.bind_of_ok h _
  unfold Search.reply
  rw [hrun]
  cases shown c found limit with
  | error fault => exact ⟨rfl, rfl⟩
  | ok t => exact ⟨rfl, rfl⟩

theorem Finds.reply_run (h : Finds P accepts c query (limit + 1) found visited) {s : σ} (hs : P s) :
    (run accepts c query limit).reply s = shown c found limit := by
  obtain ⟨s', -, hsearch⟩ := h.settles s hs
  exact (run_of_search hsearch).1

theorem Finds.asked_eq (h : Finds P accepts c query (limit + 1) found visited) {s : σ} (hs : P s) :
    asked accepts c query limit s = refs visited := by
  obtain ⟨t', -, hlog, hsearch⟩ := h (s, []) hs
  rw [asked, (run_of_search hsearch).2, hlog, List.nil_append]

end Finds

end Listing

/-! ## Result lists of an engine -/

namespace Session

variable {c : Catalog} {chosen : Option Text} {fallback : Text} {s₀ : Session}

/-- Whether an entry answers to a query when nothing is remembered. -/
def isMatch (s : Session) (query : Option Text) (e : Entry) : Bool :=
  match (Listing.asks s.engine.accepts query e).reply emptyMemory with
  | .ok accepted => accepted
  | .error _ => false

theorem recalls_emptyMemory (c : Catalog) : c.Recalls emptyMemory := c.recalls_nil _

/-- An entry about which a query raises nothing has one answer, whatever facts are remembered. -/
theorem Sound.asks_settles {s : Session} (hs : s.Sound c) (query : Option Text) {e : Entry}
    (he : ∃ b, (Listing.asks s.engine.accepts query e).reply emptyMemory = .ok b) :
    Settles c.Recalls (Listing.asks s.engine.accepts query e) (s.isMatch query e) := by
  obtain ⟨b, hb⟩ := he
  have hmatch : s.isMatch query e = b := by
    unfold isMatch
    rw [hb]
  rw [hmatch]
  exact Alike.settles (Listing.asks_alike (accepts_alike hs (some e.ref) query))
    (recalls_emptyMemory c) hb

/-- The result list of a query that raises nothing about any entry, for a limit of at least one. It
names exactly the first matches in catalog order, line by line, counts them, and carries a note where
there are more; it fails exactly where a number that it would show has too many digits, which is in no
catalog that comes as text. A list that notes the entries that it asks about is the same list: all of
them when the limit is not passed, and else none after the first match beyond it. What was asked
before has no part in the answer about an entry. -/
theorem run_reply (h : ofCatalog c chosen fallback = .ok s₀) (history : List Action)
    (query : Option Text) {limit : Int} (hlimit : 1 ≤ limit)
    (hreturns : ∀ e ∈ c.entries, ∃ b,
      (Listing.asks s₀.engine.accepts query e).reply emptyMemory = .ok b) :
    let found := c.entries.filter (s₀.isMatch query)
    let m := (s₀.after history).memory
    let reply := (Listing.run s₀.engine.accepts c query limit).reply m
    (Listing.IsWritable found limit →
      ∃ lines, Listing.Lines c.qualityLabels (found.take limit.toNat) lines ∧ reply = .ok (
        if found = [] then "No results found.".toList
        else Text.join ['\n'] (
          (natText (min limit.toNat found.length) ++ " result(s)".toList) ::
          (if limit < found.length
            then ["Note: Showing the first ".toList ++ intText limit ++ " matches.".toList]
            else []) ++
          [] :: lines))) ∧
    (¬Listing.IsWritable found limit → reply = .error .tooManyDigits) ∧
    (∀ t, Catalog.parse t = .valid c → ∀ e ∈ c.entries, e.isWritable = true) ∧
    (Listing.run (Listing.noted s₀.engine.accepts) c query limit).reply (m, []) = reply ∧
    (found.length ≤ limit →
      Listing.asked s₀.engine.accepts c query limit m = Listing.refs c.entries) ∧
    (∀ before e after, c.entries = before ++ e :: after → s₀.isMatch query e = true →
      (before.filter (s₀.isMatch query)).length = limit →
      Listing.asked s₀.engine.accepts c query limit m = Listing.refs (before ++ [e])) ∧
    ∀ before e after, c.entries = before ++ e :: after → ∀ earlier : Int,
      (do
        let _ ← Listing.search s₀.engine.accepts { c with entries := before } query earlier
        Listing.asks s₀.engine.accepts query e).reply m =
      (Listing.asks s₀.engine.accepts query e).reply emptyMemory := by
  intro found m reply
  have hsound := ofCatalog_sound h
  have hm : c.Recalls m := (hsound.after history).recalls
  have hempty : c.Recalls emptyMemory := recalls_emptyMemory c
  have hsettles : ∀ e ∈ c.entries, Settles c.Recalls
      (Listing.asks s₀.engine.accepts query e) (s₀.isMatch query e) :=
    fun e he => hsound.asks_settles query (hreturns e he)
  have hreply : reply = Listing.shown c (found.take (limit + 1).toNat) limit := by
    have hpositive : 1 ≤ limit + 1 := by omega
    obtain ⟨visited, hfinds⟩ := Listing.exists_finds hsettles hpositive
    exact hfinds.reply_run hm
  refine ⟨fun hwritable => ?text, fun hlong => ?fault, fun t => Catalog.isWritable_of_parse,
    Listing.run_noted _ c query limit (m, []), ?few, ?full, ?alone⟩
  case text =>
    obtain ⟨lines, hlines⟩ := Listing.exists_lines c.qualityLabels hwritable.listed
    exact ⟨lines, hlines, hreply.trans (Listing.shown_of_isWritable c hlimit hwritable hlines)⟩
  case fault => exact hreply.trans (Listing.shown_of_not_isWritable c (by omega) hlong)
  case few =>
    intro hfew
    exact (Listing.search_few hsettles (Int.lt_add_one_of_le hfew)).asked_eq hm
  case full =>
    intro before e after hsplit he hfull
    exact (Listing.search_full hsplit hsettles he (by omega)).asked_eq hm
  case alone =>
    intro before e after hsplit earlier
    have hbefore : ∀ e ∈ before, e ∈ c.entries := fun _ he => by simp [hsplit, he]
    obtain ⟨found, m', hm', hrun⟩ := Listing.searchFrom_returns
      (fun e he => hsettles e (hbefore e he)) earlier [] hm
    have hearlier : (do
        let _ ← Listing.search s₀.engine.accepts { c with entries := before } query earlier
        Listing.asks s₀.engine.accepts query e) m =
          Listing.asks s₀.engine.accepts query e m' :=
      Search.bind_of_ok hrun _
    have hlater := (hsettles e (by simp [hsplit])).reply_eq hm'
    have hfresh := (hsettles e (by simp [hsplit])).reply_eq hempty
    rw [hfresh, ← hlater]
    unfold Search.reply
    rw [hearlier]

/-- Two of four rings are shown, and the fourth, after the match beyond the limit, is not asked about. -/
theorem run_reply_rings :
    let c : Catalog := .ofEntries [.named 1 "Iron Ring", .named 2 "Cloak", .named 3 "Gold Ring",
      .named 4 "Silver Ring", .named 5 "Bronze Ring"]
    let history := [Action.accepts (some "item:5".toList) (some "boe".toList)]
    let query := some "RING & !boe".toList
    ∃ s₀, ofCatalog c none "equipment".toList = .ok s₀ ∧
      (∀ e ∈ c.entries, ∃ b,
        (Listing.asks s₀.engine.accepts query e).reply emptyMemory = .ok b) ∧
      (Listing.run s₀.engine.accepts c query 2).reply (s₀.after history).memory =
        .ok ("2 result(s)\nNote: Showing the first 2 matches.\n\n" ++
          "[1] Iron Ring\n[3] Gold Ring").toList ∧
      Listing.asked s₀.engine.accepts c query 2 (s₀.after history).memory = Listing.refs
        [.named 1 "Iron Ring", .named 2 "Cloak", .named 3 "Gold Ring", .named 4 "Silver Ring"] := by
  intro c history query
  have h : ofCatalog c none "equipment".toList = .ok _ := rfl
  have hlimit : (1 : Int) ≤ 2 := by decide
  refine ⟨_, h, ?returns, ?text, (run_reply h history query hlimit ?returns).2.2.2.2.2.1
    [.named 1 "Iron Ring", .named 2 "Cloak", .named 3 "Gold Ring"] _ _ rfl ?fourth ?count⟩
  case fourth => rfl
  case count => rfl
  case text =>
    obtain ⟨lines, hlines, hreply⟩ := (run_reply h history query hlimit ?returns).1
      ⟨by decide +kernel, fun _ => by decide⟩
    have hshown : ["[1] Iron Ring".toList, "[3] Gold Ring".toList] = lines :=
      Except.ok.inj (Except.mapM_eq_ok_iff.mpr hlines)
    rw [← hshown] at hreply
    exact hreply.trans (by decide +kernel)
  case returns =>
    intro e he
    have hcases : e = .named 1 "Iron Ring" ∨ e = .named 2 "Cloak" ∨ e = .named 3 "Gold Ring" ∨
        e = .named 4 "Silver Ring" ∨ e = .named 5 "Bronze Ring" := by
      simpa [c, Catalog.ofEntries] using he
    rcases hcases with rfl | rfl | rfl | rfl | rfl
    · exact ⟨true, rfl⟩
    · exact ⟨false, rfl⟩
    · exact ⟨true, rfl⟩
    · exact ⟨true, rfl⟩
    · exact ⟨true, rfl⟩

end Session

end ItemQuery
