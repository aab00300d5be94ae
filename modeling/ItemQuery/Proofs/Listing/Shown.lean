import ItemQuery.Proofs.Listing.Search
import ItemQuery.Proofs.Number.Integer

/-!
When a result list says that there are no results. A search finds nothing exactly when it accepts no
entry, but what it finds is shown up to the limit only, and a limit below one shows nothing: the list
is then worded as if there were no match (`run_eq_noResults_iff`).
-/

namespace ItemQuery.Listing

open Search (Alike Settles)

variable {σ : Type}

/-! ## What a search finds -/

section Found

variable {ask : Entry → Search σ Bool} {limit : Int} {entries found found' : List Entry} {m : σ}

/-- A search adds entries to what was found before, and goes beyond its limit by the first match
alone. -/
theorem searchFrom_extends (hrun : (searchFrom ask limit found entries).reply m = .ok found') :
    ∃ more, found' = found ++ more ∧ more.Sublist entries ∧
      (found'.length : Int) ≤ max limit (found.length + 1) := by
  induction entries generalizing found m with
  | nil =>
    obtain rfl : found = found' := Except.ok.inj hrun
    exact ⟨[], (List.append_nil found).symm, .slnil, by omega⟩
  | cons e entries ih =>
    have hone : (found ++ [e]).length = found.length + 1 := by simp
    rcases searchFrom_cons_returns hrun with
      ⟨m', -, hrest⟩ | ⟨m', -, ⟨hreached, rfl⟩ | ⟨hreached, hrest⟩⟩
    · obtain ⟨more, hfound, hmore, hlength⟩ := ih hrest
      exact ⟨more, hfound, hmore.cons e, hlength⟩
    · exact ⟨[e], rfl, List.singleton_sublist.mpr List.mem_cons_self, by omega⟩
    · obtain ⟨more, rfl, hmore, hlength⟩ := ih hrest
      have hassoc : found ++ [e] ++ more = found ++ e :: more := by simp
      exact ⟨e :: more, hassoc, hmore.cons_cons e, by omega⟩

/-- A search that returns comes back with nothing exactly when no entry is accepted, whatever its
limit. -/
theorem searchFrom_eq_nil_iff {P : σ → Prop} {m₀ : σ}
    (h : ∀ e ∈ entries, Alike (fun m m' => P m ∧ P m') (ask e) (ask e)) (h₀ : P m₀)
    (hm : P m) (hrun : (searchFrom ask limit [] entries).reply m = .ok found') :
    found' = [] ↔ ∀ e ∈ entries, (ask e).reply m₀ ≠ .ok true := by
  induction entries generalizing m with
  | nil =>
    obtain rfl : [] = found' := Except.ok.inj hrun
    simp
  | cons e entries ih =>
    obtain ⟨he, hentries⟩ := List.forall_mem_cons.mp h
    rw [List.forall_mem_cons]
    rcases searchFrom_cons_returns hrun with ⟨m', hask, hrest⟩ | ⟨m', hask, hfound⟩
    · obtain ⟨hm', hreply⟩ := he.of_run hm h₀ hask
      rw [ih hentries hm' hrest, hreply]
      simp
    · obtain ⟨-, hreply⟩ := he.of_run hm h₀ hask
      have hkept : ∃ more, found' = [e] ++ more := by
        rcases hfound with ⟨-, rfl⟩ | ⟨-, hrest⟩
        · exact ⟨[], rfl⟩
        · obtain ⟨more, hmore, -⟩ := searchFrom_extends hrest
          exact ⟨more, hmore⟩
      obtain ⟨more, rfl⟩ := hkept
      rw [hreply]
      simp

end Found

/-! ## What is shown of it -/

/-- Of what a search for one entry more than the limit finds, nothing is shown when the limit is below
one. -/
theorem shown_eq_nil_iff {α : Type} {limit : Int} {found : List α}
    (h : (found.length : Int) ≤ max (limit + 1) 1) :
    (if limit < found.length then firstOf limit found else found) = [] ↔
      limit ≤ 0 ∨ found = [] := by
  rw [← List.length_eq_zero_iff (l := found)]
  split
  · unfold firstOf
    split
    · rw [List.take_eq_nil_iff, ← List.length_eq_zero_iff]
      omega
    · rw [List.take_eq_nil_iff, ← List.length_eq_zero_iff]
      omega
  · rw [← List.length_eq_zero_iff]
    omega

theorem entries_eq_noResults_iff {c : Catalog} {shown : List Entry} {note : Option Text} :
    entries c shown note = .ok noResults ↔ shown = [] := by
  rw [entries_eq_ok_iff]
  constructor
  · rintro ⟨lines, hlines, hresults⟩
    rw [results_eq_noResults_iff.mp hresults.symm] at hlines
    exact List.forall₂_nil_right_iff.mp hlines
  · rintro rfl
    exact ⟨[], .nil, rfl⟩

variable {accepts : Question σ} {c : Catalog} {query : Option Text} {limit : Int} {P : σ → Prop}
  {m : σ}

/-- A search that returns is answered by "no results" exactly when no entry is accepted or the limit
is below one. -/
theorem run_eq_noResults_iff {m₀ : σ} {answer : Text}
    (h : ∀ e ∈ c.entries, Alike (fun m m' => P m ∧ P m') (asks accepts query e)
      (asks accepts query e)) (h₀ : P m₀) (hm : P m)
    (hrun : (run accepts c query limit).reply m = .ok answer) :
    answer = noResults ↔
      limit ≤ 0 ∨ ∀ e ∈ c.entries, (asks accepts query e).reply m₀ ≠ .ok true := by
  obtain ⟨found, m', hsearch, hanswer⟩ := Search.bind_reply_eq_ok hrun
  have hfound : (search accepts c query (limit + 1)).reply m = .ok found := by
    rw [Search.reply, hsearch]
  obtain ⟨-, -, -, hfew⟩ := searchFrom_extends hfound
  obtain ⟨note, hshown⟩ := entries_of_shown (Search.reply_ofExcept.symm.trans hanswer)
  rw [← Except.ok.injEq (ε := Fault), ← hshown, entries_eq_noResults_iff,
    shown_eq_nil_iff (by simpa using hfew), searchFrom_eq_nil_iff h h₀ hm hfound]

/-- Whatever its limit, a result list over entries with settled answers is there, if all its numbers
can be written. -/
theorem run_returns {isMatch : Entry → Bool}
    (h : ∀ e ∈ c.entries, Settles P (asks accepts query e) (isMatch e))
    (hwritable : ∀ e ∈ c.entries, e.isWritable = true) (hlimit : isReadable limit = true)
    (hm : P m) : ∃ answer, (run accepts c query limit).reply m = .ok answer := by
  obtain ⟨found, m', -, hrun⟩ := searchFrom_returns h (limit + 1) [] hm
  have hreply : (searchFrom (asks accepts query) (limit + 1) [] c.entries).reply m = .ok found := by
    rw [Search.reply, hrun]
  obtain ⟨_, rfl, hfound, -⟩ := searchFrom_extends hreply
  obtain ⟨answer, hanswer⟩ := exists_shown (c := c)
    (fun e he => hwritable e (hfound.subset he)) hlimit
  exact ⟨answer, (run_of_search hrun).1.trans hanswer⟩

end ItemQuery.Listing
