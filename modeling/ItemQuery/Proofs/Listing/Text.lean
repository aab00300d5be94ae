import ItemQuery.Listing
import ItemQuery.Proofs.Json.Readable
import ItemQuery.Proofs.Search

/-!
The text of a result list. An entry is shown unless one of its numbers is too long to be written
(`Entry.exists_compact`). A list of entries that are shown tells their number, whether there are
more, and each of them in a line of its own (`Listing.shown_take`).
-/

namespace ItemQuery

/-! ## Entries -/

/-- The entry that a line or an answer is about. -/
def Listing.subject (e : Entry) : Text := '[' :: intText e.id ++ "] ".toList ++ e.name

namespace Entry

variable {e : Entry}

theorem title_eq (e : Entry) : e.title =
    if isReadable e.id = true then .ok (Listing.subject e) else .error .tooManyDigits := by
  unfold title writeInt
  split <;> rfl

theorem exists_header (h : isReadable e.id = true) (labels : List Text) :
    ∃ t, e.header labels = .ok t := by
  rw [header, title_eq, if_pos h]
  cases e.quality.bind (labels[·]?) with
  | none => exact ⟨_, rfl⟩
  | some label => exact ⟨_, rfl⟩

/-- The second line shows the parts and the level, if that can be written. -/
theorem details_eq (e : Entry) :
    if e.level.all isReadable = true then
      e.details = .ok (Text.join " | ".toList (e.shownParts ++
        (e.level.map fun level => "ilvl ".toList ++ intText level).toList))
    else e.details = .error .tooManyDigits := by
  unfold details
  cases e.level with
  | none => exact rfl
  | some level =>
    rw [Option.all_some]
    split
    · rename_i hlevel
      rw [Option.mapM_some, writeInt_of_isReadable hlevel]
      rfl
    · rename_i hlevel
      rw [Option.mapM_some, writeInt_of_not_isReadable hlevel]
      rfl

theorem compact_of_not_isWritable (h : ¬e.isWritable = true) (labels : List Text) :
    e.compact labels = .error .tooManyDigits := by
  unfold compact
  by_cases hid : isReadable e.id = true
  · obtain ⟨header, hheader⟩ := exists_header hid labels
    have hlevel : ¬e.level.all isReadable = true := fun hlevel =>
      h (Bool.and_eq_true_iff.mpr ⟨hid, hlevel⟩)
    have hdetails := e.details_eq
    rw [if_neg hlevel] at hdetails
    rw [hheader, hdetails]
    rfl
  · rw [header, title_eq, if_neg hid]
    rfl

theorem exists_compact (h : e.isWritable = true) (labels : List Text) :
    ∃ t, e.compact labels = .ok t := by
  rw [isWritable, Bool.and_eq_true] at h
  obtain ⟨header, hheader⟩ := exists_header h.1 labels
  have hdetails := e.details_eq
  rw [if_pos h.2] at hdetails
  rw [compact, hheader, hdetails]
  generalize Text.join _ _ = details
  cases details with
  | nil => exact ⟨_, rfl⟩
  | cons c rest => exact ⟨_, rfl⟩

end Entry

namespace Listing

/-! ## Lines -/

/-- The lines that entries take in a list. -/
def Lines (labels : List Text) : List Entry → List Text → Prop :=
  List.Forall₂ fun e line => e.compact labels = .ok line

theorem exists_lines (labels : List Text) {found : List Entry}
    (h : ∀ e ∈ found, e.isWritable = true) : ∃ lines, Lines labels found lines := by
  obtain ⟨lines, hlines⟩ :=
    Except.exists_mapM_eq_ok fun e he => Entry.exists_compact (h e he) labels
  exact ⟨lines, Except.mapM_eq_ok_iff.mp hlines⟩

theorem entries_eq_ok_iff {c : Catalog} {found : List Entry} {note : Option Text} {t : Text} :
    entries c found note = .ok t ↔
      ∃ lines, Lines c.qualityLabels found lines ∧ t = results lines none note := by
  constructor
  · intro h
    obtain ⟨lines, hlines, h⟩ := Except.bind_eq_ok h
    exact ⟨lines, Except.mapM_eq_ok_iff.mp hlines, (Except.ok.inj h).symm⟩
  · rintro ⟨lines, hlines, rfl⟩
    rw [entries, Except.mapM_eq_ok_iff.mpr hlines]
    rfl

theorem join_cons (sep t : Text) {ts : List Text} (h : ts ≠ []) :
    Text.join sep (t :: ts) = t ++ sep ++ Text.join sep ts := by
  cases ts with
  | nil => exact absurd rfl h
  | cons t' ts => rfl

theorem join_join (sep : Text) (lines : List Text) {last : List Text} (h : last ≠ []) :
    Text.join sep (lines ++ [Text.join sep last]) = Text.join sep (lines ++ last) := by
  induction lines with
  | nil => rfl
  | cons line lines ih =>
    rw [List.cons_append, List.cons_append, join_cons _ _ (by simp), join_cons _ _ (by simp [h]), ih]

/-- A list that is not empty: its count, a note if there is one, a blank line, the entries. -/
theorem results_of_ne_nil {lines : List Text} (h : lines ≠ []) (note : Option Text) :
    results lines none note = Text.join ['\n'] ((natText lines.length ++ " result(s)".toList) ::
      optionalLine "Note: ".toList note ++ [] :: lines) := by
  have hjoin := join_join ['\n'] ((natText lines.length ++ " result(s)".toList) ::
    optionalLine "Note: ".toList note ++ [[]]) h
  simpa [results, optionalLine, h] using hjoin

/-- A list of results begins with their count. -/
theorem results_eq_noResults_iff {lines : List Text} {note : Option Text} :
    results lines none note = noResults ↔ lines = [] := by
  constructor
  · intro h
    by_contra hlines
    obtain ⟨digit, digits, hcount⟩ := List.exists_cons_of_ne_nil (natText_ne_nil lines.length)
    have hdigit : digit.isDigit = true :=
      isDigit_of_mem_natText (hcount ▸ List.mem_cons_self : digit ∈ natText lines.length)
    rw [results_of_ne_nil hlines, List.cons_append, join_cons _ _ (by simp), hcount] at h
    have hhead : digit = 'N' := (List.cons.inj h).1
    rw [hhead] at hdigit
    exact absurd hdigit (by decide)
  · rintro rfl
    rfl

/-- One entry that cannot be shown keeps the whole list from being shown. -/
theorem entries_of_not_isWritable {found : List Entry} (h : ¬∀ e ∈ found, e.isWritable = true)
    (c : Catalog) (note : Option Text) : entries c found note = .error .tooManyDigits := by
  have hlines : found.mapM (·.compact c.qualityLabels) = .error .tooManyDigits := by
    induction found with
    | nil => exact absurd (List.forall_mem_nil _) h
    | cons e found ih =>
      rw [List.mapM_cons]
      by_cases he : e.isWritable = true
      · obtain ⟨line, hline⟩ := Entry.exists_compact he c.qualityLabels
        rw [hline, ih fun hfound => h (List.forall_mem_cons.mpr ⟨he, hfound⟩)]
        rfl
      · rw [Entry.compact_of_not_isWritable he]
        rfl
  rw [entries, hlines]
  rfl

/-! ## What is shown up to a limit -/

theorem limitNote_eq (limit : Int) : limitNote limit =
    if isReadable limit = true
      then .ok ("Showing the first ".toList ++ intText limit ++ " matches.".toList)
      else .error .tooManyDigits := by
  unfold limitNote writeInt
  split <;> rfl

theorem entries_of_shown {c : Catalog} {found : List Entry} {limit : Int} {t : Text}
    (h : shown c found limit = .ok t) : ∃ note,
      entries c (if limit < found.length then firstOf limit found else found) note = .ok t := by
  unfold shown at h
  split at h
  · rename_i hmore
    obtain ⟨note, -, h⟩ := Except.bind_eq_ok h
    exact ⟨some note, by rw [if_pos hmore]; exact h⟩
  · rename_i hmore
    exact ⟨none, by rw [if_neg hmore]; exact h⟩

/-- Where all numbers can be written, something is shown of whatever was found. -/
theorem exists_shown {c : Catalog} {found : List Entry} {limit : Int}
    (h : ∀ e ∈ found, e.isWritable = true) (hlimit : isReadable limit = true) :
    ∃ t, shown c found limit = .ok t := by
  have hentries (found' : List Entry) (hsub : ∀ e ∈ found', e ∈ found) (note : Option Text) :
      ∃ t, entries c found' note = .ok t := by
    obtain ⟨lines, hlines⟩ := exists_lines c.qualityLabels fun e he => h e (hsub e he)
    exact ⟨_, entries_eq_ok_iff.mpr ⟨lines, hlines, rfl⟩⟩
  unfold shown
  split
  · rw [limitNote_eq, if_pos hlimit]
    refine hentries _ (fun e he => ?_) _
    unfold firstOf at he
    split at he
    · exact List.mem_of_mem_take he
    · exact List.mem_of_mem_take he
  · exact hentries found (fun _ he => he) none

/-- Whether all numbers can be written that a list shows: those of the entries up to the limit, and the
limit itself where there are more. -/
structure IsWritable (found : List Entry) (limit : Int) : Prop where
  listed : ∀ e ∈ found.take limit.toNat, e.isWritable = true
  limit : limit < found.length → isReadable limit = true

variable {limit : Int} {found : List Entry}

/-- One match more than the limit tells that there are more, and is not shown. -/
theorem shown_take (c : Catalog) (hlimit : 0 ≤ limit) (found : List Entry) :
    shown c (found.take (limit + 1).toNat) limit =
      if limit < found.length then do entries c (found.take limit.toNat) (some (← limitNote limit))
      else entries c (found.take limit.toNat) none := by
  have hcount : ((found.take (limit + 1).toNat).length : Int) = min (limit + 1) found.length := by
    rw [List.length_take]
    omega
  have hfirst : firstOf limit (found.take (limit + 1).toNat) = found.take limit.toNat := by
    rw [firstOf, if_pos hlimit, List.take_take, Nat.min_eq_left (by omega)]
  unfold shown
  by_cases hmore : limit < found.length
  · rw [if_pos (by omega), if_pos hmore, hfirst]
  · rw [if_neg (by omega), if_neg hmore, List.take_of_length_le (by omega),
      List.take_of_length_le (by omega)]

theorem shown_of_isWritable (c : Catalog) (hlimit : 1 ≤ limit) (h : IsWritable found limit)
    {lines : List Text} (hlines : Lines c.qualityLabels (found.take limit.toNat) lines) :
    shown c (found.take (limit + 1).toNat) limit = .ok (
      if found = [] then "No results found.".toList
      else Text.join ['\n'] (
        (natText (min limit.toNat found.length) ++ " result(s)".toList) ::
        (if limit < found.length
          then ["Note: Showing the first ".toList ++ intText limit ++ " matches.".toList]
          else []) ++
        [] :: lines)) := by
  have hlength : lines.length = min limit.toNat found.length := by
    rw [← hlines.length_eq, List.length_take]
  rw [shown_take c (by omega), ← hlength]
  by_cases hfound : found = []
  · obtain rfl : lines = [] := by
      rw [← List.length_eq_zero_iff, hlength, hfound, List.length_nil, Nat.min_zero]
    rw [if_pos hfound, if_neg (by simp [hfound]; omega)]
    exact entries_eq_ok_iff.mpr ⟨[], hlines, rfl⟩
  · have hne : lines ≠ [] := by
      have hpos := List.length_pos_of_ne_nil hfound
      rw [ne_eq, ← List.length_eq_zero_iff]
      omega
    rw [if_neg hfound]
    by_cases hmore : limit < found.length
    · rw [if_pos hmore, if_pos hmore, limitNote_eq, if_pos (h.limit hmore)]
      refine entries_eq_ok_iff.mpr ⟨lines, hlines, ?_⟩
      rw [results_of_ne_nil hne]
      rfl
    · rw [if_neg hmore, if_neg hmore]
      refine entries_eq_ok_iff.mpr ⟨lines, hlines, ?_⟩
      rw [results_of_ne_nil hne]
      rfl

theorem shown_of_not_isWritable (c : Catalog) (hlimit : 0 ≤ limit) (h : ¬IsWritable found limit) :
    shown c (found.take (limit + 1).toNat) limit = .error .tooManyDigits := by
  rw [shown_take c hlimit]
  by_cases hlisted : ∀ e ∈ found.take limit.toNat, e.isWritable = true
  · have hlong : ¬(limit < found.length → isReadable limit = true) := fun hread =>
      h ⟨hlisted, hread⟩
    obtain ⟨hmore, hlong⟩ := Classical.not_imp.mp hlong
    rw [if_pos hmore, limitNote_eq, if_neg hlong]
    rfl
  · split
    · rw [limitNote_eq]
      split
      · exact entries_of_not_isWritable hlisted c _
      · rfl
    · exact entries_of_not_isWritable hlisted c none

end Listing

end ItemQuery
