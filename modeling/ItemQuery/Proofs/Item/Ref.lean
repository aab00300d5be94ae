import ItemQuery.Catalog.Basic
import ItemQuery.Proofs.Item.Link
import ItemQuery.Proofs.Number.Integer

/-!
The id in the reference of an entry. What is written for an id is read back from a link that was
built with it, whatever the name, unless it has more digits than are ever read; a link of its own is
valid only with the entry's id. So two entries of one id have references that are read alike
(`Entry.itemId?_ref`).
-/

namespace ItemQuery

/-! ## Numbers in links -/

namespace Link

theorem leadingNumber?_digits {t : Text} {negative : Bool} {digits : List Nat}
    (h : leadingNumber? t = some (negative, digits)) : ∀ d ∈ digits, d < 10 := by
  intro d hd
  unfold leadingNumber? at h
  split at h
  rename_i body _
  cases hread : (body.takeWhile Text.isDigit).filterMap Text.digitValue? with
  | nil => simp [hread] at h
  | cons first rest =>
    simp only [hread, Option.some.injEq, Prod.mk.injEq] at h
    rw [← h.2, ← hread] at hd
    obtain ⟨c, -, hc⟩ := List.mem_filterMap.mp hd
    exact Text.digitValue?_lt hc

theorem firstNumber?_digits {t : Text} {negative : Bool} {digits : List Nat}
    (h : firstNumber? t = some (negative, digits)) : ∀ d ∈ digits, d < 10 := by
  induction t with
  | nil => cases h
  | cons c t ih =>
    unfold firstNumber? at h
    split at h
    · rename_i found hfound
      cases h
      obtain ⟨rest, -, hnumber⟩ := Option.bind_eq_some_iff.mp hfound
      exact leadingNumber?_digits hnumber
    · exact ih h

theorem leadingNumber?_minus (t : Text) :
    leadingNumber? ('-' :: t) =
      if (t.takeWhile Text.isDigit).filterMap Text.digitValue? = [] then none
      else some (true, (t.takeWhile Text.isDigit).filterMap Text.digitValue?) := by
  simp only [leadingNumber?]
  cases (t.takeWhile Text.isDigit).filterMap Text.digitValue? with
  | nil => rfl
  | cons d digits => rfl

theorem leadingNumber?_of_ne {c : Char} (hc : c ≠ '-') (t : Text) :
    leadingNumber? (c :: t) =
      if ((c :: t).takeWhile Text.isDigit).filterMap Text.digitValue? = [] then none
      else some (false, ((c :: t).takeWhile Text.isDigit).filterMap Text.digitValue?) := by
  cases h : ((c :: t).takeWhile Text.isDigit).filterMap Text.digitValue? with
  | nil => simp [leadingNumber?, hc, h]
  | cons d digits => simp [leadingNumber?, hc, h]

/-- An integer that stands before anything but a digit is read as it was written. -/
theorem leadingNumber?_intText (id : Int) {t : Text}
    (ht : ∀ c, t.head? = some c → Text.isDigit c = false) :
    leadingNumber? (intText id ++ t) = some (decide (id < 0), writtenDigits id.natAbs) := by
  have hdigits : ∀ n : Nat, ((natText n ++ t).takeWhile Text.isDigit).filterMap Text.digitValue? =
      writtenDigits n := by
    intro n
    have hwritten : ∀ c ∈ natText n, Text.isDigit c = true := fun c hc =>
      Text.isDigit_of_ascii (isDigit_of_mem_natText hc)
    rw [Text.takeWhile_run hwritten ht, filterMap_natText]
  cases id with
  | ofNat n =>
    obtain ⟨c, rest, hcons⟩ := List.exists_cons_of_ne_nil (natText_ne_nil n)
    have hc : c ≠ '-' := by
      rintro rfl
      have := isDigit_of_mem_natText (n := n) (hcons ▸ List.mem_cons_self)
      revert this
      decide
    have hread := hdigits n
    rw [hcons, List.cons_append] at hread
    simp only [intText, hcons, List.cons_append]
    rw [leadingNumber?_of_ne hc, hread]
    simp [writtenDigits_ne_nil]
  | negSucc n =>
    simp only [intText, List.cons_append]
    rw [leadingNumber?_minus, hdigits]
    simp [writtenDigits_ne_nil]

theorem firstNumber?_of_number {t : Text} {number : Bool × List Nat}
    (h : leadingNumber? t = some number) : firstNumber? (idMark ++ t) = some number := by
  simp [firstNumber?, idMark, Text.after?, h]

theorem firstNumber?_append_of_not_mem {before : Text} (h : 'i' ∉ before) (t : Text) :
    firstNumber? (before ++ t) = firstNumber? t := by
  induction before with
  | nil => rfl
  | cons c before ih =>
    obtain ⟨hc, hbefore⟩ := not_or.mp (mt List.mem_cons.mpr h)
    rw [List.cons_append, ← ih hbefore]
    simp [firstNumber?, idMark, Text.after?, hc]

theorem around_eq (id : Int) (name : Text) :
    around (intText id) name defaultColor = "|cffffffff|H".toList ++ (idMark ++ (intText id ++
      (":0:0:0:0:0:0:0|h[".toList ++ name ++ "]|h|r".toList))) := by
  have hassoc (a b c d e f g : Text) :
      a ++ b ++ c ++ d ++ e ++ f ++ g = (a ++ b ++ c) ++ (d ++ (e ++ f ++ g)) := by
    simp only [List.append_assoc]
  have hmark : "|c".toList ++ defaultColor ++ "|Hitem:".toList = "|cffffffff|H".toList ++ idMark :=
    rfl
  calc around (intText id) name defaultColor
      = ("|c".toList ++ defaultColor ++ "|Hitem:".toList) ++ (intText id ++
          (":0:0:0:0:0:0:0|h[".toList ++ name ++ "]|h|r".toList)) := hassoc _ _ _ _ _ _ _
    _ = ("|cffffffff|H".toList ++ idMark) ++ _ := congrArg (· ++ _) hmark
    _ = _ := List.append_assoc _ _ _

/-- Nothing before the mark of a built link is taken for a mark. -/
theorem firstNumber?_around (id : Int) (name : Text) :
    firstNumber? (around (intText id) name defaultColor) =
      some (decide (id < 0), writtenDigits id.natAbs) := by
  rw [around_eq, firstNumber?_append_of_not_mem (by decide)]
  refine firstNumber?_of_number (leadingNumber?_intText id fun c hc => ?_)
  have hcolon : ':' = c := Option.some.inj hc
  rw [← hcolon]
  decide

/-! ## Ids in links -/

/-- Whether the number by which a link names its item is longer than is ever read. -/
def isOverlong (link : Text) : Bool :=
  (firstNumber? link).any fun number => decide (digitLimit < number.2.length)

theorem itemId?_eq_error_iff {link : Text} {fault : Fault} :
    itemId? link = .error fault ↔ fault = .tooManyDigits ∧ isOverlong link = true := by
  unfold itemId? isOverlong
  cases firstNumber? link with
  | none => simp
  | some number =>
    by_cases h : number.2.length ≤ digitLimit
    · simp [h]
    · simp [h, Nat.lt_of_not_le h, eq_comm]

theorem itemId?_around (id : Int) (name : Text) :
    itemId? (around (intText id) name defaultColor) =
      if isReadable id = true then .ok (some id) else .error .tooManyDigits := by
  simp only [itemId?, firstNumber?_around, applySign_writtenDigits, length_writtenDigits, isReadable,
    decide_eq_true_eq]

/-- The id of a link is never one that is not read. -/
theorem isReadable_of_itemId? {link : Text} {id : Int} (h : itemId? link = .ok (some id)) :
    isReadable id = true := by
  unfold itemId? at h
  cases hnumber : firstNumber? link with
  | none =>
    rw [hnumber] at h
    cases h
  | some number =>
    obtain ⟨negative, digits⟩ := number
    rw [hnumber] at h
    dsimp only at h
    split at h
    · rename_i hlength
      cases h
      exact isReadable_of_digits (firstNumber?_digits hnumber) hlength
    · cases h

end Link

/-! ## References of entries -/

namespace Entry

/-- An entry without a defect has no link of its own or one with its id. -/
theorem link_of_linkDefect? {e : Entry} (h : e.linkDefect? = none) :
    e.link = none ∨ ∃ link, e.link = some link ∧ Link.itemId? link = .ok (some e.id) := by
  unfold linkDefect? at h
  cases hlink : e.link with
  | none => exact .inl rfl
  | some link =>
    simp only [hlink] at h
    cases hid : Link.itemId? link with
    | error fault =>
      rw [hid] at h
      cases h
    | ok id? =>
      simp only [hid, ite_eq_left_iff, reduceCtorEq, imp_false, not_not] at h
      exact .inr ⟨link, rfl, by rw [h] at hid; exact hid⟩

theorem ref?_of_isReadable {e : Entry} (h : isReadable e.id = true) : e.ref? = .ok e.ref := by
  unfold ref? ref
  split
  · rfl
  · rw [Link.build, writeInt_of_isReadable h]
    rfl

theorem ref_of_ref? {e : Entry} {t : Text} (h : e.ref? = .ok t) : e.ref = t := by
  by_cases hid : isReadable e.id = true
  · rw [ref?_of_isReadable hid] at h
    exact Except.ok.inj h
  · unfold ref? at h
    unfold ref
    split at h
    · exact Except.ok.inj h
    · rw [Link.build, writeInt_of_not_isReadable hid] at h
      cases h

/-- A link of its own is there only for an id that can be written. -/
theorem ref?_of_linkDefect? {e : Entry} (h : e.linkDefect? = none) :
    e.ref? = if isReadable e.id = true then .ok e.ref else .error .tooManyDigits := by
  split
  · rename_i hid
    exact ref?_of_isReadable hid
  · rename_i hid
    rcases link_of_linkDefect? h with hlink | ⟨link, hlink, hlinkId⟩
    · rw [ref?, hlink, Link.build, writeInt_of_not_isReadable hid]
      rfl
    · exact absurd (Link.isReadable_of_itemId? hlinkId) hid

/-- The reference of an entry carries its id and nothing else that is ever looked at. -/
theorem itemId?_ref {e : Entry} (h : e.linkDefect? = none) :
    Link.itemId? e.ref =
      if isReadable e.id = true then .ok (some e.id) else .error .tooManyDigits := by
  rcases link_of_linkDefect? h with hlink | ⟨link, hlink, hid⟩
  · rw [ref, hlink]
    exact Link.itemId?_around e.id e.name
  · have href : e.ref = link := by
      rw [ref, hlink]
      cases link with
      | nil => cases hid
      | cons c rest => rfl
    rw [href, hid, if_pos (Link.isReadable_of_itemId? hid)]

end Entry

end ItemQuery
