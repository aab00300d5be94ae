import ItemQuery.Proofs.Item.Mention

/-!
The first id of a link. The first letter of a mark stands nowhere else in the mark, nor in the number
behind it, so a mark with a number cannot begin in one text and reach into the mark that follows the
text. An integer behind the first mark that has a number is therefore read as it was written, whatever
stands behind it but a further digit (`Link.itemId?_leftmost`).
-/

namespace ItemQuery

/-- A piece that holds its first letter once does not reach from one text into another that begins with
that letter. If it does not stand in the first, it begins in the second. -/
theorem Text.length_le_of_not_isInfix {c : Char} {piece before back front rest : Text}
    (hc : c ∉ piece) (hfront : ¬c :: piece <:+: front)
    (h : before ++ (c :: piece ++ back) = front ++ c :: rest) : front.length ≤ before.length := by
  rcases List.append_eq_append_iff.mp h with ⟨a, rfl, hpiece⟩ | ⟨a, rfl, -⟩
  · cases a with
    | nil => simp
    | cons d a =>
      obtain ⟨rfl, htail⟩ := List.cons.inj hpiece
      refine absurd ?_ hfront
      rcases List.append_eq_append_iff.mp htail with ⟨b, rfl, -⟩ | ⟨b, rfl, hrest⟩
      · exact ⟨before, b, by simp⟩
      · cases b with
        | nil => exact ⟨before, [], by simp⟩
        | cons e b =>
          obtain ⟨rfl, -⟩ := List.cons.inj hrest
          exact absurd (List.mem_append_right a List.mem_cons_self) hc
  · simp

namespace Link

/-- A mark and behind it the least that makes a number: a digit of any script, and a minus in front of
it or none. -/
inductive IsMarkedDigit : Text → Prop
  | plain {d} : Text.isDigit d = true → IsMarkedDigit (idMark ++ [d])
  | minus {d} : Text.isDigit d = true → IsMarkedDigit (idMark ++ ['-', d])

/-- Somewhere in a text stands a mark with a number behind it. -/
def Marked (t : Text) : Prop := ∃ piece, IsMarkedDigit piece ∧ piece <:+: t

variable {t p written before piece : Text} {negative : Bool}

/-- A mark with a number holds the first letter of the mark once. -/
theorem IsMarkedDigit.exists_tail (h : IsMarkedDigit piece) :
    ∃ tail, piece = 'i' :: tail ∧ 'i' ∉ tail := by
  have hmark : 'i' ∉ "tem:".toList := by decide
  have hminus : 'i' ≠ '-' := by decide
  have hdigit {d : Char} (hd : Text.isDigit d = true) : 'i' ≠ d := by
    rintro rfl
    exact absurd hd (by decide)
  cases h with
  | @plain d hd =>
    exact ⟨"tem:".toList ++ [d], rfl, List.not_mem_append hmark (by simp [hdigit hd])⟩
  | @minus d hd =>
    exact ⟨"tem:".toList ++ ['-', d], rfl, List.not_mem_append hmark (by simp [hminus, hdigit hd])⟩

theorem exists_isRun {d : Char} (hd : Text.isDigit d = true) (back : Text) :
    ∃ written, IsRun (d :: back) written :=
  ⟨_, isRun_takeWhile (by simp [hd])⟩

theorem MarkedAt.exists_piece (h : MarkedAt t before negative written) :
    ∃ piece back, IsMarkedDigit piece ∧ t = before ++ (piece ++ back) := by
  obtain ⟨rest, rfl, hnumber⟩ := h
  cases hnumber with
  | plain hrun =>
    obtain ⟨d, digits, rfl⟩ := List.exists_cons_of_ne_nil hrun.ne_nil
    obtain ⟨back, rfl, -⟩ := hrun.behind
    exact ⟨_, digits ++ back, .plain (hrun.isDigit d List.mem_cons_self), by simp⟩
  | minus hrun =>
    obtain ⟨d, digits, rfl⟩ := List.exists_cons_of_ne_nil hrun.ne_nil
    obtain ⟨back, rfl, -⟩ := hrun.behind
    exact ⟨_, digits ++ back, .minus (hrun.isDigit d List.mem_cons_self), by simp⟩

theorem marked_iff : Marked t ↔ ∃ before negative written, MarkedAt t before negative written := by
  constructor
  · rintro ⟨piece, hpiece, before, back, rfl⟩
    cases hpiece with
    | @plain d hd =>
      obtain ⟨written, hrun⟩ := exists_isRun hd back
      exact ⟨before, false, written, d :: back, by simp, .plain hrun⟩
    | @minus d hd =>
      obtain ⟨written, hrun⟩ := exists_isRun hd back
      exact ⟨before, true, written, '-' :: d :: back, by simp, .minus hrun⟩
  · rintro ⟨before, negative, written, hmarked⟩
    obtain ⟨piece, back, hpiece, rfl⟩ := hmarked.exists_piece
    exact ⟨piece, hpiece, before, back, by simp⟩

/-- Behind a text without a marked number, the first mark with a number is the one that follows. -/
theorem mentions_append (hp : ¬Marked p) (h : HasNumber t negative written) :
    Mentions (p ++ (idMark ++ t)) negative written := by
  refine ⟨p, ⟨t, rfl, h⟩, fun before negative' written' hother => ?_⟩
  obtain ⟨piece, back, hpiece, heq⟩ := hother.exists_piece
  obtain ⟨tail, rfl, htail⟩ := hpiece.exists_tail
  exact Text.length_le_of_not_isInfix htail (fun hin => hp ⟨_, hpiece, hin⟩) heq.symm

theorem itemId?_append_mark (hp : ¬Marked p) (n : Int) {s : Text}
    (hs : ∀ c ∈ s.head?, Text.isDigit c = false) :
    itemId? (p ++ idMark ++ intText n ++ s) =
      if isReadable n = true then .ok (some n) else .error .tooManyDigits := by
  obtain ⟨written, hnumber, hdigits⟩ := leadingNumber?_eq_some_iff.mp (leadingNumber?_intText n hs)
  have hfirst : firstNumber? (p ++ idMark ++ intText n ++ s) =
      some (decide (n < 0), writtenDigits n.natAbs) := by
    rw [List.append_assoc, List.append_assoc]
    exact firstNumber?_eq_some_iff.mpr ⟨written, mentions_append hp hnumber, hdigits⟩
  simp only [itemId?, hfirst, applySign_writtenDigits, length_writtenDigits, isReadable,
    decide_eq_true_eq]

theorem itemId?_eq_none_iff : itemId? t = .ok none ↔ ¬Marked t := by
  have hnone : itemId? t = .ok none ↔ firstNumber? t = none := by
    unfold itemId?
    cases firstNumber? t with
    | none => exact iff_of_true rfl rfl
    | some number =>
      refine iff_of_false ?_ (Option.some_ne_none number)
      dsimp only
      split
      · exact fun h => Option.some_ne_none _ (Except.ok.inj h)
      · intro h
        cases h
  rw [hnone, firstNumber?_eq_none_iff, marked_iff]
  simp only [not_exists]

/-- An integer behind a mark is what a link is read for, where no mark with a number stands before it
and whatever stands behind it but a further digit; one with too many digits is a fault. A text is read
for no id exactly when no mark with a number stands in it. Blanks around a link change nothing. -/
theorem itemId?_leftmost :
    (∀ (p s : Text) (n : Int), ¬Marked p → (∀ c ∈ s.head?, Text.isDigit c = false) →
      itemId? (p ++ idMark ++ intText n ++ s) =
        if isReadable n = true then .ok (some n) else .error .tooManyDigits) ∧
    (∀ t, itemId? t = .ok none ↔ ¬Marked t) ∧
    ∀ t, itemId? (Text.trim t) = itemId? t :=
  ⟨fun _ _ n hp hs => itemId?_append_mark hp n hs, fun _ => itemId?_eq_none_iff, itemId?_trim⟩

/-- In front stand marks without a number, the last of them with a minus; behind stands a digit that is
none of the integer's, and another mark. -/
theorem itemId?_leftmost_negative :
    let p := "item: ite item:-".toList
    let s := " 0|item:8".toList
    ¬Marked p ∧ (∀ c ∈ s.head?, Text.isDigit c = false) ∧ isReadable (-5) = true ∧
      itemId? "item: ite item:-item:-5 0|item:8".toList = .ok (some (-5)) := by
  intro p s
  have hp : ¬Marked p := (itemId?_leftmost.2.1 p).mp rfl
  have hs : ∀ c ∈ s.head?, Text.isDigit c = false := by
    rintro c ⟨⟩
    decide
  have hn : isReadable (-5) = true := by decide
  have hread := itemId?_leftmost.1 p s (-5) hp hs
  rw [if_pos hn] at hread
  exact ⟨hp, hs, hn, hread⟩

end Link

end ItemQuery
