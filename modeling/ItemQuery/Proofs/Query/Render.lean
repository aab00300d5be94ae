import ItemQuery.Proofs.Query.Grammar
import ItemQuery.Proofs.Text.Case

/-!
Atoms in writing. An atom is written as its tag and a colon, its operator and a blank, and its text.
It is read back from that exactly when its parts can stand where they are written
(`Atom.IsPrintable`), and an atom that was read from a text in small letters is such an atom
(`Atom.parse?_render`).
-/

namespace ItemQuery.Atom

def renderBody (op? : Option Text) (text : Text) : Text :=
  match op? with
  | none => text
  | some op => op ++ ' ' :: text

def render (a : Atom) : Text :=
  match a.tag with
  | none => renderBody a.operator a.text
  | some tag => tag ++ ':' :: renderBody a.operator a.text

/-- The tag is one in small letters and the operator one that there is; the text is trimmed and not
empty, and when it stands alone or behind the tag, nothing in front of it can be taken for an operator
or a tag. -/
structure IsPrintable (a : Atom) : Prop where
  tag : ∀ tag, a.tag = some tag → IsTag tag ∧ Text.lower tag = tag
  operator : ∀ op, a.operator = some op → op ∈ Operator.spellings
  text_ne_nil : a.text ≠ []
  trim_text : Text.trim a.text = a.text
  no_operator : a.operator = none → ∀ op ∈ Operator.spellings, ¬op <+: a.text
  not_tagged : a.operator = none → a.tag = none → ¬IsTagged a.text

open Operator (Leads)

variable {a : Atom}

/-! ## What is written is read back -/

/-- No operator has a blank in it, so none is longer in front of one. -/
theorem leads_blank {op : Text} (hop : op ∈ Operator.spellings) (text : Text) :
    Leads (some op) (' ' :: text) (op ++ ' ' :: text) := by
  have hblank : ∀ op ∈ Operator.spellings, ' ' ∉ op := by decide
  refine .given hop fun op' hop' hbegins => ?_
  have hwhole : op' <+: op := Text.isPrefix_of_not_mem hbegins (hblank op' hop')
  exact hwhole.length_le

theorem IsPrintable.leads (h : a.IsPrintable) :
    ∃ space, Leads a.operator (space ++ a.text) (renderBody a.operator a.text) ∧
      (∀ c ∈ space, Text.isBlank c = true) ∧ (a.operator = none → space = []) := by
  cases hop : a.operator with
  | none => exact ⟨[], .absent (h.no_operator hop), List.forall_mem_nil _, fun _ => rfl⟩
  | some op =>
    have hspace : ∀ c ∈ [' '], Text.isBlank c = true := List.forall_mem_singleton.mpr (by decide)
    exact ⟨[' '], leads_blank (h.operator op hop) a.text, hspace, nofun⟩

theorem exists_front_renderBody (op? : Option Text) (text : Text) :
    ∃ front, renderBody op? text = front ++ text := by
  cases op? with
  | none => exact ⟨[], rfl⟩
  | some op => exact ⟨op ++ [' '], by simp [renderBody]⟩

theorem exists_front_render (a : Atom) : ∃ front, render a = front ++ a.text := by
  obtain ⟨front, hfront⟩ := exists_front_renderBody a.operator a.text
  unfold render
  cases a.tag with
  | none => exact ⟨front, hfront⟩
  | some tag => exact ⟨tag ++ ':' :: front, by simp [hfront]⟩

theorem IsPrintable.head_render (h : a.IsPrintable) :
    ∃ c, (render a).head? = some c ∧ Text.isBlank c = false := by
  unfold render
  cases htag : a.tag with
  | some tag =>
    obtain ⟨htag, -⟩ := h.tag tag htag
    obtain ⟨c, rest, rfl⟩ := List.exists_cons_of_ne_nil htag.ne_nil
    exact ⟨c, rfl, Text.not_isBlank_of_isAlphanumeric (htag.isAlphanumeric c List.mem_cons_self)⟩
  | none =>
    cases hop : a.operator with
    | some op =>
      obtain ⟨c, -, hc, hblank, -⟩ := (leads_blank (h.operator op hop) a.text).head
      exact ⟨c, hc, hblank⟩
    | none =>
      obtain ⟨c, rest, htext⟩ := List.exists_cons_of_ne_nil h.text_ne_nil
      have hstart := Text.trimStart_eq_self_iff.mp (Text.trim_eq_self_iff.mp h.trim_text).1
      have hhead : a.text.head? = some c := by rw [htext]; rfl
      exact ⟨c, hhead, hstart c hhead⟩

theorem IsPrintable.trim_render (h : a.IsPrintable) : Text.trim (render a) = render a := by
  obtain ⟨c, hc, hblank⟩ := h.head_render
  obtain ⟨front, hfront⟩ := exists_front_render a
  have htext := (Text.trim_eq_self_iff.mp h.trim_text).2
  refine Text.trim_eq_self_iff.mpr ⟨Text.trimStart_of_head hc hblank, ?_⟩
  rw [hfront, Text.trimEnd_append (by rw [htext]; exact h.text_ne_nil), htext]

theorem IsPrintable.isReadFrom (h : a.IsPrintable) : a.IsReadFrom (Text.trim (render a)) := by
  obtain ⟨space, hleads, hspace, hnone⟩ := h.leads
  rw [h.trim_render]
  refine ⟨⟨space, ?_, hspace, hnone⟩, h.text_ne_nil, h.trim_text⟩
  unfold render
  cases htag : a.tag with
  | some tag =>
    obtain ⟨htag, hsmall⟩ := h.tag tag htag
    have hreads : Reads (some (Text.lower tag)) a.operator (space ++ a.text)
        (tag ++ ':' :: ([] ++ renderBody a.operator a.text)) :=
      .colon (htag.leadingRun_colon _) (List.forall_mem_nil _) hleads
    rwa [hsmall] at hreads
  | none =>
    refine .plain ?_ hleads
    cases hop : a.operator with
    | none => exact h.not_tagged hop htag
    | some op => exact not_isTagged_of_leads (leads_blank (h.operator op hop) a.text)

/-! ## What is read can be written -/

/-- Of an atom that was read only the tag is open: its small form may hold other characters than
letters and digits. -/
theorem IsReadFrom.isPrintable {t : Text} (h : a.IsReadFrom t)
    (htag : ∀ tag, a.tag = some tag → IsTag tag ∧ Text.lower tag = tag) : a.IsPrintable := by
  obtain ⟨space, hreads, -, hnone⟩ := h.reads
  refine
    { tag := htag
      operator := fun op hop => ?_
      text_ne_nil := h.text_ne_nil
      trim_text := h.trim_text
      no_operator := fun hop => ?_
      not_tagged := fun hop htag => ?_ }
  · rw [hop] at hreads
    exact hreads.mem_spellings
  · rw [hop, hnone hop] at hreads
    exact hreads.no_operator
  · rw [hop, htag, hnone hop] at hreads
    exact hreads.not_isTagged

/-- The tag of an atom that is read is in small letters. -/
theorem IsReadFrom.lower_tag {t tag : Text} (h : a.IsReadFrom t) (htag : a.tag = some tag) :
    Text.lower tag = tag := by
  obtain ⟨space, hreads, -, -⟩ := h.reads
  rw [htag] at hreads
  obtain ⟨name, behind, -, rfl, -⟩ := hreads.exists_name
  exact Text.lower_lower name

theorem isPrintable_of_parse?_render (h : parse? (render a) = some a) : a.IsPrintable := by
  have hread := isReadFrom_of_parse? h
  refine hread.isPrintable fun tag htag => ?_
  have hsmall := hread.lower_tag htag
  unfold render at h
  rw [htag] at h
  exact ⟨isTag_of_parse? h (by rw [hsmall, htag]), hsmall⟩

/-- In a text in small letters a tag is its own small form. -/
theorem isPrintable_of_parse?_small {s : Text} (hs : Text.lower s = s) (h : parse? s = some a) :
    a.IsPrintable := by
  have hread := isReadFrom_of_parse? h
  refine hread.isPrintable fun tag htag => ?_
  obtain ⟨space, hreads, -, -⟩ := hread.reads
  rw [htag] at hreads
  obtain ⟨name, behind, hname, rfl, ht⟩ := hreads.exists_name
  have hsmall : Text.lower name = name := by
    rw [Text.lower_eq_self_iff] at hs ⊢
    intro c hc
    exact hs c (Text.mem_of_mem_trim (by rw [ht]; exact List.mem_append_left behind hc))
  rw [hsmall]
  exact ⟨hname, hsmall⟩

/-- The atoms that can be written are those that are read back, and all that are read from a text in
small letters are among them. -/
theorem parse?_render :
    (∀ a, parse? (render a) = some a ↔ a.IsPrintable) ∧
    ∀ s a, Text.lower s = s → parse? s = some a →
      a.IsPrintable ∧ parse? (render a) = parse? s := by
  have hback : ∀ a : Atom, a.IsPrintable → parse? (render a) = some a := fun a ha =>
    ha.isReadFrom.parse?_eq
  refine ⟨fun a => ⟨isPrintable_of_parse?_render, hback a⟩, fun s a hs h => ?_⟩
  have ha := isPrintable_of_parse?_small hs h
  exact ⟨ha, by rw [h, hback a ha]⟩

/-- A tag, white space, the longest of several operators, and a text that has a tag and an operator in
it. -/
theorem parse?_render_notEqual :
    let s := "tt: != use:<5 ".toList
    let a : Atom := ⟨"use:<5".toList, some "tt".toList, some "!=".toList⟩
    Text.lower s = s ∧ parse? s = some a ∧ a.IsPrintable ∧ parse? (render a) = parse? s := by
  intro s a
  have hs : Text.lower s = s := by decide +kernel
  have hparse : parse? s = some a := by decide +kernel
  obtain ⟨hprintable, hback⟩ := parse?_render.2 s a hs hparse
  exact ⟨hs, hparse, hprintable, hback⟩

end ItemQuery.Atom
