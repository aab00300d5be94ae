import ItemQuery.Engine
import ItemQuery.Proofs.Attribute.Compared
import ItemQuery.Proofs.Catalog.Valid
import ItemQuery.Proofs.Query.Atoms
import ItemQuery.Proofs.Sets.Reach
import ItemQuery.Proofs.Text.Case
import Mathlib.Data.List.Infix

/-!
Pieces of texts. A piece is lowered apart from the text that it is looked for in, and the one thing
that lowering sees around a character is whether a `Σ` ends a word. So the small form of a piece
stands where the piece does exactly when each `Σ` in it ends a word in the piece as it does in the
text (`lower_isPrefix_drop_iff`). Without a `Σ`, or between characters that divide the text, nothing
is lost, and the attributes that match texts find an item by such a piece of its own.
-/

namespace ItemQuery

/-! ## Small forms in their place -/

namespace Text

/-- Whether a `Σ` between two texts ends a word. Of what stands before it the nearest comes first. -/
def endsWord (before rest : Text) : Bool := meetsCased before && !meetsCased rest

/-- The small form that a text has between two others. -/
def lowerWithin (before after : Text) : Text → Text
  | [] => []
  | c :: rest =>
    (if c = 'Σ' then [if endsWord before (rest ++ after) then 'ς' else 'σ'] else lowerChar c) ++
      lowerWithin (c :: before) after rest

theorem lowerWithin_nil (before t : Text) : lowerWithin before [] t = lowerAfter before t := by
  induction t generalizing before with
  | nil => rfl
  | cons c t ih => rw [lowerWithin, lowerAfter, ih, List.append_nil, endsWord]

theorem lowerAfter_append (before t after : Text) : lowerAfter before (t ++ after) =
    lowerWithin before after t ++ lowerAfter (t.reverse ++ before) after := by
  induction t generalizing before with
  | nil => rfl
  | cons c t ih =>
    rw [List.cons_append, lowerAfter, ih, lowerWithin, endsWord, List.reverse_cons,
      List.append_assoc, List.append_assoc]
    rfl

theorem length_lowerWithin (before after t : Text) :
    (lowerWithin before after t).length = (t.flatMap lowerChar).length := by
  have hlength := congrArg List.length (lowerAfter_append before t after)
  rw [List.length_append, length_lowerAfter, length_lowerAfter, List.flatMap_append,
    List.length_append] at hlength
  omega

private theorem forall_eq_append_cons_iff {c d : Char} {t : Text} {P : Text → Text → Prop} :
    (∀ x y, c :: t = x ++ d :: y → P x y) ↔
      (c = d → P [] t) ∧ ∀ x y, t = x ++ d :: y → P (c :: x) y := by
  constructor
  · intro h
    exact ⟨fun hcd => h [] t (by rw [hcd]; rfl), fun x y ht => h (c :: x) y (by rw [ht]; rfl)⟩
  · rintro ⟨hnil, hcons⟩ x y ht
    cases x with
    | nil =>
      obtain ⟨hcd, rfl⟩ := List.cons.inj ht
      exact hnil hcd
    | cons e x =>
      obtain ⟨rfl, rfl⟩ := List.cons.inj ht
      exact hcons x y rfl

/-- What stands around a text shows in its small form only where a `Σ` ends a word in one place and
not in the other. -/
theorem lowerWithin_eq_iff {before after before' after' t : Text} :
    lowerWithin before after t = lowerWithin before' after' t ↔
      ∀ x y, t = x ++ 'Σ' :: y → endsWord (x.reverse ++ before) (y ++ after) =
        endsWord (x.reverse ++ before') (y ++ after') := by
  induction t generalizing before before' with
  | nil => simp [lowerWithin]
  | cons c t ih =>
    have hrest : (∀ x y, t = x ++ 'Σ' :: y →
        endsWord ((c :: x).reverse ++ before) (y ++ after) =
          endsWord ((c :: x).reverse ++ before') (y ++ after')) ↔
        lowerWithin (c :: before) after t = lowerWithin (c :: before') after' t := by
      simp only [List.reverse_cons, List.append_assoc, List.singleton_append]
      exact ih.symm
    rw [forall_eq_append_cons_iff, hrest, lowerWithin, lowerWithin]
    by_cases hs : c = 'Σ'
    · have hletter (b b' : Bool) : (if b then 'ς' else 'σ') = (if b' then 'ς' else 'σ') ↔ b = b' := by
        cases b <;> cases b' <;> decide
      simp only [hs, ↓reduceIte, List.singleton_append, List.cons.injEq, hletter, forall_const,
        List.reverse_nil, List.nil_append]
    · simp only [hs, ↓reduceIte, List.append_cancel_left_eq, false_implies, true_and]

/-- Each `Σ` of a piece ends a word in the piece exactly when it does in the text around it. -/
def KeepsWordEnds (front piece back : Text) : Prop :=
  ∀ x y, piece = x ++ 'Σ' :: y →
    endsWord x.reverse y = endsWord (x.reverse ++ front.reverse) (y ++ back)

variable {front piece back : Text}

theorem lower_eq_lowerWithin_iff :
    lower piece = lowerWithin front.reverse back piece ↔ KeepsWordEnds front piece back := by
  rw [lower, ← lowerWithin_nil, lowerWithin_eq_iff]
  simp only [List.append_nil, KeepsWordEnds]

theorem drop_lower_append (front piece back : Text) :
    (lower (front ++ piece ++ back)).drop (lower front).length =
      lowerWithin front.reverse back piece ++ lowerAfter (piece.reverse ++ front.reverse) back := by
  have hlength : (lowerWithin [] (piece ++ back) front).length = (lower front).length := by
    rw [length_lowerWithin, lower, length_lowerAfter]
  rw [List.append_assoc]
  show ((lowerAfter [] (front ++ (piece ++ back))).drop _) = _
  rw [lowerAfter_append, List.drop_left' hlength, lowerAfter_append, List.append_nil]

/-- The small form of a piece stands where the piece does when word ends are kept, and only then. -/
theorem lower_isPrefix_drop_iff :
    lower piece <+: (lower (front ++ piece ++ back)).drop (lower front).length ↔
      KeepsWordEnds front piece back := by
  have hlength : (lower piece).length = (lowerWithin front.reverse back piece).length := by
    rw [length_lowerWithin, lower, length_lowerAfter]
  rw [drop_lower_append, List.isPrefix_append_of_length (Nat.le_of_eq hlength),
    ← lower_eq_lowerWithin_iff]
  constructor
  · exact fun h => h.eq_of_length hlength
  · exact fun h => h ▸ List.prefix_refl _

theorem KeepsWordEnds.lower_isInfix (h : KeepsWordEnds front piece back) :
    lower piece <:+: lower (front ++ piece ++ back) :=
  (lower_isPrefix_drop_iff.mpr h).isInfix.trans (List.drop_suffix _ _).isInfix

theorem keepsWordEnds_of_not_mem (h : 'Σ' ∉ piece) : KeepsWordEnds front piece back := by
  rintro x y rfl
  exact absurd (List.mem_append_right x List.mem_cons_self) h

theorem meetsCased_append_of_head (h : ∀ c ∈ back.head?, Divides c) (t : Text) :
    meetsCased (t ++ back) = meetsCased t := by
  cases back with
  | nil => rw [List.append_nil]
  | cons c back => exact (h c rfl).meetsCased_append t back

theorem keepsWordEnds_of_divided (hfront : ∀ c ∈ front.getLast?, Divides c)
    (hback : ∀ c ∈ back.head?, Divides c) : KeepsWordEnds front piece back := by
  intro x y _
  have hnear : ∀ c ∈ front.reverse.head?, Divides c := by rwa [List.head?_reverse]
  rw [endsWord, endsWord, meetsCased_append_of_head hnear, meetsCased_append_of_head hback]

theorem containsAny_eq_true_iff {fragment : Text} {candidates : List (Option Text)} :
    containsAny fragment candidates = true ↔
      ∃ t, some t ∈ candidates ∧ t ≠ [] ∧ lower fragment <:+: lower t := by
  unfold containsAny
  rw [List.any_eq_true]
  constructor
  · rintro ⟨candidate, hmem, hcontains⟩
    cases candidate with
    | none => cases hcontains
    | some t =>
      cases t with
      | nil => cases hcontains
      | cons c t => exact ⟨c :: t, hmem, List.cons_ne_nil c t, occursIn_iff.mp hcontains⟩
  · rintro ⟨t, hmem, hne, hwithin⟩
    obtain ⟨c, t, rfl⟩ := List.exists_cons_of_ne_nil hne
    exact ⟨some (c :: t), hmem, occursIn_iff.mpr hwithin⟩

end Text

/-! ## Items found by their own texts -/

theorem Source.inSet_reply {ω : Type} {source : Source ω} {item : Text} {w : ω} {id : Int}
    (sets : NamedSets) (search : Text) (hequippable : (source.isEquippable item).reply w = .ok true)
    (hid : Link.itemId? item = .ok (some id)) :
    (source.inSet sets item search).reply w = .ok (sets.belongs id (Text.lower search)) := by
  rw [inSet_reply_eq, hequippable, hid]
  rfl

namespace Attribute

variable {ω : Type} {source : Source ω} {named : NamedSets} {item t fragment : Text} {m : Memory ω}
  {p : Predicate (Memory ω)}

/-- `Shows source named item m t p`: in the memory `m`, `t` is one of the texts of the item that the
attribute `p` matches. -/
inductive Shows (source : Source ω) (named : NamedSets) (item : Text) (m : Memory ω) (t : Text) :
    Predicate (Memory ω) → Prop
  | name {profile : Profile} :
    (source.describe item).reply m.world = .ok (some profile) → profile.name = some t →
    Shows source named item m t (name source)
  | kind {profile : Profile} :
    (source.describe item).reply m.world = .ok (some profile) →
    some t ∈ [profile.kind, profile.subkind, profile.slot] → Shows source named item m t (kind source)
  | tooltip {lines : List Text} :
    (source.lines item).reply m.world = .ok lines → t ∈ lines →
    Shows source named item m t (tooltip source)
  | sets {id : Int} {ids : List Int} :
    (source.isEquippable item).reply m.world = .ok true → Link.itemId? item = .ok (some id) →
    (t, ids) ∈ named.members → id ∈ ids → Shows source named item m t (sets source named)

theorem matchCapture_reply {candidates : List (Option Text)} (hmem : some t ∈ candidates)
    (hne : t ≠ []) (hwithin : Text.lower fragment <:+: Text.lower t) :
    (matchCapture (.text fragment) candidates : Search (Memory ω) Bool).reply m = .ok true := by
  have hcontains := Text.containsAny_eq_true_iff.mpr ⟨t, hmem, hne, hwithin⟩
  show (pure (Text.containsAny fragment candidates) : Search (Memory ω) Bool).reply m = _
  rw [hcontains]
  rfl

theorem finds_of_isInfix (hne : t ≠ []) (hwithin : Text.lower fragment <:+: Text.lower t) :
    NamedSets.finds (Text.lower fragment) t = true := by
  rw [NamedSets.finds_iff, Text.lower_lower]
  exact ⟨hne, .inr hwithin⟩

theorem Shows.canSearch_eq (h : Shows source named item m t p) (hne : fragment ≠ []) :
    p.canSearch none fragment = pure (some (.text fragment)) := by
  obtain ⟨c, rest, rfl⟩ := List.exists_cons_of_ne_nil hne
  cases h with
  | name => rfl
  | kind => rfl
  | tooltip => rfl
  | sets => rfl

/-- An item is found by whatever has its small form within that of a text of the item. -/
theorem Shows.evaluate_reply (h : Shows source named item m t p) (hne : t ≠ [])
    (hwithin : Text.lower fragment <:+: Text.lower t) (op? : Option Text) :
    (p.evaluate item op? (.text fragment)).reply m = .ok true := by
  cases h with
  | name hfound hname =>
    obtain ⟨m', hm'⟩ := Search.exists_reply_ofWorld_bind hfound fun found? => _
    exact hm'.trans (matchCapture_reply (by simp [hname]) hne hwithin)
  | kind hfound hmem =>
    obtain ⟨m', hm'⟩ := Search.exists_reply_ofWorld_bind hfound fun found? => _
    exact hm'.trans (matchCapture_reply hmem hne hwithin)
  | tooltip hlines hmem =>
    obtain ⟨m', hm'⟩ := Search.exists_reply_ofWorld_bind hlines fun lines => _
    exact hm'.trans (matchCapture_reply (List.mem_map_of_mem hmem) hne hwithin)
  | sets hequippable hid hmem hids =>
    have hbelongs := NamedSets.belongs_eq_true_iff.mpr
      ⟨t, _, hmem, finds_of_isInfix hne hwithin, hids⟩
    show (Search.ofWorld (source.inSet named item fragment)).reply m = _
    rw [Search.reply_ofWorld, Source.inSet_reply named fragment hequippable hid, hbelongs]

theorem Shows.judge_reply (h : Shows source named item m t p) (hne : fragment ≠ [])
    (hwithin : Text.lower fragment <:+: Text.lower t) :
    (p.judge item none fragment).reply m = .ok true := by
  have ht : t ≠ [] := by
    rintro rfl
    exact hne (Text.lower_eq_nil_iff.mp (List.infix_nil.mp hwithin))
  rw [Predicate.judge_of_canSearch item (h.canSearch_eq hne)]
  exact h.evaluate_reply ht hwithin none

/-- A piece of a text has its small form in that of the text, where it stands, exactly when it keeps
word ends. It does when it has no `Σ`, and when it is divided from what stands around it. Such a piece
is found in the text, whatever other texts it is looked for in, and an attribute that matches the text
finds the item by it. -/
theorem judge_piece {front piece back : Text} (hne : front ++ piece ++ back ≠ []) :
    (Text.lower piece <+: (Text.lower (front ++ piece ++ back)).drop (Text.lower front).length ↔
      Text.KeepsWordEnds front piece back) ∧
    ('Σ' ∉ piece → Text.KeepsWordEnds front piece back) ∧
    ((∀ c ∈ front.getLast?, Text.Divides c) → (∀ c ∈ back.head?, Text.Divides c) →
      Text.KeepsWordEnds front piece back) ∧
    (Text.KeepsWordEnds front piece back →
      (∀ candidates, some (front ++ piece ++ back) ∈ candidates →
        Text.containsAny piece candidates = true) ∧
      ∀ {ω : Type} {source : Source ω} {named : NamedSets} {item : Text} {m : Memory ω}
        {p : Predicate (Memory ω)}, Shows source named item m (front ++ piece ++ back) p →
        (∀ op?, (p.evaluate item op? (.text piece)).reply m = .ok true) ∧
        (piece ≠ [] → (p.judge item none piece).reply m = .ok true)) := by
  refine ⟨Text.lower_isPrefix_drop_iff, Text.keepsWordEnds_of_not_mem,
    Text.keepsWordEnds_of_divided, fun hkeeps => ⟨fun candidates hmem => ?_, fun hshows => ?_⟩⟩
  · exact Text.containsAny_eq_true_iff.mpr ⟨_, hmem, hne, hkeeps.lower_isInfix⟩
  · exact ⟨hshows.evaluate_reply hne hkeeps.lower_isInfix,
      fun hpiece => hshows.judge_reply hpiece hkeeps.lower_isInfix⟩

/-- A word that ends in `Σ`, in the name of an item. -/
theorem judge_piece_street :
    let front := "Η ".toList
    let piece := "ΟΔΟΣ".toList
    let back := " ΜΟΥ".toList
    let source : Source Unit := (Catalog.ofEntries [.named 7 "Η ΟΔΟΣ ΜΟΥ"]).source
    let item := "item:7".toList
    let m : Memory Unit := ⟨(), []⟩
    front ++ piece ++ back ≠ [] ∧ Text.KeepsWordEnds front piece back ∧
      Text.containsAny piece [none, some (front ++ piece ++ back)] = true ∧
      ((name source).judge item none piece).reply m = .ok true := by
  intro front piece back source item m
  have hne : front ++ piece ++ back ≠ [] := by decide
  obtain ⟨-, -, hdivided, hfinds⟩ := judge_piece hne
  have hblank : Text.Divides ' ' := Text.divides_of_isBlank rfl
  have hkeeps : Text.KeepsWordEnds front piece back := by
    refine hdivided ?_ ?_
    · rintro c ⟨⟩
      exact hblank
    · rintro c ⟨⟩
      exact hblank
  have hshows : Shows source .empty item m (front ++ piece ++ back) (name source) :=
    @Shows.name _ _ _ _ _ _ (Entry.named 7 "Η ΟΔΟΣ ΜΟΥ").profile (by decide) (by decide)
  obtain ⟨hcontains, hjudged⟩ := hfinds hkeeps
  exact ⟨hne, hkeeps, hcontains _ (by simp), (hjudged hshows).2 (by decide)⟩

/-- A `Σ` that ends a piece and not the word that the piece begins. -/
theorem not_containsAny_wordBeginning : "ΟΔΟΣ".toList <+: "ΟΔΟΣΑ".toList ∧
    Text.containsAny "ΟΔΟΣ".toList [some "ΟΔΟΣΑ".toList] = false :=
  ⟨by decide, by decide⟩

end Attribute

end ItemQuery
