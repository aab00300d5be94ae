import ItemQuery.Proofs.Attribute.Alike
import ItemQuery.Proofs.Query.Spelling

/-!
A word without a tag means any attribute: it is offered to the name, the kind, the quality, the
level, the bind keywords and the sets in this order, which is what the tagged queries ask one by one
(`Engine.accepts_word`). What is remembered on the way is seen by the bind predicate alone.
-/

namespace ItemQuery

open Search (SameReply IgnoresWorld Settles)

variable {ω : Type}

/-! ## Sources whose state does not matter -/

/-- A source that answers the same in every state, the whole tooltip apart, which no word looks at. -/
structure Source.Steady (source : Source ω) : Prop where
  describe : ∀ item, SameReply (source.describe item) (source.describe item)
  isEquippable : ∀ item, SameReply (source.isEquippable item) (source.isEquippable item)
  line : ∀ item i, SameReply (source.line item i) (source.line item i)

theorem Catalog.steady_source (c : Catalog) : (c.source : Source ω).Steady where
  describe _ := .ofExcept _
  isEquippable _ := .ofExcept _
  line _ _ := .ofExcept _

/-- Two memories that remember the same. -/
def Memory.Agrees (m m' : Memory ω) : Prop := m.remembered = m'.remembered

theorem Memory.agrees_ignoresWorld :
    IgnoresWorld (Memory.Agrees : Memory ω → Memory ω → Prop) :=
  fun _ _ _ _ h => h

theorem Search.recallOr_alike (key : BindKey) {x : Search ω Bool} (h : SameReply x x) :
    Search.Alike Memory.Agrees (recallOr key (.ofWorld x)) (recallOr key (.ofWorld x)) := by
  refine .get_bind fun m m' hm => ?_
  have hresult : m.result? key = m'.result? key := by
    unfold Memory.result?
    rw [hm]
  rw [hresult]
  cases m'.result? key with
  | some found => exact .ok hm
  | none =>
    have hcompute := Search.Alike.ofWorld Memory.agrees_ignoresWorld h
    refine Search.Alike.bind hcompute (fun found => ?_) m m' hm
    exact fun n n' hn => .ok (congrArg (· ++ [(key, found)]) hn)

namespace Attribute

variable {source : Source ω}

theorem scanLines_sameReply (h : source.Steady) (item : Text) (sought : Json.Key) (is : List Int) :
    SameReply (scanLines source item sought is) (scanLines source item sought is) := by
  induction is with
  | nil => exact .pure false
  | cons i is ih =>
    refine .bind (h.line item i) fun line? => ?_
    cases line? with
    | none => exact .pure false
    | some line =>
      by_cases hline : .text line = sought
      · simp only [hline, ↓reduceIte]
        exact .pure true
      · simp only [hline, ↓reduceIte]
        exact ih

theorem bind_evaluate_alike (h : source.Steady) (keywords : BindKeywords) (cache : Nat)
    (item : Text) (operator : Option Text) (capture : Json) :
    Search.Alike Memory.Agrees ((bind source keywords cache).evaluate item operator capture)
      ((bind source keywords cache).evaluate item operator capture) := by
  refine .bind (.ofExcept _) fun id? => ?_
  cases id? with
  | none => exact .pure false
  | some id =>
    cases capture.key? with
    | none => exact .throw _
    | some sought => exact Search.recallOr_alike _ (scanLines_sameReply h item sought bindLines)

end Attribute

/-! ## Words and tags of the built-in attributes -/

namespace Engine

variable (source : Source ω) (sets : NamedSets) (item : Text) {x : Text}

/-- Whether an item answers to a text behind a tag. -/
def acceptsTagged (e : Engine ω) (item x : Text) (tag : String) : Search (Memory ω) Bool :=
  e.accepts (some item) (some (tag.toList ++ ':' :: x))

/-- Whether a word is a bind keyword and the item is bound so. -/
def isBoundAs (x : Text) : Search (Memory ω) Bool :=
  match Attribute.defaultKeywords.capture? x with
  | none => return false
  | some capture =>
    (Attribute.bind source Attribute.defaultKeywords ownCache).evaluate item none capture

theorem acceptsTagged_of_resolve? {tag : String} (hx : Atom.IsPlain x)
    (htag : tag.toList ≠ [] ∧ tag.toList.all Text.isAlphanumeric = true)
    (hsmall : Text.lower tag.toList = tag.toList) {p : Predicate (Memory ω)}
    (hresolve : (builtIn source sets).resolve? tag.toList = some p) :
    (ofSource source sets).acceptsTagged item x tag = p.judge item none x := by
  have hjudged := (builtIn source sets).evaluate_behindTag item
    ⟨htag.1, List.all_eq_true.mp htag.2⟩ hsmall .colon hx (List.forall_mem_nil _)
    (List.forall_mem_nil _)
  have hquery : tag.toList ++ [':'] ++ [] ++ x ++ [] = tag.toList ++ ':' :: x := by simp
  rw [hresolve, hquery] at hjudged
  exact hjudged

/-- What the tagged queries of a plain text ask. -/
theorem acceptsTagged_eq (hx : Atom.IsPlain x) :
    let e := ofSource source sets
    e.acceptsTagged item x "n" = (Attribute.name source).judge item none x ∧
      e.acceptsTagged item x "t" = (Attribute.kind source).judge item none x ∧
      e.acceptsTagged item x "q" = (Attribute.quality source).judge item none x ∧
      e.acceptsTagged item x "l" = (Attribute.level source).judge item none x ∧
      e.acceptsTagged item x "s" = (Attribute.sets source sets).judge item none x := by
  refine ⟨?name, ?kind, ?quality, ?level, ?sets⟩
  case name => exact acceptsTagged_of_resolve? source sets item hx (by decide) (by decide) rfl
  case kind => exact acceptsTagged_of_resolve? source sets item hx (by decide) (by decide) rfl
  case quality => exact acceptsTagged_of_resolve? source sets item hx (by decide) (by decide) rfl
  case level => exact acceptsTagged_of_resolve? source sets item hx (by decide) (by decide) rfl
  case sets => exact acceptsTagged_of_resolve? source sets item hx (by decide) (by decide) rfl

/-- What a word without a tag asks. -/
theorem accepts_untagged (hx : Atom.IsWord x) :
    (ofSource source sets).accepts (some item) (some x) =
      .anyOf [(Attribute.name source).judge item none x, (Attribute.kind source).judge item none x,
        (Attribute.quality source).judge item none x, (Attribute.level source).judge item none x,
        isBoundAs source item x, (Attribute.sets source sets).judge item none x] := by
  have hbind : (Attribute.bind source Attribute.defaultKeywords ownCache).judge item none x =
      isBoundAs source item x :=
    Predicate.judge_of_canSearch item rfl
  show (builtIn source sets).evaluate item x = _
  rw [Registry.evaluate_word _ item hx, Registry.probe_eq, ← hbind]
  rfl

variable {source sets item}

/-- What is asked of the described item is answered without regard to what is remembered, and leaves
that as it is. -/
theorem settles_of_described (h : source.Steady) (hx : Atom.IsPlain x) {m : Memory ω}
    {tag : String} (htag : tag ∈ ["n", "t", "q", "l"]) {b : Bool}
    (hb : ((ofSource source sets).acceptsTagged item x tag).reply m = .ok b) :
    Settles m.Agrees ((ofSource source sets).acceptsTagged item x tag) b := by
  let R (n n' : Memory ω) : Prop := m.Agrees n ∧ m.Agrees n'
  have hR : IgnoresWorld R := fun _ _ _ _ h => h
  have hdescribe := h.describe item
  obtain ⟨hn, ht, hq, hl, -⟩ := acceptsTagged_eq source sets item hx
  have halike : Search.Alike R ((ofSource source sets).acceptsTagged item x tag)
      ((ofSource source sets).acceptsTagged item x tag) := by
    simp only [List.mem_cons, List.not_mem_nil, or_false] at htag
    rcases htag with rfl | rfl | rfl | rfl
    · rw [hn]
      exact (Attribute.name_alike hR hdescribe).judge none x
    · rw [ht]
      exact (Attribute.kind_alike hR hdescribe).judge none x
    · rw [hq]
      exact (Attribute.quality_alike hR rfl hdescribe).judge none x
    · rw [hl]
      exact (Attribute.level_alike hR hdescribe).judge none x
  exact halike.settles rfl hb

theorem isBoundAs_alike (h : source.Steady) (item x : Text) :
    Search.Alike Memory.Agrees (isBoundAs source item x) (isBoundAs source item x) := by
  unfold isBoundAs
  cases Attribute.defaultKeywords.capture? x with
  | none => exact .pure false
  | some capture => exact Attribute.bind_evaluate_alike h _ _ item none capture

theorem sets_sameReply (h : source.Steady) (sets : NamedSets) (item x : Text) :
    SameReply ((Attribute.sets source sets).judge item none x)
      ((Attribute.sets source sets).judge item none x) :=
  (Attribute.sets_alike (fun _ _ _ _ _ => trivial) rfl (h.isEquippable item) sets).judge none x

/-- Asking everything in turn comes to the disjunction of what each would reply at first. The bind
keyword finds remembered what was remembered at first, and the sets do not look. -/
theorem reply_untagged (h : source.Steady) (hx : Atom.IsWord x) {m : Memory ω}
    {answer : String → Bool} {bound : Bool}
    (hanswer : ∀ tag ∈ ["n", "t", "q", "l", "s"],
      ((ofSource source sets).acceptsTagged item x tag).reply m = .ok (answer tag))
    (hbound : (isBoundAs source item x).reply m = .ok bound) :
    ((ofSource source sets).accepts (some item) (some x)).reply m =
      .ok (["n", "t", "q", "l"].any answer || (bound || answer "s")) := by
  let asked := (ofSource source sets).acceptsTagged item x
  obtain ⟨hn, ht, hq, hl, hs⟩ := acceptsTagged_eq source sets item hx.toIsPlain
  have hasks : (ofSource source sets).accepts (some item) (some x) =
      .anyOf (["n", "t", "q", "l"].map asked ++ [isBoundAs source item x, asked "s"]) := by
    rw [accepts_untagged source sets item hx, ← hn, ← ht, ← hq, ← hl, ← hs]
    rfl
  have hdescribed : Settles m.Agrees (.anyOf (["n", "t", "q", "l"].map asked))
      (["n", "t", "q", "l"].any answer) :=
    .anyOf fun tag htag => settles_of_described h hx.toIsPlain htag
      (hanswer tag (List.mem_append_left ["s"] htag))
  obtain ⟨m₁, hm₁, hrun₁⟩ := hdescribed m rfl
  obtain ⟨m₂, hrun₂⟩ := Search.exists_run_of_reply
    (((isBoundAs_alike h item x).reply_eq hm₁).symm.trans hbound)
  have hsets : (asked "s").reply m₂ = .ok (answer "s") := by
    rw [← hanswer "s" (by simp)]
    show (asked "s").reply m₂ = (asked "s").reply m
    rw [show asked "s" = (Attribute.sets source sets).judge item none x from hs]
    exact (sets_sameReply h sets item x).reply_eq trivial
  obtain ⟨m₃, hrun₃⟩ := Search.exists_run_of_reply hsets
  rw [hasks, Search.anyOf_append, Search.reply_bind_ite hrun₁, Search.anyOf,
    Search.reply_bind_ite hrun₂, Search.anyOf, Search.reply_bind_ite hrun₃]
  cases ["n", "t", "q", "l"].any answer <;> cases bound <;> cases answer "s" <;> rfl

/-- A word is accepted exactly when it is accepted behind the tag of the name, the kind, the quality,
the level or the sets, or as a bind keyword. The tooltip has no part in it, whatever it says. -/
theorem accepts_word (source : Source ω) (sets : NamedSets) (item : Text) (hx : Atom.IsWord x) :
    let e := ofSource source sets
    let asked := e.acceptsTagged item x
    e.accepts (some item) (some x) = .anyOf [asked "n", asked "t", asked "q", asked "l",
        isBoundAs source item x, asked "s"] ∧
      (source.Steady → ∀ m, (∀ tag ∈ ["n", "t", "q", "l", "s"], ∃ b, (asked tag).reply m = .ok b) →
        (∃ b, (isBoundAs source item x).reply m = .ok b) →
        ∃ answer, (e.accepts (some item) (some x)).reply m = .ok answer ∧
          (answer = true ↔ (∃ tag ∈ ["n", "t", "q", "l", "s"], (asked tag).reply m = .ok true) ∨
            (isBoundAs source item x).reply m = .ok true)) ∧
      ∀ lines, (ofSource { source with lines := lines } sets).accepts (some item) (some x) =
        e.accepts (some item) (some x) := by
  intro e asked
  have hplain := hx.toIsPlain
  refine ⟨?asks, ?reply, ?lines⟩
  case asks =>
    obtain ⟨hn, ht, hq, hl, hs⟩ := acceptsTagged_eq source sets item hplain
    rw [accepts_untagged source sets item hx, ← hn, ← ht, ← hq, ← hl, ← hs]
  case reply =>
    intro hsteady m hasked hbound
    choose! answer hanswer using hasked
    obtain ⟨bound, hbound⟩ := hbound
    refine ⟨_, reply_untagged hsteady hx hanswer hbound, ?_⟩
    simp only [List.forall_mem_cons] at hanswer
    obtain ⟨hn, ht, hq, hl, hs, -⟩ := hanswer
    simp only [List.exists_mem_cons_iff, List.not_mem_nil, List.any_cons, List.any_nil, hn, ht, hq,
      hl, hs, hbound, Except.ok.injEq, Bool.or_eq_true]
    tauto
  case lines =>
    intro lines
    rw [accepts_untagged _ sets item hx, accepts_untagged source sets item hx]
    rfl

/-- A ring that is called bound in its tooltip, but not in the words that a keyword stands for. -/
def boundRing : Catalog :=
  { Catalog.empty with entries := [{
      id := 7
      name := "Ring".toList
      link := none
      kind := none
      subkind := none
      slot := none
      quality := some 2
      level := some 10
      equippable := some true
      tooltip := ["Ring", "Soulbound"].map String.toList }] }

/-- A bind keyword that stands in the tooltip, and nowhere else. -/
theorem accepts_word_bound :
    let source : Source Unit := boundRing.source
    let sets : NamedSets := ⟨[("bank".toList, [7])]⟩
    let e := ofSource source sets
    let item := "item:7".toList
    let x := "bound".toList
    let asked := e.acceptsTagged item x
    let m : Memory Unit := ⟨(), []⟩
    Atom.IsWord x ∧ source.Steady ∧
      (∀ tag ∈ ["n", "t", "q", "l", "s"], ∃ b, (asked tag).reply m = .ok b) ∧
      (∃ b, (isBoundAs source item x).reply m = .ok b) ∧ (asked "tt").reply m = .ok true ∧
      e.accepts (some item) (some x) = .anyOf [asked "n", asked "t", asked "q", asked "l",
        isBoundAs source item x, asked "s"] ∧
      (∃ answer, (e.accepts (some item) (some x)).reply m = .ok answer ∧
        (answer = true ↔ (∃ tag ∈ ["n", "t", "q", "l", "s"], (asked tag).reply m = .ok true) ∨
          (isBoundAs source item x).reply m = .ok true)) ∧
      ∀ lines, (ofSource { source with lines := lines } sets).accepts (some item) (some x) =
        e.accepts (some item) (some x) := by
  intro source sets e item x asked m
  have hx : Atom.IsWord x := {
    ne_nil := by decide
    trim_eq := by decide
    take?_eq := by decide
    lower_eq := by decide
    not_mem_bar := by decide
    not_mem_ampersand := by decide
    not_negated := by
      intro c hc
      rcases Registry.isNegation_iff.mp hc with rfl | rfl
      · decide
      · decide
    untagged := by decide }
  have hsteady : source.Steady := boundRing.steady_source
  have hasked : ∀ tag ∈ ["n", "t", "q", "l", "s"], ∃ b, (asked tag).reply m = .ok b := by
    simp only [List.forall_mem_cons]
    exact ⟨⟨false, by decide⟩, ⟨false, by decide⟩, ⟨false, by decide⟩, ⟨false, by decide⟩,
      ⟨false, by decide⟩, by simp⟩
  have hbound : ∃ b, (isBoundAs source item x).reply m = .ok b := ⟨false, by decide⟩
  obtain ⟨hasks, hreply, hlines⟩ := accepts_word source sets item hx
  exact ⟨hx, hsteady, hasked, hbound, by decide, hasks, hreply hsteady m hasked hbound, hlines⟩

end Engine

end ItemQuery
