import ItemQuery.Proofs.Attribute.Bind
import ItemQuery.Proofs.Catalog.Valid
import ItemQuery.Proofs.Query.Case
import ItemQuery.Proofs.Query.Order
import ItemQuery.Proofs.Query.Parse

/-!
Keywords of a bind predicate as queries. A query comes to the keywords in small letters, so that a
keyword in small letters finds an item that is bound by its text, unless a predicate that is offered
the query before fails (`Engine.accepts_keyword`). A keyword that is not in small letters is never
come to.
-/

namespace ItemQuery

open Search (Gives)

variable {σ ω α β : Type}

/-! ## What predicates keep of a state -/

namespace Search

/-- A computation that gives a value leaves a property of the state as it was. -/
def Keeps (P : σ → Prop) (x : Search σ α) : Prop := ∀ s a s', P s → x s = .ok a s' → P s'

variable {P : σ → Prop}

theorem Keeps.pure (a : α) : Keeps P (Pure.pure a) := by
  rintro s _ _ hs ⟨⟩
  exact hs

theorem Keeps.throw (fault : Fault) : Keeps P (MonadExcept.throw fault : Search σ α) :=
  fun _ _ _ _ hrun => nomatch hrun

theorem Keeps.ofExcept (x : Except Fault α) : Keeps P (Search.ofExcept x) := by
  cases x with
  | ok a => exact .pure a
  | error fault => exact .throw fault

theorem Keeps.bind {x : Search σ α} {f : α → Search σ β} (hx : Keeps P x)
    (hf : ∀ a, Keeps P (f a)) : Keeps P (x >>= f) := by
  intro s b s' hs hrun
  cases hfirst : x s with
  | error fault s₁ =>
    rw [bind_of_error hfirst] at hrun
    cases hrun
  | ok a s₁ =>
    rw [bind_of_ok hfirst] at hrun
    exact hf a s₁ b s' (hx s a s₁ hs hfirst) hrun

theorem Keeps.anyOf {xs : List (Search σ Bool)} (h : ∀ x ∈ xs, Keeps P x) : Keeps P (anyOf xs) := by
  induction xs with
  | nil => exact .pure false
  | cons x xs ih =>
    obtain ⟨hx, hxs⟩ := List.forall_mem_cons.mp h
    refine .bind hx fun answer => ?_
    cases answer with
    | true => exact .pure true
    | false => exact ih hxs

theorem Keeps.ofWorld {P : Memory ω → Prop} (hP : ∀ m w, P m → P { m with world := w })
    (x : Search ω α) : Keeps P (Search.ofWorld x) := by
  intro m a m' hm hrun
  cases hx : x m.world with
  | error fault w => cases (ofWorld_of_error hx).symm.trans hrun
  | ok a' w =>
    cases (ofWorld_of_ok hx).symm.trans hrun
    exact hP m w hm

end Search

/-- Judging an item by a text, a predicate puts nothing into a cache that is empty. -/
def Predicate.Spares (cache : Nat) (item text : Text) (p : Predicate (Memory ω)) : Prop :=
  Search.Keeps (fun m => m.cacheSize cache = 0) (p.judge item none text)

theorem Predicate.keeps_judge {P : σ → Prop} {p : Predicate σ} {item : Text}
    (hcan : ∀ operator text, Search.Keeps P (p.canSearch operator text))
    (heval : ∀ operator capture, Search.Keeps P (p.evaluate item operator capture))
    (operator : Option Text) (text : Text) : Search.Keeps P (p.judge item operator text) := by
  refine .bind (hcan _ text) fun capture? => ?_
  cases capture? with
  | none => exact .pure false
  | some capture => exact .bind (heval _ capture) fun answer => .pure _

namespace Attribute

open Search (Keeps)

theorem keeps_matchCapture {P : σ → Prop} (capture : Json) (candidates : List (Option Text)) :
    Keeps P (matchCapture capture candidates) := by
  unfold matchCapture
  cases capture.asText? with
  | none => exact .throw _
  | some fragment => exact .pure _

theorem keeps_compareCapture {P : σ → Prop} (operator : Option Text) (n : Int) (capture : Json) :
    Keeps P (compareCapture operator n capture) := by
  unfold compareCapture
  cases capture.asNumber? with
  | some m => exact .pure _
  | none =>
    by_cases h : Relation.ofOperator operator = .equal
    · simp only [h, ↓reduceIte]
      exact .pure _
    · simp only [h, ↓reduceIte]
      exact .throw _

section Described

variable (source : Source ω) (cache : Nat) (item : Text)

theorem keeps_describe :
    Keeps (fun m => m.cacheSize cache = 0) (Search.ofWorld (source.describe item)) :=
  .ofWorld (fun _ _ h => h) _

theorem keeps_readNumber {P : σ → Prop} (text : Text) :
    Keeps P (do return (← Search.ofExcept (Number.read? text)).map Json.number) :=
  .bind (.ofExcept _) fun _ => .pure _

theorem name_spares (text : Text) : (name source).Spares cache item text := by
  refine Predicate.keeps_judge (fun _ _ => .pure _) (fun _ capture => ?_) none text
  refine .bind (keeps_describe source cache item) fun profile? => ?_
  cases profile? with
  | none => exact .pure false
  | some profile => exact keeps_matchCapture _ _

theorem kind_spares (text : Text) : (kind source).Spares cache item text := by
  refine Predicate.keeps_judge (fun _ _ => .pure _) (fun _ capture => ?_) none text
  refine .bind (keeps_describe source cache item) fun profile? => ?_
  cases profile? with
  | none => exact .pure false
  | some profile => exact keeps_matchCapture _ _

theorem quality_spares (text : Text) : (quality source).Spares cache item text := by
  refine Predicate.keeps_judge (fun _ x => ?_) (fun operator capture => ?_) none text
  · unfold quality
    dsimp only
    cases tierFor? source.qualityLabels x with
    | some tier => exact .pure _
    | none => exact keeps_readNumber x
  · refine .bind (keeps_describe source cache item) fun profile? => ?_
    cases profile?.bind Profile.quality with
    | none => exact .pure false
    | some tier => exact keeps_compareCapture _ _ _

theorem level_spares (text : Text) : (level source).Spares cache item text := by
  refine Predicate.keeps_judge (fun _ x => keeps_readNumber x) (fun operator capture => ?_) none text
  refine .bind (keeps_describe source cache item) fun profile? => ?_
  cases profile?.bind Profile.level with
  | none => exact .pure false
  | some level => exact keeps_compareCapture _ _ _

/-- The attributes that a profile answers remember nothing. -/
theorem spares_of_described (text : Text) :
    ∀ p ∈ [name source, kind source, quality source, level source], p.Spares cache item text := by
  simp only [List.forall_mem_cons]
  exact ⟨name_spares source cache item text, kind_spares source cache item text,
    quality_spares source cache item text, level_spares source cache item text,
    List.forall_mem_nil _⟩

end Described

end Attribute

/-! ## Keywords and their texts -/

namespace Attribute

variable {source : Source ω} {keywords : BindKeywords} {cache : Nat} {item x t : Text} {id : Int}
  {m : Memory ω}

/-- A text that is no keyword is not understood. -/
theorem bind_judge_of_capture?_eq_none (h : keywords.capture? x = none) :
    (bind source keywords cache).judge item none x = pure false := by
  have hrefuses : (bind source keywords cache).canSearch none x = pure none := congrArg pure h
  exact Predicate.judge_of_canSearch item hrefuses

theorem scanLines_second (h : Gives (source.line item 2) (some t)) (w : ω) :
    ∃ w', scanLines source item (.text t) bindLines w = .ok true w' := by
  obtain ⟨w', -, hrun⟩ := h w trivial
  refine ⟨w', ?_⟩
  rw [bindLines, scanLines, Search.bind_of_ok hrun]
  simp only [↓reduceIte]
  rfl

/-- A keyword says yes to an item with its text in the second line, from an empty cache. -/
theorem bind_judge_reply (hkeyword : keywords.lookup x = some (.text t))
    (hid : Link.itemId? item = .ok (some id)) (hline : Gives (source.line item 2) (some t))
    (hm : m.cacheSize cache = 0) :
    ((bind source keywords cache).judge item none x).reply m = .ok true := by
  let check : BindCheck ω := ⟨source, keywords, cache, item, none, t⟩
  have hcapture : keywords.capture? x = some (.text t) := by rw [BindKeywords.capture?, hkeyword]
  have hkey : check.key? = .ok (some ⟨cache, .text t, id⟩) := by
    show (do return (← Link.itemId? item).map _ : Except Fault (Option BindKey)) = _
    rw [hid]
    rfl
  have hmiss : check.Misses m ⟨cache, .text t, id⟩ := ⟨hkey, Memory.result?_eq_none_of_cacheSize hm⟩
  obtain ⟨w, hscan⟩ := scanLines_second hline m.world
  rw [Predicate.judge_of_canSearch item (congrArg pure hcapture)]
  show check.run.reply m = _
  rw [Search.reply, hmiss.run_of_ok hscan]

end Attribute

/-! ## Keywords as queries -/

namespace Registry

theorem probe_cons_of_untagged {p : Predicate σ} (hp : p.tagOnly = false) (item : Text)
    (operator : Option Text) (text : Text) (ps : List (Predicate σ)) :
    probe item operator text (p :: ps) = (do
      if ← p.judge item operator text then return true else probe item operator text ps) := by
  rw [probe, hp]
  rfl

theorem keeps_probe {P : σ → Prop} {item text : Text} {operator : Option Text}
    {ps : List (Predicate σ)}
    (h : ∀ p ∈ ps, p.tagOnly = false → Search.Keeps P (p.judge item operator text)) :
    Search.Keeps P (probe item operator text ps) := by
  rw [probe_eq]
  refine .anyOf fun x hx => ?_
  obtain ⟨p, hp, rfl⟩ := List.mem_map.mp hx
  obtain ⟨hmem, huntagged⟩ := List.mem_filter.mp hp
  exact h p hmem (by simpa using huntagged)

/-- Of a query nothing but its small form comes to the predicates. -/
theorem evaluate_lower_word (r : Registry σ) (item : Text) {q k : Text} (hk : Atom.IsWord k)
    (hq : Text.lower q = k) : r.evaluate item q = probe item none k r.predicates := by
  rw [r.evaluate_of_lower_eq item (hq.trans hk.lower_eq.symm), r.evaluate_word item hk]

end Registry

namespace Engine

open Registry (probe)

variable {e : Engine ω} {source : Source ω} {keywords : Attribute.BindKeywords} {cache : Nat}
  {before after : List (Predicate (Memory ω))} {item k q : Text}

/-- A keyword in small letters, in whatever case it is asked for, accepts an item that has its text in
the second line of the tooltip, unless one of the predicates before fails, and then with that fault.
Where the small form of a query is no keyword, there might as well be no bind predicate. -/
theorem accepts_keyword
    (hregistry : e.registry.predicates = before ++ Attribute.bind source keywords cache :: after)
    (hk : Atom.IsWord k) (hq : Text.lower q = k) :
    (∀ id t, keywords.lookup k = some (.text t) → Link.itemId? item = .ok (some id) →
      Gives (source.line item 2) (some t) →
      (∀ p ∈ before, p.tagOnly = false → p.Spares cache item k) →
      ∀ m, m.cacheSize cache = 0 → (e.accepts (some item) (some q)).reply m =
        ((probe item none k before).reply m).map fun _ => true) ∧
    (keywords.capture? k = none → e.accepts (some item) (some q) =
      (Registry.mk (before ++ after)).evaluate item q) := by
  have hasked : e.accepts (some item) (some q) = (do
      if ← probe item none k before then return true
      else probe item none k (Attribute.bind source keywords cache :: after)) := by
    show e.registry.evaluate item q = _
    rw [e.registry.evaluate_lower_word item hk hq, hregistry, Registry.probe_append]
  refine ⟨?keyword, ?other⟩
  case keyword =>
    intro id t hkeyword hid hline hspares m hm
    rw [hasked]
    cases hbefore : probe item none k before m with
    | error fault m' =>
      rw [Search.reply, Search.reply, Search.bind_of_error hbefore, hbefore]
      rfl
    | ok found m' =>
      have hempty : m'.cacheSize cache = 0 :=
        Registry.keeps_probe hspares m found m' hm hbefore
      obtain ⟨m'', hbound⟩ := Search.exists_run_of_reply
        (Attribute.bind_judge_reply hkeyword hid hline hempty)
      have hrest : (probe item none k (Attribute.bind source keywords cache :: after)).reply m' =
          .ok true := by
        rw [Registry.probe_cons_of_untagged rfl, Search.reply_bind_ite hbound]
        rfl
      rw [Search.reply_bind_ite hbefore, hrest, Search.reply, hbefore]
      cases found <;> rfl
  case other =>
    intro hnone
    have hrest : probe item none k (Attribute.bind source keywords cache :: after) =
        probe item none k after := by
      rw [Registry.probe_cons_of_untagged rfl, Attribute.bind_judge_of_capture?_eq_none hnone,
        pure_bind]
      rfl
    rw [hasked, hrest, Registry.evaluate_lower_word _ item hk hq, Registry.probe_append]

/-- The built-in predicates with other bind keywords, which have a cache of their own. -/
def withKeywords (source : Source ω) (keywords : Attribute.BindKeywords) : Engine ω :=
  { ofSource source ⟨[]⟩ with
    registry := (builtIn source ⟨[]⟩).insert (Attribute.bind source keywords (ownCache + 1)) }

/-- A catalog of one ring, with a text in the second line of its tooltip. -/
def ringBound (t : String) : Catalog :=
  .ofEntries [{ Entry.named 7 "Ring" with tooltip := ["Ring", t].map String.toList }]

/-- A keyword of another language, asked for with a capital. -/
theorem accepts_keyword_gebunden :
    let source : Source Unit := (ringBound "Seelengebunden").source
    let keywords := [("gebunden".toList, Json.text "Seelengebunden".toList)]
    let m : Memory Unit := ⟨(), []⟩
    Atom.IsWord "gebunden".toList ∧ Text.lower "Gebunden".toList = "gebunden".toList ∧
      keywords.lookup "gebunden".toList = some (.text "Seelengebunden".toList) ∧
      m.cacheSize (ownCache + 1) = 0 ∧
      ((withKeywords source keywords).accepts (some "item:7".toList)
        (some "Gebunden".toList)).reply m = .ok true := by
  intro source keywords m
  have hk : Atom.IsWord "gebunden".toList := by decide
  have hq : Text.lower "Gebunden".toList = "gebunden".toList := by decide
  have hline : Gives (source.line "item:7".toList 2) (some "Seelengebunden".toList) :=
    fun w _ => ⟨w, trivial, rfl⟩
  have hregistry : (withKeywords source keywords).registry.predicates =
      [Attribute.name source, Attribute.kind source, Attribute.quality source,
        Attribute.level source] ++ Attribute.bind source keywords (ownCache + 1) ::
        [Attribute.tooltip source, Attribute.sets source ⟨[]⟩] := rfl
  have hreply := (accepts_keyword hregistry hk hq).1 7 "Seelengebunden".toList rfl rfl hline
    (fun p hp _ => Attribute.spares_of_described source _ _ _ p hp) m rfl
  exact ⟨hk, hq, rfl, rfl, hreply⟩

/-- A keyword with capitals, asked for as it is. -/
theorem not_accepts_capitalKeyword :
    let source : Source Unit := (ringBound "Binds when equipped").source
    let keywords := [("BoE".toList, Json.text "Binds when equipped".toList)]
    let m : Memory Unit := ⟨(), []⟩
    keywords.lookup "BoE".toList = some (.text "Binds when equipped".toList) ∧
      Atom.parse? "BoE".toList = some ⟨"BoE".toList, none, none⟩ ∧
      Link.itemId? "item:7".toList = .ok (some 7) ∧
      source.line "item:7".toList 2 = pure (some "Binds when equipped".toList) ∧
      m.cacheSize (ownCache + 1) = 0 ∧
      ((withKeywords source keywords).accepts (some "item:7".toList)
        (some "BoE".toList)).reply m = .ok false :=
  ⟨rfl, by decide, rfl, rfl, rfl, by decide⟩

end Engine

end ItemQuery
