import ItemQuery.Proofs.Attribute.Alike
import ItemQuery.Proofs.Catalog.Valid
import ItemQuery.Proofs.Engine.Compared
import ItemQuery.Proofs.Item.Ref
import ItemQuery.Proofs.Listing.Text
import ItemQuery.Proofs.Query.Evaluate
import ItemQuery.Proofs.Query.Faults

/-!
What can go wrong in an engine over a catalog. All that is ever raised is that a number has too many
digits: the id in the reference, or a number in the query that the quality or the level is compared
with. Everything else that cannot be read settles an answer (`Catalog.engine_replies`). A number that
is too long fails for every item, known or not (`Engine.accepts_of_isOverlong`).
-/

namespace ItemQuery

open Search (Ends FaultsIn)

variable {ω σ : Type} {F : Fault → Prop} {item text : Text}

/-! ## Numbers with too many digits -/

/-- Whether a text denotes an integer with more digits than are ever read. -/
def Number.isOverlong (t : Text) : Bool :=
  (Literal.read? (Text.trim t)).any fun literal =>
    literal.fraction.isNone && decide (digitLimit < literal.whole.length)

theorem Number.read?_eq_error_iff {t : Text} {fault : Fault} :
    read? t = .error fault ↔ fault = .tooManyDigits ∧ isOverlong t = true := by
  unfold read? isOverlong
  cases Literal.read? (Text.trim t) with
  | none => simp
  | some literal =>
    obtain ⟨negative, whole, fraction?⟩ := literal
    cases fraction? with
    | some fraction => simp [Literal.value, Except.map]
    | none =>
      by_cases h : whole.length ≤ digitLimit
      · simp [Literal.value, Except.map, h]
      · simp [Literal.value, Except.map, h, Nat.lt_of_not_le h, eq_comm]

theorem Number.isNumeral_of_isOverlong {t : Text} (h : isOverlong t = true) :
    Literal.IsNumeral (Text.trim t) := by
  obtain ⟨literal, hread, -⟩ := (Option.any_eq_true _ _).mp h
  exact Literal.isNumeral_iff.mpr (Option.isSome_of_eq_some hread)

theorem Literal.isDigits_replicate {c : Char} (hc : c.isDigit = true) (n : Nat) :
    IsDigits (List.replicate (n + 1) c) where
  ne_nil := List.cons_ne_nil _ _
  isDigit d hd := by
    rw [List.eq_of_mem_replicate hd]
    exact hc

theorem Number.isOverlong_of_digits {digits : Text} (h : Literal.IsDigits digits)
    (hlong : digitLimit < digits.length) : Text.trim digits = digits ∧ isOverlong digits = true := by
  have hwrites : Literal.Writes _ digits := .integer List.mem_cons_self h
  have htrim := (Literal.IsNumeral.isPlain ⟨_, hwrites⟩).trim_eq
  refine ⟨htrim, ?_⟩
  rw [isOverlong, htrim, hwrites.read?_eq]
  simpa [Literal.digitValues] using hlong

theorem Catalog.find_eq_tooManyDigits_iff {c : Catalog} {fault : Fault} :
    c.find item = .error fault ↔ fault = .tooManyDigits ∧ Link.isOverlong item = true :=
  c.find_eq_error_iff.trans Link.itemId?_eq_error_iff

/-! ## The data of an item -/

/-- The one fault of an item: its reference names it by a number with too many digits. -/
def Link.Fails (item : Text) (F : Fault → Prop) : Prop := isOverlong item = true → F .tooManyDigits

namespace Catalog

variable {c : Catalog}

theorem itemId_ends (h : Link.Fails item F) :
    Ends (fun id? => Link.itemId? item = .ok id?) F
      (Search.ofExcept (Link.itemId? item) : Search σ (Option Int)) := by
  refine .ofExcept (fun _ hid => hid) fun fault hfault => ?_
  obtain ⟨rfl, hlong⟩ := Link.itemId?_eq_error_iff.mp hfault
  exact h hlong

/-- What is read off the entry that a reference leads to. -/
theorem found_ends {α : Type} (h : Link.Fails item F) (f : Option Entry → α) :
    FaultsIn F (Search.ofExcept (do return f (← c.find item)) : Search σ α) := by
  refine .ofExcept (fun _ _ => trivial) fun fault hfault => ?_
  have hfind : c.find item = .error fault := by
    cases hresult : c.find item with
    | error fault' =>
      rw [hresult] at hfault
      exact congrArg _ (Except.error.inj hfault)
    | ok entry? =>
      rw [hresult] at hfault
      cases hfault
  obtain ⟨rfl, hlong⟩ := find_eq_tooManyDigits_iff.mp hfind
  exact h hlong

theorem describe_ends (h : Link.Fails item F) :
    FaultsIn F ((c.source : Source ω).describe item) :=
  found_ends h _

theorem isEquippable_ends (h : Link.Fails item F) :
    FaultsIn F ((c.source : Source ω).isEquippable item) :=
  found_ends h _

theorem lines_ends (h : Link.Fails item F) : FaultsIn F ((c.source : Source ω).lines item) :=
  found_ends h _

end Catalog

/-! ## Attributes -/

def Json.IsText (v : Json) : Prop := ∃ t, v = .text t

def Json.IsNumber (v : Json) : Prop := ∃ n, v = .number n

namespace Attribute

variable {c : Catalog}

theorem plainCapture_ends (operator : Option Text) (text : Text) :
    Ends (Predicate.Captured Json.IsText) F
      (return plainCapture operator text : Search σ (Option Json)) := by
  refine .pure fun capture hcapture => ?_
  unfold plainCapture at hcapture
  split at hcapture
  · cases hcapture
  · exact ⟨text, (Option.some.inj hcapture).symm⟩

theorem matchCapture_ends (t : Text) (candidates : List (Option Text)) :
    FaultsIn F (matchCapture (.text t) candidates : Search σ Bool) :=
  .pure trivial

/-- A number as a capture; the query has to give one that can be read. -/
theorem readNumber_ends (h : Number.isOverlong text = true → F .tooManyDigits) :
    Ends (Predicate.Captured Json.IsNumber) F
      (do return (← Search.ofExcept (Number.read? text)).map .number : Search σ (Option Json)) := by
  have hread : FaultsIn F (Search.ofExcept (Number.read? text) : Search σ (Option Number)) := by
    refine .ofExcept (fun _ _ => trivial) fun fault hfault => ?_
    obtain ⟨rfl, hlong⟩ := Number.read?_eq_error_iff.mp hfault
    exact h hlong
  refine .bind hread fun n? _ => .pure fun capture hcapture => ?_
  obtain ⟨n, -, rfl⟩ := Option.map_eq_some_iff.mp hcapture
  exact ⟨n, rfl⟩

theorem compareCapture_ends (operator : Option Text) (n : Int) (m : Number) :
    FaultsIn F (compareCapture operator n (.number m) : Search σ Bool) :=
  .pure trivial

/-- A text is matched against parts of the profile. -/
theorem matchProfile_ends (h : Link.Fails item F) (t : Text) (parts : Profile → List (Option Text)) :
    FaultsIn F (do
      match ← Search.ofWorld ((c.source : Source ω).describe item) with
      | none => return false
      | some profile => matchCapture (.text t) (parts profile) : Search (Memory ω) Bool) := by
  refine .bind (.ofWorld (Catalog.describe_ends h)) fun profile? _ => ?_
  cases profile? with
  | none => exact .pure trivial
  | some profile => exact matchCapture_ends t _

theorem name_ends (h : Link.Fails item F) (atom : Atom) :
    (name (c.source : Source ω)).JudgesIn F item atom := by
  refine Predicate.judge_ends (fun operator => plainCapture_ends operator _) ?_ _
  rintro operator _ ⟨t, rfl⟩
  exact matchProfile_ends h t fun profile => [profile.name]

theorem kind_ends (h : Link.Fails item F) (atom : Atom) :
    (kind (c.source : Source ω)).JudgesIn F item atom := by
  refine Predicate.judge_ends (fun operator => plainCapture_ends operator _) ?_ _
  rintro operator _ ⟨t, rfl⟩
  exact matchProfile_ends h t fun profile => [profile.kind, profile.subkind, profile.slot]

theorem quality_ends (h : Link.Fails item F) {atom : Atom}
    (htext : Number.isOverlong atom.text = true → F .tooManyDigits) :
    (quality (c.source : Source ω)).JudgesIn F item atom := by
  have hcan (operator : Option Text) :
      Ends (Predicate.Captured Json.IsNumber) F
        ((quality (c.source : Source ω)).canSearch operator atom.text) := by
    unfold quality
    dsimp only
    cases tierFor? c.source.qualityLabels atom.text with
    | none => exact readNumber_ends htext
    | some tier => exact .pure fun capture hcapture => ⟨_, (Option.some.inj hcapture).symm⟩
  refine Predicate.judge_ends hcan ?_ _
  rintro operator _ ⟨m, rfl⟩
  refine .bind (.ofWorld (Catalog.describe_ends h)) fun profile? _ => ?_
  cases profile?.bind Profile.quality with
  | none => exact .pure trivial
  | some tier => exact compareCapture_ends operator tier m

theorem level_ends (h : Link.Fails item F) {atom : Atom}
    (htext : Number.isOverlong atom.text = true → F .tooManyDigits) :
    (level (c.source : Source ω)).JudgesIn F item atom := by
  refine Predicate.judge_ends (fun operator => readNumber_ends htext) ?_ _
  rintro operator _ ⟨m, rfl⟩
  refine .bind (.ofWorld (Catalog.describe_ends h)) fun profile? _ => ?_
  cases profile?.bind Profile.level with
  | none => exact .pure trivial
  | some level => exact compareCapture_ends operator level m

theorem defaultKeywords_capture {word : Text} {capture : Json}
    (h : defaultKeywords.capture? word = some capture) : capture.IsText := by
  have hlookup : defaultKeywords.lookup word = some capture := by
    unfold BindKeywords.capture? at h
    split at h
    · cases h
    · exact h
  obtain ⟨before, after, hsplit, -⟩ := List.lookup_eq_some_iff.mp hlookup
  have hmem : (word, capture) ∈ defaultKeywords := by simp [hsplit]
  obtain ⟨⟨keyword, t⟩, -, hentry⟩ := List.mem_map.mp hmem
  exact ⟨t.toList, (congrArg Prod.snd hentry).symm⟩

/-- The lines that are scanned belong to an entry that has been found already. -/
theorem bind_ends (h : Link.Fails item F) (cache : Nat) (atom : Atom) :
    (bind (c.source : Source ω) defaultKeywords cache).JudgesIn F item atom := by
  refine Predicate.judge_ends
    (fun operator => .pure fun capture hcapture => defaultKeywords_capture hcapture) ?_ _
  rintro operator _ ⟨t, rfl⟩
  refine .bind (Catalog.itemId_ends h) fun id? hid => ?_
  cases id? with
  | none => exact .pure trivial
  | some id =>
    refine FaultsIn.recallOr (.ofWorld ?_) _
    rw [scanLines_source c hid]
    exact .pure trivial

theorem tooltip_ends (h : Link.Fails item F) (atom : Atom) :
    (tooltip (c.source : Source ω)).JudgesIn F item atom := by
  have hcan (operator : Option Text) :
      Ends (Predicate.Captured Json.IsText) F
        ((tooltip (c.source : Source ω)).canSearch operator atom.text) := by
    refine .pure fun capture hcapture => ?_
    split at hcapture
    · cases hcapture
    · exact ⟨atom.text, (Option.some.inj hcapture).symm⟩
  refine Predicate.judge_ends hcan ?_ _
  rintro operator _ ⟨t, rfl⟩
  exact .bind (.ofWorld (Catalog.lines_ends h)) fun lines _ => matchCapture_ends t _

theorem inSet_ends (h : Link.Fails item F) (sets : NamedSets) (search : Text) :
    FaultsIn F ((c.source : Source ω).inSet sets item search) := by
  refine .bind (Catalog.isEquippable_ends h) fun equippable _ => .ite ?_ (.pure trivial)
  refine .bind (Catalog.itemId_ends h) fun id? _ => ?_
  cases id? with
  | none => exact .pure trivial
  | some id => exact .pure trivial

theorem sets_ends (h : Link.Fails item F) (named : NamedSets) (atom : Atom) :
    (sets (c.source : Source ω) named).JudgesIn F item atom := by
  refine Predicate.judge_ends (fun operator => plainCapture_ends operator _) ?_ _
  rintro operator _ ⟨t, rfl⟩
  exact .ofWorld (inSet_ends h named t)

end Attribute

/-! ## Numbers that cannot be compared with -/

/-- A number with too many digits behind a tag of the level fails for every item, under every operator
or none, and so it does behind a tag of the quality unless a label contains it. -/
theorem Engine.accepts_of_isOverlong (source : Source ω) (sets : NamedSets) (item : Text)
    {tag mark x : Text} {op? : Option Text} (htag : tag ∈ levelTags ∨
      tag ∈ qualityTags ∧ Attribute.Unlabelled source.qualityLabels x)
    (hmark : Operator.Marks mark op?) (htrim : Text.trim x = x) (hlong : Number.isOverlong x = true)
    (m : Memory ω) :
    ((ofSource source sets).accepts (some item) (some (tag ++ mark ++ x))).reply m =
      .error .tooManyDigits := by
  have hread : (do return (← Search.ofExcept (Number.read? x)).map .number :
      Search (Memory ω) (Option Json)) = throw .tooManyDigits := by
    rw [Number.read?_eq_error_iff.mpr ⟨rfl, hlong⟩]
    rfl
  have hplain : Atom.IsPlain x := htrim ▸ (Number.isNumeral_of_isOverlong hlong).isPlain
  obtain ⟨p, hreaches, hcan⟩ : ∃ p, (builtIn source sets).Reaches tag p ∧
      p.canSearch (Operator.asked op?) x m = .error .tooManyDigits m := by
    rcases htag with hlevel | ⟨hquality, hunlabelled⟩
    · exact ⟨_, reaches_level source sets tag hlevel, congrFun hread m⟩
    · refine ⟨_, reaches_quality source sets tag hquality, ?_⟩
      rw [Attribute.quality_canSearch, Attribute.tierFor?_eq_none_iff.mpr hunlabelled]
      exact congrFun hread m
  have hjudged := (builtIn source sets).evaluate_behindTag item hreaches.toIsTag hreaches.lower_eq
    hmark hplain (List.forall_mem_nil _) (List.forall_mem_nil _)
  have hquery : tag ++ mark ++ [] ++ x ++ [] = tag ++ mark ++ x := by simp
  rw [hquery, hreaches.resolve?_eq] at hjudged
  exact (congrArg (Search.reply · m) hjudged).trans (Predicate.reply_judge_of_fault hcan)

/-! ## The engine over a catalog -/

/-- Whether a predicate compares numbers. -/
def Predicate.isNumeric (p : Predicate σ) : Bool :=
  p.id == "quality".toList || p.id == "level".toList

variable {c : Catalog} {e : Engine ω}

theorem Engine.builtIn_ends {sets : NamedSets} {atom : Atom} (h : Link.Fails item F)
    {p : Predicate (Memory ω)} (hp : p ∈ (builtIn c.source sets).predicates)
    (htext : p.isNumeric = true → Number.isOverlong atom.text = true → F .tooManyDigits) :
    p.JudgesIn F item atom := by
  rw [builtIn_predicates] at hp
  simp only [List.mem_cons, List.not_mem_nil, or_false] at hp
  rcases hp with rfl | rfl | rfl | rfl | rfl | rfl | rfl
  · exact Attribute.name_ends h atom
  · exact Attribute.kind_ends h atom
  · exact Attribute.quality_ends h (htext rfl)
  · exact Attribute.level_ends h (htext rfl)
  · exact Attribute.bind_ends h _ atom
  · exact Attribute.tooltip_ends h atom
  · exact Attribute.sets_ends h sets atom

theorem Catalog.engine_eq_ok {chosen : Option Text} {fallback : Text}
    (h : c.engine chosen fallback = .ok e) : ∃ sets, e = .ofSource c.source sets := by
  obtain ⟨sets, -, he⟩ := Except.bind_eq_ok h
  exact ⟨sets, (Except.ok.inj he).symm⟩

/-- What a query over a catalog can fail for. -/
theorem Engine.accepts_ends {sets : NamedSets} {query : Text} (h : Link.Fails item F)
    (hquery : ∀ atom ∈ Atom.ofQuery query, ∀ p ∈ (builtIn (c.source : Source ω) sets).reached atom,
      p.isNumeric = true → Number.isOverlong atom.text = true → F .tooManyDigits) :
    FaultsIn F ((ofSource (c.source : Source ω) sets).accepts (some item) (some query)) :=
  Registry.evaluate_ends fun atom hatom p hp =>
    builtIn_ends h (Registry.mem_of_mem_reached hp) (hquery atom hatom p hp)

theorem Engine.inSet_ends {sets : NamedSets} (h : Link.Fails item F) (search : Option Text) :
    FaultsIn F ((ofSource (c.source : Source ω) sets).inSet (some item) search) :=
  .ofWorld (Attribute.inSet_ends h sets _)

theorem Engine.inSet_of_overlong {sets : NamedSets} (h : Link.isOverlong item = true)
    (search : Option Text) (m : Memory ω) :
    ((ofSource (c.source : Source ω) sets).inSet (some item) search).reply m =
      .error .tooManyDigits := by
  have hfind : c.find item = .error .tooManyDigits := Catalog.find_eq_tooManyDigits_iff.mpr ⟨rfl, h⟩
  have hequip : (c.source : Source ω).isEquippable item = throw .tooManyDigits := by
    simp only [Catalog.source, Catalog.isEquippable, hfind]
    rfl
  simp only [inSet, ofSource, Source.inSet, hequip]
  rfl

namespace Listing

theorem fails_ref {entry : Entry} (hdefect : entry.linkDefect? = none)
    (h : isReadable entry.id = false → F .tooManyDigits) : Link.Fails entry.ref F := by
  intro hlong
  have hid := Link.itemId?_eq_error_iff.mpr ⟨rfl, hlong⟩
  rw [Entry.itemId?_ref hdefect] at hid
  cases hread : isReadable entry.id with
  | false => exact h hread
  | true =>
    rw [if_pos hread] at hid
    cases hid

theorem ref?_ends {entry : Entry} (hdefect : entry.linkDefect? = none)
    (h : isReadable entry.id = false → F .tooManyDigits) :
    Ends (fun ref => entry.ref? = .ok ref) F (Search.ofExcept entry.ref? : Search σ Text) := by
  refine .ofExcept (fun _ href => href) fun fault hfault => ?_
  rw [Entry.ref?_of_linkDefect? hdefect] at hfault
  split at hfault
  · cases hfault
  · rename_i hlong
    cases hfault
    exact h (by simpa using hlong)

/-- What is said of an entry can only fail to show its id. -/
theorem title_ends {entry : Entry} (h : isReadable entry.id = false → F .tooManyDigits)
    (said : Text → Text) :
    FaultsIn F (do return said (← Search.ofExcept entry.title) : Search σ Text) := by
  have htitle : FaultsIn F (Search.ofExcept entry.title : Search σ Text) := by
    refine .ofExcept (fun _ _ => trivial) fun fault hfault => ?_
    rw [entry.title_eq] at hfault
    split at hfault
    · cases hfault
    · rename_i hlong
      cases hfault
      exact h (by simpa using hlong)
  exact .bind htitle fun _ _ => .pure trivial

theorem checkSet_ends {sets : NamedSets} (hdefect : ∀ entry ∈ c.entries, entry.linkDefect? = none)
    (h : Link.Fails item F)
    (hentry : ∀ entry, c.find item = .ok (some entry) → isReadable entry.id = false →
      F .tooManyDigits) (search : Text) :
    FaultsIn F (checkSet (.ofSource (c.source : Source ω) sets) c item search) := by
  have hfind : Ends (fun entry? => c.find item = .ok entry?) F
      (Search.ofExcept (c.find item) : Search (Memory ω) (Option Entry)) := by
    refine .ofExcept (fun _ hfound => hfound) fun fault hfault => ?_
    obtain ⟨rfl, hlong⟩ := Catalog.find_eq_tooManyDigits_iff.mp hfault
    exact h hlong
  refine .bind hfind fun entry? hfound => ?_
  cases entry? with
  | none => exact .pure trivial
  | some entry =>
    have hlink := hdefect entry (Catalog.mem_of_find hfound)
    have href := fails_ref hlink (hentry entry hfound)
    have htitle := title_ends (σ := Memory ω) (hentry entry hfound)
    refine .bind (ref?_ends hlink (hentry entry hfound)) fun ref hreferred => ?_
    obtain rfl := Entry.ref_of_ref? hreferred
    exact .bind (Catalog.found_ends href _) fun equippable _ =>
      .ite (.bind (Engine.inSet_ends href _) fun found _ => .ite (htitle _) (htitle _)) (htitle _)

end Listing

/-- What an engine over a valid catalog replies to a reference and a query. Nothing is raised but that
a number has too many digits: the id in the reference, a number in the query that is compared, or the
id of the entry that was found. A reference that leads to no entry is told not to be found. -/
theorem Catalog.engine_replies {data : Json} (hread : read data = .valid c) {chosen : Option Text}
    {fallback : Text} (h : c.engine chosen fallback = .ok e) (m : Memory ω)
    (item query search : Text) :
    ((∃ b, (e.accepts (some item) (some query)).reply m = .ok b) ∨
      (e.accepts (some item) (some query)).reply m = .error .tooManyDigits ∧
        (Link.isOverlong item = true ∨ ∃ atom ∈ Atom.ofQuery query, ∃ p ∈ e.registry.reached atom,
          p.isNumeric = true ∧ Number.isOverlong atom.text = true)) ∧
    (if Link.isOverlong item = true then
      (e.inSet (some item) (some search)).reply m = .error .tooManyDigits
    else ∃ b, (e.inSet (some item) (some search)).reply m = .ok b) ∧
    ((∃ t, (Listing.checkSet e c item search).reply m = .ok t) ∨
      (Listing.checkSet e c item search).reply m = .error .tooManyDigits ∧
        (Link.isOverlong item = true ∨
          ∃ entry, c.find item = .ok (some entry) ∧ isReadable entry.id = false)) ∧
    (c.find item = .ok none → (Listing.checkSet e c item search).reply m =
      .ok ("Item not found: ".toList ++ item)) := by
  obtain ⟨sets, rfl⟩ := engine_eq_ok h
  have hdefect := linkDefect?_of_read hread
  refine ⟨?accepts, ?inSet, ?checkSet, ?notFound⟩
  case accepts =>
    refine FaultsIn.reply_cases (Engine.accepts_ends ?_ ?_) m
    · exact fun hlong => ⟨rfl, .inl hlong⟩
    · exact fun atom hatom p hp hnumeric hlong => ⟨rfl, .inr ⟨atom, hatom, p, hp, hnumeric, hlong⟩⟩
  case inSet =>
    by_cases hlong : Link.isOverlong item = true
    · rw [if_pos hlong]
      exact Engine.inSet_of_overlong hlong _ m
    · rw [if_neg hlong]
      have hfails : Link.Fails item fun fault => fault = .tooManyDigits ∧ False :=
        fun h => absurd h hlong
      exact (FaultsIn.reply_cases (Engine.inSet_ends hfails (some search)) m).resolve_right (·.2)
  case checkSet =>
    refine FaultsIn.reply_cases (Listing.checkSet_ends hdefect ?_ ?_ search) m
    · exact fun hlong => ⟨rfl, .inl hlong⟩
    · exact fun entry hfound hread => ⟨rfl, .inr ⟨entry, hfound, hread⟩⟩
  case notFound =>
    intro hnone
    unfold Listing.checkSet
    rw [hnone]
    rfl

/-- A catalog of one ring is asked about a reference by name and a fraction of a level, and about a
name that it does not know. -/
theorem Catalog.engine_replies_ring :
    let ring := Catalog.ofEntries [.named 7 "Ring"]
    let item := "ring ".toList
    let query := "lvl:>1.5|q:<=9".toList
    let m : Memory Unit := ⟨(), []⟩
    read (itemsJson [Entry.namedJson 7 "Ring"]) = .valid ring ∧
    ring.find item = .ok (some (.named 7 "Ring")) ∧ ring.find "cloak".toList = .ok none ∧
    ∃ e : Engine Unit, ring.engine none "equipment".toList = .ok e ∧
      (∃ b, (e.accepts (some item) (some query)).reply m = .ok b) ∧
      (∃ b, (e.inSet (some item) (some "*".toList)).reply m = .ok b) ∧
      (∃ t, (Listing.checkSet e ring item "*".toList).reply m = .ok t) ∧
      (Listing.checkSet e ring "cloak".toList "*".toList).reply m =
        .ok "Item not found: cloak".toList := by
  intro ring item query m
  have hread : read (itemsJson [Entry.namedJson 7 "Ring"]) = .valid ring := rfl
  have h : ring.engine none "equipment".toList = .ok (_ : Engine Unit) := rfl
  have hfind : ring.find item = .ok (some (.named 7 "Ring")) := rfl
  have hnone : ring.find "cloak".toList = .ok none := rfl
  have hitem : ¬Link.isOverlong item = true := by decide
  have hquery : ∀ atom ∈ Atom.ofQuery query, ¬Number.isOverlong atom.text = true := by decide
  obtain ⟨haccepts, hinSet, hcheckSet, -⟩ := engine_replies hread h m item query "*".toList
  rw [if_neg hitem] at hinSet
  refine ⟨hread, hfind, hnone, _, h, haccepts.resolve_right ?accepts, hinSet,
    hcheckSet.resolve_right ?checkSet, (engine_replies hread h m _ query "*".toList).2.2.2 hnone⟩
  case accepts =>
    rintro ⟨-, hlong | ⟨atom, hatom, -, -, -, hlong⟩⟩
    · exact hitem hlong
    · exact hquery atom hatom hlong
  case checkSet =>
    rintro ⟨-, hlong | ⟨entry, hfound, hlong⟩⟩
    · exact hitem hlong
    · have hentry : some (Entry.named 7 "Ring") = some entry :=
        Except.ok.inj (hfind.symm.trans hfound)
      obtain rfl := Option.some.inj hentry
      exact absurd hlong (by decide)

/-- A reference with one digit more than are ever read. -/
def Link.overlong : Text := idMark ++ List.replicate (digitLimit + 1) '1'

theorem Link.isOverlong_overlong : isOverlong overlong = true := by
  have hall : (List.replicate (digitLimit + 1) '1').takeWhile Text.isDigit =
      List.replicate (digitLimit + 1) '1' := by
    rw [List.takeWhile_replicate, if_pos (by decide)]
  have hdigits : (List.replicate (digitLimit + 1) '1').filterMap Text.digitValue? =
      List.replicate (digitLimit + 1) 1 :=
    List.filterMap_replicate_of_some rfl
  have hsome : List.replicate (digitLimit + 1) 1 ≠ [] := by
    rw [List.replicate_succ]
    exact List.cons_ne_nil _ _
  have hnumber : leadingNumber? (List.replicate (digitLimit + 1) '1') =
      some (false, List.replicate (digitLimit + 1) 1) := by
    rw [List.replicate_succ] at hall hdigits ⊢
    rw [leadingNumber?_of_ne (by decide), hall, hdigits, if_neg hsome]
  rw [isOverlong, overlong, firstNumber?_of_number hnumber, Option.any_some, List.length_replicate]
  exact decide_eq_true (Nat.lt_succ_self digitLimit)

/-- The overlong reference is refused by a query for a name, in the sets and by the answer about a
set, though there is no entry that it could lead to; and a level that is as long is refused for the
ring itself. -/
theorem Catalog.engine_overlong :
    let ring := Catalog.ofEntries [.named 7 "Ring"]
    let digits := List.replicate (digitLimit + 1) '1'
    read (itemsJson [Entry.namedJson 7 "Ring"]) = .valid ring ∧
    ∃ e : Engine Unit, ring.engine none "equipment".toList = .ok e ∧
      (e.accepts (some "item:7".toList) (some ("lvl:".toList ++ digits))).reply ⟨(), []⟩ =
        .error .tooManyDigits ∧
      (e.accepts (some Link.overlong) (some "n:ring".toList)).reply ⟨(), []⟩ =
        .error .tooManyDigits ∧
      (e.inSet (some Link.overlong) (some "*".toList)).reply ⟨(), []⟩ = .error .tooManyDigits ∧
      (Listing.checkSet e ring Link.overlong "*".toList).reply ⟨(), []⟩ =
        .error .tooManyDigits := by
  intro ring digits
  have hfind : ring.find Link.overlong = .error .tooManyDigits :=
    find_eq_tooManyDigits_iff.mpr ⟨rfl, Link.isOverlong_overlong⟩
  refine ⟨rfl, .ofSource ring.source .empty, rfl, ?level, ?name,
    Engine.inSet_of_overlong Link.isOverlong_overlong _ _, ?checkSet⟩
  case level =>
    have hdigits : Literal.IsDigits digits := Literal.isDigits_replicate rfl digitLimit
    have hlength : digitLimit < digits.length := by
      rw [List.length_replicate]
      exact Nat.lt_succ_self digitLimit
    clear_value digits
    have htag : "lvl".toList ∈ Engine.levelTags := by decide
    obtain ⟨htrim, hlong⟩ := Number.isOverlong_of_digits hdigits hlength
    exact Engine.accepts_of_isOverlong ring.source .empty "item:7".toList (.inl htag) .colon htrim
      hlong ⟨(), []⟩
  case name =>
    have hdescribe : (ring.source : Source Unit).describe Link.overlong = throw .tooManyDigits := by
      simp only [source, describe, hfind]
      rfl
    have hquery : (Engine.builtIn ring.source .empty).evaluate Link.overlong "n:ring".toList =
        (Attribute.name (ring.source : Source Unit)).judge Link.overlong none "ring".toList := by
      rw [Registry.evaluate_of_no_separator _ _ (by decide) (by decide) (by decide)]
      rfl
    simp only [Engine.accepts, Engine.ofSource, hquery, Predicate.judge, Attribute.name, hdescribe]
    rfl
  case checkSet =>
    unfold Listing.checkSet
    rw [hfind]
    rfl

end ItemQuery
