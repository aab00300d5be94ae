import ItemQuery.Attribute.Tooltip
import ItemQuery.Proofs.Memory
import ItemQuery.Proofs.Query.Trace
import ItemQuery.Scripted.World

/-!
How an item is bound is looked for once. A check asks a tooltip for lines only when its bind text and
the item's id are not remembered in its cache. A scan that ends is remembered, one that fails leaves
nothing behind, and what is remembered is never changed. So, after any checks by any bind predicates,
a cache holds the pairs whose scans ended, each of them scanned to the end once
(`BindCheck.scans_once`).
-/

namespace ItemQuery

open Registry (finalState)

variable {σ τ ω α γ : Type}

/-! ## Lines that are asked for -/

namespace Search

/-- An outcome with another state. -/
def withState (f : σ → τ) : EStateM.Result Fault σ α → EStateM.Result Fault τ α
  | .ok a s => .ok a (f s)
  | .error fault s => .error fault (f s)

/-- A computation beside a log, to which it adds readings. -/
def reading (readings : List γ) (x : Search ω α) : Search (ω × List γ) α :=
  fun (w, log) => withState (·, log ++ readings) (x w)

theorem finalState_withState (f : σ → τ) (outcome : EStateM.Result Fault σ α) :
    finalState (withState f outcome) = f (finalState outcome) := by
  cases outcome <;> rfl

end Search

/-- A line of an item's tooltip. -/
abbrev LineRef := Text × Int

/-- A source that writes down the lines that it is asked for. -/
def Source.logged (source : Source ω) : Source (ω × List LineRef) where
  describe item := .reading [] (source.describe item)
  qualityLabels := source.qualityLabels
  isEquippable item := .reading [] (source.isEquippable item)
  lines item := .reading [] (source.lines item)
  line item i := .reading [(item, i)] (source.line item i)

namespace Attribute

/-- A scan asks for some of the lines, from the first on and at least for that one. -/
theorem scanLines_logged (source : Source ω) (item : Text) (sought : Json.Key) (indices : List Int)
    (w : ω) :
    ∃ asked, asked <+: indices ∧ (asked = [] → indices = []) ∧ ∀ log,
      scanLines source.logged item sought indices (w, log) =
        Search.withState (·, log ++ asked.map (item, ·)) (scanLines source item sought indices w) := by
  induction indices generalizing w with
  | nil =>
    refine ⟨[], List.prefix_rfl, fun _ => rfl, fun log => ?_⟩
    rw [List.map_nil, List.append_nil]
    rfl
  | cons i rest ih =>
    have hone : [i] <+: i :: rest := ⟨rest, rfl⟩
    simp only [scanLines]
    cases hline : source.line item i w with
    | error fault w' =>
      refine ⟨[i], hone, nofun, fun log => ?_⟩
      have hlogged : source.logged.line item i (w, log) = .error fault (w', log ++ [(item, i)]) := by
        simp only [Source.logged, Search.reading, hline, Search.withState]
      rw [Search.bind_of_error hlogged, Search.bind_of_error hline]
      rfl
    | ok line? w' =>
      have hlogged : ∀ log, source.logged.line item i (w, log) =
          .ok line? (w', log ++ [(item, i)]) := fun log => by
        simp only [Source.logged, Search.reading, hline, Search.withState]
      cases line? with
      | none =>
        refine ⟨[i], hone, nofun, fun log => ?_⟩
        rw [Search.bind_of_ok (hlogged log), Search.bind_of_ok hline]
        rfl
      | some line =>
        by_cases hsought : Json.Key.text line = sought
        · refine ⟨[i], hone, nofun, fun log => ?_⟩
          rw [Search.bind_of_ok (hlogged log), Search.bind_of_ok hline]
          simp only [if_pos hsought]
          rfl
        · obtain ⟨asked, hprefix, -, hscan⟩ := ih w'
          refine ⟨i :: asked, List.cons_prefix_cons.mpr ⟨rfl, hprefix⟩, nofun, fun log => ?_⟩
          rw [Search.bind_of_ok (hlogged log), Search.bind_of_ok hline]
          simp only [if_neg hsought]
          rw [hscan, List.map_cons, List.append_assoc]
          rfl

end Attribute

/-! ## Checks -/

/-- An evaluation of a bind predicate. Predicates with the same cache share what they remember, from
whatever sources they read. -/
structure BindCheck (ω : Type) where
  source : Source ω
  keywords : Attribute.BindKeywords
  cache : Nat
  item : Text
  operator : Option Text
  sought : Text

namespace BindCheck

def run (check : BindCheck ω) : Search (Memory ω) Bool :=
  (Attribute.bind check.source check.keywords check.cache).evaluate check.item check.operator
    (.text check.sought)

/-- What the result is remembered under, if the item has an id. -/
def key? (check : BindCheck ω) : Except Fault (Option BindKey) := do
  return (← Link.itemId? check.item).map fun id => ⟨check.cache, .text check.sought, id⟩

/-- Looks for the bind text in the tooltip. -/
def scan (check : BindCheck ω) : Search ω Bool :=
  Attribute.scanLines check.source check.item (.text check.sought) Attribute.bindLines

def logged (check : BindCheck ω) : BindCheck (ω × List LineRef) :=
  { check with source := check.source.logged }

end BindCheck

/-- The same memory, with a log beside the world. -/
def Memory.beside (m : Memory ω) (log : List γ) : Memory (ω × List γ) :=
  ⟨(m.world, log), m.remembered⟩

namespace BindCheck

/-- The lines that a check asks for, in order. -/
def reads (check : BindCheck ω) (m : Memory ω) : List LineRef :=
  (finalState (check.logged.run (m.beside []))).world.2

variable {check : BindCheck ω} {m : Memory ω} {key : BindKey}

/-- Everything that an evaluation does, by whether the reference has an id. -/
theorem run_eq (check : BindCheck ω) :
    check.run = (do
      match ← Search.ofExcept check.key? with
      | none => return false
      | some key => Search.recallOr key (.ofWorld check.scan) : Search (Memory ω) Bool) := by
  unfold run key? Attribute.bind
  dsimp only
  cases Link.itemId? check.item with
  | error fault => rfl
  | ok id? => cases id? <;> rfl

theorem run_of_error {fault : Fault} (h : check.key? = .error fault) (m : Memory ω) :
    check.run m = .error fault m := by
  rw [run_eq, h]
  rfl

theorem run_of_none (h : check.key? = .ok none) (m : Memory ω) : check.run m = .ok false m := by
  rw [run_eq, h]
  rfl

theorem run_of_some (h : check.key? = .ok (some key)) :
    check.run = Search.recallOr key (.ofWorld check.scan) := by
  rw [run_eq, h]
  rfl

/-- A remembered result is given, and nothing changes. -/
theorem run_of_recalled {found : Bool} (h : check.key? = .ok (some key))
    (hm : m.result? key = some found) : check.run m = .ok found m := by
  rw [run_of_some h, Search.recallOr_of_some hm]

/-- The result is looked for under a key and is not there. -/
structure Misses (check : BindCheck ω) (m : Memory ω) (key : BindKey) : Prop where
  key?_eq : check.key? = .ok (some key)
  result?_eq : m.result? key = none

/-- What comes of a check, and when. -/
inductive Outcome (check : BindCheck ω) (m : Memory ω) : EStateM.Result Fault (Memory ω) Bool → Prop
  | unreadable {fault : Fault} : check.key? = .error fault → Outcome check m (.error fault m)
  | noId : check.key? = .ok none → Outcome check m (.ok false m)
  | recalled {key : BindKey} {found : Bool} : check.key? = .ok (some key) →
      m.result? key = some found → Outcome check m (.ok found m)
  | scanned {key : BindKey} {found : Bool} {w : ω} : check.Misses m key →
      check.scan m.world = .ok found w →
      Outcome check m (.ok found ⟨w, m.remembered ++ [(key, found)]⟩)
  | failed {key : BindKey} {fault : Fault} {w : ω} : check.Misses m key →
      check.scan m.world = .error fault w → Outcome check m (.error fault ⟨w, m.remembered⟩)

theorem Misses.run_of_ok (h : check.Misses m key) {found : Bool} {w : ω}
    (hscan : check.scan m.world = .ok found w) :
    check.run m = .ok found ⟨w, m.remembered ++ [(key, found)]⟩ := by
  rw [run_of_some h.key?_eq, Search.recallOr_of_none h.result?_eq,
    Search.bind_of_ok (Search.ofWorld_of_ok hscan)]
  rfl

theorem Misses.run_of_error (h : check.Misses m key) {fault : Fault} {w : ω}
    (hscan : check.scan m.world = .error fault w) :
    check.run m = .error fault ⟨w, m.remembered⟩ := by
  rw [run_of_some h.key?_eq, Search.recallOr_of_none h.result?_eq,
    Search.bind_of_error (Search.ofWorld_of_error hscan)]

theorem outcome (check : BindCheck ω) (m : Memory ω) : check.Outcome m (check.run m) := by
  cases hkey : check.key? with
  | error fault =>
    rw [run_of_error hkey]
    exact .unreadable hkey
  | ok key? =>
    cases key? with
    | none =>
      rw [run_of_none hkey]
      exact .noId hkey
    | some key =>
      cases hresult : m.result? key with
      | some found =>
        rw [run_of_recalled hkey hresult]
        exact .recalled hkey hresult
      | none =>
        have hmiss : check.Misses m key := ⟨hkey, hresult⟩
        cases hscan : check.scan m.world with
        | ok found w =>
          rw [hmiss.run_of_ok hscan]
          exact .scanned hmiss hscan
        | error fault w =>
          rw [hmiss.run_of_error hscan]
          exact .failed hmiss hscan

/-! ## The lines that a check asks for -/

/-- A check that misses scans, and what it asks for is written down behind what was asked for before. -/
theorem Misses.exists_asked (h : check.Misses m key) :
    ∃ asked, asked <+: Attribute.bindLines ∧ asked ≠ [] ∧ ∀ log,
      check.logged.run (m.beside log) =
        Search.withState (·.beside (log ++ asked.map (check.item, ·))) (check.run m) := by
  obtain ⟨asked, hprefix, hasked, hscanned⟩ := Attribute.scanLines_logged check.source check.item
    (.text check.sought) Attribute.bindLines m.world
  have hne : asked ≠ [] := fun hnil => nomatch hasked hnil
  refine ⟨asked, hprefix, hne, fun log => ?_⟩
  have hlogged : check.logged.Misses (m.beside log) key := ⟨h.key?_eq, h.result?_eq⟩
  have hscanned : check.logged.scan (m.beside log).world =
      Search.withState (·, log ++ asked.map (check.item, ·)) (check.scan m.world) := hscanned log
  cases hscan : check.scan m.world with
  | ok found w =>
    rw [hscan] at hscanned
    rw [h.run_of_ok hscan, hlogged.run_of_ok hscanned]
    rfl
  | error fault w =>
    rw [hscan] at hscanned
    rw [h.run_of_error hscan, hlogged.run_of_error hscanned]
    rfl

/-- Any other check never comes to its source, so that there is nothing to write down. -/
theorem logged_run_of_not_misses (h : ¬∃ key, check.Misses m key) (log : List LineRef) :
    check.logged.run (m.beside log) = Search.withState (·.beside log) (check.run m) := by
  cases hkey : check.key? with
  | error fault =>
    have hlogged : check.logged.key? = .error fault := hkey
    rw [run_of_error hkey, run_of_error hlogged]
    rfl
  | ok key? =>
    have hlogged : check.logged.key? = .ok key? := hkey
    cases key? with
    | none =>
      rw [run_of_none hkey, run_of_none hlogged]
      rfl
    | some key =>
      cases hresult : m.result? key with
      | some found =>
        have hheld : (m.beside log).result? key = some found := hresult
        rw [run_of_recalled hkey hresult, run_of_recalled hlogged hheld]
        rfl
      | none => exact absurd ⟨key, hkey, hresult⟩ h

/-- Some lines are asked for exactly where the result is not remembered. -/
theorem exists_asked (check : BindCheck ω) (m : Memory ω) :
    ∃ asked, asked <+: Attribute.bindLines ∧ (asked ≠ [] ↔ ∃ key, check.Misses m key) ∧
      ∀ log, check.logged.run (m.beside log) =
        Search.withState (·.beside (log ++ asked.map (check.item, ·))) (check.run m) := by
  by_cases hmiss : ∃ key, check.Misses m key
  · obtain ⟨key, hkey⟩ := hmiss
    obtain ⟨asked, hprefix, hasked, hrun⟩ := hkey.exists_asked
    exact ⟨asked, hprefix, iff_of_true hasked ⟨key, hkey⟩, hrun⟩
  · refine ⟨[], List.nil_prefix, iff_of_false (fun h => h rfl) hmiss, fun log => ?_⟩
    rw [List.map_nil, List.append_nil]
    exact logged_run_of_not_misses hmiss log

theorem reads_eq_of_run_logged {lines : List LineRef}
    (h : ∀ log, check.logged.run (m.beside log) =
      Search.withState (·.beside (log ++ lines)) (check.run m)) : check.reads m = lines := by
  rw [reads, h, Search.finalState_withState]
  rfl

/-- A check asks for the lines of a scan, from the first on, exactly where its result is not
remembered. -/
theorem exists_reads_eq (check : BindCheck ω) (m : Memory ω) :
    ∃ asked, asked <+: Attribute.bindLines ∧ (asked ≠ [] ↔ ∃ key, check.Misses m key) ∧
      check.reads m = asked.map (check.item, ·) := by
  obtain ⟨asked, hprefix, hasked, hrun⟩ := check.exists_asked m
  exact ⟨asked, hprefix, hasked, reads_eq_of_run_logged hrun⟩

theorem reads_ne_nil_iff : check.reads m ≠ [] ↔ ∃ key, check.Misses m key := by
  obtain ⟨asked, -, hasked, hreads⟩ := check.exists_reads_eq m
  rw [hreads, ← hasked, ne_eq, List.map_eq_nil_iff]

theorem reads_eq_nil (h : ∀ key, ¬check.Misses m key) : check.reads m = [] :=
  not_not.mp fun hreads => not_exists.mpr h (reads_ne_nil_iff.mp hreads)

theorem not_misses_of_recalled {found : Bool} (h : check.key? = .ok (some key))
    (hm : m.result? key = some found) (key' : BindKey) : ¬check.Misses m key' := by
  intro hmiss
  cases h.symm.trans hmiss.key?_eq
  cases hm.symm.trans hmiss.result?_eq

/-! ## Checks in a row -/

/-- The memory after checks in a row, the failed ones among them. -/
def after (history : List (BindCheck ω)) (m : Memory ω) : Memory ω :=
  history.foldl (fun m check => finalState (check.run m)) m

/-- What was scanned for with a result, if anything was. -/
def ended? (check : BindCheck ω) (m : Memory ω) : Option BindKey :=
  if check.reads m = [] then none
  else match check.run m, check.key? with
    | .ok _ _, .ok key? => key?
    | _, _ => none

theorem ended?_eq_none (h : ∀ key, ¬check.Misses m key) : check.ended? m = none :=
  if_pos (reads_eq_nil h)

/-- What checks in a row scan for with a result, in order. -/
def ended : List (BindCheck ω) → Memory ω → List BindKey
  | [], _ => []
  | check :: rest, m => (check.ended? m).toList ++ ended rest (finalState (check.run m))

/-- A result for a text can be found again. -/
theorem result?_of_key? (h : check.key? = .ok (some key)) (m : Memory ω) :
    m.result? key = m.remembered.lookup key := by
  unfold key? at h
  cases hid : Link.itemId? check.item with
  | error fault =>
    rw [hid] at h
    cases h
  | ok id? =>
    rw [hid] at h
    cases id? with
    | none => cases h
    | some id =>
      cases h
      rfl

theorem result?_eq_none_iff (h : check.key? = .ok (some key)) :
    m.result? key = none ↔ key ∉ m.remembered.map Prod.fst := by
  rw [result?_of_key? h, List.lookup_eq_none_iff]
  constructor
  · rintro hne hmem
    obtain ⟨entry, hentry, rfl⟩ := List.mem_map.mp hmem
    exact absurd (hne entry hentry) (by simp)
  · intro hnot entry hentry
    have hne : entry.1 ≠ key := fun heq => hnot (heq ▸ List.mem_map_of_mem hentry)
    simpa using hne.symm

/-- A check remembers what it scanned for with a result, which was not remembered before, and
nothing else. -/
theorem remembered_run (check : BindCheck ω) (m : Memory ω) :
    ∃ new, (finalState (check.run m)).remembered = m.remembered ++ new ∧
      new.map Prod.fst = (check.ended? m).toList ∧
      ∀ key ∈ new.map Prod.fst, key ∉ m.remembered.map Prod.fst := by
  have hquiet (hended : check.ended? m = none) : ([] : List (BindKey × Bool)).map Prod.fst =
      (check.ended? m).toList := by
    rw [hended]
    rfl
  have houtcome := check.outcome m
  generalize hrun : check.run m = r at houtcome
  cases houtcome with
  | unreadable hkey =>
    refine ⟨[], (List.append_nil _).symm, hquiet (ended?_eq_none fun key hmiss => ?_),
      List.forall_mem_nil _⟩
    cases hkey.symm.trans hmiss.key?_eq
  | noId hkey =>
    refine ⟨[], (List.append_nil _).symm, hquiet (ended?_eq_none fun key hmiss => ?_),
      List.forall_mem_nil _⟩
    cases hkey.symm.trans hmiss.key?_eq
  | recalled hkey hresult =>
    exact ⟨[], (List.append_nil _).symm,
      hquiet (ended?_eq_none (not_misses_of_recalled hkey hresult)), List.forall_mem_nil _⟩
  | @scanned key found w hmiss hscan =>
    refine ⟨[(key, found)], rfl, ?_, List.forall_mem_singleton.mpr ?_⟩
    · rw [ended?, if_neg (reads_ne_nil_iff.mpr ⟨key, hmiss⟩), hrun, hmiss.key?_eq]
      rfl
    · exact (result?_eq_none_iff hmiss.key?_eq).mp hmiss.result?_eq
  | @failed key fault w hmiss hscan =>
    refine ⟨[], (List.append_nil _).symm, hquiet ?_, List.forall_mem_nil _⟩
    rw [ended?, if_neg (reads_ne_nil_iff.mpr ⟨key, hmiss⟩), hrun]

/-- Checks in a row only ever add to what is remembered, and each key once. That each key is remembered
once holds before every check, and so it is carried along. -/
theorem remembered_after (history : List (BindCheck ω)) {m : Memory ω}
    (hm : (m.remembered.map Prod.fst).Nodup) :
    ∃ new, (after history m).remembered = m.remembered ++ new ∧
      new.map Prod.fst = ended history m ∧ ((after history m).remembered.map Prod.fst).Nodup := by
  induction history generalizing m with
  | nil => exact ⟨[], (List.append_nil _).symm, rfl, hm⟩
  | cons check history ih =>
    obtain ⟨new, hstep, hended, hfresh⟩ := check.remembered_run m
    have hone : (new.map Prod.fst).Nodup := by
      rw [hended]
      cases check.ended? m <;> simp
    have hnodup : ((finalState (check.run m)).remembered.map Prod.fst).Nodup := by
      rw [hstep, List.map_append]
      exact List.nodup_append.mpr
        ⟨hm, hone, fun key hold key' hnew heq => hfresh key' hnew (heq ▸ hold)⟩
    obtain ⟨more, hrest, hmore, hall⟩ := ih hnodup
    refine ⟨new ++ more, ?_, ?_, hall⟩
    · rw [← List.append_assoc, ← hstep]
      exact hrest
    · rw [List.map_append, hended, hmore]
      rfl

theorem after_append (history later : List (BindCheck ω)) (m : Memory ω) :
    after (history ++ later) m = after later (after history m) :=
  List.foldl_append

/-- Where each key is remembered once, what is remembered for a check is found. -/
theorem result?_of_mem (hm : (m.remembered.map Prod.fst).Nodup) (h : check.key? = .ok (some key))
    {found : Bool} (hmem : (key, found) ∈ m.remembered) : m.result? key = some found := by
  rw [result?_of_key? h]
  obtain ⟨before, rest, hsplit⟩ := List.append_of_mem hmem
  refine List.lookup_eq_some_iff.mpr ⟨before, rest, hsplit, fun entry hentry => ?_⟩
  rw [hsplit, List.map_append] at hm
  have hne : entry.1 ≠ key :=
    (List.nodup_append.mp hm).2.2 _ (List.mem_map_of_mem hentry) _ List.mem_cons_self
  simpa using hne.symm

/-- Bind predicates of any sources and caches, after any checks from empty caches. A cache holds the
keys that were scanned for with a result, each of them once, and holds them for ever. A check that
has no id asks for no line and changes nothing; nor does one whose key is held, which gives the
result that is held. Any other check asks for lines: a result is added to the cache, and a failure
leaves what is remembered as it was, so that the next check with the key asks for lines again. -/
theorem scans_once (w : ω) (history : List (BindCheck ω)) :
    let m := after history ⟨w, []⟩
    let scanned := ended history ⟨w, []⟩
    (m.remembered.map Prod.fst = scanned ∧ scanned.Nodup ∧
      ∀ cache, m.cacheSize cache = (scanned.filter (·.cache == cache)).length) ∧
    (∀ later, m.remembered <+: (after later m).remembered) ∧
    ∀ check : BindCheck ω,
      (∀ fault, check.key? = .error fault → check.run m = .error fault m ∧ check.reads m = []) ∧
      (check.key? = .ok none → check.run m = .ok false m ∧ check.reads m = []) ∧
      ∀ key, check.key? = .ok (some key) →
        (∀ found, (key, found) ∈ m.remembered → ∀ later,
          check.run (after later m) = .ok found (after later m) ∧
            check.reads (after later m) = []) ∧
        (key ∉ scanned →
          (∃ asked, asked <+: Attribute.bindLines ∧ asked ≠ [] ∧
            check.reads m = asked.map (check.item, ·)) ∧
          (∀ found w', check.scan m.world = .ok found w' →
            check.run m = .ok found ⟨w', m.remembered ++ [(key, found)]⟩) ∧
          ∀ fault w', check.scan m.world = .error fault w' →
            check.run m = .error fault ⟨w', m.remembered⟩ ∧
            ∀ again : BindCheck ω, again.key? = .ok (some key) →
              again.reads ⟨w', m.remembered⟩ ≠ []) := by
  intro m scanned
  have hempty : ((⟨w, []⟩ : Memory ω).remembered.map Prod.fst).Nodup := List.nodup_nil
  have hkept (later : List (BindCheck ω)) :
      ((after later m).remembered.map Prod.fst).Nodup := by
    obtain ⟨_, -, -, hnodup⟩ := remembered_after (history ++ later) hempty
    rwa [after_append] at hnodup
  obtain ⟨entries, hentries, hscanned, hnodup⟩ := remembered_after history hempty
  have hkeys : m.remembered.map Prod.fst = scanned :=
    (congrArg (List.map Prod.fst) hentries).trans hscanned
  have hgrows (later : List (BindCheck ω)) : m.remembered <+: (after later m).remembered := by
    obtain ⟨new, hnew, -, -⟩ := remembered_after later hnodup
    exact ⟨new, hnew.symm⟩
  refine ⟨⟨hkeys, hkeys ▸ hnodup, fun cache => ?size⟩, hgrows, fun check =>
    ⟨fun fault hkey => ⟨run_of_error hkey m, reads_eq_nil ?unread⟩,
      fun hkey => ⟨run_of_none hkey m, reads_eq_nil ?noId⟩, fun key hkey => ⟨?held, ?missed⟩⟩⟩
  case size =>
    rw [← hkeys, List.filter_map, List.length_map]
    rfl
  case unread => exact fun key hmiss => nomatch hkey.symm.trans hmiss.key?_eq
  case noId => exact fun key hmiss => nomatch hkey.symm.trans hmiss.key?_eq
  case held =>
    intro found hmem later
    have hresult : (after later m).result? key = some found :=
      result?_of_mem (hkept later) hkey ((hgrows later).subset hmem)
    exact ⟨run_of_recalled hkey hresult, reads_eq_nil (not_misses_of_recalled hkey hresult)⟩
  case missed =>
    intro hmissing
    have hmiss : check.Misses m key :=
      ⟨hkey, (result?_eq_none_iff hkey).mpr (hkeys ▸ hmissing)⟩
    refine ⟨?asked, fun found w' => hmiss.run_of_ok, fun fault w' hscan =>
      ⟨hmiss.run_of_error hscan, fun again hagain => ?again⟩⟩
    case asked =>
      obtain ⟨asked, hprefix, hasked, hreads⟩ := check.exists_reads_eq m
      exact ⟨asked, hprefix, hasked.mpr ⟨key, hmiss⟩, hreads⟩
    case again =>
      exact reads_ne_nil_iff.mpr ⟨key, hagain, hmiss.result?_eq⟩

/-- Two predicates share a cache, and one tooltip fails the first time, at its third line. The failed
scan is made anew, by the other predicate and through another link; its result, which is "no", is
then given without a line being asked for, and a reference without an id changes nothing. -/
theorem scans_once_flaky :
    let flaky : Source Journal := {
      (ScriptedItems.source ⟨[], [], none, [], []⟩) with
      line := fun _ i => do
        Journal.noteLine
        if (← get).lineReads = 2 then throw (.scripted "tooltip unavailable".toList)
        return some (if i = 2 then "Ring" else "Quest Item").toList }
    let check (item sought : String) : BindCheck Journal :=
      ⟨flaky, Attribute.defaultKeywords, 0, item.toList, none, sought.toList⟩
    let other (item sought : String) : BindCheck Journal := { check item sought with keywords := [] }
    let history := [check "item:7" "Soulbound", other "|Hitem:007:1|h[Ring]|h" "Soulbound",
      check "item:7" "Quest Item", other "ring" "Soulbound"]
    let m := after history ⟨.empty, []⟩
    (check "item:7" "Soulbound").run ⟨.empty, []⟩ =
        .error (.scripted "tooltip unavailable".toList) ⟨⟨[], 2, 0⟩, []⟩ ∧
      m.cacheSize 0 = 2 ∧ m.world.lineReads = 6 ∧
      (check "item:7:5" "Soulbound").run m = .ok false m ∧
      (check "item:7:5" "Soulbound").reads m = [] ∧
      (other "item:8" "Soulbound").reads m ≠ [] := by
  intro flaky check other history m
  obtain ⟨⟨hkeys, -, hsize⟩, -, hchecks⟩ := scans_once Journal.empty history
  have hheld : m.remembered = [(⟨0, .text "Soulbound".toList, 7⟩, false),
      (⟨0, .text "Quest Item".toList, 7⟩, true)] := by rfl
  have hscanned : ended history ⟨.empty, []⟩ =
      [⟨0, .text "Soulbound".toList, 7⟩, ⟨0, .text "Quest Item".toList, 7⟩] := by
    rw [← hkeys]
    exact congrArg (List.map Prod.fst) hheld
  obtain ⟨-, -, hseven⟩ := hchecks (check "item:7:5" "Soulbound")
  obtain ⟨-, -, height⟩ := hchecks (other "item:8" "Soulbound")
  obtain ⟨hrun, hreads⟩ := (hseven ⟨0, .text "Soulbound".toList, 7⟩ (by rfl)).1 false
    (hheld ▸ List.mem_cons_self) []
  obtain ⟨⟨asked, -, hasked, hothers⟩, -⟩ := (height ⟨0, .text "Soulbound".toList, 8⟩ (by rfl)).2
    (hscanned ▸ by decide)
  refine ⟨by rfl, ?_, by rfl, hrun, hreads, ?_⟩
  · rw [hsize, hscanned]
    rfl
  · rw [hothers]
    simpa using hasked

end BindCheck

end ItemQuery
