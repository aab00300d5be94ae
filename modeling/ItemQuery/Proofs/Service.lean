import ItemQuery.Proofs.Engine.Faults
import ItemQuery.Proofs.Listing.Shown
import ItemQuery.Proofs.Number.Separated
import ItemQuery.Service

/-!
Calls of a service. Whatever was called before, what is remembered are facts of the catalog, so that a
call is answered as if it were the first one (`Service.Started.call_alike`). The tool for searches says
that there are no results exactly when no entry matches or the cap on results is below one
(`Service.call_search`): such a cap hides every match (`Service.call_search_capZero`).
-/

namespace ItemQuery

open Search (Alike)

namespace Service

variable {host : Host} {env : Environment} {read : Text → Option ByteArray} {s : Service}

/-! ## Starting -/

/-- What is known of a service that has started: it answers by the engine over its catalog, and the
numbers that it may have to show can be written. -/
structure Started (s : Service) : Prop where
  engine : ∃ sets, s.engine = .ofSource s.catalog.source sets
  entries : ∀ e ∈ s.catalog.entries, e.isWritable = true
  maxResults : isReadable s.maxResults = true

theorem isWritable_of_loadCatalog {c : Catalog} (h : loadCatalog host env read = .ok c) :
    ∀ e ∈ c.entries, e.isWritable = true := by
  obtain ⟨path?, -, h⟩ := Except.bind_eq_ok h
  cases path? with
  | none =>
    obtain rfl : Catalog.empty = c := Except.ok.inj h
    exact List.forall_mem_nil _
  | some path =>
    obtain ⟨t, -, h⟩ := Except.bind_eq_ok h
    cases hparse : Catalog.parse t with
    | invalid issues =>
      rw [hparse] at h
      cases h
    | valid c' =>
      rw [hparse] at h
      obtain rfl : c' = c := Except.ok.inj h
      exact Catalog.isWritable_of_parse hparse

theorem isReadable_of_maxResults {cap : Int} (h : env.maxResults = .ok cap) :
    isReadable cap = true := by
  unfold Environment.maxResults at h
  split at h
  · rename_i hparse
    exact Except.ok.inj h ▸ isReadable_of_parseInt? hparse
  · cases h

theorem started_of_start (h : start host env read = .ok s) : s.Started := by
  obtain ⟨_, -, h⟩ := Except.bind_eq_ok h
  obtain ⟨c, hcatalog, h⟩ := Except.bind_eq_ok h
  obtain ⟨e, hengine, h⟩ := Except.bind_eq_ok h
  obtain ⟨cap, hcap, h⟩ := Except.bind_eq_ok h
  cases h
  exact ⟨Catalog.engine_eq_ok hengine, isWritable_of_loadCatalog hcatalog,
    isReadable_of_maxResults hcap⟩

/-! ## Calls -/

theorem Started.accepts_alike (h : s.Started) (item : Text) (query : Option Text) :
    Alike (s.catalog.BothRecall s.catalog) (s.engine.accepts (some item) query)
      (s.engine.accepts (some item) query) := by
  obtain ⟨sets, hengine⟩ := h.engine
  rw [hengine]
  exact Engine.accepts_alike ((Catalog.SameItem.refl s.catalog item).builtIn_alike sets) query

/-- What two memories of facts leave of a call is not told apart. -/
theorem Started.call_alike (h : s.Started) (tool : Text) (args : List (Text × Json)) :
    Alike (s.catalog.BothRecall s.catalog) (s.call tool args) (s.call tool args) := by
  have hsource : s.engine.source = s.catalog.source := by
    obtain ⟨sets, hengine⟩ := h.engine
    rw [hengine]
    rfl
  unfold call
  cases readCall tool args with
  | none => exact .throw _
  | some toolCall =>
    refine .tryCatch ?_ fun _ => .throw _
    cases toolCall with
    | search query limit => exact Listing.run_alike (fun entry _ => h.accepts_alike entry.ref _) _
    | inSet item search =>
      exact Listing.checkSet_alike (fun ref search => Engine.inSet_alike (.refl s.catalog ref)
        (s.catalog.bothRecall_ignoresWorld s.catalog) hsource hsource rfl (some search)) item search
    | predicates => exact .pure _

/-- What is remembered after calls, each of a tool by its name and with its arguments. -/
def after (s : Service) (history : List (Text × List (Text × Json))) : Memory Unit :=
  history.foldl (fun m (tool, args) => Registry.finalState (s.call tool args m)) memory

theorem Started.recalls_call (h : s.Started) (tool : Text) (args : List (Text × Json))
    {m : Memory Unit} (hm : s.catalog.Recalls m) :
    s.catalog.Recalls (Registry.finalState (s.call tool args m)) := by
  have hout := h.call_alike tool args m m ⟨hm, hm⟩
  generalize s.call tool args m = u at hout ⊢
  cases hout with
  | ok hleft => exact hleft.1
  | error hleft => exact hleft.1

theorem Started.recalls_after (h : s.Started) (history : List (Text × List (Text × Json))) :
    s.catalog.Recalls (s.after history) := by
  unfold after
  have hm : s.catalog.Recalls memory := s.catalog.recalls_nil ()
  generalize memory = m at hm
  induction history generalizing m with
  | nil => exact hm
  | cons call history ih => exact ih _ (h.recalls_call call.1 call.2 hm)

/-! ## The search tool -/

theorem readLimit_ensures (v : Json) :
    (readSearch.readLimit v).Ensures fun n => 1 ≤ n ∧ n ≤ limitBound := by
  refine .andThen (.trivial _) fun n _ => ?_
  split
  · rename_i hn
    exact .valid hn
  · exact .invalid _

/-- A call that, if it is a search, asks for a number of results within the bounds. -/
def ToolCall.IsBounded (call : ToolCall) : Prop :=
  ∀ query limit, call = .search query limit → 1 ≤ limit ∧ limit ≤ limitBound

theorem readSearch_ensures (args : Json) : (readSearch args).Ensures ToolCall.IsBounded := by
  have hdefault : 1 ≤ limitDefault ∧ limitDefault ≤ limitBound := by decide
  refine .seq (.map ?_) (Schema.optional_ensures "limit" hdefault fun v _ => readLimit_ensures v)
  rintro _ _ limit hlimit _ _ ⟨⟩
  exact hlimit

theorem readInSet_ensures (args : Json) : (readInSet args).Ensures ToolCall.IsBounded := by
  refine .seq (.map ?_) (.trivial _)
  rintro _ _ search - _ _ ⟨⟩

theorem accept_ensures {args : List (Text × Json)} {names : List String}
    {call? : Validated ToolCall} {call : ToolCall} (hcall : call?.Ensures ToolCall.IsBounded)
    (h : readCall.accept args names call? = some call) : call.IsBounded := by
  unfold readCall.accept at h
  split at h
  · split at h
    · exact Option.some.inj h ▸ hcall _ rfl
    · cases h
  · cases h

theorem isBounded_of_readCall {tool : Text} {args : List (Text × Json)} {call : ToolCall}
    (h : readCall tool args = some call) : call.IsBounded := by
  unfold readCall at h
  split at h
  · exact accept_ensures (readSearch_ensures _) h
  · split at h
    · exact accept_ensures (readInSet_ensures _) h
    · split at h
      · refine accept_ensures (.valid ?_) h
        rintro _ _ ⟨⟩
      · cases h

theorem isReadable_of_isBounded {limit : Int} (h : 1 ≤ limit ∧ limit ≤ limitBound) :
    isReadable limit = true := by
  have hbound : limitBound.natAbs < 10 ^ digitLimit := by
    calc limitBound.natAbs < 10 ^ 3 := by decide
      _ ≤ 10 ^ digitLimit := Nat.pow_le_pow_right (by decide) (by decide)
  exact isReadable_iff.mpr (Nat.lt_of_le_of_lt (by omega) hbound)

/-- The search tool, called with any accepted arguments after any other calls. The number of results
that is asked for is within its bounds; where the query raises nothing for any item, there is an
answer; and an answer says that there are no results exactly when no item of the catalog matches the
query or the cap is below one, whatever matches then. -/
theorem call_search (h : start host env read = .ok s) {tool : Text} {args : List (Text × Json)}
    {query : Text} {limit : Int} (hcall : readCall tool args = some (.search query limit))
    (history : List (Text × List (Text × Json))) :
    let accepts (e : Entry) := (s.engine.accepts (some e.ref) (some query)).reply memory
    let reply := (s.call tool args).reply (s.after history)
    (1 ≤ limit ∧ limit ≤ 200) ∧
    ((∀ e ∈ s.catalog.entries, ∃ b, accepts e = .ok b) → ∃ answer, reply = .ok answer) ∧
    ∀ answer, reply = .ok answer → (answer = "No results found.".toList ↔
      s.maxResults ≤ 0 ∨ ∀ e ∈ s.catalog.entries, accepts e ≠ .ok true) := by
  have hstarted := started_of_start h
  have hlimit := isBounded_of_readCall hcall query limit rfl
  have hm := hstarted.recalls_after history
  have hmemory : s.catalog.Recalls memory := s.catalog.recalls_nil ()
  have hasks : ∀ e ∈ s.catalog.entries, Listing.asks s.engine.accepts (some query) e =
      s.engine.accepts (some e.ref) (some query) := fun e he =>
    Listing.asks_of_isReadable (Entry.isWritable_iff.mp (hstarted.entries e he)).1
  have halike : ∀ e ∈ s.catalog.entries, Alike (s.catalog.BothRecall s.catalog)
      (Listing.asks s.engine.accepts (some query) e) (Listing.asks s.engine.accepts (some query) e) :=
    fun e _ => Listing.asks_alike (hstarted.accepts_alike e.ref (some query))
  have hperform (answer : Text) : (s.call tool args).reply (s.after history) = .ok answer ↔
      (Listing.run s.engine.accepts s.catalog (some query) (min limit s.maxResults)).reply
        (s.after history) = .ok answer := by
    simp only [call, hcall]
    exact Search.reply_tryCatch_eq_ok
  intro accepts reply
  have haccepts : ∀ e ∈ s.catalog.entries,
      (Listing.asks s.engine.accepts (some query) e).reply memory = accepts e :=
    fun e he => congrArg (Search.reply · memory) (hasks e he)
  refine ⟨hlimit, fun hreturns => ?returns, fun answer hanswer => ?noResults⟩
  case returns =>
    choose! isMatch hmatch using hreturns
    obtain ⟨answer, hrun⟩ := Listing.run_returns
      (fun e he => (halike e he).settles hmemory ((haccepts e he).trans (hmatch e he)))
      hstarted.entries (isReadable_min (isReadable_of_isBounded hlimit) hstarted.maxResults) hm
    exact ⟨answer, (hperform answer).mpr hrun⟩
  case noResults =>
    have hshown := Listing.run_eq_noResults_iff halike hmemory hm ((hperform answer).mp hanswer)
    have hnone : (∀ e ∈ s.catalog.entries,
        (Listing.asks s.engine.accepts (some query) e).reply memory ≠ .ok true) ↔
          ∀ e ∈ s.catalog.entries, accepts e ≠ .ok true :=
      forall₂_congr fun e he => by rw [haccepts e he]
    rw [show "No results found.".toList = Listing.noResults from rfl, hshown, hnone]
    exact or_congr_left ⟨by omega, by omega⟩

/-- A host with no accounts, on which a log has to be set up. -/
def bareHost : Host := ⟨⟨none, fun _ => none⟩, false⟩

/-- A file with a catalog of one ring, whatever it is called. -/
def ringFile : Text → Option ByteArray := fun _ =>
  some "\x7b\"items\": [\x7b\"id\": 7, \"name\": \"Ring\"\x7d]\x7d".toUTF8

/-- Settings under which the file is read and results are capped. -/
def ringSettings (cap : String) : Environment :=
  [("ITEM_SEARCH_CATALOG_PATH", "items.json"), ("ITEM_SEARCH_MAX_RESULTS", cap)].map fun
    | (name, value) => (name.toList, value.toList)

instance decidableExistsOk {ε α : Type} {p : α → Prop} [DecidablePred p] :
    (x : Except ε α) → Decidable (∃ a, x = .ok a ∧ p a)
  | .ok a => decidable_of_iff (p a) ⟨fun h => ⟨a, rfl, h⟩, fun ⟨_, h, hp⟩ => Except.ok.inj h ▸ hp⟩
  | .error _ => isFalse fun ⟨_, h, _⟩ => nomatch h

/-- The ring is found after a call that has looked for it in vain. -/
theorem call_search_ring :
    let args := [("query".toList, Json.text "ring".toList)]
    let history := [("item_search".toList, [("query".toList, Json.text "boe".toList)])]
    let answer := "1 result(s)\n\n[7] Ring".toList
    readCall "item_search".toList args = some (.search "ring".toList 20) ∧
    ∃ s, start bareHost (ringSettings "1") ringFile = .ok s ∧
      (s.call "item_search".toList args).reply (s.after history) = .ok answer ∧
      (answer = "No results found.".toList ↔ s.maxResults ≤ 0 ∨ ∀ e ∈ s.catalog.entries,
        (s.engine.accepts (some e.ref) (some "ring".toList)).reply memory ≠ .ok true) := by
  intro args history answer
  have hcall : readCall "item_search".toList args = some (.search "ring".toList 20) := rfl
  have hstart : ∃ s, start bareHost (ringSettings "1") ringFile = .ok s ∧
      (s.call "item_search".toList args).reply (s.after history) = .ok answer := by
    decide +kernel
  obtain ⟨s, hs, hanswer⟩ := hstart
  exact ⟨hcall, s, hs, hanswer, (call_search hs hcall history).2.2 answer hanswer⟩

/-- Under a cap of zero the ring matches the query and the answer is that there are no results. -/
theorem call_search_capZero :
    let args := [("query".toList, Json.text "ring".toList)]
    readCall "item_search".toList args = some (.search "ring".toList 20) ∧
    ∃ s, start bareHost (ringSettings "0") ringFile = .ok s ∧
      (∃ e ∈ s.catalog.entries,
        (s.engine.accepts (some e.ref) (some "ring".toList)).reply memory = .ok true) ∧
      (s.call "item_search".toList args).reply memory = .ok "No results found.".toList := by
  refine ⟨rfl, ?_⟩
  decide +kernel

end Service

end ItemQuery
