import ItemQuery.Proofs.Catalog.Lookup
import ItemQuery.Proofs.Catalog.Valid
import ItemQuery.Proofs.Item.Mention
import ItemQuery.Proofs.Number.Separated

/-!
What a text leads to in a catalog. The number that a link mentions goes before everything else, then
the integer that the whole trimmed text writes, and only a text that is neither is a name. Of several
entries with one id the last is found and of several with one name the first
(`Catalog.find_precedence`).
-/

namespace ItemQuery

/-! ## The last of an id and the first of a name -/

namespace Catalog

variable {c : Catalog}

/-- The last entry with an id, if there is one. -/
def IsLastOf (c : Catalog) (id : Int) : Option Entry → Prop
  | none => ∀ e ∈ c.entries, e.id ≠ id
  | some last => last.id = id ∧
      ∃ before after, c.entries = before ++ last :: after ∧ ∀ later ∈ after, later.id ≠ id

/-- The first entry with a name in whatever case, if there is one. -/
def IsFirstNamed (c : Catalog) (name : Text) : Option Entry → Prop
  | none => ∀ e ∈ c.entries, Text.lower e.name ≠ Text.lower name
  | some first => Text.lower first.name = Text.lower name ∧
      ∃ before after, c.entries = before ++ first :: after ∧
        ∀ earlier ∈ before, Text.lower earlier.name ≠ Text.lower name

theorem isLastOf_byId? (c : Catalog) (id : Int) : c.IsLastOf id (c.byId? id) := by
  cases h : c.byId? id with
  | none =>
    intro e he
    simpa using List.find?_eq_none.mp h e (List.mem_reverse.mpr he)
  | some last => exact ⟨id_of_byId? h, exists_split_of_byId? h⟩

theorem isFirstNamed_byName? (c : Catalog) (name : Text) : c.IsFirstNamed name (c.byName? name) := by
  cases h : c.byName? name with
  | none =>
    intro e he
    simpa using List.find?_eq_none.mp h e he
  | some first =>
    obtain ⟨hname, before, after, hsplit, hbefore⟩ := List.find?_eq_some_iff_append.mp h
    exact ⟨by simpa using hname, before, after, hsplit, fun earlier hearlier => by
      simpa using hbefore earlier hearlier⟩

end Catalog

/-! ## What a text is read for -/

namespace Link

variable {s written : Text} {negative : Bool}

theorem Mentions.length_valuesOf (h : Mentions s negative written) :
    (valuesOf written).length = written.length := by
  obtain ⟨before, ⟨rest, -, hnumber⟩, -⟩ := h
  cases hnumber with
  | plain hrun => exact Link.length_valuesOf hrun.isDigit
  | minus hrun => exact Link.length_valuesOf hrun.isDigit

theorem Mentions.itemId?_eq (h : Mentions s negative written) :
    itemId? s = if written.length ≤ digitLimit
      then .ok (some (applySign negative (digitsValue (valuesOf written))))
      else .error .tooManyDigits := by
  rw [itemId?, firstNumber?_eq_some_iff.mpr ⟨written, h, rfl⟩]
  dsimp only
  rw [h.length_valuesOf]

theorem itemId?_of_unmarked (h : ∀ before negative written, ¬MarkedAt s before negative written) :
    itemId? s = .ok none := by
  rw [itemId?, firstNumber?_eq_none_iff.mpr h]

/-- Where there is a mark with a number behind it, one of them is the leftmost. -/
theorem mentions_or_unmarked (s : Text) : (∃ negative written, Mentions s negative written) ∨
    ∀ before negative written, ¬MarkedAt s before negative written := by
  cases h : firstNumber? s with
  | none => exact .inr (firstNumber?_eq_none_iff.mp h)
  | some number =>
    obtain ⟨negative, digits⟩ := number
    obtain ⟨written, hmentions, -⟩ := firstNumber?_eq_some_iff.mp h
    exact .inl ⟨negative, written, hmentions⟩

end Link

namespace Catalog

/-- What is found for a text. Where it mentions a number behind a mark, that is the last entry with
this id or nothing, and a fault if the number has too many digits to be read. Where it mentions none
but writes an integer, with blanks around it or not, that is again the last entry with this id or
nothing. Any other text is a name, and the first entry with this name in whatever case is found, or
nothing where there is none. -/
theorem find_precedence (c : Catalog) (s : Text) :
    ((∃ negative written, Link.Mentions s negative written) ∨
      ∀ before negative written, ¬Link.MarkedAt s before negative written) ∧
    (∀ negative written, Link.Mentions s negative written →
      (written.length ≤ digitLimit → ∃ found?, c.find s = .ok found? ∧
        c.IsLastOf (applySign negative (digitsValue (Link.valuesOf written))) found?) ∧
      (digitLimit < written.length → c.find s = .error .tooManyDigits)) ∧
    ((∀ before negative written, ¬Link.MarkedAt s before negative written) →
      (∀ id, WritesInteger (Text.trim s) id →
        ∃ found?, c.find s = .ok found? ∧ c.IsLastOf id found?) ∧
      ((∀ id, ¬WritesInteger (Text.trim s) id) →
        ∃ found?, c.find s = .ok found? ∧ c.IsFirstNamed (Text.trim s) found?)) := by
  refine ⟨Link.mentions_or_unmarked s, fun negative written hmentions => ⟨?read, ?overlong⟩,
    fun hunmarked => ⟨?integer, ?name⟩⟩
  case read =>
    intro hlength
    have hid := hmentions.itemId?_eq
    rw [if_pos hlength] at hid
    exact ⟨_, c.find_of_itemId hid, c.isLastOf_byId? _⟩
  case overlong =>
    intro hlength
    have hid := hmentions.itemId?_eq
    rw [if_neg (Nat.not_le.mpr hlength)] at hid
    exact c.find_of_itemId_error hid
  case integer =>
    intro id hwrites
    have hread := (parseInt?_eq_some_iff (Text.trim_trim s)).mpr hwrites
    refine ⟨c.byId? id, ?_, c.isLastOf_byId? id⟩
    rw [c.find_eq, Link.itemId?_of_unmarked hunmarked, hread]
  case name =>
    intro hno
    have hread : parseInt? (Text.trim s) = none :=
      Option.eq_none_iff_forall_ne_some.mpr fun id hid =>
        hno id ((parseInt?_eq_some_iff (Text.trim_trim s)).mp hid)
    refine ⟨c.byName? (Text.trim s), ?_, c.isFirstNamed_byName? _⟩
    rw [c.find_eq, Link.itemId?_of_unmarked hunmarked, hread]

/-- Two entries share an id and two a name. A link mentions the id in digits of another script, behind a
mark without a number; an integer is written with a sign and an underscore; and an entry whose name
reads like a link to an item that is not there is not found by it. -/
theorem find_precedence_rings :
    let ring := Entry.named 7 "Ring"
    let band := Entry.named 7 "Band"
    let capital := Entry.named 12 "RING"
    let disguised := Entry.named 3 "item:9"
    let data := itemsJson [Entry.namedJson 7 "Ring", Entry.namedJson 7 "Band",
      Entry.namedJson 12 "RING", Entry.namedJson 3 "item:9"]
    let c := ofEntries [ring, band, capital, disguised]
    read data = .valid c ∧
      (∃ written, Link.Mentions "item: item:٠٧".toList false written ∧
        c.find "item: item:٠٧".toList = .ok (some band) ∧ c.IsLastOf 7 (some band)) ∧
      (∃ written, Link.Mentions "item:9".toList false written ∧
        c.find "item:9".toList = .ok none ∧ c.IsLastOf 9 none) ∧
      (WritesInteger "+1_2".toList 12 ∧
        c.find " +1_2".toList = .ok (some capital) ∧ c.IsLastOf 12 (some capital)) ∧
      c.find "rING ".toList = .ok (some ring) ∧ c.IsFirstNamed "rING".toList (some ring) := by
  intro ring band capital disguised data c
  have hread : read data = .valid c := rfl
  have hmentioned {s : Text} {digits : List Nat} (h : Link.firstNumber? s = some (false, digits))
      (hlength : digits.length ≤ digitLimit) : ∃ written, Link.Mentions s false written ∧
        ∃ found?, c.find s = .ok found? ∧ c.IsLastOf (digitsValue digits) found? := by
    obtain ⟨written, hmentions, rfl⟩ := Link.firstNumber?_eq_some_iff.mp h
    rw [hmentions.length_valuesOf] at hlength
    exact ⟨written, hmentions, ((find_precedence c s).2.1 false written hmentions).1 hlength⟩
  have hunmarked {s : Text} (h : Link.firstNumber? s = none) :=
    (find_precedence c s).2.2 (Link.firstNumber?_eq_none_iff.mp h)
  refine ⟨hread, ?script, ?missing, ?integer, ?name⟩
  case script =>
    have hnumber : Link.firstNumber? "item: item:٠٧".toList = some (false, [0, 7]) := rfl
    obtain ⟨written, hmentions, found?, hfound, hlast⟩ := hmentioned hnumber (by decide)
    have hband : c.find "item: item:٠٧".toList = .ok (some band) := rfl
    cases hband.symm.trans hfound
    exact ⟨written, hmentions, hband, hlast⟩
  case missing =>
    have hnumber : Link.firstNumber? "item:9".toList = some (false, [9]) := rfl
    obtain ⟨written, hmentions, found?, hfound, hlast⟩ := hmentioned hnumber (by decide)
    have hnone : c.find "item:9".toList = .ok none := rfl
    cases hnone.symm.trans hfound
    exact ⟨written, hmentions, hnone, hlast⟩
  case integer =>
    have hdigits : Separated "1_2".toList [1, 2] := .underscore rfl (.last rfl)
    have hwrites : WritesInteger "+1_2".toList 12 := .plus hdigits (by decide)
    obtain ⟨found?, hfound, hlast⟩ := (hunmarked (s := " +1_2".toList) rfl).1 12 hwrites
    have hcapital : c.find " +1_2".toList = .ok (some capital) := rfl
    cases hcapital.symm.trans hfound
    exact ⟨hwrites, hcapital, hlast⟩
  case name =>
    have hno (id : Int) : ¬WritesInteger "rING".toList id := by
      intro hwrites
      have hread := hwrites.parseInt?_eq rfl
      cases hread
    obtain ⟨found?, hfound, hfirst⟩ := (hunmarked (s := "rING ".toList) rfl).2 hno
    have hring : c.find "rING ".toList = .ok (some ring) := rfl
    cases hring.symm.trans hfound
    exact ⟨hring, hfirst⟩

end Catalog

end ItemQuery
