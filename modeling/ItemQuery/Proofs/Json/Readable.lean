import ItemQuery.Json.Reader
import ItemQuery.Proofs.Catalog.Valid
import ItemQuery.Proofs.Number.Integer

/-!
Integers in JSON text. A number with too many digits is no JSON, so every integer of a value that is
read from text can be written and read again (`Json.readable_of_parse?`). A schema does not read
longer ones out of it, not even out of its texts, and so the ids and levels of a catalog that is read
from text can be shown (`Catalog.isWritable_of_parse`).
-/

namespace ItemQuery

/-! ## Plain integers -/

theorem asciiDigit?_lt {c : Char} {d : Nat} (h : asciiDigit? c = some d) : d < 10 := by
  unfold asciiDigit? at h
  split at h
  · rename_i hc
    obtain rfl := Option.some.inj h
    have hle : c.toNat ≤ '9'.toNat := hc.2
    have hnine : '9'.toNat = '0'.toNat + 9 := by decide
    omega
  · cases h

namespace PlainInt

theorem digits_lt {t rest : Text} {n : PlainInt} (h : take? t = some (n, rest)) :
    ∀ d ∈ n.digits, d < 10 := by
  have htake : n.digits = (takeDigits (takeMinus t).2).1 := by
    unfold take? at h
    dsimp only at h
    split at h
    · cases h
    · cases h
    · rename_i digits rest' _ _ hdigits
      cases h
      rw [hdigits]
  intro d hd
  rw [htake] at hd
  obtain ⟨c, -, hc⟩ := List.mem_filterMap.mp hd
  exact asciiDigit?_lt hc

theorem isReadable_value {t rest : Text} {n : PlainInt} (h : take? t = some (n, rest))
    (hshort : n.isOverlong = false) : isReadable n.value = true :=
  isReadable_of_digits (digits_lt h) (by simpa [isOverlong] using hshort)

end PlainInt

namespace Json

/-- A value in which no integer has too many digits to be read. -/
inductive Readable : Json → Prop
  | null : Readable .null
  | bool (b : Bool) : Readable (.bool b)
  | int {n : Int} (h : isReadable n = true) : Readable (.number (.int n))
  | double (d : Double) : Readable (.number (.double d))
  | text (t : Text) : Readable (.text t)
  | array {items : List Json} (h : ∀ v ∈ items, Readable v) : Readable (.array items)
  | object {members : List (Text × Json)} (h : ∀ m ∈ members, Readable m.2) :
    Readable (.object members)

theorem Readable.member {v member : Json} (hv : v.Readable) {name : String}
    (h : v.member? name = some member) : member.Readable := by
  cases hv with
  | object hmembers =>
    obtain ⟨before, after, hsplit, -⟩ := List.lookup_eq_some_iff.mp h
    exact hmembers (name.toList, member) (by simp [hsplit])
  | _ => cases h

theorem readable_insertMember (name : Text) {value : Json} (hvalue : value.Readable)
    {members : List (Text × Json)} (h : ∀ m ∈ members, m.2.Readable) :
    ∀ m ∈ insertMember name value members, m.2.Readable := by
  induction members with
  | nil => simpa [insertMember] using hvalue
  | cons m members ih =>
    obtain ⟨hm, hmembers⟩ := List.forall_mem_cons.mp h
    unfold insertMember
    split
    · exact List.forall_mem_cons.mpr ⟨hvalue, hmembers⟩
    · exact List.forall_mem_cons.mpr ⟨hm, ih hmembers⟩

/-! ## Reading text -/

theorem readable_of_readNumber {t rest : Text} {n : Number} (h : readNumber t = some (n, rest)) :
    (Json.number n).Readable := by
  unfold readNumber at h
  split at h
  · cases h
    exact .double _
  · obtain ⟨⟨whole, rest₁⟩, hwhole, h⟩ := Option.bind_eq_some_iff.mp h
    dsimp only at h
    split at h
    · cases h
    · rename_i hshort
      obtain ⟨⟨fraction?, rest₂⟩, -, h⟩ := Option.bind_eq_some_iff.mp h
      obtain ⟨⟨exponent?, rest₃⟩, -, h⟩ := Option.bind_eq_some_iff.mp h
      dsimp only at h
      split at h
      · cases h
        exact .int (PlainInt.isReadable_value hwhole (by simpa using hshort))
      · cases h
        exact .double _

theorem readable_of_readWord {t rest : Text} {v : Json} (h : readWord t = some (v, rest)) :
    v.Readable := by
  obtain ⟨⟨word, value⟩, hword, hafter⟩ := List.exists_of_findSome?_eq_some h
  obtain ⟨rest', -, heq⟩ := Option.map_eq_some_iff.mp hafter
  cases heq
  simp only [words, List.mem_cons, List.not_mem_nil, or_false, Prod.mk.injEq] at hword
  rcases hword with ⟨-, rfl⟩ | ⟨-, rfl⟩ | ⟨-, rfl⟩ | ⟨-, rfl⟩ | ⟨-, rfl⟩
  · exact .null
  · exact .bool true
  · exact .bool false
  · exact .double _
  · exact .double _

/-- One level of nesting after the other: a value is put together from readable ones. -/
theorem readable_of_read (fuel : Nat) :
    (∀ depth t v rest, readValue depth fuel t = some (v, rest) → v.Readable) ∧
    (∀ depth seen t v rest, (∀ v ∈ seen, v.Readable) →
      readItems depth fuel seen t = some (v, rest) → v.Readable) ∧
    ∀ depth seen t v rest, (∀ m ∈ seen, m.2.Readable) →
      readMembers depth fuel seen t = some (v, rest) → v.Readable := by
  induction fuel with
  | zero => simp [readValue, readItems, readMembers]
  | succ fuel ih =>
    obtain ⟨ihValue, ihItems, ihMembers⟩ := ih
    refine ⟨?value, ?items, ?members⟩
    case value =>
      intro depth t v rest h
      unfold readValue at h
      split at h
      · obtain ⟨_, -, heq⟩ := Option.map_eq_some_iff.mp h
        cases heq
        exact .text _
      · split at h
        · cases h
          exact .array (List.forall_mem_nil _)
        · cases h
        · exact ihItems _ _ _ _ _ (List.forall_mem_nil _) h
      · split at h
        · cases h
          exact .object (List.forall_mem_nil _)
        · cases h
        · exact ihMembers _ _ _ _ _ (List.forall_mem_nil _) h
      · split at h
        · rename_i hword
          cases h
          exact readable_of_readWord hword
        · obtain ⟨_, hnumber, heq⟩ := Option.map_eq_some_iff.mp h
          cases heq
          exact readable_of_readNumber hnumber
    case items =>
      intro depth seen t v rest hseen h
      unfold readItems at h
      split at h
      · cases h
      · rename_i value rest' hvalue
        have hvalues : ∀ v ∈ value :: seen, v.Readable :=
          List.forall_mem_cons.mpr ⟨ihValue _ _ _ _ hvalue, hseen⟩
        split at h
        · exact ihItems _ _ _ _ _ hvalues h
        · cases h
          exact .array fun v hv => hvalues v (List.mem_reverse.mp hv)
        · cases h
    case members =>
      intro depth seen t v rest hseen h
      unfold readMembers at h
      split at h
      · split at h
        · cases h
        · rename_i name _ _
          split at h
          · split at h
            · cases h
            · rename_i hvalue
              have hmembers := readable_insertMember name (ihValue _ _ _ _ hvalue) hseen
              split at h
              · exact ihMembers _ _ _ _ _ hmembers h
              · cases h
                exact .object hmembers
              · cases h
          · cases h
      · cases h

/-- What is read from text has no integer with too many digits. -/
theorem readable_of_parse? {t : Text} {v : Json} (h : parse? t = some v) : v.Readable := by
  unfold parse? parseWithin? at h
  split at h
  · rename_i hvalue
    split at h
    · cases h
      exact (readable_of_read _).1 _ _ _ _ hvalue
    · cases h
  · cases h

end Json

/-! ## Reading by a schema -/

theorem IntegerText.isReadable_of_readPlain {t : Text} {n : Int} (h : readPlain t = .ok n) :
    isReadable n = true := by
  unfold readPlain at h
  split at h
  · cases h
  · rename_i hplain
    split at h
    · cases h
    · rename_i hshort
      split at h
      · cases h
        exact PlainInt.isReadable_value hplain (by simpa using hshort)
      · cases h

theorem IntegerText.isReadable_of_read {t : Text} {n : Int} (h : read t = .ok n) :
    isReadable n = true := by
  unfold read at h
  split at h
  · split at h
    · rename_i hcleaned
      cases h
      obtain ⟨cleaned, -, hplain⟩ := Option.map_eq_some_iff.mp hcleaned
      exact isReadable_of_readPlain hplain
    · cases h
  · exact isReadable_of_readPlain h

namespace Schema

theorem readIntText_ensures (t : Text) : (readIntText t).Ensures fun n => isReadable n = true := by
  unfold readIntText
  cases h : IntegerText.read t with
  | ok n => exact .valid (IntegerText.isReadable_of_read h)
  | error defect => exact .invalid _

theorem readIntDouble_ensures (d : Double) :
    (readIntDouble d).Ensures fun n => isReadable n = true := by
  have hbound : wordBound ≤ 10 ^ digitLimit := by
    calc wordBound ≤ 10 ^ 19 := by decide
      _ ≤ 10 ^ digitLimit := Nat.pow_le_pow_right (by decide) (by decide)
  unfold readIntDouble
  split
  · exact .invalid _
  · split
    · exact .invalid _
    · split
      · rename_i hword
        exact .valid (isReadable_iff.mpr (Nat.lt_of_lt_of_le hword hbound))
      · exact .invalid _

theorem readInt_ensures {v : Json} (hv : v.Readable) :
    (readInt v).Ensures fun n => isReadable n = true := by
  cases hv with
  | int h => exact .valid h
  | double d => exact readIntDouble_ensures d
  | bool b => exact .valid (by cases b <;> decide)
  | text t => exact readIntText_ensures t
  | _ => exact .invalid _

end Schema

/-! ## Entries and catalogs -/

/-- Whether the numbers of an entry that are ever shown are short enough to be written. -/
def Entry.isWritable (e : Entry) : Bool := isReadable e.id && e.level.all isReadable

theorem Entry.isWritable_iff {e : Entry} : e.isWritable = true ↔
    isReadable e.id = true ∧ ∀ level ∈ e.level, isReadable level = true := by
  rw [isWritable, Bool.and_eq_true, Option.all_eq_true]
  rfl

theorem Entry.readable_ensures {v : Json} (hv : v.Readable) :
    (Entry.read v).Ensures fun e => e.isWritable = true := by
  have hid : (Schema.required "id" Schema.readInt v).Ensures fun id => isReadable id = true :=
    Schema.required_ensures "id" fun member hmember => Schema.readInt_ensures (hv.member hmember)
  have hlevel : (Schema.optional "level" none (Schema.nullable Schema.readInt) v).Ensures
      fun level? => ∀ level ∈ level?, isReadable level = true :=
    Schema.optional_ensures "level" (fun level h => absurd h (Option.not_mem_none level))
      fun member hmember => Schema.nullable_ensures (Schema.readInt_ensures (hv.member hmember))
  have hfields : (readFields v).Ensures fun e => e.isWritable = true := by
    refine Schema.readObject_ensures ?_
    refine .seq (.seq (.seq (.seq (.seq (.seq (.seq (.seq (.seq (.map ?_) (.trivial _)) (.trivial _))
      (.trivial _)) (.trivial _)) (.trivial _)) (.trivial _)) hlevel) (.trivial _)) (.trivial _)
    exact fun id hread _ _ _ _ _ _ _ _ _ _ _ _ level hlevel _ _ _ _ =>
      isWritable_iff.mpr ⟨hid id hread, hlevel⟩
  refine .andThen hfields fun e he => ?_
  unfold checkLink
  split
  · exact .valid he
  · exact .invalid _

theorem Catalog.readable_ensures {v : Json} (hv : v.Readable) :
    (Catalog.read v).Ensures fun c => ∀ e ∈ c.entries, e.isWritable = true := by
  refine read_ensures fun items hitems item hitem => Entry.readable_ensures ?_
  cases hv.member hitems with
  | array hall => exact hall item hitem

/-- No entry of a catalog that is read from text has a number with too many digits to be shown. -/
theorem Catalog.isWritable_of_parse {t : Text} {c : Catalog} (h : parse t = .valid c) :
    ∀ e ∈ c.entries, e.isWritable = true := by
  unfold parse at h
  split at h
  · rename_i hparse
    exact readable_ensures (Json.readable_of_parse? hparse) c h
  · cases h

theorem Catalog.isReadable_of_parse {t : Text} {c : Catalog} (h : parse t = .valid c) :
    ∀ e ∈ c.entries, isReadable e.id = true :=
  fun e he => (Entry.isWritable_iff.mp (isWritable_of_parse h e he)).1

end ItemQuery
