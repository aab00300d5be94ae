import ItemQuery.Proofs.Number.Order
import ItemQuery.Proofs.Query.Judgement

/-!
What comparison operators say. Behind its spelling an operator asks for a relation of two numbers and
for its answer to be turned around or not, and that comes to the relation which it stands for in an
order (`Operator.relates_iff`). A predicate that compares an item's number with what it has read
answers accordingly under every operator (`Predicate.Measures.answers`), so that in a linear order
exactly one of "less", "equal" and "greater" is answered by yes (`Operator.Answers.partitions`).
-/

namespace ItemQuery

variable {α : Type} [LinearOrder α] {a b : α}

/-! ## Relations -/

namespace Relation

def Orders (a b : α) : Relation → Prop
  | .atMost => a ≤ b
  | .less => a < b
  | .greater => b < a
  | .atLeast => b ≤ a
  | .equal => a = b

theorem admits_iff (r : Relation) {o : Ordering} (h : o.Compares a b) :
    r.admits o = true ↔ r.Orders a b := by
  cases r with
  | atMost => exact Ordering.isLE_iff_ne_gt.trans h.ne_gt
  | less => exact Ordering.isLT_iff_eq_lt.trans h.eq_lt
  | greater => exact Ordering.isGT_iff_eq_gt.trans h.eq_gt
  | atLeast => exact Ordering.isGE_iff_ne_lt.trans h.ne_lt
  | equal => exact Ordering.isEq_iff_eq_eq.trans h.eq_eq

end Relation

namespace Operator

/-- What an operator says of two values. -/
def Relates (op : Text) (a b : α) : Prop :=
  match op with
  | ['<', '='] => a ≤ b
  | ['>', '='] => b ≤ a
  | ['!', '='] => a ≠ b
  | ['~', '='] => a ≠ b
  | ['<'] => a < b
  | ['>'] => b < a
  | _ => a = b

/-- How the operators are read: the relation that is asked for, and whether the answer is turned
around. -/
def readings : List (String × Relation × Bool) :=
  [("<=", .atMost, false), (">=", .atLeast, false), ("==", .equal, false), ("!=", .equal, true),
    ("~=", .equal, true), ("<", .less, false), (">", .greater, false), ("=", .equal, false),
    (":", .equal, false)]

theorem exists_reading : ∀ op ∈ spellings, ∃ reading ∈ readings, op = reading.1.toList ∧
    Relation.ofOperator (asked (some op)) = reading.2.1 ∧ inverts (some op) = reading.2.2 := by
  decide

theorem relates_reading : ∀ reading ∈ readings, (Relates reading.1.toList a b ↔
    if reading.2.2 then ¬reading.2.1.Orders a b else reading.2.1.Orders a b) := by
  simp only [readings, List.forall_mem_cons]
  exact ⟨.rfl, .rfl, .rfl, .rfl, .rfl, .rfl, .rfl, .rfl, .rfl, List.forall_mem_nil _⟩

theorem relates_iff {op : Text} (hop : op ∈ spellings) {o : Ordering} (h : o.Compares a b) :
    ((Relation.ofOperator (asked (some op))).admits o != inverts (some op)) = true ↔
      Relates op a b := by
  obtain ⟨⟨spelling, relation, turned⟩, hreading, rfl, hasked, hinverts⟩ := exists_reading op hop
  rw [relates_reading _ hreading, hasked, hinverts]
  cases turned with
  | true => simp [← relation.admits_iff h]
  | false => simp [← relation.admits_iff h]

/-- What an operator says of a value that may be unknown: an unknown one is different from all. -/
def Says (op : Text) (known? : Option α) (b : α) : Prop :=
  match known? with
  | some a => Relates op a b
  | none => op = notEqual ∨ op = notEqualTilde

/-- Whoever is asked with an operator says whether the known value stands to `b` as it says. -/
def Answers (asks : Text → Except Fault Bool) (known? : Option α) (b : α) : Prop :=
  ∀ op ∈ spellings, ∃ answer, asks op = .ok answer ∧ (answer = true ↔ Says op known? b)

/-- Exactly one of "less", "equal" and "greater" is answered by yes, and the other operators are
answered by what they are made of. -/
def Partitions (asks : Text → Except Fault Bool) : Prop :=
  ∃ less equal greater : Bool, [less, equal, greater].count true = 1 ∧
    asks "<".toList = .ok less ∧ (∀ op ∈ equality, asks op = .ok equal) ∧
    asks ">".toList = .ok greater ∧ asks "<=".toList = .ok (less || equal) ∧
    asks ">=".toList = .ok (greater || equal) ∧
    ∀ op ∈ [notEqual, notEqualTilde], asks op = .ok !equal

variable {asks : Text → Except Fault Bool}

theorem Answers.congr {asks' : Text → Except Fault Bool} {known? : Option α}
    (h : Answers asks known? b) (heq : ∀ op ∈ spellings, asks' op = asks op) :
    Answers asks' known? b := by
  intro op hop
  rw [heq op hop]
  exact h op hop

theorem Answers.eq_decide (h : Answers asks (some a) b) {op : Text} (hop : op ∈ spellings)
    {p : Prop} [Decidable p] (hp : Relates op a b ↔ p) : asks op = .ok (decide p) := by
  obtain ⟨answer, hasks, hanswer⟩ := h op hop
  rw [hasks, Bool.eq_iff_iff.mpr (hanswer.trans (hp.trans decide_eq_true_iff.symm))]

/-- In a linear order the operators divide all values between them. -/
theorem Answers.partitions (h : Answers asks (some a) b) : Partitions asks := by
  refine ⟨decide (a < b), decide (a = b), decide (b < a), ?one, h.eq_decide (by decide) .rfl, ?equal,
    h.eq_decide (by decide) .rfl, ?atMost, ?atLeast, ?different⟩
  case one =>
    rcases lt_trichotomy a b with hlt | heq | hgt
    · simp [hlt, hlt.ne, hlt.not_gt]
    · simp [heq]
    · simp [hgt, hgt.ne', hgt.not_gt]
  case equal =>
    intro op hop
    have hequal : ∀ op ∈ equality, op ∈ spellings := by decide
    have hrelates : ∀ op ∈ equality, (Relates op a b ↔ a = b) := by
      simp only [equality, List.map_cons, List.map_nil, List.forall_mem_cons]
      exact ⟨.rfl, .rfl, .rfl, List.forall_mem_nil _⟩
    exact h.eq_decide (hequal op hop) (hrelates op hop)
  case atMost =>
    have hrelates : Relates "<=".toList a b ↔ a < b ∨ a = b := le_iff_lt_or_eq
    rw [h.eq_decide (by decide) hrelates, Bool.decide_or]
  case atLeast =>
    have hrelates : Relates ">=".toList a b ↔ b < a ∨ a = b := le_iff_lt_or_eq'
    rw [h.eq_decide (by decide) hrelates, Bool.decide_or]
  case different =>
    intro op hop
    have hrelates : ∀ op ∈ [notEqual, notEqualTilde], op ∈ spellings ∧ (Relates op a b ↔ ¬a = b) := by
      simp only [List.forall_mem_cons]
      exact ⟨⟨by decide, .rfl⟩, ⟨by decide, .rfl⟩, List.forall_mem_nil _⟩
    rw [h.eq_decide (hrelates op hop).1 (hrelates op hop).2, decide_not]

theorem Answers.partitions_int {k : Int} {v : Exact} (h : Answers asks (Number.int k).place? v) :
    Partitions asks := by
  rw [Number.place?_int] at h
  exact h.partitions

end Operator

open Operator (Answers asked inverts)

/-! ## Predicates that compare numbers -/

namespace Predicate

variable {σ : Type} {p : Predicate σ} {item x : Text} {s : σ} {known? : Option Int} {n : Number}

/-- A predicate reads a text as a number and compares what it knows of the item with it. -/
structure Measures (p : Predicate σ) (item x : Text) (s : σ) (known? : Option Int) (n : Number) :
    Prop where
  captures : ∀ op?, p.canSearch op? x = pure (some (.number n))
  evaluates : ∀ op?, (p.evaluate item op? (.number n)).reply s =
    .ok (known?.any fun k => (Relation.ofOperator op?).holds (.int k) n)

theorem Measures.reply_judge (h : p.Measures item x s known? n) (op? : Option Text) :
    (p.judge item op? x).reply s =
      .ok ((known?.any fun k => (Relation.ofOperator (asked op?)).holds (.int k) n) != inverts op?) := by
  have hcaptured : p.canSearch (asked op?) x s = .ok (some (.number n)) s := by
    rw [h.captures]
    rfl
  rw [reply_judge_of_captured hcaptured, h.evaluates]
  rfl

/-- Where the number has a place in an order, each operator says how what is known stands to it. -/
theorem Measures.answers (h : p.Measures item x s known? n) {value : Int → α} {b : α}
    (hn : ∀ k, ∃ o, (Number.int k).order? n = some o ∧ o.Compares (value k) b) :
    Answers (fun op => (p.judge item (some op) x).reply s) (known?.map value) b := by
  intro op hop
  refine ⟨_, h.reply_judge (some op), ?_⟩
  cases known? with
  | none =>
    have hdifferent : ∀ op ∈ Operator.spellings,
        (inverts (some op) = true ↔ op = Operator.notEqual ∨ op = Operator.notEqualTilde) := by
      decide
    simpa [Operator.Says] using hdifferent op hop
  | some k =>
    obtain ⟨o, horder, hcompares⟩ := hn k
    have hrelates := Operator.relates_iff hop hcompares
    simpa [Operator.Says, Relation.holds, horder] using hrelates

theorem Measures.answers_int {n : Int} (h : p.Measures item x s known? (.int n)) :
    Answers (fun op => (p.judge item (some op) x).reply s) known? n := by
  have hanswers := h.answers fun k => ⟨_, Number.order?_int k n, (compare_iff k n).mp rfl⟩
  rwa [Option.map_id'] at hanswers

theorem Measures.answers_place (h : p.Measures item x s known? n) {v : Exact}
    (hn : n.place? = some v) : Answers (fun op => (p.judge item (some op) x).reply s)
      (known?.bind fun k => (Number.int k).place?) v := by
  have hanswers := h.answers fun k => Number.order?_compares (Number.place?_int k) hn
  cases known? with
  | none => exact hanswers
  | some k =>
    rw [Option.bind_some, Number.place?_int]
    exact hanswers

end Predicate

end ItemQuery
