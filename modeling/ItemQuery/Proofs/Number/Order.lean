import ItemQuery.Number.Basic
import Mathlib.Algebra.Order.Field.Power
import Mathlib.Algebra.Order.Ring.Rat
import Mathlib.Order.WithBot

/-!
How numbers are ordered. Every number but a NaN has a place among the rational numbers and the two
infinities, and two of them are ordered as their places are, be they integers of any size or doubles
(`Number.order?_compares`).
-/

namespace ItemQuery

/-- The rational numbers with the two infinities. -/
abbrev Exact := WithBot (WithTop ℚ)

/-! ## Dyadics and infinities -/

namespace Extended

def place : Extended → Exact
  | .below => ⊥
  | .dyadic mantissa exponent => ((mantissa * 2 ^ exponent : ℚ) : WithTop ℚ)
  | .above => (⊤ : WithTop ℚ)

theorem lt_inUnits {j k : Int} (h : j < k) (e : Int) :
    (((j * 2 ^ e : ℚ) : WithTop ℚ) : Exact) < ((k * 2 ^ e : ℚ) : WithTop ℚ) := by
  have hunit : (0 : ℚ) < 2 ^ e := zpow_pos (by norm_num) e
  have hcast : (j : ℚ) < k := Int.cast_lt.mpr h
  exact WithBot.coe_lt_coe.mpr (WithTop.coe_lt_coe.mpr (mul_lt_mul_of_pos_right hcast hunit))

/-- Integers in units of a power of two are ordered as the numbers that they count. -/
theorem compares_inUnits (j k e : Int) :
    (compare j k).Compares (((j * 2 ^ e : ℚ) : WithTop ℚ) : Exact) ((k * 2 ^ e : ℚ) : WithTop ℚ) := by
  cases h : compare j k with
  | lt => exact lt_inUnits (Int.compare_eq_lt.mp h) e
  | eq =>
    obtain rfl := Int.compare_eq_eq.mp h
    exact rfl
  | gt => exact lt_inUnits (Int.compare_eq_gt.mp h) e

theorem dyadic_inUnits (m : Int) {e least : Int} (h : least ≤ e) :
    ((m * twoTo (e - least).toNat : Int) : ℚ) * 2 ^ least = m * 2 ^ e := by
  have hexponent : e = ((e - least).toNat : Int) + least := by omega
  have hpower : ((twoTo (e - least).toNat : Int) : ℚ) = 2 ^ ((e - least).toNat : Int) := by
    rw [zpow_natCast]
    exact_mod_cast rfl
  calc ((m * twoTo (e - least).toNat : Int) : ℚ) * 2 ^ least
      = m * (2 ^ ((e - least).toNat : Int) * 2 ^ least) := by
        rw [Int.cast_mul, hpower, mul_assoc]
    _ = m * 2 ^ e := by rw [← zpow_add₀ (by norm_num), ← hexponent]

/-- Two numbers that are not infinite are compared in units of the lower power. -/
theorem order_compares (x y : Extended) : (x.order y).Compares x.place y.place := by
  cases x with
  | below =>
    cases y with
    | below => exact rfl
    | dyadic n q => exact WithBot.bot_lt_coe _
    | above => exact WithBot.bot_lt_coe _
  | above =>
    cases y with
    | below => exact WithBot.bot_lt_coe _
    | dyadic n q => exact WithBot.coe_lt_coe.mpr (WithTop.coe_lt_top _)
    | above => exact rfl
  | dyadic m p =>
    cases y with
    | below => exact WithBot.bot_lt_coe _
    | above => exact WithBot.coe_lt_coe.mpr (WithTop.coe_lt_top _)
    | dyadic n q =>
      have hunits := compares_inUnits (m * twoTo (p - min p q).toNat)
        (n * twoTo (q - min p q).toNat) (min p q)
      rw [dyadic_inUnits m (min_le_left p q), dyadic_inUnits n (min_le_right p q)] at hunits
      exact hunits

end Extended

/-! ## Numbers -/

namespace Number

/-- The place of a number in the order of exact values, none for a NaN. -/
def place? (n : Number) : Option Exact := n.value?.map Extended.place

theorem place?_int (n : Int) : place? (.int n) = some (((n : ℚ) : WithTop ℚ) : Exact) := by
  simp [place?, value?, Extended.place]

theorem order?_compares {a b : Number} {v w : Exact} (ha : a.place? = some v)
    (hb : b.place? = some w) : ∃ o, a.order? b = some o ∧ o.Compares v w := by
  obtain ⟨x, hx, rfl⟩ := Option.map_eq_some_iff.mp ha
  obtain ⟨y, hy, rfl⟩ := Option.map_eq_some_iff.mp hb
  refine ⟨x.order y, ?_, x.order_compares y⟩
  rw [order?, hx, hy]
  rfl

/-- Two integers are ordered as integers. -/
theorem order?_int (m n : Int) : order? (.int m) (.int n) = some (compare m n) := by
  simp [order?, value?, Extended.order, twoTo]

end Number

end ItemQuery
