import Mathlib.Algebra.Order.Ring.Rat
import Mathlib.Data.Nat.Cast.Order.Ring

/-!
# JavaScript numbers with their infinities

A finite number is the rational it stands for; rounding and the sign of zero are left out.
-/

namespace KubeNova.Foundation

inductive Number where
  | finite (q : ℚ)
  | infinity
  | negInfinity
  | nan
  deriving DecidableEq

namespace Number

def ofNat (n : Nat) : Number := finite n

def truncate (q : ℚ) : Int := if 0 ≤ q then q.floor else q.ceil

def trunc : Number → Number
  | finite q => finite (truncate q)
  | x => x

def ceil : Number → Number
  | finite q => finite q.ceil
  | x => x

def max : Number → Number → Number
  | nan, _ | _, nan => nan
  | infinity, _ | _, infinity => infinity
  | negInfinity, y => y
  | x, negInfinity => x
  | finite p, finite q => finite (if p ≤ q then q else p)

/-- `<=` -/
def le : Number → Number → Bool
  | nan, _ | _, nan => false
  | negInfinity, _ | _, infinity => true
  | infinity, _ | _, negInfinity => false
  | finite p, finite q => p ≤ q

def div : Number → Number → Number
  | nan, _ | _, nan => nan
  | finite p, finite q => finite (p / q)
  | finite _, _ => finite 0
  | x, finite _ => x
  | _, _ => nan

/-- `Math.max(0, Math.trunc(value))`, on a finite number. -/
def toSafeNat (q : ℚ) : Nat := (truncate q).toNat

@[simp] theorem truncate_natCast (n : Nat) : truncate n = n := by
  have hpos : (0 : ℚ) ≤ n := Nat.cast_nonneg n
  rw [truncate, if_pos hpos]
  exact_mod_cast Rat.floor_intCast (n : Int)

@[simp] theorem toSafeNat_natCast (n : Nat) : toSafeNat n = n := by
  rw [toSafeNat, truncate_natCast]
  rfl

/-- Below a bound that is not infinite there are finitely many natural numbers. -/
theorem exists_not_le {x : Number} (hx : x ≠ infinity) :
    ∃ m : Nat, ∀ n, m < n → le (ofNat n) x = false := by
  cases x with
  | infinity => exact absurd rfl hx
  | negInfinity => exact ⟨0, fun n _ => rfl⟩
  | nan => exact ⟨0, fun n _ => rfl⟩
  | finite q =>
      refine ⟨q.ceil.toNat, ?_⟩
      intro n hn
      have hceil : q ≤ (q.ceil.toNat : ℚ) := by
        have hle : q ≤ (q.ceil : ℚ) := Rat.le_ceil
        have hnat : (q.ceil : ℚ) ≤ ((q.ceil.toNat : Int) : ℚ) := by
          exact_mod_cast Int.self_le_toNat q.ceil
        exact hle.trans (by exact_mod_cast hnat)
      have hcast : (q.ceil.toNat : ℚ) < n := by exact_mod_cast hn
      have hlt : ¬(n : ℚ) ≤ q := not_le.mpr (lt_of_le_of_lt hceil hcast)
      simp [le, ofNat, hlt]

end Number

end KubeNova.Foundation
