import TokenFilter.Integer
import TokenFilter.Rounding

/-
Binary floating-point numbers, kept as a sign and a rank: the place of the magnitude among all
magnitudes of the format, zero first and infinity last. Order is then order of ranks.
-/

set_option autoImplicit false

namespace TokenFilter

structure Binary.Format where
  fractionBits : Nat
  exponentBits : Nat
deriving DecidableEq, Repr

namespace Binary.Format

def single : Format := ⟨23, 8⟩
def double : Format := ⟨52, 11⟩

def infinity (f : Format) : Nat := (2 ^ f.exponentBits - 1) * 2 ^ f.fractionBits

def unitBits (f : Format) : Nat := 2 ^ (f.exponentBits - 1) + f.fractionBits - 2

-- The magnitude of a rank, in units of the smallest positive one.
def units (f : Format) (rank : Nat) : Nat :=
  let step := 2 ^ f.fractionBits
  if rank < step then rank else (step + rank % step) * 2 ^ (rank / step - 1)

end Binary.Format

def Binary.Format.nearest (f : Format) (numerator denominator : Nat) : Nat :=
  let scaled := numerator * 2 ^ f.unitBits
  let shift := Nat.log2 (scaled / denominator) - f.fractionBits
  let rank := shift * 2 ^ f.fractionBits + Rounding.halfEven scaled (denominator * 2 ^ shift)
  min rank f.infinity

def Binary.Format.sum (f : Format) (a b : Nat) : Nat :=
  f.nearest (f.units a + f.units b) (2 ^ f.unitBits)

def Binary.Format.product (f : Format) (a b : Nat) : Nat :=
  f.nearest (f.units a * f.units b) (2 ^ (2 * f.unitBits))

def Binary.Format.ratio (f : Format) (a b : Nat) : Nat := f.nearest (f.units a) (f.units b)

def Binary.Format.whole (f : Format) (a : Nat) : Nat :=
  f.nearest (Rounding.halfUp (f.units a) (2 ^ f.unitBits)) 1

inductive Binary (f : Binary.Format) where
  | nan
  | number (negative : Bool) (rank : Nat) (rank_le : rank ≤ f.infinity)
deriving DecidableEq

abbrev Binary32 := Binary .single
abbrev Binary64 := Binary .double

namespace Binary

variable {f : Format}

def ofQuotient (negative : Bool) (numerator denominator : Nat) : Binary f :=
  .number negative (f.nearest numerator denominator) (Nat.min_le_right _ _)

def infinite (negative : Bool) : Binary f := .number negative f.infinity (Nat.le_refl _)

def zero (negative : Bool) : Binary f := .number negative 0 (Nat.zero_le _)

-- Where a number stands among all others. Both zeros stand at 0, and NaN stands nowhere.
def place? : Binary f → Option Int
  | .nan => none
  | .number false rank _ => some rank
  | .number true rank _ => some (-(rank : Int))

def compare? (a b : Binary f) : Option Ordering :=
  match a.place?, b.place? with
  | some x, some y => some (compare x y)
  | _, _ => none

def same (a b : Binary f) : Bool := a.compare? b == some .eq

theorem compare?_swap (a b : Binary f) : (a.compare? b).map Ordering.swap = b.compare? a := by
  cases ha : a.place? <;> cases hb : b.place? <;> simp [compare?, ha, hb, Int.compare_swap]

end Binary

end TokenFilter
