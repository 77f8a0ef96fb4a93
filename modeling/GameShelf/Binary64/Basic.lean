namespace GameShelf

structure Binary64 where
  bits : UInt64
  deriving DecidableEq, Inhabited

namespace Binary64

def signPlace : Nat := 0x8000000000000000

/-- How many magnitudes have the same exponent: `2 ^ 52`. -/
def binade : Nat := 0x10000000000000

def unitsInOne : Nat := 1 <<< 1074

/-- The bits without the sign; magnitudes of numbers are in the order of their values. -/
def magnitude (x : Binary64) : Nat := x.bits.toNat % signPlace

def isNegative (x : Binary64) : Bool := signPlace ≤ x.bits.toNat

def infinityMagnitude : Nat := 0x7FF0000000000000

def isNaN (x : Binary64) : Bool := infinityMagnitude < x.magnitude

def isFinite (x : Binary64) : Bool := x.magnitude < infinityMagnitude

def ofMagnitude (negative : Bool) (m : Nat) : Binary64 :=
  ⟨UInt64.ofNat (if negative then signPlace + m else m)⟩

def zero : Binary64 := ⟨0⟩

def infinity : Binary64 := ofMagnitude false infinityMagnitude

def nan : Binary64 := ofMagnitude false 0x7FF8000000000000

/-- An integer in the order of the numbers; both zeros have the same. -/
def key (x : Binary64) : Int := if x.isNegative then -(x.magnitude : Int) else x.magnitude

def compare? (a b : Binary64) : Option Ordering :=
  if a.isNaN || b.isNaN then none else some (compare a.key b.key)

/-- The place in the total order of all bit patterns: negative NaNs first, positive ones last. -/
def rank (x : Binary64) : Int := if x.isNegative then -(x.magnitude : Int) - 1 else x.magnitude

def totalCompare (a b : Binary64) : Ordering := compare a.rank b.rank

/-- The value of a finite magnitude as a multiple of `2 ^ -1074`. -/
def unitsOf (m : Nat) : Nat :=
  if m < binade then m else (binade + m % binade) <<< (m / binade - 1)

def units (x : Binary64) : Int :=
  if x.isNegative then -(unitsOf x.magnitude : Int) else unitsOf x.magnitude

/-- The natural number nearest to `num / den`, the even one of two equally near. -/
def roundDiv (num den : Nat) : Nat :=
  let q := num / den
  let r := num % den
  if 2 * r < den then q else if den < 2 * r then q + 1 else q + q % 2

/-- The magnitude nearest to `num / den` units, the even one of two equally near. Significands have
53 bits, so larger values are rounded to a multiple of a power of two. -/
def nearest (num den : Nat) : Nat :=
  let shift := Nat.log2 (num / den) - 52
  min (shift * binade + roundDiv num (den <<< shift)) infinityMagnitude

def distance (a b : Binary64) : Binary64 :=
  if a.isNaN || b.isNaN then nan
  else if a.isFinite && b.isFinite then ofMagnitude false (nearest (a.units - b.units).natAbs 1)
  else if a = b then nan
  else infinity

/-- The double nearest to `10 ^ -9`. -/
def epsilon : Binary64 := ⟨0x3E112E0BE826D695⟩

theorem toNat_bits (x : Binary64) :
    x.bits.toNat = if x.isNegative then signPlace + x.magnitude else x.magnitude := by
  have hb : x.bits.toNat < 2 * signPlace := x.bits.toNat_lt
  by_cases hn : signPlace ≤ x.bits.toNat
  · have hm : x.bits.toNat % signPlace = x.bits.toNat - signPlace := by
      rw [Nat.mod_eq_sub_mod hn, Nat.mod_eq_of_lt (by omega)]
    simp only [isNegative, magnitude, hn, hm, decide_true, if_true]
    omega
  · simp [isNegative, magnitude, hn, Nat.mod_eq_of_lt (Nat.lt_of_not_le hn)]

theorem ofMagnitude_magnitude (x : Binary64) : ofMagnitude x.isNegative x.magnitude = x := by
  have hbits : UInt64.ofNat x.bits.toNat = x.bits := UInt64.ofNat_toNat
  rw [toNat_bits] at hbits
  rw [ofMagnitude, hbits]

end Binary64
end GameShelf
