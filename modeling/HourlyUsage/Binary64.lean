/-!
# Whole parts of double-precision numbers

A decimal literal with a fraction or an exponent stands for the nearest double-precision number,
ties going to the even significand. `ofDecimal` gives the whole part of that number. All arithmetic
is on naturals.

Sources: the numbers with a fraction or an exponent of a JSON value, where a setting or an instant
takes a whole number.
-/
namespace HourlyUsage.Binary64

/-- A quotient rounded to the nearest natural number, ties to even. -/
def roundDiv (num den : Nat) : Nat :=
  let q := num / den
  let r := num % den
  if 2 * r < den then q
  else if den < 2 * r then q + 1
  else if q % 2 = 0 then q else q + 1

/-- The least exponent of a significand's last bit. -/
def minExponent : Int := -1074

def maxExponent : Int := 971

/-- Significands stay below this number, which has 53 binary zeros. -/
def greatest : Nat := 0x20000000000000

/-- The significand of `num / den` when its last bit has exponent `e`. -/
def significandAt (num den : Nat) (e : Int) : Nat :=
  if 0 ≤ e then roundDiv num (den * Nat.pow 2 e.toNat)
  else roundDiv (num * Nat.pow 2 (-e).toNat) den

/-- The double nearest to `num / den`, as significand and exponent; `none` for infinity. -/
def nearest (num den : Nat) : Option (Nat × Int) :=
  if num = 0 then some (0, 0)
  else
    -- One of the two exponents below gives a significand of full length.
    let e := max minExponent (((num.log2 : Int) - den.log2) - 53)
    let m := significandAt num den e
    let (m, e) := if greatest < m then (significandAt num den (e + 1), e + 1) else (m, e)
    let (m, e) := if m = greatest then (greatest / 2, e + 1) else (m, e)
    if maxExponent < e then none else some (m, e)

/-- What a decimal number becomes as a double. -/
inductive Rounded where
  | infinite
  /-- A number with this whole part; `exact` if it has no fraction. -/
  | finite (whole : Nat) (exact : Bool)
  deriving DecidableEq

/-- `digits · 10 ^ exponent` as a double. The first three cases only keep the powers of ten small:
there the answer is plain. -/
def ofDecimal (digits : Nat) (exponent : Int) : Rounded :=
  if digits = 0 then .finite 0 true
  else if 310 < exponent then .infinite
  else if exponent < -(digits.log2 + 400 : Nat) then .finite 0 true
  else
    let num := if 0 ≤ exponent then digits * Nat.pow 10 exponent.toNat else digits
    let den := if 0 ≤ exponent then 1 else Nat.pow 10 (-exponent).toNat
    match nearest num den with
    | none => .infinite
    | some (m, e) =>
      if 0 ≤ e then .finite (m * Nat.pow 2 e.toNat) true
      else .finite (m / Nat.pow 2 (-e).toNat) (m % Nat.pow 2 (-e).toNat = 0)

end HourlyUsage.Binary64
