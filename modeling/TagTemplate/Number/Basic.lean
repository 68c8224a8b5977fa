/-!
# Numbers

Template numbers are the binary numbers of double precision, held by their exact value. Every
finite magnitude is a whole number of units of `2 ^ (-1074)`, so each operation can be carried
out on integers and rounded once, to the nearest number with ties to the even significand.
There is one NaN; zeros and infinities have a sign. Powers are written `Nat.pow` and `Int.pow`, so
that they mean the same wherever the definitions are used.
-/

namespace TagTemplate

/-- The magnitude of a finite number: `significand * 2 ^ scale` units of `2 ^ (-1074)`, in the
one form in which the significand has 53 binary digits unless the scale is zero. -/
structure Magnitude where
  /-- The digits before scaling. -/
  significand : Nat
  /-- The power of two that scales them. -/
  scale : Nat
  /-- At most 53 binary digits. -/
  significand_lt : significand < Nat.pow 2 53
  /-- The largest magnitudes lie just below `2 ^ 1024`. -/
  scale_le : scale ≤ 2045
  /-- A shorter significand occurs at the smallest scale only. -/
  normal : Nat.pow 2 52 ≤ significand ∨ scale = 0
  deriving DecidableEq

/-- A number of a template. -/
inductive Number where
  /-- No number. -/
  | nan
  /-- An infinity. -/
  | infinite (negative : Bool)
  /-- A finite number, zero with a sign included. -/
  | finite (negative : Bool) (magnitude : Magnitude)
  deriving DecidableEq

/-- The number of units in one. -/
def unitsPerOne : Nat := Nat.pow 2 1074

/-- A magnitude in units. -/
def Magnitude.units (m : Magnitude) : Nat := m.significand * Nat.pow 2 m.scale

/-- The magnitude of zero. -/
def Magnitude.zero : Magnitude := ⟨0, 0, by decide, by decide, .inr rfl⟩

/-- A signed count of units. -/
def signedUnits (negative : Bool) (m : Magnitude) : Int :=
  if negative then -(m.units : Int) else m.units

/-- The whole number nearest to `n / d`; of two that are equally near, the even one. -/
def nearestEven (n d : Nat) : Nat :=
  let q := n / d
  let r := n % d
  if 2 * r < d then q
  else if d < 2 * r then q + 1
  else if q % 2 = 0 then q else q + 1

/-- Rounds `n / d` units to `digits` binary digits, though never below the scale `least`. The
significand may come out as the power of two that has one digit more. -/
def roundUnits (digits least n d : Nat) : Nat × Nat :=
  let scale := max least (Nat.log2 (n / d) + 1 - digits)
  (nearestEven n (d * Nat.pow 2 scale), scale)

namespace Number

/-- Zero. -/
def zero : Number := .finite false .zero

/-- The number with a rounded significand, or the infinity when it is too large. -/
def ofRounded (negative : Bool) (significand scale : Nat) : Number :=
  let carried :=
    if significand = Nat.pow 2 53 then (Nat.pow 2 52, scale + 1) else (significand, scale)
  if h : carried.1 < Nat.pow 2 53 ∧ carried.2 ≤ 2045 ∧
      (Nat.pow 2 52 ≤ carried.1 ∨ carried.2 = 0) then
    .finite negative ⟨carried.1, carried.2, h.1, h.2.1, h.2.2⟩
  else .infinite negative

/-- The number nearest to `n / d` units. -/
def ofUnits (negative : Bool) (n d : Nat) : Number :=
  let (significand, scale) := roundUnits 53 0 n d
  ofRounded negative significand scale

/-- The number nearest to an integer. -/
def ofInt (i : Int) : Number := ofUnits (decide (i < 0)) (i.natAbs * unitsPerOne) 1

/-- The number nearest to a natural number. -/
def ofNat (n : Nat) : Number := ofInt n

/-- The number whose double-precision interchange format has these bits. -/
def ofBits (bits : UInt64) : Number :=
  let n := bits.toNat
  let negative := decide (Nat.pow 2 63 ≤ n)
  let exponent := n / Nat.pow 2 52 % Nat.pow 2 11
  let fraction := n % Nat.pow 2 52
  if exponent = 2047 then
    if fraction = 0 then .infinite negative else .nan
  else if exponent = 0 then ofRounded negative fraction 0
  else ofRounded negative (Nat.pow 2 52 + fraction) (exponent - 1)

/-- The bits of the interchange format; for NaN the quiet one without a payload. -/
def toBits (x : Number) : UInt64 :=
  let sign (negative : Bool) : Nat := if negative then Nat.pow 2 63 else 0
  match x with
  | .nan => 0x7FF8000000000000
  | .infinite negative => UInt64.ofNat (sign negative + 2047 * Nat.pow 2 52)
  | .finite negative m =>
    if m.significand < Nat.pow 2 52 then UInt64.ofNat (sign negative + m.significand)
    else
      UInt64.ofNat
        (sign negative + (m.scale + 1) * Nat.pow 2 52 + (m.significand - Nat.pow 2 52))

/-- Whether the number is NaN. -/
def isNaN : Number → Bool
  | .nan => true
  | _ => false

/-- Whether the number is finite. -/
def isFinite : Number → Bool
  | .finite _ _ => true
  | _ => false

/-- Whether the number is a zero of either sign. -/
def isZero : Number → Bool
  | .finite _ m => m.significand = 0
  | _ => false

/-- The integer left when the fraction of a finite number is dropped. -/
def truncated? : Number → Option Int
  | .finite negative m =>
    let whole : Int := m.units / unitsPerOne
    some (if negative then -whole else whole)
  | _ => none

/-- The number without its fraction, with its sign. -/
def trunc : Number → Number
  | .finite negative m => ofUnits negative (m.units / unitsPerOne * unitsPerOne) 1
  | x => x

/-- Whether the number is finite and has no fraction. -/
def isIntegral : Number → Bool
  | .finite _ m => m.units % unitsPerOne = 0
  | _ => false

/-- The integer part, moved to the nearer end of the interval when it lies outside. An infinity
lies outside every interval, and NaN counts as zero. -/
def saturated (low high : Int) : Number → Int
  | .nan => 0
  | .infinite negative => if negative then low else high
  | .finite negative m =>
    let whole : Int := m.units / unitsPerOne
    max low (min high (if negative then -whole else whole))

end Number

end TagTemplate
