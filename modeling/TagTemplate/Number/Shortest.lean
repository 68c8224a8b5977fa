import TagTemplate.Number.Basic

/-!
# Writing numbers

A finite number is written in the fewest decimal digits that read back as the same number, and
among those in the digits nearest to it, the larger of two equally near. The fewest digits lie
on the coarsest decimal grid, that is the set of multiples of a power of ten, that has a point
among the values which round to the number.
-/

namespace TagTemplate

namespace Magnitude

/-- Four times the units of the magnitude and of the ends of the interval of values that round
to it. Below a power of two the neighbour is twice as near as above it. -/
def interval (m : Magnitude) : Nat × Nat × Nat :=
  let step := Nat.pow 2 m.scale
  let below := if m.significand = Nat.pow 2 52 ∧ 0 < m.scale then step else 2 * step
  (4 * m.units - below, 4 * m.units, 4 * m.units + 2 * step)

/-- Whether `p` multiples of `grid` lie in the interval, all measured in the same small parts.
The ends belong to it when the significand is even. -/
def reads (m : Magnitude) (low high grid p : Nat) : Bool :=
  if m.significand % 2 = 0 then decide (low ≤ p * grid ∧ p * grid ≤ high)
  else decide (low < p * grid ∧ p * grid < high)

/-- The multiple of `10 ^ t` nearest to the magnitude among those that read back as it. -/
def onGrid (m : Magnitude) (t : Int) : Option Nat :=
  let (low, middle, high) := m.interval
  let part := Nat.pow 10 (-t).toNat
  let grid := 4 * unitsPerOne * Nat.pow 10 t.toNat
  let p := middle * part / grid
  let isBelow := m.reads (low * part) (high * part) grid p
  let isAbove := m.reads (low * part) (high * part) grid (p + 1)
  if isBelow && isAbove then
    if 2 * (middle * part) < (2 * p + 1) * grid then some p else some (p + 1)
  else if isBelow then some p
  else if isAbove then some (p + 1)
  else none

/-- The first grid with a point that reads back, among those of `10 ^ t` and the next `fuel`
finer ones; its digits and its exponent. -/
def coarsest (m : Magnitude) : Nat → Int → Nat × Int
  | 0, t => (m.units, t)
  | fuel + 1, t =>
    match m.onGrid t with
    | some digits => (digits, t)
    | none => coarsest m fuel (t - 1)

/-- The shortest digits of a magnitude other than zero, and the power of ten that scales them.
The search starts at a power of ten that no grid in question exceeds: as the logarithm of two
is below 30103 parts in 100000, the digits of the magnitude end before it. -/
def shortest (m : Magnitude) : Nat × Int :=
  let binary : Int := (Nat.log2 m.units : Int) - 1074
  m.coarsest 400 (binary * 30103 / 100000 + 2)

end Magnitude

namespace Number

/-- Decimal digits scaled by a power of ten, written without an exponent. -/
def positional (digits : Nat) (exponent : Int) : List Char :=
  let written := Nat.toDigits 10 digits
  if 0 ≤ exponent then written ++ List.replicate exponent.toNat '0'
  else
    let places := (-exponent).toNat
    let padded := List.replicate (places + 1 - written.length) '0' ++ written
    padded.take (padded.length - places) ++ '.' :: padded.drop (padded.length - places)

/-- The characters of a finite magnitude. -/
def digitsOf (m : Magnitude) : List Char :=
  if m.significand = 0 then ['0']
  else
    let (digits, exponent) := m.shortest
    positional digits exponent

/-- The literal form of a number, as messages quote it: the sign of zero is kept. -/
def literal : Number → String
  | .nan => "NaN"
  | .infinite negative => if negative then "-inf" else "inf"
  | .finite negative m =>
    String.ofList (if negative then '-' :: digitsOf m else digitsOf m)

/-- The text of a number in output: the infinities have their full names, and integers below
`10 ^ 15` are written as integers, zero without a sign. -/
def text (x : Number) : String :=
  match x with
  | .nan => "NaN"
  | .infinite negative => if negative then "-Infinity" else "Infinity"
  | .finite negative m =>
    if m.units % unitsPerOne = 0 ∧ m.units < Nat.pow 10 15 * unitsPerOne then
      let whole : Int := m.units / unitsPerOne
      toString (if negative then -whole else whole)
    else x.literal

end Number

end TagTemplate
