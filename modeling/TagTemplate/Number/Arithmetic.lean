import TagTemplate.Number.Basic

/-!
# Arithmetic and order

The operations compute the exact result in units and round it once. Order and equality compare
exact values: both zeros are equal, NaN is neither equal nor comparable to anything.
-/

namespace TagTemplate.Number

/-- The number with the other sign. -/
def neg : Number → Number
  | .nan => .nan
  | .infinite negative => .infinite !negative
  | .finite negative m => .finite (!negative) m

/-- The number without its sign. -/
def abs : Number → Number
  | .nan => .nan
  | .infinite _ => .infinite false
  | .finite _ m => .finite false m

/-- The sum. A sum of zero is negative only when both terms are negative zeros. -/
def add : Number → Number → Number
  | .finite s x, .finite t y =>
    let sum := signedUnits s x + signedUnits t y
    if sum = 0 then .finite (s && t) .zero
    else ofUnits (decide (sum < 0)) sum.natAbs 1
  | .infinite s, .infinite t => if s = t then .infinite s else .nan
  | .infinite s, .finite _ _ => .infinite s
  | .finite _ _, .infinite t => .infinite t
  | .nan, _ => .nan
  | _, .nan => .nan

/-- The difference. -/
def sub (x y : Number) : Number := x.add y.neg

/-- The product. -/
def mul : Number → Number → Number
  | .finite s x, .finite t y => ofUnits (s != t) (x.units * y.units) unitsPerOne
  | .infinite s, .infinite t => .infinite (s != t)
  | .infinite s, .finite t y => if y.significand = 0 then .nan else .infinite (s != t)
  | .finite s x, .infinite t => if x.significand = 0 then .nan else .infinite (s != t)
  | .nan, _ => .nan
  | _, .nan => .nan

/-- The quotient. A number other than zero divided by a zero is infinite. -/
def div : Number → Number → Number
  | .finite s x, .finite t y =>
    if y.significand = 0 then
      if x.significand = 0 then .nan else .infinite (s != t)
    else ofUnits (s != t) (x.units * unitsPerOne) y.units
  | .infinite _, .infinite _ => .nan
  | .infinite s, .finite t _ => .infinite (s != t)
  | .finite s _, .infinite t => .finite (s != t) .zero
  | .nan, _ => .nan
  | _, .nan => .nan

/-- The remainder of the division that drops the fraction of its quotient. It is exact and has
the sign of the dividend. -/
def rem : Number → Number → Number
  | .finite s x, .finite _ y =>
    if y.significand = 0 then .nan else ofUnits s (x.units % y.units) 1
  | .finite s x, .infinite _ => .finite s x
  | .infinite _, _ => .nan
  | .nan, _ => .nan
  | _, .nan => .nan

/-- Where a number stands on the extended line: the infinities before and after all units. -/
def place : Number → Option (Int × Int)
  | .nan => none
  | .infinite negative => some (if negative then -1 else 1, 0)
  | .finite negative m => some (0, signedUnits negative m)

/-- The order of two numbers, none when either is NaN. -/
def order (x y : Number) : Option Ordering :=
  match x.place, y.place with
  | some p, some q => some ((compare p.1 q.1).then (compare p.2 q.2))
  | _, _ => none

/-- Equality of values. -/
def equals (x y : Number) : Bool := x.order y == some .eq

/-- The remainder of the division whose quotient is rounded down for a positive divisor and up for
a negative one: a remainder below zero is moved up by the size of the divisor. -/
def remEuclid (x y : Number) : Number :=
  let r := x.rem y
  if r.order zero = some .lt then r.add y.abs else r

/-- Whether the number is not below another one; nothing is so beside NaN. -/
def isAtLeast (x y : Number) : Bool :=
  match x.order y with
  | some .lt | none => false
  | _ => true

/-- Whether the number is at least zero. -/
def isNonnegative (x : Number) : Bool := x.isAtLeast zero

/-- The integer part as a 32-bit word: it is wrapped to the numbers from zero up to `2 ^ 32`, and
the upper half of these stands for the negative words. Zero when there is no integer part. -/
def toInt32 (x : Number) : Int32 :=
  if x.isFinite then
    let wrapped := x.trunc.remEuclid (ofNat (Nat.pow 2 32))
    let word :=
      if wrapped.isAtLeast (ofNat (Nat.pow 2 31)) then wrapped.sub (ofNat (Nat.pow 2 32))
      else wrapped
    Int32.ofInt (word.saturated (-(Int.pow 2 31)) (Int.pow 2 31 - 1))
  else 0

end TagTemplate.Number
