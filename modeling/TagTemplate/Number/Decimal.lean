import TagTemplate.Number.Basic

/-!
# Reading numbers

A decimal numeral is an optional sign, digits with an optional point among them or at either
end, and an optional exponent. It is read to the nearest number, whatever its length. Of an
exponent only the digits up to a bound count, so that no power of ten is out of reach. The
numeral grammar also knows the names of NaN and the infinities in any case.
-/

namespace TagTemplate

/-- A decimal number `coefficient * 10 ^ exponent`, with its sign. -/
structure Decimal where
  /-- Whether a minus sign stands in front. -/
  negative : Bool
  /-- The digits, without the point. -/
  coefficient : Nat
  /-- The power of ten that scales them. -/
  exponent : Int
  deriving DecidableEq, Repr

/-- The value of a digit. -/
def digitValue (c : Char) : Nat := c.toNat - '0'.toNat

/-- The number that digits write after a number `n`. -/
def appendDigits (n : Nat) (cs : List Char) : Nat :=
  cs.foldl (fun n c => n * 10 + digitValue c) n

/-- The number that digits write, read in halves `depth` times. -/
def ofHalves : Nat → List Char → Nat
  | 0, cs => appendDigits 0 cs
  | depth + 1, cs =>
    let half := cs.length / 2
    ofHalves depth (cs.take half) * Nat.pow 10 (cs.length - half) + ofHalves depth (cs.drop half)

/-- The number that decimal digits write. Long runs are halved down to some dozens of digits,
which takes few products of large numbers. -/
def ofDigits (cs : List Char) : Nat := ofHalves (Nat.log2 (cs.length / 32)) cs

theorem appendDigits_eq (n : Nat) (cs : List Char) :
    appendDigits n cs = n * Nat.pow 10 cs.length + appendDigits 0 cs := by
  induction cs generalizing n with
  | nil => simp [appendDigits]
  | cons c cs ih =>
    have step (m : Nat) :
        appendDigits m (c :: cs) = appendDigits (m * 10 + digitValue c) cs := rfl
    have hp : Nat.pow 10 (cs.length + 1) = 10 * Nat.pow 10 cs.length := Nat.pow_succ'
    rw [step n, step 0, ih (n * 10 + digitValue c), ih (0 * 10 + digitValue c),
      List.length_cons, hp, Nat.add_mul, Nat.zero_mul, Nat.zero_add, Nat.mul_assoc,
      Nat.add_assoc]

theorem appendDigits_append (n : Nat) (xs ys : List Char) :
    appendDigits n (xs ++ ys) = appendDigits (appendDigits n xs) ys :=
  List.foldl_append

/-- Reading in halves gives what reading digit by digit gives. -/
theorem ofHalves_eq (depth : Nat) (cs : List Char) : ofHalves depth cs = appendDigits 0 cs := by
  induction depth generalizing cs with
  | zero => rfl
  | succ depth ih =>
    have whole := congrArg (appendDigits 0) (List.take_append_drop (cs.length / 2) cs)
    rw [appendDigits_append, appendDigits_eq, List.length_drop] at whole
    rw [ofHalves, ih, ih, whole]

theorem ofDigits_eq (cs : List Char) : ofDigits cs = appendDigits 0 cs :=
  ofHalves_eq _ cs

/-- Digits at the front of a text and what follows them. -/
def spanDigits (cs : List Char) : List Char × List Char :=
  (cs.takeWhile Char.isDigit, cs.dropWhile Char.isDigit)

/-- An integer in digits with an optional sign, and nothing else; `size` says what number the
digits write. -/
def readSigned (size : List Char → Nat) (cs : List Char) : Option Int :=
  let (negative, digits) :=
    match cs with
    | '-' :: rest => (true, rest)
    | '+' :: rest => (false, rest)
    | rest => (false, rest)
  if digits.isEmpty || !digits.all Char.isDigit then none
  else some (if negative then -(size digits : Int) else size digits)

namespace Decimal

/-- Digits of an exponent are no longer counted once those before them have come to this. -/
def exponentBound : Nat := Nat.pow 2 16

/-- The size of an exponent with these digits. -/
def exponentSize (cs : List Char) : Nat :=
  cs.foldl (fun n c => if n < exponentBound then n * 10 + digitValue c else n) 0

/-- The exponent at the end of a numeral: nothing, or a letter `e` with an integer. -/
def readExponent : List Char → Option Int
  | [] => some 0
  | c :: rest => if c = 'e' ∨ c = 'E' then readSigned exponentSize rest else none

/-- The digits after the point, if there is a point, and what follows. -/
def readFraction : List Char → List Char × List Char
  | '.' :: rest => spanDigits rest
  | rest => ([], rest)

/-- An unsigned numeral. -/
def readUnsigned (negative : Bool) (cs : List Char) : Option Decimal :=
  let (whole, afterWhole) := spanDigits cs
  let (fraction, afterFraction) := readFraction afterWhole
  if whole.isEmpty && fraction.isEmpty then none
  else
    (readExponent afterFraction).map fun exponent =>
      ⟨negative, ofDigits (whole ++ fraction), exponent - fraction.length⟩

/-- The number nearest to a decimal, in a format of `digits` binary digits whose scale is at
least `least`. -/
def rounded (digits least : Nat) (d : Decimal) : Nat × Nat :=
  if 0 ≤ d.exponent then
    roundUnits digits least (d.coefficient * Nat.pow 10 d.exponent.toNat * unitsPerOne) 1
  else roundUnits digits least (d.coefficient * unitsPerOne) (Nat.pow 10 (-d.exponent).toNat)

/-- The number nearest to a decimal. -/
def toNumber (d : Decimal) : Number :=
  let (significand, scale) := d.rounded 53 0
  .ofRounded d.negative significand scale

/-- The single-precision number nearest to a decimal. Those numbers have 24 binary digits, are
multiples of `2 ^ (-149)`, and lie below `2 ^ 128`. -/
def toSingle (d : Decimal) : Number :=
  let (significand, scale) := d.rounded 24 925
  let units := significand * Nat.pow 2 scale
  if Nat.pow 2 128 * unitsPerOne ≤ units then .infinite d.negative
  else .ofUnits d.negative units 1

end Decimal

namespace Number

/-- A named number or a numeral, each after an optional sign; `convert` says how a numeral is
rounded. -/
def readWith (convert : Decimal → Number) (cs : List Char) : Option Number :=
  let (negative, body) :=
    match cs with
    | '-' :: rest => (true, rest)
    | '+' :: rest => (false, rest)
    | rest => (false, rest)
  let name := String.ofList (body.map Char.toLower)
  if name = "nan" then some .nan
  else if name = "inf" ∨ name = "infinity" then some (.infinite negative)
  else (Decimal.readUnsigned negative body).map convert

/-- The number that a text writes. -/
def read (s : String) : Option Number := readWith Decimal.toNumber s.toList

/-- The number of single precision that a text writes. -/
def readSingle (s : String) : Option Number := readWith Decimal.toSingle s.toList

end Number

end TagTemplate
