import TagTemplate.Number.Decimal
import TagTemplate.Text.Words
import TagTemplate.Value

/-!
# Coercion

Operators and directives ask for a number, a text, a truth value or a sequence, and every value
has an answer. The one thing left to the dialect is the text of an undefined value.
-/

namespace TagTemplate

namespace Number

/-- The number that a text stands for: blanks around it do not count, nothing stands for zero,
and a numeral may not contain other letters than an exponent mark. The names of NaN and the
infinities are those that output uses. -/
def ofText (s : String) : Number :=
  let body := Text.trimmed s.toList
  match String.ofList body with
  | "" => zero
  | "NaN" => nan
  | "Infinity" => infinite false
  | "+Infinity" => infinite false
  | "-Infinity" => infinite true
  | numeral =>
    if body.any fun c => c.isAlpha && c != 'e' && c != 'E' then nan
    else (read numeral).getD nan

end Number

namespace Value

/-- The number that a value stands for, NaN if none does. A sequence of one item stands for what
the item stands for. -/
def toNumber : Value → Number
  | .undefined => .nan
  | .bool b => if b then .ofInt 1 else .zero
  | .number x => x
  | .text s => .ofText s
  | .sequence (.list [item]) => toNumber item
  | .sequence (.list _) => .nan
  | .sequence (.range first last) =>
    if Sequence.rangeLength first last = 1 then .ofInt first.toInt else .nan
  | .object _ => .nan

/-- Whether a value counts as true. -/
def toBool : Value → Bool
  | .undefined => false
  | .bool b => b
  | .number x => !x.isZero && !x.isNaN
  | .text s => s != ""
  | .sequence _ => true
  | .object _ => true

/-- The 32-bit integer of a value. -/
def toInt32 (v : Value) : Int32 := v.toNumber.toInt32

/-- The sequence that a value stands for: itself, or the value alone; nothing when undefined. -/
def toSequence? : Value → Option (Sequence Value)
  | .undefined => none
  | .sequence s => some s
  | v => some (.list [v])

end Value

/-- How a dialect turns values into text. -/
structure Coercion where
  /-- The text of an undefined value. -/
  undefinedText : String

namespace Coercion

mutual

/-- The text of a value. -/
def text (c : Coercion) : Value → String
  | .undefined => c.undefinedText
  | .bool b => if b then "true" else "false"
  | .number x => x.text
  | .text s => s
  | .sequence (.list items) => ",".intercalate (texts c items)
  | .sequence (.range first last) =>
    ",".intercalate ((Sequence.rangeInts first last).map fun i => (Number.ofInt i).text)
  | .object o => o.text?.getD "[object]"

/-- The texts of values, in order. -/
def texts (c : Coercion) : List Value → List String
  | [] => []
  | v :: rest => text c v :: texts c rest

end

/-- The texts of a sequence's items, in order. -/
def itemTexts (c : Coercion) (s : Sequence Value) : List String := s.values.map c.text

end Coercion

end TagTemplate
