import TagTemplate.Number.Arithmetic
import TagTemplate.Number.Shortest
import TagTemplate.Record
import TagTemplate.Sequence
import TagTemplate.Text.Quoted

/-!
# Values

Values have no static type: a value is undefined, a truth value, a number, a text, a sequence or
an object. Objects are known by their identity. A record is a bag of fields; a host object is
described by what it answers, field by field and method by method, which may include a failure.
Counts that methods keep live outside the object, under the number of their counter.
-/

namespace TagTemplate

mutual

/-- A value of a template. -/
inductive Value where
  /-- No value. -/
  | undefined
  /-- A truth value. -/
  | bool (b : Bool)
  /-- A number. -/
  | number (x : Number)
  /-- A text. -/
  | text (s : String)
  /-- A list or a range. -/
  | sequence (s : Sequence Value)
  /-- An object. -/
  | object (o : Object)

/-- An object, known by its identity. -/
inductive Object where
  /-- A record: named fields, which the method `has` asks for. -/
  | record (id : Nat) (fields : List (String × Value))
  /-- An object of the host: the text it is shown by, its fields, the members whose reading
  fails with a message, and its methods. -/
  | host (id : Nat) (text : Option String) (fields : List (String × Value))
    (failing : List (String × String)) (methods : List (String × Method))

/-- What a method of a host object does when it is invoked. -/
inductive Method where
  /-- Answers a fixed value. -/
  | give (value : Value)
  /-- Fails with a message. -/
  | fail (message : String)
  /-- Counts its calls on a counter and answers the count; from `limit` on it raises a
  cancellation flag. -/
  | count (counter : Nat) (limit : Option Nat) (flag : Nat)
  /-- Answers its arguments as a list. -/
  | arguments

end

instance : Inhabited Value := ⟨.undefined⟩

/-- The identity of an object. -/
def Object.id : Object → Nat
  | .record id _ => id
  | .host id _ _ _ _ => id

/-- The text that an object is shown by, if it has one. -/
def Object.text? : Object → Option String
  | .record _ _ => none
  | .host _ text _ _ _ => text

/-- The kinds of values. -/
inductive ValueKind where
  /-- No value. -/
  | undefined
  /-- A truth value. -/
  | boolean
  /-- A number. -/
  | number
  /-- A text. -/
  | text
  /-- A list or a range. -/
  | sequence
  /-- An object. -/
  | object
  deriving DecidableEq, Repr

/-- The name of a kind in messages. -/
def ValueKind.name : ValueKind → String
  | .undefined => "undefined"
  | .boolean => "boolean"
  | .number => "number"
  | .text => "string"
  | .sequence => "sequence"
  | .object => "object"

namespace Value

/-- A list of values. -/
def list (items : List Value) : Value := .sequence (.list items)

/-- A range of integers. -/
def range (first last : Int64) : Value := .sequence (.range first last)

/-- The number nearest to an integer. -/
def ofInt (i : Int) : Value := .number (Number.ofInt i)

/-- The kind of a value. -/
def kind : Value → ValueKind
  | .undefined => .undefined
  | .bool _ => .boolean
  | .number _ => .number
  | .text _ => .text
  | .sequence _ => .sequence
  | .object _ => .object

/-- Whether there is no value. -/
def isUndefined : Value → Bool
  | .undefined => true
  | _ => false

/-- A value as messages quote it. -/
def literal : Value → String
  | .undefined => "undefined"
  | .bool b => if b then "true" else "false"
  | .number x => x.literal
  | .text s => Text.quoted s
  | .sequence s => s!"<sequence of {s.length}>"
  | .object _ => "<object>"

/-- Whether the values agree, item by item, with those of a range from a position on. Values
past the positions that a range has are not compared. -/
def agreesWithRange (first last : Int64) : Nat → List Value → Bool
  | _, [] => true
  | i, item :: rest =>
    match Sequence.rangeGet? first last i with
    | none => true
    | some n =>
      (match item with
        | .number x => x.equals (Number.ofInt n)
        | _ => false) && agreesWithRange first last (i + 1) rest

mutual

/-- Identity of values: numbers by value, so NaN is not the same as itself, texts by spelling,
sequences item by item, objects by identity. -/
def same : Value → Value → Bool
  | .undefined, .undefined => true
  | .bool a, .bool b => a == b
  | .number x, .number y => x.equals y
  | .text s, .text t => s == t
  | .sequence s, .sequence t => sameSequence s t
  | .object o, .object p => o.id == p.id
  | _, _ => false

/-- Identity of sequences. Two ranges are compared by their bounds, unless both are empty. -/
def sameSequence : Sequence Value → Sequence Value → Bool
  | .list xs, .list ys => xs.length == ys.length && sameItems xs ys
  | .list xs, .range a b => xs.length == Sequence.rangeLength a b && agreesWithRange a b 0 xs
  | .range a b, .list ys => Sequence.rangeLength a b == ys.length && agreesWithRange a b 0 ys
  | .range a b, .range c d =>
    (a == c && b == d) ||
      (Sequence.rangeLength a b == 0 && Sequence.rangeLength c d == 0)

/-- Identity of items side by side, as far as both lists go. -/
def sameItems : List Value → List Value → Bool
  | x :: xs, y :: ys => same x y && sameItems xs ys
  | _, _ => true

end

end Value

namespace Sequence

/-- The value at a position. -/
def value? (s : Sequence Value) (i : Nat) : Option Value := s.get? Value.ofInt i

/-- All values of a sequence in order. -/
def values (s : Sequence Value) : List Value := s.items Value.ofInt

/-- Identity of two sequences. -/
def same (s t : Sequence Value) : Bool := Value.sameSequence s t

end Sequence

end TagTemplate
