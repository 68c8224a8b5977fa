/-!
# Sequences

A sequence is a list of items or a range of integers. A range is given by its inclusive bounds
and holds no items, so its length can exceed what a position can count; lengths stop at the
largest word, and positions past the signed words find nothing.
-/

namespace TagTemplate

/-- A list of items, or the integers from `first` to `last`. -/
inductive Sequence (α : Type) where
  /-- The items, in order. -/
  | list (items : List α)
  /-- Ascending, both bounds included; empty when `last` is below `first`. -/
  | range (first last : Int64)

namespace Sequence

/-- The largest length. -/
def maxLength : Nat := Nat.pow 2 64 - 1

/-- The number of integers between two bounds, as far as lengths go. -/
def rangeLength (first last : Int64) : Nat :=
  min (last.toInt - first.toInt + 1).toNat maxLength

/-- The integer at a position of a range. -/
def rangeGet? (first last : Int64) (i : Nat) : Option Int :=
  if i < Nat.pow 2 63 ∧ first.toInt + i ≤ last.toInt then some (first.toInt + i) else none

/-- The number of items. -/
def length {α : Type} : Sequence α → Nat
  | list items => items.length
  | range first last => rangeLength first last

/-- Whether there are no items. -/
def isEmpty {α : Type} (s : Sequence α) : Bool := s.length == 0

/-- The item at a position, with `number` for the integers of a range. -/
def get? {α : Type} (number : Int → α) (s : Sequence α) (i : Nat) : Option α :=
  match s with
  | list items => items[i]?
  | range first last => (rangeGet? first last i).map number

/-- The integers that positions of a range find, in order. -/
def rangeInts (first last : Int64) : List Int :=
  (List.range (min (rangeLength first last) (Nat.pow 2 63))).map fun i : Nat => first.toInt + (i : Int)

/-- All items in order, with `number` for the integers of a range. -/
def items {α : Type} (number : Int → α) : Sequence α → List α
  | list items => items
  | range first last => (rangeInts first last).map number

end Sequence

/-- A place in a sequence, from which its items are taken one by one. -/
structure Cursor (α : Type) where
  /-- The sequence walked through. -/
  source : Sequence α
  /-- The position of the next item. -/
  position : Nat

namespace Cursor

/-- The start of a sequence. -/
def start {α : Type} (s : Sequence α) : Cursor α := ⟨s, 0⟩

/-- The next item, which stays next. -/
def peek {α : Type} (number : Int → α) (c : Cursor α) : Option α :=
  c.source.get? number c.position

/-- Whether items are left. -/
def hasNext {α : Type} (c : Cursor α) : Bool := decide (c.position < c.source.length)

/-- The number of items left. -/
def left {α : Type} (c : Cursor α) : Nat := c.source.length - c.position

/-- The next item and the place after it. -/
def next? {α : Type} (number : Int → α) (c : Cursor α) : Option (α × Cursor α) :=
  (c.peek number).map fun item => (item, { c with position := c.position + 1 })

end Cursor

end TagTemplate
