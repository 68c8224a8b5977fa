import TagTemplate.Text.Case

/-!
# Comparison of texts

The order that the relational operators put texts in: by code points, either of the texts as
they are or of their characters in lower case.
-/

namespace TagTemplate

/-- How texts are compared. -/
inductive Collation where
  /-- Code point by code point. -/
  | ordinal
  /-- Code point by code point, in lower case. -/
  | ignoreCase
  deriving DecidableEq, Repr

/-- The order of two lists of characters: at the first difference, and a list comes after its
beginnings. -/
def compareChars : List Char → List Char → Ordering
  | [], [] => .eq
  | [], _ :: _ => .lt
  | _ :: _, [] => .gt
  | a :: as, b :: bs => (compare a.toNat b.toNat).then (compareChars as bs)

namespace Collation

/-- The name of the rule in summaries. -/
def name : Collation → String
  | .ordinal => "Ordinal"
  | .ignoreCase => "IgnoreCase"

/-- The characters that decide the place of a text. -/
def weigh (collation : Collation) (s : String) : List Char :=
  match collation with
  | .ordinal => s.toList
  | .ignoreCase => Text.folded s

/-- The order of two texts. -/
def order (collation : Collation) (a b : String) : Ordering :=
  compareChars (collation.weigh a) (collation.weigh b)

end Collation

end TagTemplate
