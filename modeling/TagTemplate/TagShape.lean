import TagTemplate.Name
import TagTemplate.Text.Words

/-!
# Tag shapes

The shape of a tag is a list of slots. Its markup writes a keyword as itself, a slot for a name
as a question mark and a slot for an expression as a dollar sign, separated by blanks. Two
expressions may not stand side by side, as nothing would tell where the first one ends.
-/

namespace TagTemplate

/-- A part of a tag's shape. -/
inductive TagSlot where
  /-- This word. -/
  | keyword (word : String)
  /-- A bare name. -/
  | name
  /-- An expression. -/
  | expression
  deriving DecidableEq, Repr

/-- The slots of a tag, in order. -/
structure TagShape where
  /-- The slots. -/
  slots : List TagSlot
  deriving DecidableEq, Repr

/-- Why markup does not describe a tag. -/
inductive TagFault where
  /-- There are no words. -/
  | empty
  /-- Two expressions stand side by side. -/
  | adjacentExpressions
  /-- A word is neither a keyword nor a mark. -/
  | badWord (word : String)
  deriving DecidableEq, Repr

/-- The wording of a fault. -/
def TagFault.message : TagFault → String
  | .empty => "tag has no components"
  | .adjacentExpressions => "adjacent expressions cannot be told apart"
  | .badWord word => "`" ++ word ++ "` is not a keyword, `?` or `$`"

namespace TagSlot

/-- Keywords are identifiers in the letters and digits of ASCII. -/
def isKeywordWord (word : String) : Bool :=
  match word.toList with
  | [] => false
  | c :: cs => (c.isAlpha || c == '_') && cs.all fun d => d.isAlphanum || d == '_'

/-- How a slot is written. -/
def markup : TagSlot → String
  | keyword word => word
  | name => "?"
  | expression => "$"

/-- The slot that a word of markup writes. -/
def ofWord (word : String) : Except TagFault TagSlot :=
  if word = "?" then .ok .name
  else if word = "$" then .ok .expression
  else if isKeywordWord word then .ok (.keyword word)
  else .error (.badWord word)

/-- The word, if the slot is a keyword. -/
def keyword? : TagSlot → Option String
  | keyword word => some word
  | _ => none

/-- Whether two slots take the same; keywords are compared as names are. -/
def same (nameCase : NameCase) : TagSlot → TagSlot → Bool
  | keyword a, keyword b => nameCase.same a b
  | name, name => true
  | expression, expression => true
  | _, _ => false

end TagSlot

namespace TagShape

/-- The slots that words of markup write after the slot `last`. -/
def slotsOf (last : Option TagSlot) : List String → Except TagFault (List TagSlot)
  | [] => .ok []
  | word :: rest =>
    match TagSlot.ofWord word with
    | .error fault => .error fault
    | .ok slot =>
      if slot = .expression ∧ last = some .expression then .error .adjacentExpressions
      else (slotsOf (some slot) rest).map (slot :: ·)

/-- The shape that markup describes. -/
def parse (markup : String) : Except TagFault TagShape :=
  match slotsOf none (Text.words markup) with
  | .error fault => .error fault
  | .ok [] => .error .empty
  | .ok slots => .ok ⟨slots⟩

/-- The markup of a shape: its words with single spaces between. -/
def markup (shape : TagShape) : String := " ".intercalate (shape.slots.map TagSlot.markup)

/-- The keywords of a shape, in order. -/
def keywords (shape : TagShape) : List String := shape.slots.filterMap TagSlot.keyword?

/-- Slot by slot comparison of lists of slots. -/
def sameSlots (nameCase : NameCase) : List TagSlot → List TagSlot → Bool
  | [], [] => true
  | a :: as, b :: bs => a.same nameCase b && sameSlots nameCase as bs
  | _, _ => false

/-- Whether two shapes are the same; keywords are compared as names are. -/
def same (nameCase : NameCase) (a b : TagShape) : Bool := sameSlots nameCase a.slots b.slots

end TagShape

end TagTemplate
