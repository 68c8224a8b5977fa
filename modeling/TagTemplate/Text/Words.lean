import TagTemplate.Text.Blank

/-!
# Words, lines and blanks

The ways in which texts are cut: into words at white space, into lines at line feeds, in two at
the first occurrence of a character; with blanks trimmed from both ends, or each run of them
collapsed to a single space.
-/

namespace TagTemplate.Text

/-- The maximal runs of characters that are not blank, in order. -/
def wordsOf : List Char → List (List Char)
  | [] => []
  | c :: cs =>
    if isBlank c then wordsOf cs
    else
      match cs, wordsOf cs with
      | d :: _, w :: ws => if isBlank d then [c] :: w :: ws else (c :: w) :: ws
      | _, _ => [[c]]

/-- The words of a text. -/
def words (s : String) : List String := (wordsOf s.toList).map String.ofList

/-- The characters without the blanks at their front. -/
def trimFront (cs : List Char) : List Char := cs.dropWhile isBlank

/-- The characters without the blanks at either end. -/
def trimmed (cs : List Char) : List Char := (trimFront (trimFront cs).reverse).reverse

/-- A text without the blanks at either end. -/
def trim (s : String) : String := String.ofList (trimmed s.toList)

/-- Every maximal run of blanks becomes one space. -/
def collapseRuns : List Char → List Char
  | [] => []
  | c :: cs =>
    if isBlank c then
      match cs with
      | d :: _ => if isBlank d then collapseRuns cs else ' ' :: collapseRuns cs
      | [] => [' ']
    else c :: collapseRuns cs

/-- A text with every run of blanks collapsed to one space. -/
def collapseBlanks (s : String) : String := String.ofList (collapseRuns s.toList)

/-- What stands before and after the first `mark`, if there is one. -/
def cutAt (mark : Char) : List Char → Option (List Char × List Char)
  | [] => none
  | c :: cs =>
    if c = mark then some ([], cs)
    else (cutAt mark cs).map fun (before, after) => (c :: before, after)

/-- The pieces between the `mark`s, one more than there are marks. -/
def piecesAt (mark : Char) : List Char → List (List Char)
  | [] => [[]]
  | c :: cs =>
    if c = mark then [] :: piecesAt mark cs
    else
      match piecesAt mark cs with
      | piece :: rest => (c :: piece) :: rest
      | [] => [[c]]

/-- A line without a carriage return before its line feed. -/
def withoutReturn (cs : List Char) : List Char :=
  if cs.getLast? = some '\r' then cs.dropLast else cs

/-- The lines of a text. A line feed ends a line, with the carriage return before it; what
follows the last line feed is a line of its own when it is not empty, and keeps its carriage
return. -/
def lines (cs : List Char) : List (List Char) :=
  let pieces := piecesAt '\n' cs
  let ended := pieces.dropLast.map withoutReturn
  match pieces.getLast? with
  | some [] | none => ended
  | some rest => ended ++ [rest]

/-- Whether the characters `needle` occur somewhere in a list, side by side. -/
def occursIn (needle : List Char) : List Char → Bool
  | [] => needle.isEmpty
  | c :: cs => needle.isPrefixOf (c :: cs) || occursIn needle cs

end TagTemplate.Text
