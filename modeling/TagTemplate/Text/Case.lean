import TagTemplate.Text.CaseMap
import TagTemplate.Text.Cased

/-!
# Case of whole texts

Upper case and the folded form map each character on its own. Lower case also looks at the
neighbours of a capital sigma, which is written as a final sigma at the end of a word; so the
lower case of a text and its folded form differ, and `folded` is the one that comparison uses.
-/

namespace TagTemplate.Text

/-- Whether the nearest character that is not ignorable has a case. -/
def nearestIsCased (cs : List Char) : Bool :=
  match cs.dropWhile isCaseIgnorable with
  | c :: _ => isCased c
  | [] => false

/-- Lower case of the characters after `before`, which holds the earlier ones, last first. -/
def lowerAfter (before : List Char) : List Char → List Char
  | [] => []
  | c :: rest =>
    let image :=
      if c = 'Σ' then
        if nearestIsCased before && !nearestIsCased rest then ['ς'] else ['σ']
      else lowerChar c
    image ++ lowerAfter (c :: before) rest

/-- Lower case of a text; a sigma that ends a word takes its final form. -/
def lowercase (s : String) : String := String.ofList (lowerAfter [] s.toList)

/-- Upper case of a text. -/
def uppercase (s : String) : String := String.ofList (s.toList.flatMap upperChar)

/-- The characters of a text in lower case, each mapped on its own. -/
def folded (s : String) : List Char := s.toList.flatMap lowerChar

end TagTemplate.Text
