import TagTemplate.Text.Alphabetic
import TagTemplate.Text.Case
import TagTemplate.Text.Numeric
import TagTemplate.Text.Uppercase

/-!
# Names

Identifiers, keywords and member names. A dialect fixes whether case distinguishes them. Two
names are compared character by character in lower case; a table of variables instead files a
name under one key. The two views differ on a few names, as the key of a text follows the rules
for a whole text, and a name without a capital is its own key.
-/

namespace TagTemplate

/-- Whether the case of letters distinguishes names. -/
inductive NameCase where
  /-- Names are the same only if they are spelled the same. -/
  | sensitive
  /-- Names are the same if their lower cases are. -/
  | insensitive
  deriving DecidableEq, Repr

namespace NameCase

/-- The name of the rule in summaries. -/
def name : NameCase → String
  | .sensitive => "Sensitive"
  | .insensitive => "Insensitive"

/-- Whether two names are the same. -/
def same (nameCase : NameCase) (a b : String) : Bool :=
  match nameCase with
  | .sensitive => a == b
  | .insensitive => Text.folded a == Text.folded b

/-- The key under which a variable of this name is filed. -/
def key (nameCase : NameCase) (name : String) : String :=
  match nameCase with
  | .sensitive => name
  | .insensitive => if name.toList.any Text.isUppercase then Text.lowercase name else name

end NameCase

namespace Name

/-- Characters that a name may start with. -/
def isStart (c : Char) : Bool := Text.isAlphabetic c || c == '_'

/-- Characters that may follow in a name. -/
def isPart (c : Char) : Bool := Text.isAlphabetic c || Text.isNumeric c || c == '_'

/-- Whether a text is an identifier. -/
def isIdentifier (s : String) : Bool :=
  match s.toList with
  | [] => false
  | c :: cs => isStart c && cs.all isPart

end Name

end TagTemplate
