import TagTemplate.Text.Printable

/-!
# Quoted text

The form in which messages show a text or a character: between quotes, with the enclosing quote
and the backslash escaped, five controls by a letter or zero, and everything that would not be
seen on the page by its number in braces.
-/

namespace TagTemplate.Text

/-- A character by its number, in lower-case hexadecimal digits between braces. -/
def numericEscape (c : Char) : List Char :=
  ['\\', 'u', '\x7b'] ++ Nat.toDigits 16 c.toNat ++ ['\x7d']

/-- One character between two `quote`s. -/
def quotedChar (quote c : Char) : List Char :=
  if c = '\x00' then ['\\', '0']
  else if c = '\t' then ['\\', 't']
  else if c = '\r' then ['\\', 'r']
  else if c = '\n' then ['\\', 'n']
  else if c = '\\' ∨ c = quote then ['\\', c]
  else if isExtending c || isUnprintable c then numericEscape c
  else [c]

/-- A text between double quotes. -/
def quoted (s : String) : String :=
  String.ofList ('"' :: s.toList.flatMap (quotedChar '"') ++ ['"'])

/-- A character between single quotes. -/
def quotedSingle (c : Char) : String :=
  String.ofList ('\'' :: quotedChar '\'' c ++ ['\''])

end TagTemplate.Text
