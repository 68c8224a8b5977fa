import TagTemplate.Name

/-!
# Records

Named values in the order in which their names first came. Writing follows the exact spelling
of a name, reading follows the case rule of the reader and takes the first name that agrees.
-/

namespace TagTemplate

/-- Named values, in order. -/
abbrev Record (α : Type) := List (String × α)

namespace Record

/-- Gives `name` a value: in place if the name is there, else at the end. -/
def insert {α : Type} (name : String) (value : α) : Record α → Record α
  | [] => [(name, value)]
  | (n, v) :: rest => if n = name then (n, value) :: rest else (n, v) :: insert name value rest

/-- The first value whose name agrees with `name`. -/
def find? {α : Type} (nameCase : NameCase) (name : String) : Record α → Option α
  | [] => none
  | (n, v) :: rest => if nameCase.same n name then some v else find? nameCase name rest

/-- The value filed under exactly this name. -/
def get? {α : Type} (name : String) (fields : Record α) : Option α :=
  find? .sensitive name fields

/-- The record that writing these fields one after the other builds. -/
def ofFields {α : Type} (fields : List (String × α)) : Record α :=
  fields.foldl (fun record (name, value) => record.insert name value) []

end Record

end TagTemplate
