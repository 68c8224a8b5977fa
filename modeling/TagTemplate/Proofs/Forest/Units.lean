import TagTemplate.Proofs.Forest.Candidates

/-!
# Units of forests

A forest spans the units that it was built from: a text is one unit, and a directive spans its
tags with the units of its contents between them. A forest is well formed in a dialect if every
node of it, at any depth, fits a registered directive.
-/

namespace TagTemplate

namespace LexedTag

/-- Tags with the contents between them, which may be fewer. -/
def weave : List LexedTag → List (List Lex) → List Lex
  | [], contents => contents.flatten
  | tag :: tags, [] => .tag tag :: weave tags []
  | tag :: tags, content :: contents => .tag tag :: content ++ weave tags contents

/-- A content that comes after all the tags comes last. -/
theorem weave_concat_content {tags : List LexedTag} {contents : List (List Lex)}
    (content : List Lex) (hl : tags.length ≤ contents.length + 1) :
    weave tags (contents ++ [content]) = weave tags contents ++ content := by
  induction contents generalizing tags with
  | nil => match tags, hl with
    | [], _ => simp [weave]
    | [tag], _ => simp [weave]
  | cons first contents ih => cases tags with
    | nil => simp [weave]
    | cons tag tags =>
      have ht : tags.length ≤ contents.length + 1 := by
        simpa only [List.length_cons, Nat.add_le_add_iff_right] using hl
      simp [weave, ih ht]

/-- A tag that comes after all the contents comes last. -/
theorem weave_concat_tag {tags : List LexedTag} {contents : List (List Lex)} (tag : LexedTag)
    (hl : contents.length ≤ tags.length) :
    weave (tags ++ [tag]) contents = weave tags contents ++ [.tag tag] := by
  induction tags generalizing contents with
  | nil =>
    obtain rfl := List.length_eq_zero_iff.mp (Nat.le_zero.mp hl)
    rfl
  | cons first tags ih => cases contents with
    | nil =>
      have ht : ([] : List (List Lex)).length ≤ tags.length := Nat.zero_le _
      simp [weave, ih ht]
    | cons content contents =>
      have ht : contents.length ≤ tags.length := by
        simpa only [List.length_cons, Nat.add_le_add_iff_right] using hl
      simp [weave, ih ht]

end LexedTag

mutual

/-- The units that a node spans. -/
def Node.units : Node → List Lex
  | .text s position => [.text s position]
  | .directive _ _ tags bodies => LexedTag.weave tags (Forest.contents bodies)

/-- The units that a forest spans. -/
def Forest.units : Forest → List Lex
  | [] => []
  | node :: forest => node.units ++ Forest.units forest

/-- The units that each of the contents of a directive spans. -/
def Forest.contents : List Forest → List (List Lex)
  | [] => []
  | body :: bodies => Forest.units body :: Forest.contents bodies

end

namespace Forest

@[simp] theorem units_nil : units [] = [] := rfl

@[simp] theorem units_append (f f' : Forest) : units (f ++ f') = units f ++ units f' := by
  induction f with
  | nil => rfl
  | cons node f ih => simp [units, ih]

@[simp] theorem units_singleton (node : Node) : units [node] = node.units := by
  simp [units]

theorem contents_eq_map (bodies : List Forest) : contents bodies = bodies.map units := by
  induction bodies with
  | nil => rfl
  | cons body bodies ih => simp [contents, ih]

end Forest

/-- A property of every directive in a node, at any depth: of the directive, its position, its
tags and its contents. -/
inductive Node.Everywhere (P : Directive → Nat → List LexedTag → List Forest → Prop) :
    Node → Prop
  /-- A text holds no directive. -/
  | text (s : String) (position : Nat) : Node.Everywhere P (.text s position)
  /-- The directive has the property, and so have those in its contents. -/
  | directive {directive : Directive} {position : Nat} {tags : List LexedTag}
      {bodies : List Forest} (hp : P directive position tags bodies)
      (hb : ∀ body ∈ bodies, ∀ node ∈ body, Node.Everywhere P node) :
      Node.Everywhere P (.directive directive position tags bodies)

/-- A property of every directive in a forest, at any depth. -/
def Forest.Everywhere (P : Directive → Nat → List LexedTag → List Forest → Prop)
    (forest : Forest) : Prop :=
  ∀ node ∈ forest, node.Everywhere P

/-- A property that follows from another holds wherever that one does. -/
theorem Node.Everywhere.imp {P Q : Directive → Nat → List LexedTag → List Forest → Prop}
    (hpq : ∀ directive position tags bodies,
      P directive position tags bodies → Q directive position tags bodies)
    {node : Node} (h : node.Everywhere P) : node.Everywhere Q := by
  induction h with
  | text s position => exact .text s position
  | directive hp _ ih => exact .directive (hpq _ _ _ _ hp) ih

namespace Forest.Everywhere

variable {P : Directive → Nat → List LexedTag → List Forest → Prop}

/-- A property holds everywhere in a forest without nodes. -/
theorem nil : Forest.Everywhere P [] := fun _ hn => absurd hn List.not_mem_nil

/-- A property holds everywhere in a forest with one more node if it does in both. -/
theorem concat {forest : Forest} {node : Node} (h : Forest.Everywhere P forest)
    (hn : node.Everywhere P) : Forest.Everywhere P (forest ++ [node]) := by
  intro other ho
  rcases List.mem_append.mp ho with hf | hs
  · exact h other hf
  · rw [List.mem_singleton.mp hs]
    exact hn

end Forest.Everywhere

/-- What a dialect requires of a directive in a forest. -/
structure Dialect.Fits (d : Dialect) (directive : Directive) (position : Nat)
    (tags : List LexedTag) (bodies : List Forest) : Prop where
  /-- The directive is registered, and its tags are, one by one, those that it declares. -/
  registered : ∃ r ∈ d.directives, r.directive = directive ∧
    TagShape.AllSame d.nameCase r.shapes (LexedTag.shapes tags)
  /-- There is a content between any two tags that follow each other. -/
  separated : bodies.length + 1 = tags.length
  /-- The position is that of the first tag. -/
  first : tags.head?.map LexedTag.position = some position

/-- A forest all of whose directives are as the dialect requires. -/
def Forest.WellFormed (d : Dialect) (forest : Forest) : Prop := Forest.Everywhere d.Fits forest

end TagTemplate
