import TagTemplate.Proofs.Forest.Units

/-!
# Occurrences of nodes

A node occurs in a forest if it is a node of it or occurs in a content of a directive in it. A
property holds everywhere in a forest exactly if every instance of a directive that occurs in it
has the property.
-/

namespace TagTemplate

/-- An instance of a directive: what a node of a forest holds. -/
structure DirectiveInstance where
  /-- The directive. -/
  directive : Directive
  /-- Where its first tag opens. -/
  position : Nat
  /-- Its tags. -/
  tags : List LexedTag
  /-- The contents between them. -/
  bodies : List Forest

/-- The node that holds an instance of a directive. -/
def DirectiveInstance.node (i : DirectiveInstance) : Node :=
  .directive i.directive i.position i.tags i.bodies

namespace Node

/-- What holds of a node if it holds of all nodes in its contents holds of every node. -/
@[elab_as_elim]
theorem nested_induction {P : Node → Prop} (text : ∀ s position, P (.text s position))
    (directive : ∀ i : DirectiveInstance, (∀ body ∈ i.bodies, ∀ node ∈ body, P node) → P i.node)
    (node : Node) : P node := by
  match node with
  | .text s position => exact text s position
  | .directive d position tags bodies =>
    refine directive ⟨d, position, tags, bodies⟩ fun body (hb : body ∈ bodies) inner hn => ?_
    exact nested_induction text directive inner
termination_by sizeOf node
decreasing_by
  have hb := List.sizeOf_lt_of_mem hb
  have hn := List.sizeOf_lt_of_mem hn
  simp only [Node.directive.sizeOf_spec]
  omega

/-- A node is one of a forest, or of a content in it, at any depth. -/
inductive Occurs (node : Node) : Forest → Prop
  /-- It is a node of the forest. -/
  | root {forest : Forest} (h : node ∈ forest) : Occurs node forest
  /-- It occurs in a content of a directive of the forest. -/
  | inside {i : DirectiveInstance} {forest body : Forest} (hi : i.node ∈ forest)
    (hb : body ∈ i.bodies) (h : Occurs node body) : Occurs node forest

/-- What occurs in a part of a forest occurs in the forest. -/
theorem Occurs.mono {node : Node} {forest larger : Forest} (h : node.Occurs forest)
    (hs : forest ⊆ larger) : node.Occurs larger := by
  cases h with
  | root h => exact .root (hs h)
  | inside hi hb h => exact .inside (hs hi) hb h

end Node

variable {P : Directive → Nat → List LexedTag → List Forest → Prop}

/-- A directive that occurs where a property holds everywhere has the property. -/
theorem Forest.Everywhere.of_occurs {forest : Forest} (h : forest.Everywhere P)
    {i : DirectiveInstance} (hi : i.node.Occurs forest) :
    P i.directive i.position i.tags i.bodies := by
  induction hi with
  | root hm => cases h _ hm with
    | directive hp => exact hp
  | inside hm hb _ ih => cases h _ hm with
    | directive _ hbodies => exact ih (hbodies _ hb)

/-- A property holds everywhere in a forest if every directive that occurs in it has it. -/
theorem Forest.everywhere_of_occurs {forest : Forest}
    (h : ∀ i : DirectiveInstance, i.node.Occurs forest →
      P i.directive i.position i.tags i.bodies) : forest.Everywhere P := by
  have hnode : ∀ node : Node, (∀ i : DirectiveInstance, i.node.Occurs [node] →
      P i.directive i.position i.tags i.bodies) → node.Everywhere P := by
    intro node
    induction node using Node.nested_induction with
    | text s position => exact fun _ => .text s position
    | directive i ih =>
      intro hp
      refine .directive (hp i (.root List.mem_cons_self)) fun body hb node hn => ?_
      refine ih body hb node hn fun j hj => hp j (.inside List.mem_cons_self hb ?_)
      exact hj.mono (List.cons_subset.mpr ⟨hn, List.nil_subset body⟩)
  intro node hn
  exact hnode node fun i hi => h i (hi.mono (List.cons_subset.mpr ⟨hn, List.nil_subset forest⟩))

namespace LexedTag

variable {tags : List LexedTag} {contents : List (List Lex)}

/-- Every tag is among the units. -/
theorem tag_mem_weave {tag : LexedTag} (h : tag ∈ tags) : .tag tag ∈ weave tags contents := by
  induction tags generalizing contents with
  | nil => cases h
  | cons first tags ih =>
    rcases List.mem_cons.mp h with rfl | h
    · cases contents <;> simp [weave]
    · cases contents <;> simp [weave, ih h]

/-- Every unit of a content is among the units. -/
theorem mem_weave_of_mem {content : List Lex} (hc : content ∈ contents) {unit : Lex}
    (hu : unit ∈ content) : unit ∈ weave tags contents := by
  induction tags generalizing contents with
  | nil =>
    rw [weave]
    exact List.mem_flatten_of_mem hc hu
  | cons tag tags ih => cases contents with
    | nil => cases hc
    | cons first contents =>
      rcases List.mem_cons.mp hc with rfl | hc
      · simp [weave, hu]
      · simp [weave, ih hc]

end LexedTag

/-- The units of a node of a forest are among those of the forest. -/
theorem Forest.units_subset_of_mem {forest : Forest} {node : Node} (h : node ∈ forest) :
    node.units ⊆ forest.units := by
  intro unit hu
  induction forest with
  | nil => cases h
  | cons first forest ih =>
    rw [Forest.units, List.mem_append]
    rcases List.mem_cons.mp h with rfl | h
    · exact .inl hu
    · exact .inr (ih h)

/-- The tags of a directive that occurs in a forest are among the units of the forest. -/
theorem Forest.tag_mem_units {forest : Forest} {i : DirectiveInstance}
    (hi : i.node.Occurs forest) {tag : LexedTag} (ht : tag ∈ i.tags) :
    .tag tag ∈ forest.units := by
  induction hi with
  | root hm => exact units_subset_of_mem hm (LexedTag.tag_mem_weave ht)
  | @inside j _ body hm hb _ ih =>
    refine units_subset_of_mem hm ?_
    have hc : body.units ∈ Forest.contents j.bodies := by
      rw [contents_eq_map]
      exact List.mem_map_of_mem hb
    exact LexedTag.mem_weave_of_mem hc ih

end TagTemplate
