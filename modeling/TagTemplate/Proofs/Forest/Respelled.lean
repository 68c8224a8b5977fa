import TagTemplate.Proofs.Tag.Markup
import TagTemplate.Proofs.Tag.Respelled

/-!
# Forests in other spellings

Sameness of shapes is an equivalence, and tags are compared in no other way. So a tag leaves the same
candidates in every spelling, and the forest is the same but for the spellings of the tags in it; where
there is no forest, the error is the same but for the spelling of the tag that it quotes.
-/

namespace TagTemplate

variable {nameCase : NameCase}

/-- Nodes that differ only in the spelling of tags. -/
inductive Node.Respelled (nameCase : NameCase) : Node → Node → Prop
  /-- A text has no spellings. -/
  | text (s : String) (position : Nat) : Respelled nameCase (.text s position) (.text s position)
  /-- The same directive, with tags and contents that differ in spelling. -/
  | directive (directive : Directive) (position : Nat) {tags tags' : List LexedTag}
      {bodies bodies' : List Forest}
      (ht : List.Forall₂ (LexedTag.Respelled nameCase) tags tags')
      (hb : List.Forall₂ (List.Forall₂ (Node.Respelled nameCase)) bodies bodies') :
    Respelled nameCase (.directive directive position tags bodies)
      (.directive directive position tags' bodies')

/-- Forests that differ only in the spelling of tags. -/
abbrev Forest.Respelled (nameCase : NameCase) : Forest → Forest → Prop :=
  List.Forall₂ (Node.Respelled nameCase)

/-- Open directives that differ only in the spelling of tags. -/
structure OpenDirective.Respelled (nameCase : NameCase) (o o' : OpenDirective) : Prop where
  /-- They can become the same. -/
  candidates : o'.candidates = o.candidates
  /-- They begin at the same place. -/
  position : o'.position = o.position
  /-- The tags differ in spelling. -/
  tags : List.Forall₂ (LexedTag.Respelled nameCase) o.tags o'.tags
  /-- The contents differ in spelling. -/
  bodies : List.Forall₂ (Forest.Respelled nameCase) o.bodies o'.bodies
  /-- The content after the last tag differs in spelling. -/
  body : Forest.Respelled nameCase o.body o'.body

/-- Forests being built that differ only in the spelling of tags. -/
structure Growth.Respelled (nameCase : NameCase) (g g' : Growth) : Prop where
  /-- As many directives are open, and they differ in spelling. -/
  stack : List.Forall₂ (OpenDirective.Respelled nameCase) g.stack g'.stack
  /-- What is finished differs in spelling. -/
  roots : Forest.Respelled nameCase g.roots g'.roots

/-- A tag leaves the same candidates in every spelling. -/
theorem accepting_congr {shape shape' : TagShape} (h : shape.same nameCase shape' = true)
    (matched : Nat) (candidates : List RegisteredDirective) :
    accepting nameCase matched shape candidates = accepting nameCase matched shape' candidates := by
  refine List.filter_congr fun r _ => ?_
  cases r.shapes[matched]? with
  | none => rfl
  | some expected => exact TagShape.same_congr h expected

namespace OpenDirective.Respelled

variable {o o' : OpenDirective} {tag tag' : LexedTag}

/-- The next tag leaves the same candidates. -/
theorem after (h : o.Respelled nameCase o') (ht : tag.Respelled nameCase tag') :
    o'.after nameCase tag'.shape = o.after nameCase tag.shape := by
  unfold OpenDirective.after
  rw [h.candidates, ← h.tags.length_eq, accepting_congr ht.shape]

theorem names (h : o.Respelled nameCase o') : o'.names = o.names := by
  unfold OpenDirective.names
  rw [h.candidates]

/-- Directives that cannot go on fail with the same error. -/
theorem unterminated (h : o.Respelled nameCase o') : o'.unterminated = o.unterminated := by
  unfold OpenDirective.unterminated
  rw [h.names, h.position]

end OpenDirective.Respelled

namespace Growth.Respelled

variable {g g' : Growth} {o o' : OpenDirective} {outer outer' : List OpenDirective}
  {tag tag' : LexedTag}

theorem add (h : g.Respelled nameCase g') {node node' : Node} (hn : node.Respelled nameCase node') :
    (g.add node).Respelled nameCase (g'.add node') := by
  obtain ⟨stack, roots⟩ := g
  obtain ⟨stack', roots'⟩ := g'
  obtain ⟨hstack, hroots⟩ := h
  cases hstack with
  | nil => exact ⟨.nil, List.rel_append hroots (.cons hn .nil)⟩
  | cons ho houter =>
    refine ⟨.cons ⟨ho.candidates, ho.position, ho.tags, ho.bodies, ?_⟩ houter, hroots⟩
    exact List.rel_append ho.body (.cons hn .nil)

/-- The directive of the same candidates is opened. -/
theorem openTag (h : g.Respelled nameCase g') (ht : tag.Respelled nameCase tag')
    (candidates : List RegisteredDirective) :
    (g.openTag tag candidates).Respelled nameCase (g'.openTag tag' candidates) := by
  unfold Growth.openTag
  rw [ht.position]
  cases settled 1 candidates with
  | some only => exact h.add (.directive _ _ (.cons ht .nil) .nil)
  | none => exact ⟨.cons ⟨rfl, rfl, .cons ht .nil, .nil, .nil⟩ h.stack, h.roots⟩

/-- The innermost directive goes on with the same candidates. -/
theorem continueTag (h : g.Respelled nameCase g') (ho : o.Respelled nameCase o')
    (houter : List.Forall₂ (OpenDirective.Respelled nameCase) outer outer')
    (ht : tag.Respelled nameCase tag') (candidates : List RegisteredDirective) :
    (g.continueTag o outer tag candidates).Respelled nameCase
      (g'.continueTag o' outer' tag' candidates) := by
  have htags : List.Forall₂ (LexedTag.Respelled nameCase) (o.tags ++ [tag]) (o'.tags ++ [tag']) :=
    List.rel_append ho.tags (.cons ht .nil)
  have hbodies : List.Forall₂ (Forest.Respelled nameCase) (o.bodies ++ [o.body])
      (o'.bodies ++ [o'.body]) :=
    List.rel_append ho.bodies (.cons ho.body .nil)
  unfold Growth.continueTag
  dsimp only
  rw [← htags.length_eq, ho.position]
  cases settled (o.tags ++ [tag]).length candidates with
  | some only =>
    have hclosed : Growth.Respelled nameCase { g with stack := outer } { g' with stack := outer' } :=
      ⟨houter, h.roots⟩
    exact hclosed.add (.directive _ _ htags hbodies)
  | none => exact ⟨.cons ⟨rfl, rfl, htags, hbodies, .nil⟩ houter, h.roots⟩

variable {d : Dialect}

/-- A tag is taken in every spelling, or refused in every spelling. -/
theorem takeTag (h : g.Respelled d.nameCase g') (ht : tag.Respelled d.nameCase tag') :
    Parallel (TemplateError.Respelled d.nameCase) (Growth.Respelled d.nameCase)
      (g.takeTag d tag) (g'.takeTag d tag') := by
  have hstack := h.stack
  -- Both growths look at the same candidates, so they take the same branch.
  unfold Growth.takeTag
  dsimp only
  rw [← accepting_congr ht.shape, ht.position]
  generalize g.stack = stack at hstack ⊢
  generalize g'.stack = stack' at hstack ⊢
  cases hstack with
  | nil =>
    dsimp only
    split
    · exact .error (.unmatchedTag ht.shape _)
    · exact .ok (h.openTag ht _)
  | @cons o o' outer outer' ho houter =>
    have hany : (outer'.any fun p => !(p.after d.nameCase tag'.shape).isEmpty) =
        outer.any fun p => !(p.after d.nameCase tag.shape).isEmpty := by
      induction houter with
      | nil => rfl
      | cons hp _ ih => rw [List.any_cons, List.any_cons, hp.after ht, ih]
    dsimp only
    rw [ho.after ht, hany, ho.names, ho.unterminated]
    split
    · exact .ok (h.continueTag ho houter ht _)
    · split
      · exact .error (.refl _)
      · split
        · exact .error (.unexpectedTag ht.shape _ _)
        · exact .ok (h.openTag ht _)

/-- Units are taken in every spelling, or refused in every spelling. -/
theorem take (h : g.Respelled d.nameCase g') {unit unit' : Lex}
    (hu : unit.Respelled d.nameCase unit') :
    Parallel (TemplateError.Respelled d.nameCase) (Growth.Respelled d.nameCase)
      (g.take d unit) (g'.take d unit') := by
  cases hu with
  | text s position => exact .ok (h.add (.text s position))
  | tag ht => exact h.takeTag ht

/-- All units are taken, in every spelling, or the same one is refused. -/
theorem takeAll (h : g.Respelled d.nameCase g') {units units' : List (Except TemplateError Lex)}
    (hu : List.Forall₂ (Parallel Eq (Lex.Respelled d.nameCase)) units units') :
    Parallel (TemplateError.Respelled d.nameCase) (Growth.Respelled d.nameCase)
      (g.takeAll d units) (g'.takeAll d units') := by
  induction hu generalizing g g' with
  | nil => exact .ok h
  | cons hunit _ ih =>
    cases hunit with
    | error he =>
      subst he
      exact .error (.refl _)
    | ok hunit =>
      have hstep := h.take hunit
      unfold Growth.takeAll
      generalize g.take d _ = step at hstep ⊢
      generalize g'.take d _ = step' at hstep ⊢
      cases hstep with
      | ok hnext => exact ih hnext
      | error he => exact .error he

/-- What is finished is a forest in every spelling, or the same directive is open. -/
theorem finish (h : g.Respelled nameCase g') :
    Parallel (TemplateError.Respelled nameCase) (Forest.Respelled nameCase) g.finish g'.finish := by
  obtain ⟨stack, roots⟩ := g
  obtain ⟨stack', roots'⟩ := g'
  obtain ⟨hstack, hroots⟩ := h
  cases hstack with
  | nil => exact .ok hroots
  | cons ho _ =>
    unfold Growth.finish
    dsimp only
    rw [ho.unterminated]
    exact .error (.refl _)

end Growth.Respelled

/-- The forest of units does not depend on the spelling of the tags. -/
theorem Forest.ofUnits_respelled {d : Dialect} {units units' : List (Except TemplateError Lex)}
    (hu : List.Forall₂ (Parallel Eq (Lex.Respelled d.nameCase)) units units') :
    Parallel (TemplateError.Respelled d.nameCase) (Forest.Respelled d.nameCase)
      (ofUnits d units) (ofUnits d units') := by
  have hempty : Growth.Respelled d.nameCase ⟨[], []⟩ ⟨[], []⟩ := ⟨.nil, .nil⟩
  have hall := hempty.takeAll hu
  unfold ofUnits
  generalize Growth.takeAll d ⟨[], []⟩ units = last at hall ⊢
  generalize Growth.takeAll d ⟨[], []⟩ units' = last' at hall ⊢
  cases hall with
  | ok hlast => exact hlast.finish
  | error he => exact .error he

namespace TagShape

/-- Sameness of shapes is an equivalence. -/
theorem same_equivalence (nameCase : NameCase) :
    Equivalence fun shape shape' : TagShape => shape.same nameCase shape' = true where
  refl := same_refl nameCase
  symm := same_symm
  trans := same_trans

/-- **Shapes, their markup and their sameness.** The markup of a shape that was read has the words that
it was read from, with single spaces between, and is read as the same shape. Markup is read exactly if
it has words, each of them is a question mark, a dollar sign or an identifier of ASCII, and no two dollar
signs stand side by side. Sameness of shapes is an equivalence, whatever names are the same. So a tag
leaves the same candidates in every spelling; units that differ only in the spelling of their shapes form
forests that differ only so, or fail with errors that differ only in the spelling of the tag that they
quote; and so do the tokens of a template if the dialect has its shapes in other spellings. -/
theorem markup_and_sameness :
    (∀ text shape, parse text = .ok shape →
      shape.markup = " ".intercalate (Text.words text) ∧ parse shape.markup = .ok shape) ∧
    (∀ text, (∃ shape, parse text = .ok shape) ↔
      Text.words text ≠ [] ∧
      (∀ word ∈ Text.words text, word = "?" ∨ word = "$" ∨ IsAsciiIdentifier word) ∧
      ¬ ["$", "$"] <:+: Text.words text) ∧
    (∀ nameCase, Equivalence fun shape shape' : TagShape => shape.same nameCase shape' = true) ∧
    (∀ nameCase shape shape', shape.same nameCase shape' = true → ∀ matched candidates,
      accepting nameCase matched shape candidates =
        accepting nameCase matched shape' candidates) ∧
    (∀ (d : Dialect) units units',
      List.Forall₂ (Parallel Eq (Lex.Respelled d.nameCase)) units units' →
      Parallel (TemplateError.Respelled d.nameCase) (Forest.Respelled d.nameCase)
        (Forest.ofUnits d units) (Forest.ofUnits d units')) ∧
    (∀ (d : Dialect) shapes, AllSame d.nameCase d.shapes shapes → ∀ tokens,
      Parallel (TemplateError.Respelled d.nameCase) (Forest.Respelled d.nameCase)
        (Forest.ofUnits d (Lex.ofTokens d tokens))
        (Forest.ofUnits d (Lex.ofTokens (d.withShapes shapes) tokens))) := by
  refine ⟨fun text shape h => ⟨markup_of_parse h, parse_markup h⟩, fun text => exists_parse_iff,
    same_equivalence, fun nameCase shape shape' => accepting_congr,
    fun d units units' => Forest.ofUnits_respelled, fun d shapes h tokens => ?_⟩
  exact Forest.ofUnits_respelled (Lex.ofTokens_withShapes h tokens)

set_option maxRecDepth 1000 in
/-- The laws in the standard dialect at the last tag of a loop, in another spelling than its own, and at
its shapes in small letters. -/
theorem markup_and_sameness_end :
    let shape : TagShape := ⟨[.keyword "End"]⟩
    let units (last : TagShape) : List (Except TemplateError Lex) :=
      [.ok (.tag ⟨⟨[.keyword "REPEAT", .expression, .keyword "TIMES"]⟩,
          [.keyword "REPEAT", .expression (.identifier "n"), .keyword "TIMES"], 0⟩),
        .ok (.text "x" 16), .ok (.tag ⟨last, [.keyword "end"], 17⟩)]
    let small (shape : TagShape) : TagShape :=
      ⟨shape.slots.map fun slot => ((slot.keyword?.map String.toLower).map .keyword).getD slot⟩
    let tokens : List Token := [⟨.tagStart, "\x7b", 0⟩, ⟨.word, "End", 1⟩, ⟨.tagEnd, "\x7d", 4⟩]
    parse " End\t" = .ok shape ∧ shape.markup = "End" ∧ parse shape.markup = .ok shape ∧
      ∃ d, Dialect.standard = .ok d ∧ shape.same d.nameCase ⟨[.keyword "END"]⟩ = true ∧
        accepting d.nameCase 1 shape d.directives =
          accepting d.nameCase 1 ⟨[.keyword "END"]⟩ d.directives ∧
        Parallel (TemplateError.Respelled d.nameCase) (Forest.Respelled d.nameCase)
          (Forest.ofUnits d (units shape)) (Forest.ofUnits d (units ⟨[.keyword "END"]⟩)) ∧
        AllSame d.nameCase d.shapes (d.shapes.map small) ∧
        Parallel (TemplateError.Respelled d.nameCase) (Forest.Respelled d.nameCase)
          (Forest.ofUnits d (Lex.ofTokens d tokens))
          (Forest.ofUnits d (Lex.ofTokens (d.withShapes (d.shapes.map small)) tokens)) := by
  intro shape units small tokens
  have hparse : parse " End\t" = .ok shape := rfl
  have hwords : " ".intercalate (Text.words " End\t") = "End" := by decide
  obtain ⟨hmarkup, hback⟩ := markup_and_sameness.1 _ _ hparse
  have hd : ∃ d, Dialect.standard = .ok d ∧ shape.same d.nameCase ⟨[.keyword "END"]⟩ = true ∧
      ∀ s ∈ d.shapes, s.same d.nameCase (small s) = true :=
    ⟨_, rfl, by decide, by decide +kernel⟩
  obtain ⟨d, hs, hsame, hsmall⟩ := hd
  have hall : AllSame d.nameCase d.shapes (d.shapes.map small) :=
    List.forall₂_map_right_iff.mpr (List.forall₂_same.mpr hsmall)
  refine ⟨hparse, hmarkup.trans hwords, hback, d, hs, hsame,
    markup_and_sameness.2.2.2.1 _ _ _ hsame 1 d.directives, ?_, hall,
    markup_and_sameness.2.2.2.2.2 d _ hall tokens⟩
  refine markup_and_sameness.2.2.2.2.1 d _ _ (.cons (.ok (.tag ⟨same_refl _ _, rfl, rfl⟩)) ?_)
  exact .cons (.ok (.text _ _)) (.cons (.ok (.tag ⟨hsame, rfl, rfl⟩)) .nil)

end TagShape

end TagTemplate
