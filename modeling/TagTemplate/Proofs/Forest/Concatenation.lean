import TagTemplate.Proofs.Forest.RoundTrip
import TagTemplate.Proofs.Tag.Displaced
import TagTemplate.Proofs.Token.Concatenation

/-!
# Forests of texts in a row

The forest of two texts in a row is that of the first one, which leaves no directive open, and that of
the second one, further on. Only a text at the end of the first and a text at the beginning of the
second become one text.
-/

namespace TagTemplate

namespace Lex

/-- Two texts merge into one. -/
def merge : Lex → Lex → Option Lex
  | .text s position, .text s' _ => some (.text (s ++ s') position)
  | _, _ => none

/-- Only texts merge. -/
theorem merge_eq_some {x y z : Lex} (h : merge x y = some z) :
    ∃ s s' position position', x = .text s position ∧ y = .text s' position' ∧
      z = .text (s ++ s') position := by
  cases x with
  | tag => cases h
  | text s position => cases y with
    | tag => cases h
    | text s' position' => exact ⟨s, s', position, position', rfl, rfl, (Option.some.inj h).symm⟩

/-- What stands further on as a text is a text. -/
theorem eq_text_of_displaced {n : Nat} {unit : Lex} {s : String} {position : Nat}
    (h : unit.displaced n = .text s position) : ∃ position', unit = .text s position' := by
  cases unit with
  | tag => cases h
  | text s' position' =>
    cases h
    exact ⟨position', rfl⟩

variable {d : Dialect} {symbols : List String}

/-- A tag does not reach over the seam. -/
theorem interior_seam {opened : Nat} {tokens after : List Token} {pieces : List TagPiece}
    (h : interior d symbols opened tokens = (.ok pieces, after)) (tokens' : List Token) :
    interior d symbols opened (seam Token.merge tokens tokens') =
      (.ok pieces, seam Token.merge after tokens') := by
  induction tokens generalizing pieces with
  | nil => cases h
  | cons token rest ih =>
    have hkind : token.kind ≠ .text := by
      intro hk
      rcases interior_cons_eq_ok_iff.mp h with ⟨he, -⟩ | ⟨he, -⟩
      · rw [hk] at he
        cases he
      · rw [hk] at he
        exact absurd he (by decide)
    rw [seam_cons_of_none (Token.merge_of_ne hkind)]
    rcases interior_cons_eq_ok_iff.mp h with ⟨hk, rfl, rfl⟩ | ⟨hk, inner, hi, rfl⟩
    · exact interior_cons_eq_ok_iff.mpr (.inl ⟨hk, rfl, rfl⟩)
    · exact interior_cons_eq_ok_iff.mpr (.inr ⟨hk, inner, ih hi, rfl⟩)

theorem units_nil (d : Dialect) (symbols : List String) : units d symbols [] = [] := by
  rw [units]

/-- Tokens have no units only if there are none. -/
theorem eq_nil_of_units {tokens : List Token} (h : units d symbols tokens = []) : tokens = [] := by
  cases tokens with
  | nil => rfl
  | cons token rest =>
    rw [units] at h
    cases h

/-- A text becomes one unit with a text behind it. -/
theorem units_seam_text {token : Token} {tokens : List Token} {us : List Lex}
    (hk : token.kind = .text) (h : units d symbols tokens = us.map .ok) :
    units d symbols (seam Token.merge [token] tokens) =
      (seam merge [.text token.text token.position] us).map .ok := by
  cases us with
  | nil =>
    obtain rfl := eq_nil_of_units h
    exact units_cons_eq_ok_iff.mpr (.inl ⟨hk, rfl, units_nil d symbols⟩)
  | cons unit us =>
    obtain ⟨next, rest, rfl⟩ : ∃ next rest, tokens = next :: rest := by
      refine List.exists_cons_of_ne_nil ?_
      rintro rfl
      rw [units_nil] at h
      cases h
    rcases units_cons_eq_ok_iff.mp h with ⟨hn, rfl, hr⟩ | ⟨hn, _, _, _, _, _, rfl, _⟩
    · have hm : Token.merge token next =
          some ⟨.text, token.text ++ next.text, token.position⟩ := if_pos ⟨hk, hn⟩
      rw [seam, hm]
      exact units_cons_eq_ok_iff.mpr (.inl ⟨rfl, rfl, hr⟩)
    · have hm : Token.merge token next = none := if_neg fun hb => by
        rw [hn] at hb
        cases hb.2
      rw [seam, hm]
      exact units_cons_eq_ok_iff.mpr (.inl ⟨hk, rfl, h⟩)

/-- The units of tokens in a row are their units in a row. -/
theorem units_seam {tokens tokens' : List Token} {us us' : List Lex}
    (h : units d symbols tokens = us.map .ok) (h' : units d symbols tokens' = us'.map .ok) :
    units d symbols (seam Token.merge tokens tokens') = (seam merge us us').map .ok := by
  induction us generalizing tokens with
  | nil =>
    obtain rfl := eq_nil_of_units h
    exact h'
  | cons unit us ih =>
    obtain ⟨token, rest, rfl⟩ : ∃ token rest, tokens = token :: rest := by
      refine List.exists_cons_of_ne_nil ?_
      rintro rfl
      rw [units_nil] at h
      cases h
    rcases units_cons_eq_ok_iff.mp h with ⟨hk, rfl, hr⟩ | ⟨hk, pieces, after, tag, hi, ht, rfl, hr⟩
    · by_cases hrest : rest = []
      · subst hrest
        rw [units_nil] at hr
        obtain rfl := List.map_eq_nil_iff.mp hr.symm
        exact units_seam_text hk h'
      · have hus : us ≠ [] := by
          rintro rfl
          exact hrest (eq_nil_of_units hr)
        rw [seam_cons_of_ne_nil hrest, seam_cons_of_ne_nil hus]
        exact units_cons_eq_ok_iff.mpr (.inl ⟨hk, rfl, ih hr⟩)
    · have hkind : token.kind ≠ .text := by
        rw [hk]
        nofun
      rw [seam_cons_of_none (Token.merge_of_ne hkind), seam_cons_of_none fun _ => rfl]
      exact units_cons_eq_ok_iff.mpr
        (.inr ⟨hk, pieces, _, tag, interior_seam hi tokens', ht, rfl, ih hr⟩)

end Lex

mutual

/-- The node, so many bytes further on. -/
def Node.displaced (n : Nat) : Node → Node
  | .text s position => .text s (position + n)
  | .directive d position tags bodies =>
    .directive d (position + n) (tags.map (LexedTag.displaced n)) (Forest.displacedBodies n bodies)
termination_by structural node => node

/-- The forest, so many bytes further on. -/
def Forest.displaced (n : Nat) : List Node → List Node
  | [] => []
  | node :: rest => node.displaced n :: Forest.displaced n rest
termination_by structural nodes => nodes

/-- The contents, so many bytes further on. -/
def Forest.displacedBodies (n : Nat) : List (List Node) → List (List Node)
  | [] => []
  | body :: rest => Forest.displaced n body :: Forest.displacedBodies n rest
termination_by structural bodies => bodies

end

namespace Forest

theorem displaced_append (n : Nat) (f f' : Forest) :
    displaced n (f ++ f') = displaced n f ++ displaced n f' := by
  induction f with
  | nil => rfl
  | cons node f ih => rw [List.cons_append, displaced, ih, displaced, List.cons_append]

theorem displacedBodies_eq_map (n : Nat) (bodies : List Forest) :
    displacedBodies n bodies = bodies.map (displaced n) := by
  induction bodies with
  | nil => rfl
  | cons body bodies ih => rw [displacedBodies, ih, List.map_cons]

end Forest

/-- The open directive, so many bytes further on. -/
def OpenDirective.displaced (n : Nat) (o : OpenDirective) : OpenDirective where
  candidates := o.candidates
  position := o.position + n
  tags := o.tags.map (LexedTag.displaced n)
  bodies := o.bodies.map (Forest.displaced n)
  body := Forest.displaced n o.body

/-- The growth, so many bytes further on. -/
def Growth.displaced (n : Nat) (g : Growth) : Growth where
  stack := g.stack.map (OpenDirective.displaced n)
  roots := Forest.displaced n g.roots

namespace Growth

variable {d : Dialect} {n : Nat} {g next last : Growth} {units : List Lex}

theorem add_displaced (g : Growth) (node : Node) :
    (g.add node).displaced n = (g.displaced n).add (node.displaced n) := by
  obtain ⟨stack, roots⟩ := g
  cases stack with
  | nil => simp [add, displaced, Forest.displaced_append, Forest.displaced]
  | cons o outer =>
    simp [add, displaced, OpenDirective.displaced, Forest.displaced_append, Forest.displaced]

theorem openTag_displaced (g : Growth) (tag : LexedTag) (candidates : List RegisteredDirective) :
    (g.openTag tag candidates).displaced n =
      (g.displaced n).openTag (tag.displaced n) candidates := by
  unfold openTag
  split
  · rw [add_displaced]
    rfl
  · rfl

theorem continueTag_displaced (g : Growth) (o : OpenDirective) (outer : List OpenDirective)
    (tag : LexedTag) (candidates : List RegisteredDirective) :
    (g.continueTag o outer tag candidates).displaced n =
      (g.displaced n).continueTag (o.displaced n) (outer.map (OpenDirective.displaced n))
        (tag.displaced n) candidates := by
  have hl : ((o.displaced n).tags ++ [tag.displaced n]).length = (o.tags ++ [tag]).length := by
    simp [OpenDirective.displaced]
  unfold continueTag
  dsimp only
  rw [hl]
  split
  · rw [add_displaced]
    simp [displaced, OpenDirective.displaced, Node.displaced, Forest.displacedBodies_eq_map]
  · simp [displaced, OpenDirective.displaced, Forest.displaced]

/-- What a tag continues does not depend on where it stands. -/
theorem after_displaced (o : OpenDirective) (nameCase : NameCase) (shape : TagShape) :
    (o.displaced n).after nameCase shape = o.after nameCase shape := by
  unfold OpenDirective.after
  rw [OpenDirective.displaced, List.length_map]

/-- A unit that stands further on is taken in the same way. -/
theorem take_displaced {unit : Lex} (h : g.take d unit = .ok next) :
    (g.displaced n).take d (unit.displaced n) = .ok (next.displaced n) := by
  cases unit with
  | text s position =>
    cases h
    exact congrArg Except.ok (add_displaced g (.text s position)).symm
  | tag tag =>
    refine takeTag_eq_ok_iff.mpr ?_
    rcases takeTag_eq_ok_iff.mp h with ⟨o, outer, hs, ha, rfl⟩ | ⟨hn, ho, rfl⟩
    · refine .inl ⟨o.displaced n, outer.map (OpenDirective.displaced n), ?_, ?_, ?_⟩
      · rw [displaced, hs, List.map_cons]
      · rwa [after_displaced]
      · rw [after_displaced, continueTag_displaced]
        rfl
    · refine .inr ⟨fun further hf => ?_, ho, (openTag_displaced g tag _).symm⟩
      obtain ⟨o, hm, rfl⟩ := List.mem_map.mp hf
      rw [LexedTag.shape_displaced, after_displaced]
      exact hn o hm

/-- Units lead on one by one. -/
theorem reaches_cons_iff {unit : Lex} :
    g.Reaches d (unit :: units) last ↔ ∃ next, g.take d unit = .ok next ∧ next.Reaches d units last := by
  unfold Reaches
  rw [List.map_cons, takeAll]
  cases g.take d unit with
  | error error => simp
  | ok next => simp

/-- Units in a row lead on one after the other. -/
theorem reaches_append_iff {units' : List Lex} :
    g.Reaches d (units ++ units') last ↔
      ∃ between, g.Reaches d units between ∧ between.Reaches d units' last := by
  refine ⟨fun h => ?_, fun ⟨between, h, h'⟩ => h.trans h'⟩
  induction units generalizing g with
  | nil => exact ⟨g, .refl g, h⟩
  | cons unit units ih =>
    obtain ⟨next, hn, hr⟩ := reaches_cons_iff.mp h
    obtain ⟨between, hb, hl⟩ := ih hr
    exact ⟨between, reaches_cons_iff.mpr ⟨next, hn, hb⟩, hl⟩

/-- A text that ends a forest is a root of it. -/
theorem roots_of_reaches_text {s : String} {position : Nat} {f : Forest}
    (h : g.Reaches d [.text s position] ⟨[], f⟩) :
    ∃ before, g = ⟨[], before⟩ ∧ f = before ++ [.text s position] := by
  obtain ⟨next, hn, hl⟩ := reaches_cons_iff.mp h
  cases hn
  obtain ⟨stack, roots⟩ := g
  cases stack with
  | nil =>
    cases hl
    exact ⟨roots, rfl, rfl⟩
  | cons => cases hl

/-- Units that stand further on lead to the same further on. -/
theorem Reaches.displaced (h : g.Reaches d units last) (n : Nat) :
    (g.displaced n).Reaches d (units.map (Lex.displaced n)) (last.displaced n) := by
  induction units generalizing g with
  | nil =>
    cases h
    exact .refl _
  | cons unit units ih =>
    obtain ⟨next, hn, hr⟩ := reaches_cons_iff.mp h
    exact reaches_cons_iff.mpr ⟨_, take_displaced hn, ih hr⟩

/-- The growth, with a finished forest before it. -/
def behind (before : Forest) (g : Growth) : Growth := { g with roots := before ++ g.roots }

variable {before : Forest}

theorem behind_empty (before : Forest) : behind before ⟨[], []⟩ = ⟨[], before⟩ :=
  congrArg (mk []) (List.append_nil before)

theorem add_behind (g : Growth) (node : Node) :
    (g.behind before).add node = (g.add node).behind before := by
  obtain ⟨stack, roots⟩ := g
  cases stack with
  | nil => simp [add, behind]
  | cons o outer => rfl

theorem openTag_behind (g : Growth) (tag : LexedTag) (candidates : List RegisteredDirective) :
    (g.behind before).openTag tag candidates = (g.openTag tag candidates).behind before := by
  unfold openTag
  split
  · exact add_behind g _
  · rfl

theorem continueTag_behind (g : Growth) (o : OpenDirective) (outer : List OpenDirective)
    (tag : LexedTag) (candidates : List RegisteredDirective) :
    (g.behind before).continueTag o outer tag candidates =
      (g.continueTag o outer tag candidates).behind before := by
  unfold continueTag
  dsimp only
  split
  · exact add_behind { g with stack := outer } _
  · rfl

/-- A unit is taken in the same way behind a finished forest. -/
theorem take_behind (d : Dialect) (g : Growth) (unit : Lex) :
    (g.behind before).take d unit = (g.take d unit).map (behind before) := by
  cases unit with
  | text s position => exact congrArg Except.ok (add_behind g _)
  | tag tag =>
    have hs : (g.behind before).stack = g.stack := rfl
    dsimp only [take, takeTag]
    rw [hs]
    split
    · split
      · rfl
      · rw [openTag_behind]
        rfl
    · split
      · rw [continueTag_behind]
        rfl
      · split
        · rfl
        · split
          · rfl
          · rw [openTag_behind]
            rfl

/-- Behind a finished forest units lead to what they lead to without it, behind that forest. -/
theorem reaches_behind_iff :
    (g.behind before).Reaches d units last ↔
      ∃ last', g.Reaches d units last' ∧ last'.behind before = last := by
  induction units generalizing g with
  | nil =>
    refine ⟨fun h => ?_, fun ⟨last', h, hl⟩ => ?_⟩
    · cases h
      exact ⟨g, .refl g, rfl⟩
    · cases h
      rw [hl]
      exact .refl _
  | cons unit units ih =>
    rw [reaches_cons_iff, take_behind]
    refine ⟨fun ⟨next, hn, hr⟩ => ?_, fun ⟨last', h, hl⟩ => ?_⟩
    · obtain ⟨next', hn', rfl⟩ := map_eq_ok_iff.mp hn
      obtain ⟨last', hr', hl⟩ := ih.mp hr
      exact ⟨last', reaches_cons_iff.mpr ⟨next', hn', hr'⟩, hl⟩
    · obtain ⟨next', hn', hr'⟩ := reaches_cons_iff.mp h
      exact ⟨_, map_eq_ok_iff.mpr ⟨next', hn', rfl⟩, ih.mpr ⟨last', hr', hl⟩⟩

end Growth

namespace Forest

/-- A forest, and another one so many bytes further on, make up a third one: they stand in a row in
it, or in between two texts have become one. -/
inductive Joins (n : Nat) : Forest → Forest → Forest → Prop
  /-- They stand in a row. -/
  | apart (f f' : Forest) : Joins n f f' (f ++ displaced n f')
  /-- Two texts have become one. -/
  | merged (f f' : Forest) (s s' : String) (position position' : Nat) :
    Joins n (f ++ [.text s position]) (.text s' position' :: f')
      (f ++ .text (s ++ s') position :: displaced n f')

variable {d : Dialect} {units units' : List Lex} {f f' : Forest} {n : Nat}

/-- Units form a forest if they are read without an error and lead from nothing to the forest, with
no directive left open. -/
theorem ofUnits_eq_ok_iff {units : List (Except TemplateError Lex)} :
    ofUnits d units = .ok f ↔
      ∃ read : List Lex, units = read.map .ok ∧ Growth.Reaches d ⟨[], []⟩ read ⟨[], f⟩ := by
  unfold ofUnits
  constructor
  · intro h
    split at h
    · cases h
    · next last ht =>
      obtain ⟨-, read, rfl, -⟩ := (Growth.sound_empty d).takeAll ht
      obtain ⟨stack, roots⟩ := last
      cases stack with
      | nil =>
        cases h
        exact ⟨read, rfl, ht⟩
      | cons => cases h
  · rintro ⟨read, rfl, hr⟩
    rw [hr]
    rfl

/-- Units that form forests form in a row what the forests make up. -/
theorem exists_joins_of_reaches (h : Growth.Reaches d ⟨[], []⟩ units ⟨[], f⟩)
    (h' : Growth.Reaches d ⟨[], []⟩ units' ⟨[], f'⟩) (n : Nat) :
    ∃ whole, Joins n f f' whole ∧
      Growth.Reaches d ⟨[], []⟩ (seam Lex.merge units (units'.map (Lex.displaced n)))
        ⟨[], whole⟩ := by
  rcases seam_cases Lex.merge units (units'.map (Lex.displaced n)) with
    hs | ⟨init, x, y, z, tail, rfl, hy, hm, hs⟩
  · rw [hs]
    refine ⟨_, .apart f f', h.trans ?_⟩
    rw [← Growth.behind_empty]
    exact Growth.reaches_behind_iff.mpr ⟨_, h'.displaced n, rfl⟩
  · rw [hs]
    obtain ⟨s, s', position, _, rfl, rfl, rfl⟩ := Lex.merge_eq_some hm
    obtain ⟨unit, units', rfl, hunit, rfl⟩ := List.map_eq_cons_iff.mp hy
    obtain ⟨position', rfl⟩ := Lex.eq_text_of_displaced hunit
    obtain ⟨mid, hinit, htext⟩ := Growth.reaches_append_iff.mp h
    obtain ⟨before, rfl, rfl⟩ := Growth.roots_of_reaches_text htext
    obtain ⟨_, hfirst, hrest⟩ := Growth.reaches_cons_iff.mp h'
    cases hfirst
    -- the rest of the second forest grows behind its first text as it grows behind any other
    have hbehind : (Growth.behind [.text s' position'] ⟨[], []⟩).Reaches d units' ⟨[], f'⟩ := hrest
    obtain ⟨⟨stack, more⟩, hmore, hlast⟩ := Growth.reaches_behind_iff.mp hbehind
    cases hlast
    refine ⟨_, .merged before more s s' position position',
      hinit.trans (Growth.reaches_cons_iff.mpr ⟨_, rfl, ?_⟩)⟩
    have hroots : Growth.add ⟨[], before⟩ (.text (s ++ s') position) =
        Growth.behind (before ++ [.text (s ++ s') position]) ⟨[], []⟩ :=
      (Growth.behind_empty _).symm
    rw [hroots]
    refine Growth.reaches_behind_iff.mpr ⟨_, hmore.displaced n, ?_⟩
    exact congrArg (Growth.mk []) (List.append_assoc before [_] _)

end Forest

end TagTemplate
