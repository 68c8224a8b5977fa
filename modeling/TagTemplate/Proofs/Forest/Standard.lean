import TagTemplate.Proofs.Dialect.Registered
import TagTemplate.Proofs.Forest.RoundTrip

/-!
# Forests of standard directives

The standard directives are told apart by their tags, in whatever order they are registered and
whether or not case counts. So their forests are read back from their units; and which directive
a first tag becomes, where two share it, is decided by the tags at its own level.
-/

namespace TagTemplate

/-- Lists of shapes that are the same one by one have as many shapes of a kind. -/
theorem TagShape.countP_of_allSame {nameCase : NameCase} {declared shapes : List TagShape}
    (h : AllSame nameCase declared shapes) (kind : TagShape) :
    shapes.countP (kind.same nameCase) = declared.countP (kind.same nameCase) := by
  induction h with
  | nil => rfl
  | cons hs _ ih =>
    have he : kind.same nameCase _ = kind.same nameCase _ :=
      Bool.eq_iff_iff.mpr ⟨fun hk => same_trans hk (same_symm hs), fun hk => same_trans hk hs⟩
    rw [List.countP_cons, List.countP_cons, ih, he]

/-- Lists of shapes that are the same one by one begin with the same shape. -/
theorem TagShape.leads_of_allSame_left {nameCase : NameCase} {declared shapes : List TagShape}
    (h : AllSame nameCase declared shapes) {kind : TagShape}
    (hk : leads nameCase shapes [kind] = true) : leads nameCase declared [kind] = true := by
  cases h with
  | nil => cases hk
  | cons hs _ =>
    rw [leads_cons, leads_nil, Bool.and_true] at hk ⊢
    exact same_trans hs hk

namespace StandardDirective

/-- The tag that opens a condition. -/
def ifThen : TagShape := ⟨[.keyword "IF", .expression, .keyword "THEN"]⟩

/-- The tag between the two contents of a condition. -/
def elseTag : TagShape := ⟨[.keyword "ELSE"]⟩

/-- The tag that opens a loop. -/
def forEachIn : TagShape :=
  ⟨[.keyword "FOR", .keyword "EACH", .name, .keyword "IN", .expression]⟩

/-- The tag between the content of a loop and what separates it. -/
def withTag : TagShape := ⟨[.keyword "WITH"]⟩

/-- The tag that closes a directive. -/
def endTag : TagShape := ⟨[.keyword "END"]⟩

/-- The shapes of a directive's tags. -/
def shapes : StandardDirective → List TagShape
  | .interpolation => [⟨[.expression]⟩]
  | .conditionalInterpolation => [⟨[.expression, .keyword "IF", .expression]⟩]
  | .conditional => [ifThen, endTag]
  | .alternative => [ifThen, elseTag, endTag]
  | .forEach => [forEachIn, endTag]
  | .separatedForEach => [forEachIn, withTag, endTag]
  | .repetition => [⟨[.keyword "REPEAT", .expression, .keyword "TIMES"]⟩, endTag]
  | .preformatted => [⟨[.keyword "PREFORMATTED"]⟩, endTag]
  | .assignment => [⟨[.keyword "SET", .name, .keyword "TO", .expression]⟩]

/-- The shapes are those that the markup describes. -/
theorem parseShapes_tags (s : StandardDirective) :
    Dialect.parseShapes s.tags = .ok s.shapes := by
  cases s <;> rfl

/-- The tags of a standard directive are not the first tags of another. -/
theorem eq_of_leads {nameCase : NameCase} {a b : StandardDirective}
    (h : TagShape.leads nameCase a.shapes b.shapes = true) : a = b := by
  cases nameCase <;> cases a <;> cases b <;> first | rfl | exact absurd h (by decide)

/-- The first tag of a standard directive is not a later tag of any. -/
theorem not_same_of_later (nameCase : NameCase) (a b : StandardDirective) :
    ∀ shape ∈ a.shapes.head?, ∀ later ∈ b.shapes.tail, later.same nameCase shape = false := by
  cases nameCase <;> cases a <;> cases b <;> decide

/-- Which directive the tags at a level make where two directives share their first tag. -/
structure Decided (nameCase : NameCase) (directive : Directive) (tags : List TagShape) :
    Prop where
  /-- A condition without a tag between two contents has one content. -/
  conditional : TagShape.leads nameCase tags [ifThen] = true →
    tags.countP (elseTag.same nameCase) = 0 → directive = .standard .conditional
  /-- A condition with one such tag has two. -/
  alternative : TagShape.leads nameCase tags [ifThen] = true →
    tags.countP (elseTag.same nameCase) = 1 → directive = .standard .alternative
  /-- A loop is a separated one exactly if it has a tag that begins what separates it. -/
  separated : TagShape.leads nameCase tags [forEachIn] = true →
    (directive = .standard .separatedForEach ↔ 0 < tags.countP (withTag.same nameCase))

/-- The declared tags of a standard directive make that directive. -/
theorem decided_shapes (nameCase : NameCase) (s : StandardDirective) :
    Decided nameCase (.standard s) s.shapes := by
  refine ⟨?_, ?_, ?_⟩ <;> rw [Directive.standard.injEq] <;> cases nameCase <;> cases s <;> decide

/-- So do tags that are the same as those. -/
theorem decided_of_allSame {nameCase : NameCase} {s : StandardDirective} {tags : List TagShape}
    (h : TagShape.AllSame nameCase s.shapes tags) : Decided nameCase (.standard s) tags := by
  obtain ⟨hc, ha, hs⟩ := decided_shapes nameCase s
  rw [← TagShape.countP_of_allSame h] at hc ha hs
  exact ⟨fun hl => hc (TagShape.leads_of_allSame_left h hl),
    fun hl => ha (TagShape.leads_of_allSame_left h hl),
    fun hl => hs (TagShape.leads_of_allSame_left h hl)⟩

end StandardDirective

namespace Dialect

variable {draft : Draft} {d : Dialect}

/-- A directive of a dialect with the standard directives is one of them, with its shapes. -/
theorem exists_standard (hd : ofDraft draft = .ok d)
    (hp : (d.directives.map RegisteredDirective.directive).Perm Directive.allStandard)
    {r : RegisteredDirective} (hr : r ∈ d.directives) :
    ∃ s : StandardDirective, r = ⟨.standard s, s.shapes⟩ := by
  have hm : r.directive ∈ Directive.allStandard := hp.subset (List.mem_map_of_mem hr)
  obtain ⟨s, -, hs⟩ := List.mem_map.mp hm
  have hdeclared := declared_of_ofDraft hd r hr
  unfold RegisteredDirective.Declared at hdeclared
  rw [← hs, Directive.tags, s.parseShapes_tags, Except.ok.injEq] at hdeclared
  exact ⟨s, by rw [hs, hdeclared]⟩

/-- A standard directive fits tags that are, one by one, its own. -/
theorem fits_of_standard (hd : ofDraft draft = .ok d)
    (hp : (d.directives.map RegisteredDirective.directive).Perm Directive.allStandard)
    {s : StandardDirective} {position : Nat} {tags : List LexedTag} {bodies : List Forest}
    (hm : TagShape.AllSame d.nameCase s.shapes (LexedTag.shapes tags))
    (hs : bodies.length + 1 = tags.length)
    (hf : tags.head?.map LexedTag.position = some position) :
    d.Fits (.standard s) position tags bodies := by
  have hall : s ∈ StandardDirective.all := by cases s <;> decide
  have hmem := hp.symm.subset (List.mem_map_of_mem hall)
  obtain ⟨r, hr, hrs⟩ := List.mem_map.mp hmem
  obtain ⟨other, rfl⟩ := exists_standard hd hp hr
  obtain rfl := Directive.standard.inj hrs
  exact ⟨⟨_, hr, rfl, hm⟩, hs, hf⟩

/-- The standard directives are told apart by their tags. -/
theorem unambiguous_of_standard (hd : ofDraft draft = .ok d)
    (hp : (d.directives.map RegisteredDirective.directive).Perm Directive.allStandard) :
    d.Unambiguous := by
  refine ⟨?_, ?_, ?_⟩
  · have hn : Directive.allStandard.Nodup := by
      have hall : StandardDirective.all.Nodup := by decide
      exact hall.map fun _ _ h => Directive.standard.inj h
    exact (hp.nodup_iff.mpr hn).of_map
  · intro r hr s hs h
    obtain ⟨a, rfl⟩ := exists_standard hd hp hr
    obtain ⟨b, rfl⟩ := exists_standard hd hp hs
    rw [StandardDirective.eq_of_leads h]
  · intro r hr s hs
    obtain ⟨a, rfl⟩ := exists_standard hd hp hr
    obtain ⟨b, rfl⟩ := exists_standard hd hp hs
    exact StandardDirective.not_same_of_later d.nameCase a b

end Dialect

namespace Forest

/-- In every dialect with exactly the standard directives, in any order, a well-formed forest is
read back from the units that it spans, whatever is nested in what. Everywhere in it, a condition
has two contents exactly if a tag at its own level says so, and a loop is separated exactly if a
tag at its own level says so. -/
theorem ofUnits_units_of_standard {draft : Dialect.Draft} {d : Dialect}
    (hd : Dialect.ofDraft draft = .ok d)
    (hp : (d.directives.map RegisteredDirective.directive).Perm Directive.allStandard)
    {forest : Forest} (h : forest.WellFormed d) :
    ofUnits d (forest.units.map .ok) = .ok forest ∧
      forest.Everywhere fun directive _ tags _ =>
        StandardDirective.Decided d.nameCase directive (LexedTag.shapes tags) := by
  refine ⟨ofUnits_of_wellFormed (Dialect.unambiguous_of_standard hd hp) h, ?_⟩
  intro node hn
  refine (h node hn).imp fun directive position tags bodies hf => ?_
  obtain ⟨⟨r, hr, rfl, hm⟩, -, -⟩ := hf
  obtain ⟨s, rfl⟩ := Dialect.exists_standard hd hp hr
  exact StandardDirective.decided_of_allSame hm

set_option maxRecDepth 1000 in
/-- The law at a loop between the tags of an alternative. -/
theorem ofUnits_units_of_standard_nested :
    let loop : Node := .directive (.standard .repetition) 11
      [⟨⟨[.keyword "REPEAT", .expression, .keyword "TIMES"]⟩,
          [.keyword "REPEAT", .expression (.identifier "n"), .keyword "TIMES"], 11⟩,
        ⟨⟨[.keyword "END"]⟩, [.keyword "END"], 28⟩]
      [[.text "x" 27]]
    let forest : Forest := [.directive (.standard .alternative) 0
      [⟨⟨[.keyword "if", .expression, .keyword "then"]⟩,
          [.keyword "if", .expression (.identifier "a"), .keyword "then"], 0⟩,
        ⟨⟨[.keyword "ELSE"]⟩, [.keyword "ELSE"], 33⟩, ⟨⟨[.keyword "end"]⟩, [.keyword "end"], 40⟩]
      [[loop], [.text "y" 39]]]
    ∃ d, Dialect.standard = .ok d ∧ ofUnits d (forest.units.map .ok) = .ok forest ∧
      forest.Everywhere fun directive _ tags _ =>
        StandardDirective.Decided d.nameCase directive (LexedTag.shapes tags) := by
  intro loop forest
  obtain ⟨d, hstandard, hc⟩ := Dialect.exists_standard_insensitive
  have hd : Dialect.ofDraft (.ofSettings "standard"
      [.standardOperators, .standardDirectives]) = .ok d := hstandard
  have hp : (d.directives.map RegisteredDirective.directive).Perm Directive.allStandard := by
    rw [Dialect.directives_of_ofDraft hd]
    exact .refl _
  have hsame : TagShape.AllSame d.nameCase StandardDirective.repetition.shapes
      [⟨[.keyword "REPEAT", .expression, .keyword "TIMES"]⟩, ⟨[.keyword "END"]⟩] := by
    rw [hc]
    exact .cons rfl (.cons rfl .nil)
  have hsame' : TagShape.AllSame d.nameCase StandardDirective.alternative.shapes
      [⟨[.keyword "if", .expression, .keyword "then"]⟩, ⟨[.keyword "ELSE"]⟩,
        ⟨[.keyword "end"]⟩] := by
    rw [hc]
    exact .cons rfl (.cons rfl (.cons rfl .nil))
  have hloop : loop.Everywhere d.Fits := by
    refine .directive (Dialect.fits_of_standard hd hp hsame rfl rfl) ?_
    intro body hb node hn
    obtain rfl := List.mem_singleton.mp hb
    obtain rfl := List.mem_singleton.mp hn
    exact .text _ _
  have hforest : forest.WellFormed d := by
    intro node hn
    obtain rfl := List.mem_singleton.mp hn
    refine .directive (Dialect.fits_of_standard hd hp hsame' rfl rfl) ?_
    intro body hb inner hi
    rcases List.mem_pair.mp hb with rfl | rfl
    · obtain rfl := List.mem_singleton.mp hi
      exact hloop
    · obtain rfl := List.mem_singleton.mp hi
      exact .text _ _
  exact ⟨d, hstandard, ofUnits_units_of_standard hd hp hforest⟩

end Forest

end TagTemplate
