import TagTemplate.Proofs.Forest.Units

/-!
# Growing forests

Everything that was read stays in the forest being built, in order, and every directive in it is
as the dialect requires. The invariant relates the open directives to the tags that they took:
their candidates are exactly the registered directives that open with those tags, and there is
one content fewer than there are tags.
-/

namespace TagTemplate

variable {d : Dialect}

namespace OpenDirective

/-- The units that an open directive spans so far. -/
def units (o : OpenDirective) : List Lex :=
  LexedTag.weave o.tags ((o.bodies ++ [o.body]).map Forest.units)

/-- What holds of an open directive. -/
structure Sound (d : Dialect) (o : OpenDirective) : Prop where
  /-- The candidates are the directives that open with its tags. -/
  candidates : o.candidates = d.opening (LexedTag.shapes o.tags)
  /-- There is a content between any two tags that follow each other. -/
  separated : o.bodies.length + 1 = o.tags.length
  /-- The position is that of the first tag. -/
  first : o.tags.head?.map LexedTag.position = some o.position
  /-- The contents between the tags are well formed. -/
  bodies : ∀ body ∈ o.bodies, Forest.WellFormed d body
  /-- So is the content after the last tag. -/
  body : Forest.WellFormed d o.body

/-- What an open directive spans ends with the content after its last tag. -/
theorem units_eq {o : OpenDirective} (h : o.bodies.length + 1 = o.tags.length) :
    o.units = LexedTag.weave o.tags (o.bodies.map Forest.units) ++ Forest.units o.body := by
  have hl : o.tags.length ≤ (o.bodies.map Forest.units).length + 1 := by
    rw [List.length_map]
    omega
  rw [units, List.map_append]
  exact LexedTag.weave_concat_content _ hl

/-- The candidates that a tag leaves are the directives that open with it as well. -/
theorem Sound.after {o : OpenDirective} (h : o.Sound d) (shape : TagShape) :
    o.after d.nameCase shape = d.opening (LexedTag.shapes o.tags ++ [shape]) := by
  have ha := d.accepting_opening (LexedTag.shapes o.tags) shape
  rw [LexedTag.length_shapes] at ha
  rw [OpenDirective.after, h.candidates, ha]

end OpenDirective

/-- A directive that is settled by its tags fits them. -/
theorem Dialect.fits_of_settled {tags : List LexedTag} {bodies : List Forest} {position : Nat}
    {r : RegisteredDirective}
    (h : settled tags.length (d.opening (LexedTag.shapes tags)) = some r)
    (hs : bodies.length + 1 = tags.length)
    (hf : tags.head?.map LexedTag.position = some position) :
    d.Fits r.directive position tags bodies := by
  rw [← LexedTag.length_shapes] at h
  obtain ⟨hr, hm⟩ := Dialect.allSame_of_settled h
  exact ⟨⟨r, hr, rfl, hm⟩, hs, hf⟩

namespace Growth

/-- The units that were taken. -/
def units (g : Growth) : List Lex :=
  Forest.units g.roots ++ g.stack.reverse.flatMap OpenDirective.units

/-- What holds of a forest being built. -/
structure Sound (d : Dialect) (g : Growth) : Prop where
  /-- Of every open directive. -/
  stack : ∀ o ∈ g.stack, o.Sound d
  /-- Of the finished part outside all of them. -/
  roots : Forest.WellFormed d g.roots

/-- A growth with one more open directive is sound if both are. -/
theorem Sound.cons {g : Growth} {o : OpenDirective} (h : g.Sound d) (ho : o.Sound d) :
    Sound d { g with stack := o :: g.stack } := by
  refine ⟨?_, h.roots⟩
  intro p hp
  rcases List.mem_cons.mp hp with rfl | hs
  · exact ho
  · exact h.stack p hs

/-- What is outside the innermost open directive is sound. -/
theorem Sound.outside {g : Growth} {o : OpenDirective} {outer : List OpenDirective}
    (h : g.Sound d) (hg : g.stack = o :: outer) :
    o.Sound d ∧ Sound d { g with stack := outer } := by
  have ho : ∀ p ∈ o :: outer, p.Sound d := hg ▸ h.stack
  exact ⟨ho o List.mem_cons_self, fun p hp => ho p (List.mem_cons_of_mem o hp), h.roots⟩

/-- The units of a growth end with those of its innermost open directive. -/
theorem units_open (g : Growth) (o : OpenDirective) :
    units { g with stack := o :: g.stack } = g.units ++ o.units := by
  simp only [units, List.reverse_cons, List.flatMap_append, List.flatMap_singleton,
    List.append_assoc]

/-- An added node comes last. -/
theorem units_add {g : Growth} (h : g.Sound d) (node : Node) :
    (g.add node).units = g.units ++ node.units := by
  unfold add
  split
  · next hg => simp [units, hg]
  · next o outer hg =>
    have ho := (h.outside hg).1.separated
    have hu : OpenDirective.units { o with body := o.body ++ [node] } = o.units ++ node.units := by
      rw [OpenDirective.units_eq ho]
      refine (OpenDirective.units_eq (by exact ho)).trans ?_
      simp
    simp [units, hg, hu]

/-- Adding a node that is well formed keeps a growth sound. -/
theorem Sound.add {g : Growth} (h : g.Sound d) {node : Node} (hn : node.Everywhere d.Fits) :
    (g.add node).Sound d := by
  unfold Growth.add
  split
  · exact ⟨h.stack, h.roots.concat hn⟩
  · next o outer hg =>
    obtain ⟨ho, hout⟩ := h.outside hg
    exact hout.cons ⟨ho.candidates, ho.separated, ho.first, ho.bodies, ho.body.concat hn⟩

/-- A tag that opens a directive comes last. -/
theorem units_openTag {g : Growth} (h : g.Sound d) (tag : LexedTag)
    (candidates : List RegisteredDirective) :
    (g.openTag tag candidates).units = g.units ++ [.tag tag] := by
  unfold openTag
  split
  · rw [units_add h]
    rfl
  · rw [units_open]
    rfl

/-- Opening a directive with its candidates keeps a growth sound. -/
theorem Sound.openTag {g : Growth} (h : g.Sound d) (tag : LexedTag) :
    (g.openTag tag (d.opening [tag.shape])).Sound d := by
  unfold Growth.openTag
  split
  · next only hs =>
    have hf : d.Fits only.directive tag.position [tag] [] := Dialect.fits_of_settled hs rfl rfl
    exact h.add (.directive hf fun _ hb => absurd hb List.not_mem_nil)
  · exact h.cons ⟨rfl, rfl, rfl, fun _ hb => absurd hb List.not_mem_nil, .nil⟩

variable {g : Growth} {o : OpenDirective} {outer : List OpenDirective}

/-- A tag that continues the innermost directive comes last. -/
theorem units_continueTag (h : g.Sound d) (hg : g.stack = o :: outer) (tag : LexedTag)
    (candidates : List RegisteredDirective) :
    (g.continueTag o outer tag candidates).units = g.units ++ [.tag tag] := by
  obtain ⟨ho, hout⟩ := h.outside hg
  have hw : LexedTag.weave (o.tags ++ [tag]) ((o.bodies ++ [o.body]).map Forest.units) =
      o.units ++ [.tag tag] := by
    have hl : ((o.bodies ++ [o.body]).map Forest.units).length ≤ o.tags.length := by
      simp only [List.length_map, List.length_append, List.length_singleton]
      exact Nat.le_of_eq ho.separated
    exact LexedTag.weave_concat_tag tag hl
  have hu : g.units = units { g with stack := outer } ++ o.units := by
    rw [← units_open, ← hg]
  unfold continueTag
  dsimp only
  split
  · rw [units_add hout, hu, List.append_assoc, Node.units, Forest.contents_eq_map, hw]
  · have hl : (o.bodies ++ [o.body]).length + 1 = (o.tags ++ [tag]).length := by
      simp only [List.length_append, List.length_singleton, ho.separated]
    have hp := units_open { g with stack := outer }
      ⟨candidates, o.position, o.tags ++ [tag], o.bodies ++ [o.body], []⟩
    rw [hp, hu, List.append_assoc, OpenDirective.units_eq hl, hw, Forest.units_nil,
      List.append_nil]

/-- Continuing the innermost directive with the candidates that are left keeps a growth
sound. -/
theorem Sound.continueTag (h : g.Sound d) (hg : g.stack = o :: outer) (tag : LexedTag) :
    (g.continueTag o outer tag (o.after d.nameCase tag.shape)).Sound d := by
  obtain ⟨ho, hout⟩ := h.outside hg
  have hc : o.after d.nameCase tag.shape = d.opening (LexedTag.shapes (o.tags ++ [tag])) := by
    rw [LexedTag.shapes_append]
    exact ho.after tag.shape
  have hs : (o.bodies ++ [o.body]).length + 1 = (o.tags ++ [tag]).length := by
    simp only [List.length_append, List.length_singleton, ho.separated]
  have hf : (o.tags ++ [tag]).head?.map LexedTag.position = some o.position := by
    rw [List.head?_append, Option.map_or, ho.first]
    rfl
  have hb : ∀ body ∈ o.bodies ++ [o.body], Forest.WellFormed d body := by
    intro body hm
    rcases List.mem_append.mp hm with hm | hm
    · exact ho.bodies body hm
    · rw [List.mem_singleton.mp hm]
      exact ho.body
  unfold Growth.continueTag
  dsimp only
  split
  · next only hset =>
    rw [hc] at hset
    exact hout.add (.directive (Dialect.fits_of_settled hset hs hf) hb)
  · exact hout.cons ⟨hc, hs, hf, hb, .nil⟩

/-- A tag is taken in one of two ways. It continues the innermost open directive, if that has a
candidate for it; or no open directive has one, and it opens a directive of its own. -/
theorem takeTag_eq_ok_iff {g next : Growth} {tag : LexedTag} :
    g.takeTag d tag = .ok next ↔
      (∃ o outer, g.stack = o :: outer ∧ o.after d.nameCase tag.shape ≠ [] ∧
        g.continueTag o outer tag (o.after d.nameCase tag.shape) = next) ∨
      ((∀ o ∈ g.stack, o.after d.nameCase tag.shape = []) ∧ d.opening [tag.shape] ≠ [] ∧
        g.openTag tag (d.opening [tag.shape]) = next) := by
  unfold takeTag
  rw [d.accepting_directives]
  dsimp only
  split
  · next hg =>
    by_cases hs : d.opening [tag.shape] = []
    · simp [hg, hs]
    · rw [if_neg (mt List.isEmpty_iff.mp hs), Except.ok.injEq]
      simp [hg, hs]
  · next o outer hg =>
    by_cases ho : o.after d.nameCase tag.shape = []
    · have hany : (outer.any fun p => !(p.after d.nameCase tag.shape).isEmpty) = true ↔
          ¬∀ p ∈ outer, p.after d.nameCase tag.shape = [] := by simp
      rw [if_neg (by simp [ho])]
      by_cases ha : ∀ p ∈ outer, p.after d.nameCase tag.shape = []
      · rw [if_neg (fun h => hany.mp h ha)]
        by_cases hs : d.opening [tag.shape] = []
        · rw [if_pos (List.isEmpty_iff.mpr hs)]
          simp [hg, ho, hs]
        · rw [if_neg (mt List.isEmpty_iff.mp hs), Except.ok.injEq]
          simpa [hg, ho, hs] using fun _ => ha
      · rw [if_pos (hany.mpr ha)]
        simp [hg, ho, ha]
    · rw [if_pos (by simp [ho]), Except.ok.injEq]
      simp [hg, ho]

/-- A unit that is taken comes last, and a growth stays sound. -/
theorem Sound.take {next : Growth} {unit : Lex} (h : g.Sound d) (ht : g.take d unit = .ok next) :
    next.Sound d ∧ next.units = g.units ++ [unit] := by
  cases unit with
  | text s position =>
    cases ht
    exact ⟨h.add (.text s position), units_add h _⟩
  | tag tag =>
    rcases takeTag_eq_ok_iff.mp ht with ⟨o, outer, hg, -, rfl⟩ | ⟨-, -, rfl⟩
    · exact ⟨h.continueTag hg tag, units_continueTag h hg tag _⟩
    · exact ⟨h.openTag tag, units_openTag h tag _⟩

/-- Units that are taken were read without an error; they come last, and a growth stays sound. -/
theorem Sound.takeAll {last : Growth} {units : List (Except TemplateError Lex)} (h : g.Sound d)
    (ht : g.takeAll d units = .ok last) :
    last.Sound d ∧ ∃ read : List Lex, units = read.map .ok ∧ last.units = g.units ++ read := by
  induction units generalizing g with
  | nil =>
    cases ht
    exact ⟨h, [], rfl, (List.append_nil _).symm⟩
  | cons unit rest ih => cases unit with
    | error error => cases ht
    | ok unit =>
      unfold Growth.takeAll at ht
      split at ht
      · cases ht
      · next next hn =>
        obtain ⟨hs, hu⟩ := h.take hn
        obtain ⟨hl, read, rfl, hr⟩ := ih hs ht
        refine ⟨hl, unit :: read, rfl, ?_⟩
        rw [hr, hu, List.append_assoc]
        rfl

/-- Nothing is sound at the beginning. -/
theorem sound_empty (d : Dialect) : Sound d ⟨[], []⟩ :=
  ⟨fun _ ho => absurd ho List.not_mem_nil, .nil⟩

end Growth

namespace Forest

/-- In every dialect, a forest that is read from units spans exactly those units, in order. Every
directive in it, at any depth, is registered; its tags are one by one those that it declares, with
one content between any two, and its position is that of its first tag. -/
theorem units_and_wellFormed_of_ofUnits {units : List (Except TemplateError Lex)}
    {forest : Forest} (h : ofUnits d units = .ok forest) :
    units = (Forest.units forest).map .ok ∧ forest.WellFormed d := by
  unfold ofUnits at h
  split at h
  · cases h
  · next last ht =>
    obtain ⟨hs, read, rfl, hr⟩ := (Growth.sound_empty d).takeAll ht
    unfold Growth.finish at h
    split at h
    · next hstack =>
      cases h
      have hu : read = Forest.units last.roots := by
        simpa [Growth.units, hstack] using hr.symm
      exact ⟨congrArg _ hu, hs.roots⟩
    · cases h

set_option maxRecDepth 1000 in
/-- The law at a loop between the tags of an alternative, in the standard dialect. -/
theorem units_and_wellFormed_of_ofUnits_nested :
    let units : List (Except TemplateError Lex) :=
      [.ok (.tag ⟨⟨[.keyword "if", .expression, .keyword "then"]⟩,
          [.keyword "if", .expression (.identifier "a"), .keyword "then"], 0⟩),
        .ok (.tag ⟨⟨[.keyword "REPEAT", .expression, .keyword "TIMES"]⟩,
          [.keyword "REPEAT", .expression (.identifier "n"), .keyword "TIMES"], 11⟩),
        .ok (.text "x" 27), .ok (.tag ⟨⟨[.keyword "END"]⟩, [.keyword "END"], 28⟩),
        .ok (.tag ⟨⟨[.keyword "Else"]⟩, [.keyword "Else"], 33⟩), .ok (.text "y" 39),
        .ok (.tag ⟨⟨[.keyword "end"]⟩, [.keyword "end"], 40⟩)]
    ∃ d forest, Dialect.standard = .ok d ∧ ofUnits d units = .ok forest ∧
      units = (Forest.units forest).map .ok ∧ forest.WellFormed d := by
  intro units
  have hd : ∃ d, Dialect.standard = .ok d ∧ ∃ forest, ofUnits d units = .ok forest :=
    ⟨_, rfl, _, rfl⟩
  obtain ⟨d, hs, forest, hf⟩ := hd
  exact ⟨d, forest, hs, hf, units_and_wellFormed_of_ofUnits hf⟩

end Forest

end TagTemplate
