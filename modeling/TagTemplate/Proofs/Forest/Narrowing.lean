import TagTemplate.Proofs.Forest.Concatenation

/-!
# Narrowing of candidates

The candidates of an open directive are, at every moment, the registered directives that are
consistent with all the tags that it took, and it is locked in by the first tag after which exactly
one of them has no tags left. So a directive that is never terminated is reported with where it opens
and with the directives that it could still have become.
-/

namespace TagTemplate

/-- A registered directive is consistent with tags: it declares at least as many, and the first that
it declares are those, in order. -/
structure RegisteredDirective.Consistent (nameCase : NameCase) (r : RegisteredDirective)
    (shapes : List TagShape) : Prop where
  /-- At least as many are declared. -/
  enough : shapes.length ≤ r.shapes.length
  /-- The first of these are the same one by one. -/
  leading : TagShape.AllSame nameCase (r.shapes.take shapes.length) shapes

/-- Consistency is what narrowing tests. -/
theorem RegisteredDirective.consistent_iff_leads {nameCase : NameCase} {r : RegisteredDirective}
    {shapes : List TagShape} :
    r.Consistent nameCase shapes ↔ TagShape.leads nameCase r.shapes shapes = true := by
  rw [TagShape.leads_iff]
  refine ⟨Consistent.leading, fun h => ⟨?_, h⟩⟩
  have hl := h.length_eq
  rw [List.length_take] at hl
  omega

instance (nameCase : NameCase) (r : RegisteredDirective) (shapes : List TagShape) :
    Decidable (r.Consistent nameCase shapes) :=
  decidable_of_iff _ RegisteredDirective.consistent_iff_leads.symm

/-- A directive is settled if it is the only candidate without further tags. -/
theorem settled_eq_some_iff {matched : Nat} {candidates : List RegisteredDirective}
    {r : RegisteredDirective} :
    settled matched candidates = some r ↔
      (candidates.filter fun c => c.shapes.length == matched) = [r] := by
  unfold settled
  split
  · next only hf => rw [hf, Option.some.injEq, List.singleton_inj]
  · next hf => exact ⟨nofun, fun h => absurd h (hf r)⟩

namespace Dialect

variable {d : Dialect} {shapes : List TagShape} {r : RegisteredDirective}

/-- The registered directives that are consistent with tags, in the order of registration. -/
def consistent (d : Dialect) (shapes : List TagShape) : List RegisteredDirective :=
  d.directives.filter fun r => r.Consistent d.nameCase shapes

theorem opening_eq_consistent (d : Dialect) (shapes : List TagShape) :
    d.opening shapes = d.consistent shapes := by
  refine List.filter_congr fun r _ => ?_
  rw [Bool.eq_iff_iff, decide_eq_true_iff, RegisteredDirective.consistent_iff_leads]

/-- Tags decide for a directive: of those that are consistent with them it is the only one without
further tags. -/
def Decides (d : Dialect) (shapes : List TagShape) (r : RegisteredDirective) : Prop :=
  ((d.consistent shapes).filter fun s => s.shapes.length = shapes.length) = [r]

theorem settled_opening_iff :
    settled shapes.length (d.opening shapes) = some r ↔ d.Decides shapes r := by
  rw [settled_eq_some_iff, opening_eq_consistent]
  rfl

/-- Tags decide for no directive, and neither did fewer of them. -/
def Undecided (d : Dialect) (shapes : List TagShape) : Prop :=
  ∀ earlier, earlier ≠ [] → earlier <+: shapes → ∀ r, ¬d.Decides earlier r

/-- The last of some tags, and none before it, decides for a directive. -/
def LocksIn (d : Dialect) (directive : Directive) (shapes : List TagShape) : Prop :=
  ∃ before last r, shapes = before ++ [last] ∧ d.Undecided before ∧ d.Decides shapes r ∧
    r.directive = directive

/-- An instance of a directive was locked in by its last tag. -/
def LockedIn (d : Dialect) (directive : Directive) (_ : Nat) (tags : List LexedTag)
    (_ : List Forest) : Prop :=
  d.LocksIn directive (LexedTag.shapes tags)

theorem undecided_nil (d : Dialect) : d.Undecided [] :=
  fun _ hne hp => absurd (List.prefix_nil.mp hp) hne

/-- Tags stay undecided with one more that settles nothing. -/
theorem Undecided.concat {shape : TagShape} (h : d.Undecided shapes)
    (hs : settled (shapes ++ [shape]).length (d.opening (shapes ++ [shape])) = none) :
    d.Undecided (shapes ++ [shape]) := by
  intro earlier hne hp r hr
  rcases List.prefix_concat_iff.mp hp with rfl | hp
  · rw [settled_opening_iff.mpr hr] at hs
    cases hs
  · exact h earlier hne hp r hr

/-- A tag that settles a directive after undecided ones locks it in. -/
theorem Undecided.locksIn {shape : TagShape} (h : d.Undecided shapes)
    (hs : settled (shapes ++ [shape]).length (d.opening (shapes ++ [shape])) = some r) :
    d.LocksIn r.directive (shapes ++ [shape]) :=
  ⟨shapes, shape, r, rfl, h, settled_opening_iff.mp hs, rfl⟩

end Dialect

/-- What narrowing makes of an open directive. -/
structure OpenDirective.Narrowed (d : Dialect) (o : OpenDirective) : Prop where
  /-- The candidates are what is consistent with its tags. -/
  candidates : o.candidates = d.consistent (LexedTag.shapes o.tags)
  /-- The position is that of the first tag. -/
  first : o.tags.head?.map LexedTag.position = some o.position
  /-- Its tags decide for no directive, and no first part of them does. -/
  undecided : d.Undecided (LexedTag.shapes o.tags)

/-- The contents of an open directive in a row. -/
def OpenDirective.contents (o : OpenDirective) : Forest := o.bodies.flatten ++ o.body

namespace Growth

variable {d : Dialect} {g : Growth}

/-- The finished nodes: those outside all open directives, and those in the contents of these. -/
def nodes (g : Growth) : Forest := g.roots ++ g.stack.reverse.flatMap OpenDirective.contents

/-- The nodes of a growth end with those in its innermost open directive. -/
theorem nodes_open (g : Growth) (o : OpenDirective) :
    nodes { g with stack := o :: g.stack } = g.nodes ++ o.contents := by
  simp only [nodes, List.reverse_cons, List.flatMap_append, List.flatMap_singleton,
    List.append_assoc]

/-- An added node comes last. -/
theorem nodes_add (g : Growth) (node : Node) : (g.add node).nodes = g.nodes ++ [node] := by
  obtain ⟨stack, roots⟩ := g
  cases stack with
  | nil => simp [add, nodes]
  | cons o outer => simp [add, nodes, OpenDirective.contents]

/-- Directives are locked in neither late nor early. -/
structure Timely (d : Dialect) (g : Growth) : Prop where
  /-- The tags of an open directive decide for none. -/
  undecided : ∀ o ∈ g.stack, d.Undecided (LexedTag.shapes o.tags)
  /-- A finished directive was decided by its last tag. -/
  locked : Forest.Everywhere d.LockedIn g.nodes

/-- One more open directive keeps a growth timely if its tags decide for none. -/
theorem Timely.cons {o : OpenDirective} (h : g.Timely d) (ho : d.Undecided (LexedTag.shapes o.tags))
    (hl : Forest.Everywhere d.LockedIn o.contents) : Timely d { g with stack := o :: g.stack } := by
  refine ⟨List.forall_mem_cons.mpr ⟨ho, h.undecided⟩, ?_⟩
  rw [nodes_open]
  exact List.forall_mem_append.mpr ⟨h.locked, hl⟩

/-- What is outside the innermost open directive is timely, and so is that directive. -/
theorem Timely.outside {o : OpenDirective} {outer : List OpenDirective} (h : g.Timely d)
    (hg : g.stack = o :: outer) :
    Timely d { g with stack := outer } ∧ d.Undecided (LexedTag.shapes o.tags) ∧
      Forest.Everywhere d.LockedIn o.contents := by
  obtain ⟨stack, roots⟩ := g
  cases hg
  obtain ⟨hu, hl⟩ := h
  obtain ⟨ho, hout⟩ := List.forall_mem_cons.mp hu
  rw [nodes_open ⟨outer, roots⟩ o] at hl
  obtain ⟨hr, hc⟩ := List.forall_mem_append.mp hl
  exact ⟨⟨hout, hr⟩, ho, hc⟩

/-- Adding a node all of whose directives were locked in keeps a growth timely. -/
theorem Timely.add (h : g.Timely d) {node : Node} (hn : node.Everywhere d.LockedIn) :
    (g.add node).Timely d := by
  refine ⟨?_, by rw [nodes_add]; exact h.locked.concat hn⟩
  unfold Growth.add
  split
  · exact h.undecided
  · next o outer hg =>
    obtain ⟨hout, ho, -⟩ := h.outside hg
    exact List.forall_mem_cons.mpr ⟨ho, hout.undecided⟩

/-- A first tag opens a directive or is all there is of one. -/
theorem Timely.openTag (h : g.Timely d) (tag : LexedTag) :
    (g.openTag tag (d.opening [tag.shape])).Timely d := by
  unfold Growth.openTag
  split
  · next only hs =>
    have hl : d.LocksIn only.directive [tag.shape] := d.undecided_nil.locksIn hs
    exact h.add (.directive hl fun _ hb => absurd hb List.not_mem_nil)
  · next hs => exact h.cons (d.undecided_nil.concat hs) .nil

variable {o : OpenDirective} {outer : List OpenDirective}

/-- A further tag locks the innermost directive in or leaves it open. -/
theorem Timely.continueTag (hs : g.Sound d) (h : g.Timely d) (hg : g.stack = o :: outer)
    (tag : LexedTag) :
    (g.continueTag o outer tag (o.after d.nameCase tag.shape)).Timely d := by
  obtain ⟨hout, ho, hc⟩ := h.outside hg
  have hb : Forest.Everywhere d.LockedIn (o.bodies ++ [o.body]).flatten := by
    rwa [List.flatten_append, List.flatten_singleton]
  have hl : (o.tags ++ [tag]).length = (LexedTag.shapes o.tags ++ [tag.shape]).length := by
    simp
  rw [(hs.outside hg).1.after]
  unfold Growth.continueTag
  dsimp only
  rw [hl]
  split
  · next only hset =>
    have hlocks : d.LockedIn only.directive o.position (o.tags ++ [tag]) (o.bodies ++ [o.body]) := by
      rw [Dialect.LockedIn, LexedTag.shapes_append]
      exact ho.locksIn hset
    exact hout.add (.directive hlocks fun body hm node hn =>
      hb node (List.mem_flatten_of_mem hm hn))
  · next hset =>
    have hu : d.Undecided (LexedTag.shapes (o.tags ++ [tag])) := by
      rw [LexedTag.shapes_append]
      exact ho.concat hset
    exact hout.cons hu (by rwa [OpenDirective.contents, List.append_nil])

/-- A unit that is taken keeps a growth timely. -/
theorem Timely.take {next : Growth} {unit : Lex} (hs : g.Sound d) (h : g.Timely d)
    (ht : g.take d unit = .ok next) : next.Timely d := by
  cases unit with
  | text s position =>
    cases ht
    exact h.add (.text s position)
  | tag tag =>
    rcases takeTag_eq_ok_iff.mp ht with ⟨o, outer, hg, -, rfl⟩ | ⟨-, -, rfl⟩
    · exact h.continueTag hs hg tag
    · exact h.openTag tag

/-- So do units in a row. -/
theorem Timely.of_reaches {units : List Lex} {last : Growth} (hs : g.Sound d) (h : g.Timely d)
    (hr : g.Reaches d units last) : last.Timely d := by
  induction units generalizing g with
  | nil =>
    cases hr
    exact h
  | cons unit units ih =>
    obtain ⟨next, hn, hr⟩ := reaches_cons_iff.mp hr
    exact ih (hs.take hn).1 (h.take hs hn) hr

theorem timely_empty (d : Dialect) : Timely d ⟨[], []⟩ :=
  ⟨fun _ ho => absurd ho List.not_mem_nil, .nil⟩

/-- What has been read is there in order, with its candidates narrowed and its finished directives
locked in. -/
theorem Reaches.narrowed {read : List Lex} (hr : Growth.Reaches d ⟨[], []⟩ read g) :
    g.units = read ∧ (∀ o ∈ g.stack, o.Narrowed d) ∧ Forest.Everywhere d.LockedIn g.nodes := by
  obtain ⟨hs, read', hread, hu⟩ := (sound_empty d).takeAll hr
  obtain rfl := (List.map_inj_right fun _ _ => Except.ok.inj).mp hread
  have ht := (timely_empty d).of_reaches (sound_empty d) hr
  refine ⟨hu, fun o ho => ?_, ht.locked⟩
  have hos := hs.stack o ho
  exact ⟨by rw [hos.candidates, Dialect.opening_eq_consistent], hos.first, ht.undecided o ho⟩

/-- Taking units fails with the first error among them, or at the first unit that is refused. -/
theorem takeAll_eq_error_iff {units : List (Except TemplateError Lex)} {error : TemplateError} :
    g.takeAll d units = .error error ↔
      ∃ read last rest, units = read.map .ok ++ rest ∧ g.Reaches d read last ∧
        ((∃ more, rest = .error error :: more) ∨
          ∃ unit more, rest = .ok unit :: more ∧ last.take d unit = .error error) := by
  induction units generalizing g with
  | nil =>
    refine ⟨nofun, ?_⟩
    rintro ⟨read, last, rest, hu, -, ⟨more, rfl⟩ | ⟨unit, more, rfl, -⟩⟩ <;> simp at hu
  | cons unit units ih => cases unit with
    | error other =>
      rw [takeAll, Except.error.injEq]
      constructor
      · rintro rfl
        exact ⟨[], g, _, rfl, .refl g, .inl ⟨units, rfl⟩⟩
      · rintro ⟨read, last, rest, hu, hr, hrest⟩
        cases read with
        | nil =>
          obtain ⟨more, rfl⟩ | ⟨unit, more, rfl, -⟩ := hrest <;> cases hu
          rfl
        | cons => cases hu
    | ok unit =>
      rw [takeAll]
      constructor
      · intro h
        split at h
        · next other ht =>
          cases h
          exact ⟨[], g, _, rfl, .refl g, .inr ⟨unit, units, rfl, ht⟩⟩
        · next next ht =>
          obtain ⟨read, last, rest, rfl, hr, hrest⟩ := ih.mp h
          exact ⟨unit :: read, last, rest, rfl, reaches_cons_iff.mpr ⟨next, ht, hr⟩, hrest⟩
      · rintro ⟨read, last, rest, hu, hr, hrest⟩
        cases read with
        | nil =>
          cases hr
          obtain ⟨more, rfl⟩ | ⟨unit, more, rfl, ht⟩ := hrest <;> cases hu
          rw [ht]
        | cons first read =>
          cases hu
          obtain ⟨next, ht, hread⟩ := reaches_cons_iff.mp hr
          rw [ht]
          exact ih.mpr ⟨read, last, rest, rfl, hread, hrest⟩

/-- A tag finds a directive unterminated if it does not continue the innermost open one but one
further out. -/
theorem takeTag_eq_unterminated_iff {tag : LexedTag} {names : List String} {position : Nat} :
    g.takeTag d tag = .error (.parse (.unterminatedDirective names position)) ↔
      ∃ o outer, g.stack = o :: outer ∧ o.after d.nameCase tag.shape = [] ∧
        (∃ p ∈ outer, p.after d.nameCase tag.shape ≠ []) ∧
        o.unterminated = .parse (.unterminatedDirective names position) := by
  unfold takeTag
  dsimp only
  split
  · next hg => split <;> simp [hg]
  · next o outer hg =>
    have hany : (outer.any fun p => !(p.after d.nameCase tag.shape).isEmpty) = true ↔
        ∃ p ∈ outer, p.after d.nameCase tag.shape ≠ [] := by simp
    by_cases ho : o.after d.nameCase tag.shape = []
    · rw [if_neg (by simp [ho])]
      by_cases ha : ∃ p ∈ outer, p.after d.nameCase tag.shape ≠ []
      · rw [if_pos (hany.mpr ha), Except.error.injEq]
        refine ⟨fun h => ⟨o, outer, hg, ho, ha, h⟩, ?_⟩
        rintro ⟨p, further, hp, -, -, h⟩
        cases hg.symm.trans hp
        exact h
      · rw [if_neg (mt hany.mp ha)]
        constructor
        · intro h
          split at h <;> cases h
        · rintro ⟨p, further, hp, -, hf, -⟩
          cases hg.symm.trans hp
          exact absurd hf ha
    · rw [if_pos (by simp [ho])]
      refine ⟨nofun, ?_⟩
      rintro ⟨p, further, hp, hn, -⟩
      cases hg.symm.trans hp
      exact absurd hn ho

/-- A growth is unfinished if a directive is open. -/
theorem finish_eq_error_iff {error : TemplateError} :
    g.finish = .error error ↔ ∃ o outer, g.stack = o :: outer ∧ o.unterminated = error := by
  unfold finish
  split
  · next hg => simp [hg]
  · next o outer hg => simp [hg]

end Growth

/-- What follows cuts off the innermost open directive `o`: the units end, or a tag follows that is
consistent with no directive behind the tags of `o` but with one behind those of an outer one. -/
inductive Dialect.CutsOff (d : Dialect) (o : OpenDirective) (outer : List OpenDirective) :
    List (Except TemplateError Lex) → Prop
  /-- The units end. -/
  | ended : CutsOff d o outer []
  /-- A tag of an outer directive follows. -/
  | outer {tag : LexedTag} (more : List (Except TemplateError Lex)) {p : OpenDirective}
      (ho : d.consistent (LexedTag.shapes o.tags ++ [tag.shape]) = []) (hp : p ∈ outer)
      (hc : d.consistent (LexedTag.shapes p.tags ++ [tag.shape]) ≠ []) :
      CutsOff d o outer (.ok (.tag tag) :: more)

namespace Growth

variable {d : Dialect} {g : Growth} {o : OpenDirective} {outer : List OpenDirective}

/-- The tag that follows an innermost directive that it cuts off. -/
theorem Sound.cutsOff_iff (h : g.Sound d) (hg : g.stack = o :: outer)
    {rest : List (Except TemplateError Lex)} :
    d.CutsOff o outer rest ↔ rest = [] ∨ ∃ tag more, rest = .ok (.tag tag) :: more ∧
      o.after d.nameCase tag.shape = [] ∧ ∃ p ∈ outer, p.after d.nameCase tag.shape ≠ [] := by
  obtain ⟨ho, hout⟩ := List.forall_mem_cons.mp (hg ▸ h.stack)
  constructor
  · intro hc
    cases hc with
    | ended => exact .inl rfl
    | @outer tag more p hn hp hc =>
      rw [← Dialect.opening_eq_consistent, ← OpenDirective.Sound.after] at hn hc
      · exact .inr ⟨tag, more, rfl, hn, p, hp, hc⟩
      · exact hout p hp
      · exact ho
  · rintro (rfl | ⟨tag, more, rfl, hn, p, hp, hc⟩)
    · exact .ended
    · rw [ho.after, Dialect.opening_eq_consistent] at hn
      rw [(hout p hp).after, Dialect.opening_eq_consistent] at hc
      exact .outer more hn hp hc

end Growth

/-- The error of an open directive that cannot go on names what is consistent with its tags. -/
theorem OpenDirective.Sound.unterminated_eq_iff {d : Dialect} {o : OpenDirective} (h : o.Sound d)
    {names : List String} {position : Nat} :
    o.unterminated = .parse (.unterminatedDirective names position) ↔
      names = (d.consistent (LexedTag.shapes o.tags)).map (·.directive.name) ∧
        o.tags.head?.map LexedTag.position = some position := by
  rw [unterminated, OpenDirective.names, h.candidates, Dialect.opening_eq_consistent, h.first,
    TemplateError.parse.injEq, ParseError.unterminatedDirective.injEq, Option.some.injEq]
  exact and_congr_left fun _ => eq_comm

namespace Forest

variable {d : Dialect}

/-- Units fail if one is an error or refused, or at their end if a directive is open. -/
theorem ofUnits_eq_error_iff {units : List (Except TemplateError Lex)} {error : TemplateError} :
    ofUnits d units = .error error ↔
      Growth.takeAll d ⟨[], []⟩ units = .error error ∨
        ∃ read g, units = read.map .ok ∧ Growth.Reaches d ⟨[], []⟩ read g ∧
          g.finish = .error error := by
  unfold ofUnits
  split
  · next other ht =>
    rw [ht]
    constructor
    · intro h
      cases h
      exact .inl rfl
    · rintro (h | ⟨read, g, rfl, hr, -⟩)
      · cases h
        rfl
      · cases ht.symm.trans hr
  · next last ht =>
    obtain ⟨-, read, rfl, -⟩ := (Growth.sound_empty d).takeAll ht
    refine ⟨fun h => .inr ⟨read, last, rfl, ht, h⟩, ?_⟩
    rintro (h | ⟨read', g, hu, hr, hf⟩)
    · cases ht.symm.trans h
    · rw [hu] at ht
      cases ht.symm.trans hr
      exact hf

/-- A forest that is read holds only directives that were locked in by their last tag. -/
theorem locked_of_ofUnits {units : List (Except TemplateError Lex)} {forest : Forest}
    (h : ofUnits d units = .ok forest) : forest.Everywhere d.LockedIn := by
  obtain ⟨read, rfl, hr⟩ := ofUnits_eq_ok_iff.mp h
  have ht := (Growth.timely_empty d).of_reaches (Growth.sound_empty d) hr
  simpa [Growth.nodes] using ht.locked

/-- A directive is found unterminated, if units are not themselves such an error, where the innermost
open one is cut off. -/
theorem ofUnits_eq_unterminated_iff {units : List (Except TemplateError Lex)} {names : List String}
    {position : Nat} :
    ofUnits d units = .error (.parse (.unterminatedDirective names position)) ↔
      ∃ read rest g, units = read.map .ok ++ rest ∧ Growth.Reaches d ⟨[], []⟩ read g ∧
        ((∃ more, rest = .error (.parse (.unterminatedDirective names position)) :: more) ∨
          ∃ o outer, g.stack = o :: outer ∧ d.CutsOff o outer rest ∧
            o.unterminated = .parse (.unterminatedDirective names position)) := by
  rw [ofUnits_eq_error_iff, Growth.takeAll_eq_error_iff]
  constructor
  · rintro (⟨read, g, rest, hu, hr, hmore | ⟨unit, more, rfl, ht⟩⟩ | ⟨read, g, hu, hr, hf⟩)
    · exact ⟨read, rest, g, hu, hr, .inl hmore⟩
    · have hs := hr.sound (Growth.sound_empty d)
      cases unit with
      | text => cases ht
      | tag tag =>
        obtain ⟨o, outer, hg, hn, hp, he⟩ := Growth.takeTag_eq_unterminated_iff.mp ht
        have hc := (hs.cutsOff_iff hg).mpr (.inr ⟨tag, more, rfl, hn, hp⟩)
        exact ⟨read, _, g, hu, hr, .inr ⟨o, outer, hg, hc, he⟩⟩
    · obtain ⟨o, outer, hg, he⟩ := Growth.finish_eq_error_iff.mp hf
      rw [← List.append_nil (read.map _)] at hu
      exact ⟨read, [], g, hu, hr, .inr ⟨o, outer, hg, .ended, he⟩⟩
  · rintro ⟨read, rest, g, hu, hr, hmore | ⟨o, outer, hg, hc, he⟩⟩
    · exact .inl ⟨read, g, rest, hu, hr, .inl hmore⟩
    · have hs := hr.sound (Growth.sound_empty d)
      rcases (hs.cutsOff_iff hg).mp hc with rfl | ⟨tag, more, rfl, hn, hp⟩
      · rw [List.append_nil] at hu
        exact .inr ⟨read, g, hu, hr, Growth.finish_eq_error_iff.mpr ⟨o, outer, hg, he⟩⟩
      · have ht := Growth.takeTag_eq_unterminated_iff.mpr ⟨o, outer, hg, hn, hp, he⟩
        exact .inl ⟨read, g, _, hu, hr, .inr ⟨.tag tag, more, rfl, ht⟩⟩

/-- **Candidates are narrowed to what is consistent.** At every moment, whatever has been read, the
candidates of each open directive are the registered directives, in their order, that are consistent
with all its tags; its position is that of the first tag; and no first part of its tags decides for a
directive, while each finished directive, at any depth, was decided by its last tag and by no earlier
one. So it is in the forest that is read. An unterminated directive is reported, if not by the units
themselves, exactly when the innermost open directive is cut off, with the position of its first tag
and with the names of the directives that are consistent with its tags. -/
theorem narrowing_of_candidates (d : Dialect) (units : List (Except TemplateError Lex)) :
    (∀ read rest g, units = read.map .ok ++ rest → Growth.Reaches d ⟨[], []⟩ read g →
      g.units = read ∧ (∀ o ∈ g.stack, o.Narrowed d) ∧ Forest.Everywhere d.LockedIn g.nodes) ∧
    (∀ forest, ofUnits d units = .ok forest → forest.Everywhere d.LockedIn) ∧
    (∀ names position,
      ofUnits d units = .error (.parse (.unterminatedDirective names position)) ↔
        ∃ read rest g, units = read.map .ok ++ rest ∧ Growth.Reaches d ⟨[], []⟩ read g ∧
          ((∃ more, rest = .error (.parse (.unterminatedDirective names position)) :: more) ∨
            ∃ o outer, g.stack = o :: outer ∧ d.CutsOff o outer rest ∧
              names = (d.consistent (LexedTag.shapes o.tags)).map (·.directive.name) ∧
              o.tags.head?.map LexedTag.position = some position)) := by
  refine ⟨fun read rest g _ hr => hr.narrowed, fun forest => locked_of_ofUnits,
    fun names position => ?_⟩
  rw [ofUnits_eq_unterminated_iff]
  refine exists_congr fun read => exists_congr fun rest => exists_congr fun g =>
    and_congr_right fun _ => and_congr_right fun hr => or_congr_right ?_
  refine exists_congr fun o => exists_congr fun outer =>
    and_congr_right fun hg => and_congr_right fun _ => ?_
  exact ((hr.sound (Growth.sound_empty d)).outside hg).1.unterminated_eq_iff

set_option maxRecDepth 1000 in
/-- In the standard dialect the tag between the contents of a condition cuts off a loop in the first
of them, which is then the only candidate. -/
example :
    let units : List (Except TemplateError Lex) :=
      [.ok (.tag ⟨⟨[.keyword "IF", .expression, .keyword "THEN"]⟩,
          [.keyword "IF", .expression (.identifier "a"), .keyword "THEN"], 0⟩),
        .ok (.tag ⟨⟨[.keyword "REPEAT", .expression, .keyword "TIMES"]⟩,
          [.keyword "REPEAT", .expression (.identifier "n"), .keyword "TIMES"], 11⟩),
        .ok (.text "x" 27), .ok (.tag ⟨⟨[.keyword "ELSE"]⟩, [.keyword "ELSE"], 28⟩)]
    ∃ d, Dialect.standard = .ok d ∧
      ofUnits d units = .error (.parse (.unterminatedDirective ["Repeat"] 11)) :=
  ⟨_, rfl, rfl⟩

end Forest

end TagTemplate
