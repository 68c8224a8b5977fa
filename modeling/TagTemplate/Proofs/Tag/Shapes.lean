import Mathlib.Data.List.Lex
import Mathlib.Data.Prod.Basic
import TagTemplate.Proofs.Tag.Cuts
import TagTemplate.Proofs.Tag.Displaced
import TagTemplate.Proofs.Tag.Search

/-!
# The shape of a tag

Reading a tag is finding the first fit: that of the first shape that fits, with the longest runs at
the expressions from left to right. If no shape fits, the error is that of the first expression
whose longest possible run does not read as one. Shapes, the runs of an expression and the slots of
a shape are each tried in order, so each is a search that explores its fits and failures.
-/

namespace TagTemplate

namespace TagShape

variable {d : Dialect} {slot : TagSlot} {slots slots' : List TagSlot}
  {pieces pieces' : List TagPiece} {lengths : List Nat} {parts : List TagPart}

section Runs

variable {n : Nat} {e : Expr} {error : ExprError} {failure : Nat × ExprError}
  {fitRest : List TagPiece → Fitting (Option (List TagPart))}

theorem fitsAfter_iff_of_ok
    (hb : ExprBuilder.build d.operators ((pieces.take (n + 1)).map TagPiece.content) = .ok e) :
    FitsAfter d slots pieces n lengths parts ↔
      ∃ lengths₀ parts₀, Fits d slots (pieces.drop (n + 1)) lengths₀ parts₀ ∧
        lengths = (n + 1) :: lengths₀ ∧ parts = .expression e :: parts₀ := by
  constructor
  · rintro ⟨e', lengths₀, parts₀, hb', h⟩
    cases hb.symm.trans hb'
    exact ⟨lengths₀, parts₀, h⟩
  · rintro ⟨lengths₀, parts₀, h⟩
    exact ⟨e, lengths₀, parts₀, hb, h⟩

theorem failsAfter_iff_of_ok
    (hb : ExprBuilder.build d.operators ((pieces.take (n + 1)).map TagPiece.content) = .ok e) :
    FailsAfter d slots pieces n lengths failure ↔
      ∃ lengths₀, Fails d slots (pieces.drop (n + 1)) lengths₀ failure ∧
        lengths = (n + 1) :: lengths₀ := by
  constructor
  · rintro ⟨e', lengths₀, -, h⟩
    exact ⟨lengths₀, h⟩
  · rintro ⟨lengths₀, h⟩
    exact ⟨e, lengths₀, hb, h⟩

/-- A run that is no expression is not taken. -/
theorem not_fitsAfter_of_error
    (hb : ExprBuilder.build d.operators ((pieces.take (n + 1)).map TagPiece.content) =
      .error error) : ¬ FitsAfter d slots pieces n lengths parts := by
  rintro ⟨_, _, _, hok, -⟩
  cases hb.symm.trans hok

theorem not_failsAfter_of_error
    (hb : ExprBuilder.build d.operators ((pieces.take (n + 1)).map TagPiece.content) =
      .error error) : ¬ FailsAfter d slots pieces n lengths failure := by
  rintro ⟨_, _, hok, -⟩
  cases hb.symm.trans hok

/-- The longest run is misread exactly if it is no expression; the failure is where it begins. -/
theorem misreads_iff (hn : n + 1 = (longestRun d pieces).length) : Misreads d pieces failure ↔
    pieces.head?.map TagPiece.position = some failure.1 ∧
      ExprBuilder.build d.operators ((pieces.take (n + 1)).map TagPiece.content) =
        .error failure.2 := by
  rw [Misreads, ← take_length_longestRun, ← hn, List.head?_take, if_neg (Nat.succ_ne_zero n)]

/-- A run that is an expression is tried before the shorter ones. -/
theorem Explores.fitExpression_of_ok
    (hb : ExprBuilder.build d.operators ((pieces.take (n + 1)).map TagPiece.content) = .ok e)
    (hn : n + 1 ≤ (longestRun d pieces).length)
    (hrest : ∀ rest, Explores Sooner (Fits d slots rest) (Fails d slots rest) (fitRest rest))
    (hnext : Explores Sooner (FitsWithin d slots pieces n) (FailsWithin d slots pieces n)
      (fitExpression d.operators pieces (longestRun d pieces).length fitRest n)) :
    Explores Sooner (FitsWithin d slots pieces (n + 1)) (FailsWithin d slots pieces (n + 1))
      (fitExpression d.operators pieces (longestRun d pieces).length fitRest (n + 1)) := by
  have htaken : Explores Sooner _ _ _ :=
    (hrest (pieces.drop (n + 1))).map ((n + 1) :: ·) (.expression e :: ·) (fun _ _ => .cons) rfl
  refine (htaken.orElse hnext ?_ ?_ ?_).of_iff ?_ ?_
  · rintro _ _ _ _ ⟨_, _, -, rfl, -⟩ ⟨k, hk, _, _, _, -, -, rfl, -⟩
    exact .rel (Nat.succ_lt_succ hk)
  · rintro _ _ _ _ ⟨_, -, rfl⟩ (⟨-, hlongest, -⟩ | ⟨k, hk, _, _, -, -, rfl⟩)
    · omega
    · exact .rel (Nat.succ_lt_succ hk)
  · rw [TagShape.fitExpression_of_ok hb, bind_assoc]
    refine congrArg _ (funext fun found => ?_)
    cases found <;> rfl
  · intro lengths parts
    rw [FitsWithin, Nat.exists_lt_succ_right, or_comm, fitsAfter_iff_of_ok hb]
    rfl
  · intro lengths failure
    have hreads : ¬ (n + 1 = (longestRun d pieces).length ∧ Misreads d pieces failure) := by
      rintro ⟨hlongest, hm⟩
      cases hb.symm.trans ((misreads_iff hlongest).mp hm).2
    have hshorter : n ≠ (longestRun d pieces).length := by omega
    rw [FailsWithin, Nat.exists_lt_succ_right, failsAfter_iff_of_ok hb, FailsWithin]
    simp only [hreads, hshorter, and_false, false_and, false_or, or_comm]

/-- A run that is no expression is passed over; if it is the longest, that is noted. -/
theorem Explores.fitExpression_of_error
    (hb : ExprBuilder.build d.operators ((pieces.take (n + 1)).map TagPiece.content) =
      .error error)
    (hn : n + 1 ≤ (longestRun d pieces).length)
    (hnext : Explores Sooner (FitsWithin d slots pieces n) (FailsWithin d slots pieces n)
      (fitExpression d.operators pieces (longestRun d pieces).length fitRest n)) :
    Explores Sooner (FitsWithin d slots pieces (n + 1)) (FailsWithin d slots pieces (n + 1))
      (fitExpression d.operators pieces (longestRun d pieces).length fitRest (n + 1)) := by
  have hshorter : n ≠ (longestRun d pieces).length := by omega
  have hfits : ∀ lengths parts, FitsWithin d slots pieces (n + 1) lengths parts ↔
      FitsWithin d slots pieces n lengths parts := by
    intro lengths parts
    rw [FitsWithin, Nat.exists_lt_succ_right, or_iff_left (not_fitsAfter_of_error hb)]
    rfl
  have hfails : ∀ lengths failure, FailsWithin d slots pieces (n + 1) lengths failure ↔
      (lengths = [] ∧ n + 1 = (longestRun d pieces).length ∧ Misreads d pieces failure) ∨
        FailsWithin d slots pieces n lengths failure := by
    intro lengths failure
    rw [FailsWithin, Nat.exists_lt_succ_right, or_iff_left (not_failsAfter_of_error hb), FailsWithin]
    simp only [hshorter, false_and, and_false, false_or]
  rw [TagShape.fitExpression, hb]
  dsimp only
  by_cases hlongest : n + 1 = (longestRun d pieces).length
  · obtain ⟨first, rest, rfl⟩ : ∃ first rest, pieces = first :: rest := by
      refine List.exists_cons_of_length_pos (Nat.lt_of_lt_of_le n.succ_pos (hn.trans ?_))
      exact (longestRun_isPrefix d pieces).length_le
    rw [if_pos hlongest]
    refine (hnext.note_bind (i := []) ?_).of_iff hfits ?_
    · rintro _ _ (⟨-, hlast, -⟩ | ⟨k, -, _, _, -, -, rfl⟩)
      · exact absurd hlast hshorter
      · exact .nil
    · intro lengths failure
      have hhere : Misreads d (first :: rest) failure ↔ failure = (first.position, error) := by
        rw [misreads_iff hlongest, hb, Prod.ext_iff]
        simp [eq_comm]
      rw [hfails, hhere]
      simp only [hlongest, true_and]
  · rw [if_neg hlongest]
    refine hnext.of_iff hfits fun lengths failure => ?_
    rw [hfails]
    simp only [hlongest, false_and, and_false, false_or]

end Runs

/-- Trying the runs that an expression may take, from `n` pieces down to one, explores what comes
after one of them. -/
theorem explores_fitExpression {fitRest : List TagPiece → Fitting (Option (List TagPart))}
    (hrest : ∀ rest, Explores Sooner (Fits d slots rest) (Fails d slots rest) (fitRest rest))
    {n : Nat} (hn : n ≤ (longestRun d pieces).length) :
    Explores Sooner (FitsWithin d slots pieces n) (FailsWithin d slots pieces n)
      (fitExpression d.operators pieces (longestRun d pieces).length fitRest n) := by
  induction n with
  | zero =>
    refine .nothing ?_ ?_
    · rintro _ _ ⟨_, hk, -⟩
      exact absurd hk (Nat.not_lt_zero _)
    · rintro _ _ (⟨-, hlongest, hm⟩ | ⟨_, hk, -⟩)
      · rw [Misreads, List.eq_nil_of_length_eq_zero hlongest.symm] at hm
        cases hm.1
      · exact absurd hk (Nat.not_lt_zero _)
  | succ n ih =>
    have hnext := ih (Nat.le_of_succ_le hn)
    cases hb : ExprBuilder.build d.operators ((pieces.take (n + 1)).map TagPiece.content) with
    | ok e => exact .fitExpression_of_ok hb hn hrest hnext
    | error error => exact .fitExpression_of_error hb hn hnext

/-- A keyword or a name that takes the first piece leaves the rest to the other slots. -/
theorem Explores.take {piece : TagPiece} {rest : List TagPiece} {part : TagPart}
    {x z : Fitting (Option (List TagPart))} (hs : slot ≠ .expression)
    (ht : TagPart.Takes d slot [piece] part)
    (hx : Explores Sooner (Fits d slots rest) (Fails d slots rest) x)
    (hz : z = x >>= fun found => pure (found.map (part :: ·))) :
    Explores Sooner (Fits d (slot :: slots) (piece :: rest))
      (Fails d (slot :: slots) (piece :: rest)) z := by
  refine (hx.map (1 :: ·) (part :: ·) (fun _ _ => .cons) hz).of_iff ?_ ?_
  · intro lengths parts
    rw [fits_cons_iff]
    constructor
    · rintro ⟨run, rest', part', lengths₀, parts₀, hp, ht', hr, rfl, rfl⟩
      obtain ⟨rfl, rfl, rfl⟩ := eq_of_takes hs ht hp ht'
      exact ⟨lengths₀, parts₀, hr, rfl, rfl⟩
    · rintro ⟨lengths₀, parts₀, hr, rfl, rfl⟩
      exact ⟨[piece], rest, part, lengths₀, parts₀, rfl, ht, hr, rfl, rfl⟩
  · intro lengths failure
    rw [fails_cons_iff]
    constructor
    · rintro (⟨hexpr, -⟩ | ⟨run, rest', part', lengths₀, hp, ht', hr, rfl⟩)
      · exact absurd hexpr hs
      · obtain ⟨rfl, rfl, rfl⟩ := eq_of_takes hs ht hp ht'
        exact ⟨lengths₀, hr, rfl⟩
    · rintro ⟨lengths₀, hr, rfl⟩
      exact .inr ⟨[piece], rest, part, lengths₀, rfl, ht, hr, rfl⟩

/-- A keyword or a name that does not take the first piece ends the search. -/
theorem Explores.miss (hs : slot ≠ .expression)
    (ht : ∀ run rest part, pieces = run ++ rest → ¬ TagPart.Takes d slot run part) :
    Explores Sooner (Fits d (slot :: slots) pieces) (Fails d (slot :: slots) pieces)
      (pure none) := by
  refine .nothing ?_ ?_
  · intro lengths parts h
    obtain ⟨run, rest, part, _, _, hp, htake, -⟩ := fits_cons_iff.mp h
    exact ht run rest part hp htake
  · intro lengths failure h
    obtain ⟨hexpr, -⟩ | ⟨run, rest, part, _, hp, htake, -⟩ := fails_cons_iff.mp h
    · exact hs hexpr
    · exact ht run rest part hp htake

/-- **Filling slots explores their fits.** It finds the soonest of them, and if there is none, it
notes the soonest failure. -/
theorem explores_fit (d : Dialect) (slots : List TagSlot) (pieces : List TagPiece) :
    Explores Sooner (Fits d slots pieces) (Fails d slots pieces) (fit d slots pieces) := by
  induction slots generalizing pieces with
  | nil =>
    have hfails : ∀ lengths failure, ¬ Fails d [] pieces lengths failure := by
      rintro _ _ ⟨_, _, _, hc, -⟩
      cases hc
    cases pieces with
    | nil =>
      refine .found (i := []) fun lengths parts => ⟨fun h => ?_, ?_⟩
      · cases h
        exact ⟨rfl, rfl⟩
      · rintro ⟨rfl, rfl⟩
        exact .stop [] []
    | cons piece rest =>
      refine .nothing (fun lengths parts h => ?_) hfails
      cases h
  | cons slot slots ih =>
    cases slot with
    | keyword keyword =>
      unfold fit
      split
      · next word position rest =>
        split
        · next hw => exact .take nofun (.keyword hw) (ih rest) rfl
        · next hw =>
          refine .miss nofun fun run rest part hp ht => ?_
          cases ht
          cases hp
          contradiction
      · next hword =>
        refine .miss nofun fun run rest part hp ht => ?_
        cases ht
        exact hword _ _ _ hp
    | name =>
      unfold fit
      split
      · next word position rest =>
        split
        · next hw =>
          refine .miss nofun fun run rest part hp ht => ?_
          cases ht with
          | name hplain =>
            cases hp
            rw [hw] at hplain
            cases hplain
        · next hw => exact .take nofun (.name (by simpa using hw)) (ih rest) rfl
      · next hword =>
        refine .miss nofun fun run rest part hp ht => ?_
        cases ht
        exact hword _ _ _ hp
    | expression =>
      exact (explores_fitExpression ih (Nat.le_refl _)).of_iff
        (fun _ _ => fits_expression_iff) fun _ _ => fails_expression_iff

/-- The order in which cuts of several shapes are tried: shape after shape. A place is the number of
a shape with the lengths of runs. -/
abbrev Earlier : Nat × List Nat → Nat × List Nat → Prop := Prod.Lex (· < ·) Sooner

/-- The shape of this number takes all of the pieces, in runs of these lengths. -/
def FitsAt (d : Dialect) (shapes : List TagShape) (pieces : List TagPiece)
    (place : Nat × List Nat) (found : TagShape × List TagPart) : Prop :=
  shapes[place.1]? = some found.1 ∧ Fits d found.1.slots pieces place.2 found.2

/-- The shape of this number fails after runs of these lengths. -/
def FailsAt (d : Dialect) (shapes : List TagShape) (pieces : List TagPiece)
    (place : Nat × List Nat) (failure : Nat × ExprError) : Prop :=
  ∃ shape, shapes[place.1]? = some shape ∧ Fails d shape.slots pieces place.2 failure

section Shapes

variable {shape : TagShape} {shapes : List TagShape} {place : Nat × List Nat}

/-- The first shape fits, or one of the others. -/
theorem fitsAt_cons_iff {found : TagShape × List TagPart} :
    FitsAt d (shape :: shapes) pieces place found ↔
      (∃ lengths parts, Fits d shape.slots pieces lengths parts ∧ place = (0, lengths) ∧
        found = (shape, parts)) ∨
      ∃ place₀ found₀, FitsAt d shapes pieces place₀ found₀ ∧ place = (place₀.1 + 1, place₀.2) ∧
        found = found₀ := by
  obtain ⟨number, lengths⟩ := place
  obtain ⟨shape', parts⟩ := found
  cases number with
  | zero =>
    constructor
    · rintro ⟨hshape, hfits⟩
      cases hshape
      exact .inl ⟨lengths, parts, hfits, rfl, rfl⟩
    · rintro (⟨_, _, hfits, ⟨⟩, ⟨⟩⟩ | ⟨_, _, -, ⟨⟩, -⟩)
      exact ⟨rfl, hfits⟩
  | succ number => simp [FitsAt]

/-- The first shape fails, or one of the others. -/
theorem failsAt_cons_iff {failure : Nat × ExprError} :
    FailsAt d (shape :: shapes) pieces place failure ↔
      (∃ lengths, Fails d shape.slots pieces lengths failure ∧ place = (0, lengths)) ∨
      ∃ place₀, FailsAt d shapes pieces place₀ failure ∧ place = (place₀.1 + 1, place₀.2) := by
  obtain ⟨number, lengths⟩ := place
  cases number with
  | zero => simp [FailsAt]
  | succ number => simp [FailsAt]

end Shapes

/-- Trying shape after shape explores the fits of all of them. -/
theorem explores_fitFirst (d : Dialect) (pieces : List TagPiece) (shapes : List TagShape) :
    Explores Earlier (FitsAt d shapes pieces) (FailsAt d shapes pieces)
      (fitFirst d pieces shapes) := by
  induction shapes with
  | nil =>
    refine .nothing ?_ ?_
    · rintro _ _ ⟨hshape, -⟩
      cases hshape
    · rintro _ _ ⟨_, hshape, -⟩
      cases hshape
  | cons shape shapes ih =>
    have hhere : Explores Earlier _ _ _ :=
      (explores_fit d shape.slots pieces).map (0, ·) (shape, ·) (fun _ _ => .right 0) rfl
    have hshift : ∀ a b, Earlier a b → Earlier (a.1 + 1, a.2) (b.1 + 1, b.2) := by
      intro a b h
      cases h with
      | left _ _ hlt => exact .left _ _ (Nat.succ_lt_succ hlt)
      | right _ hs => exact .right _ hs
    have hlater : Explores Earlier _ _ _ :=
      ih.map (fun place => (place.1 + 1, place.2)) id hshift rfl
    refine (hhere.orElse hlater ?_ ?_ ?_).of_iff (fun _ _ => fitsAt_cons_iff)
      fun _ _ => failsAt_cons_iff
    · rintro _ _ _ _ ⟨_, _, -, rfl, -⟩ ⟨_, _, -, rfl, -⟩
      exact .left _ _ (Nat.succ_pos _)
    · rintro _ _ _ _ ⟨_, -, rfl⟩ ⟨_, -, rfl⟩
      exact .left _ _ (Nat.succ_pos _)
    · rw [fitFirst, bind_assoc]
      refine congrArg _ (funext fun found => ?_)
      cases found with
      | none => simp
      | some parts => rfl

end TagShape

/-- The pieces of a tag form the first fit of a shape, or none. -/
theorem LexedTag.ofPieces_eq (d : Dialect) (position : Nat) (pieces : List TagPiece) :
    (∃ shape parts, ofPieces d position pieces = .ok ⟨shape, parts, position⟩ ∧
      FirstOf TagShape.Earlier (TagShape.FitsAt d d.shapes pieces) (some (shape, parts))) ∨
    FirstOf TagShape.Earlier (TagShape.FitsAt d d.shapes pieces) none ∧
      ((∃ place error, ofPieces d position pieces = .error (.expression place error) ∧
        FirstOf TagShape.Earlier (TagShape.FailsAt d d.shapes pieces) (some (place, error))) ∨
      ofPieces d position pieces = .error (.parse (.unknownTag
          (" ".intercalate (pieces.map TagPiece.display)) position)) ∧
        FirstOf TagShape.Earlier (TagShape.FailsAt d d.shapes pieces) none) := by
  have hexplored := TagShape.explores_fitFirst d pieces d.shapes
  have hfinds := hexplored.finds none
  have hnotes := hexplored.notes none
  unfold ofPieces
  generalize (TagShape.fitFirst d pieces d.shapes).run none = result at hfinds hnotes ⊢
  obtain ⟨_ | ⟨shape, parts⟩, noted⟩ := result
  · obtain ⟨failure, hfirst, hnote⟩ := hnotes rfl
    rw [Option.none_or] at hnote
    obtain rfl : noted = failure := hnote
    refine .inr ⟨hfinds, ?_⟩
    cases noted with
    | none => exact .inr ⟨rfl, hfirst⟩
    | some noted => exact .inl ⟨noted.1, noted.2, rfl, hfirst⟩
  · exact .inl ⟨shape, parts, rfl, hfinds⟩

namespace Lex

variable {d : Dialect} {symbols : List String} {token : Token} {rest after : List Token}
  {pieces : List TagPiece}

theorem first_eq_of_interior (hk : token.kind = .tagStart)
    (hi : interior d symbols token.position rest = (.ok pieces, after)) :
    first d symbols token rest =
      ((LexedTag.ofPieces d token.position pieces).map .tag, after) := by
  unfold first
  rw [hk, hi]

theorem firstOf_fitsAt_none_iff : FirstOf TagShape.Earlier (TagShape.FitsAt d d.shapes pieces) none ↔
    ∀ shape ∈ d.shapes, ∀ lengths parts, ¬ TagShape.Fits d shape.slots pieces lengths parts := by
  constructor
  · intro h shape hs lengths parts hf
    obtain ⟨number, hn⟩ := List.getElem?_of_mem hs
    exact h (number, lengths) (shape, parts) ⟨hn, hf⟩
  · rintro h place found ⟨hs, hf⟩
    exact h found.1 (List.mem_of_getElem? hs) place.2 found.2 hf

theorem firstOf_failsAt_none_iff :
    FirstOf TagShape.Earlier (TagShape.FailsAt d d.shapes pieces) none ↔
      ∀ shape ∈ d.shapes, ∀ lengths failure,
        ¬ TagShape.Fails d shape.slots pieces lengths failure := by
  constructor
  · intro h shape hs lengths failure hf
    obtain ⟨number, hn⟩ := List.getElem?_of_mem hs
    exact h (number, lengths) failure ⟨shape, hn, hf⟩
  · rintro h place failure ⟨shape, hs, hf⟩
    exact h shape (List.mem_of_getElem? hs) place.2 failure hf

/-- **Reading a tag is finding the first fit.** A tag whose inside is cut into pieces is read
exactly if its pieces fit a shape of the dialect. What is read is the first fit: the first shape in
the order of registration, with the longest runs from left to right, and the parts that these runs
make. If no shape fits, the error is that of the first expression in the same order whose longest
run does not read as an expression; and if there is no such expression either, the tag is unknown. -/
theorem first_of_interior (hk : token.kind = .tagStart)
    (hi : interior d symbols token.position rest = (.ok pieces, after)) :
    ((∃ tag, first d symbols token rest = (.ok (.tag tag), after)) ↔
      ∃ shape ∈ d.shapes, ∃ lengths parts, TagShape.Fits d shape.slots pieces lengths parts) ∧
    (∀ tag, first d symbols token rest = (.ok (.tag tag), after) ↔
      tag.position = token.position ∧
        FirstOf TagShape.Earlier (TagShape.FitsAt d d.shapes pieces)
          (some (tag.shape, tag.parts))) ∧
    ((∀ shape ∈ d.shapes, ∀ lengths parts,
        ¬ TagShape.Fits d shape.slots pieces lengths parts) →
      (∃ place error, first d symbols token rest = (.error (.expression place error), after) ∧
        FirstOf TagShape.Earlier (TagShape.FailsAt d d.shapes pieces) (some (place, error))) ∨
      (first d symbols token rest = (.error (.parse (.unknownTag
          (" ".intercalate (pieces.map TagPiece.display)) token.position)), after) ∧
        ∀ shape ∈ d.shapes, ∀ lengths failure,
          ¬ TagShape.Fails d shape.slots pieces lengths failure)) := by
  rw [first_eq_of_interior hk hi, ← firstOf_fitsAt_none_iff, ← firstOf_failsAt_none_iff]
  obtain ⟨shape, parts, htag, hfits⟩ | ⟨hnone, herror⟩ := LexedTag.ofPieces_eq d token.position pieces
  · rw [htag]
    refine ⟨?_, fun tag => ⟨?_, ?_⟩, fun hnone => nomatch hnone.unique hfits⟩
    · obtain ⟨place, ⟨hshape, hfit⟩, -⟩ := hfits
      exact ⟨fun _ => ⟨shape, List.mem_of_getElem? hshape, place.2, parts, hfit⟩,
        fun _ => ⟨_, rfl⟩⟩
    · intro h
      cases h
      exact ⟨rfl, hfits⟩
    · rintro ⟨hposition, hfirst⟩
      obtain ⟨shape', parts', position⟩ := tag
      cases hposition
      cases hfirst.unique hfits
      rfl
  · have hfails : ∃ error, LexedTag.ofPieces d token.position pieces = .error error := by
      obtain ⟨place, error, h, -⟩ | ⟨h, -⟩ := herror <;> exact ⟨_, h⟩
    obtain ⟨error, herr⟩ := hfails
    have hnot : ∀ tag, ((LexedTag.ofPieces d token.position pieces).map Lex.tag, after) ≠
        (.ok (.tag tag), after) := by
      rw [herr]
      exact fun _ => nofun
    refine ⟨⟨fun ⟨t, h⟩ => absurd h (hnot t), ?_⟩, fun t => ⟨fun h => absurd h (hnot t), ?_⟩,
      fun _ => ?_⟩
    · rintro ⟨shape, hs, lengths, parts, hf⟩
      exact absurd hf (firstOf_fitsAt_none_iff.mp hnone shape hs lengths parts)
    · rintro ⟨-, hfirst⟩
      cases hnone.unique hfirst
    · obtain ⟨place, error, h, hfirst⟩ | ⟨h, hfirst⟩ := herror
      · exact .inl ⟨place, error, by rw [h]; rfl, hfirst⟩
      · exact .inr ⟨by rw [h]; rfl, hfirst⟩

/-- In the standard dialect the keyword in a text ends the expression before it, so the first fit is
the shape with two expressions. -/
theorem first_of_interior_conditional :
    ∃ (d : Dialect) (tokens : List Token) (pieces : List TagPiece) (t : LexedTag),
      Dialect.standard = .ok d ∧
      Token.tokenize d.delimiters "\x7bx if y\x7d" = .ok (⟨.tagStart, "\x7b", 0⟩ :: tokens) ∧
      interior d d.operators.symbols 0 tokens = (.ok pieces, []) ∧ t.shape.markup = "$ IF $" ∧
      FirstOf TagShape.Earlier (TagShape.FitsAt d d.shapes pieces) (some (t.shape, t.parts)) := by
  have hcheck : (Dialect.standard.toOption.any fun d =>
      (Token.tokenize d.delimiters "\x7bx if y\x7d").toOption.any fun tokens =>
        decide (tokens.head? = some ⟨.tagStart, "\x7b", 0⟩) &&
          decide ((interior d d.operators.symbols 0 tokens.tail).2 = []) &&
          (interior d d.operators.symbols 0 tokens.tail).1.toOption.any fun pieces =>
            (LexedTag.ofPieces d 0 pieces).toOption.any fun t =>
              decide (t.shape.markup = "$ IF $")) = true := by decide +kernel
  obtain ⟨d, hd, hread⟩ := exists_ok_of_any hcheck
  obtain ⟨tokens, htokens, hread⟩ := exists_ok_of_any hread
  simp only [Bool.and_eq_true, decide_eq_true_eq] at hread
  obtain ⟨⟨hhead, hafter⟩, hread⟩ := hread
  obtain ⟨tokens, rfl⟩ := List.head?_eq_some_iff.mp hhead
  obtain ⟨pieces, hpieces, hread⟩ := exists_ok_of_any hread
  obtain ⟨t, ht, hmarkup⟩ := exists_ok_of_any hread
  have hi : interior d d.operators.symbols 0 tokens = (.ok pieces, []) := Prod.ext hpieces hafter
  have hfirst : first d d.operators.symbols ⟨.tagStart, "\x7b", 0⟩ tokens = (.ok (.tag t), []) := by
    rw [first_eq_of_interior rfl hi, ht]
    rfl
  have hfits := ((first_of_interior rfl hi).2.1 t).mp hfirst
  exact ⟨d, tokens, pieces, t, hd, htokens, hi, of_decide_eq_true hmarkup, hfits.2⟩

end Lex

end TagTemplate
