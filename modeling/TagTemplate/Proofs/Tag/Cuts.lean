import TagTemplate.Lex

/-!
# Cuts of a tag

A shape fits the pieces of a tag if these can be cut into runs, one for each slot: a keyword takes
one word that is the same, a name one word that is no keyword, an expression a run of pieces that
holds no keyword and reads as an expression. A cut may also come to an expression whose longest
possible run does not read as one; that is a failure of the shape.
-/

namespace TagTemplate

/-- A slot takes a run of pieces, which make a part of the tag. -/
inductive TagPart.Takes (d : Dialect) : TagSlot → List TagPiece → TagPart → Prop
  /-- A keyword takes one word that is the same. -/
  | keyword {keyword word : String} {position : Nat}
      (hw : d.nameCase.same keyword word = true) :
      Takes d (.keyword keyword) [⟨.identifier word, position⟩] (.keyword word)
  /-- A name takes one word that is no keyword. -/
  | name {word : String} {position : Nat} (hw : d.isKeyword word = false) :
      Takes d .name [⟨.identifier word, position⟩] (.name word)
  /-- An expression takes pieces that read as one, among them no keyword. -/
  | expression {run : List TagPiece} {e : Expr} (hne : run ≠ [])
      (hk : ∀ piece ∈ run, piece.isKeyword d = false)
      (hb : ExprBuilder.build d.operators (run.map TagPiece.content) = .ok e) :
      Takes d .expression run (.expression e)

namespace TagShape

variable {d : Dialect} {slot : TagSlot} {slots slots' : List TagSlot}
  {pieces pieces' : List TagPiece} {lengths : List Nat} {parts : List TagPart}

/-- The first slots take runs of these lengths, which make these parts; slots and pieces are left
over. -/
inductive Cut (d : Dialect) : List TagSlot → List TagPiece → List Nat → List TagPart →
    List TagSlot → List TagPiece → Prop
  /-- The cut ends here. -/
  | stop (slots : List TagSlot) (pieces : List TagPiece) : Cut d slots pieces [] [] slots pieces
  /-- The first slot takes a run, the next ones what follows. -/
  | take {slot : TagSlot} {slots slots' : List TagSlot} {run rest pieces' : List TagPiece}
      {part : TagPart} {lengths : List Nat} {parts : List TagPart}
      (ht : TagPart.Takes d slot run part) (hr : Cut d slots rest lengths parts slots' pieces') :
      Cut d (slot :: slots) (run ++ rest) (run.length :: lengths) (part :: parts) slots' pieces'

/-- The slots take all of the pieces, in runs of these lengths. -/
def Fits (d : Dialect) (slots : List TagSlot) (pieces : List TagPiece) (lengths : List Nat)
    (parts : List TagPart) : Prop :=
  Cut d slots pieces lengths parts [] []

/-- The longest run that an expression could take: up to the next keyword, or to the end. -/
def longestRun (d : Dialect) (pieces : List TagPiece) : List TagPiece :=
  pieces.takeWhile fun piece => !piece.isKeyword d

/-- The longest run that an expression could take begins somewhere, and is no expression. -/
def Misreads (d : Dialect) (pieces : List TagPiece) (failure : Nat × ExprError) : Prop :=
  ((longestRun d pieces).head?.map TagPiece.position) = some failure.1 ∧
    ExprBuilder.build d.operators ((longestRun d pieces).map TagPiece.content) = .error failure.2

/-- After slots that take runs of these lengths, an expression misreads its longest run. -/
def Fails (d : Dialect) (slots : List TagSlot) (pieces : List TagPiece) (lengths : List Nat)
    (failure : Nat × ExprError) : Prop :=
  ∃ parts slots' pieces', Cut d slots pieces lengths parts (.expression :: slots') pieces' ∧
    Misreads d pieces' failure

/-- The order in which cuts of one shape are tried: where two first differ, the longer run comes
first, and a cut comes before those that go on from it. As keywords and names take one piece each,
the expressions decide. -/
abbrev Sooner : List Nat → List Nat → Prop := List.Lex (· > ·)

/-- The slots take all of the pieces if the first takes a run and the others what follows. -/
theorem fits_cons_iff : Fits d (slot :: slots) pieces lengths parts ↔
    ∃ run rest part lengths₀ parts₀, pieces = run ++ rest ∧ TagPart.Takes d slot run part ∧
      Fits d slots rest lengths₀ parts₀ ∧ lengths = run.length :: lengths₀ ∧
      parts = part :: parts₀ := by
  constructor
  · intro h
    cases h with
    | take ht hr => exact ⟨_, _, _, _, _, rfl, ht, hr, rfl, rfl⟩
  · rintro ⟨run, rest, part, lengths₀, parts₀, rfl, ht, hr, rfl, rfl⟩
    exact .take ht hr

/-- An expression fails in the first slot, or in a later one. -/
theorem fails_cons_iff {failure : Nat × ExprError} : Fails d (slot :: slots) pieces lengths failure ↔
    (slot = .expression ∧ lengths = [] ∧ Misreads d pieces failure) ∨
      ∃ run rest part lengths₀, pieces = run ++ rest ∧ TagPart.Takes d slot run part ∧
        Fails d slots rest lengths₀ failure ∧ lengths = run.length :: lengths₀ := by
  constructor
  · rintro ⟨parts, slots', pieces', hc, hm⟩
    cases hc with
    | stop => exact .inl ⟨rfl, rfl, hm⟩
    | take ht hr => exact .inr ⟨_, _, _, _, rfl, ht, ⟨_, _, _, hr, hm⟩, rfl⟩
  · rintro (⟨rfl, rfl, hm⟩ | ⟨run, rest, part, lengths₀, rfl, ht, ⟨_, _, _, hr, hm⟩, rfl⟩)
    · exact ⟨_, _, _, .stop _ _, hm⟩
    · exact ⟨_, _, _, .take ht hr, hm⟩

/-- The longest run is an initial one. -/
theorem longestRun_isPrefix (d : Dialect) (pieces : List TagPiece) : longestRun d pieces <+: pieces :=
  List.takeWhile_prefix _

theorem take_length_longestRun : pieces.take (longestRun d pieces).length = longestRun d pieces :=
  (List.prefix_iff_eq_take.mp (longestRun_isPrefix d pieces)).symm

/-- A run at the beginning holds no keyword exactly if it is not longer than the longest one. -/
theorem forall_mem_run_iff {run : List TagPiece} (rest : List TagPiece) :
    (∀ piece ∈ run, piece.isKeyword d = false) ↔
      run.length ≤ (longestRun d (run ++ rest)).length := by
  constructor
  · intro hk
    rw [longestRun, List.takeWhile_append_of_pos (by simpa using hk), List.length_append]
    exact Nat.le_add_right _ _
  · intro hl piece hp
    have hinitial : run <+: longestRun d (run ++ rest) :=
      List.prefix_of_prefix_length_le (List.prefix_append run rest)
        (longestRun_isPrefix d _) hl
    simpa using List.all_eq_true.mp List.all_takeWhile piece (hinitial.subset hp)

/-- What an expression takes is an initial run of at least one piece, not longer than the longest
one, that reads as an expression. -/
theorem takes_expression_iff {run rest : List TagPiece} {part : TagPart} :
    pieces = run ++ rest ∧ TagPart.Takes d .expression run part ↔
      ∃ n e, n < (longestRun d pieces).length ∧
        ExprBuilder.build d.operators ((pieces.take (n + 1)).map TagPiece.content) = .ok e ∧
        run = pieces.take (n + 1) ∧ rest = pieces.drop (n + 1) ∧ part = .expression e := by
  constructor
  · rintro ⟨rfl, ht⟩
    cases ht with
    | @expression _ e hne hk hb =>
      obtain ⟨piece, others, rfl⟩ := List.exists_cons_of_ne_nil hne
      have hl := (forall_mem_run_iff rest).mp hk
      exact ⟨others.length, e, hl, by simpa using hb, by simp, by simp, rfl⟩
  · rintro ⟨n, e, hn, hb, rfl, rfl, rfl⟩
    have hsplit := List.take_append_drop (n + 1) pieces
    have hlength := (longestRun_isPrefix d pieces).length_le
    refine ⟨hsplit.symm, .expression ?_ ?_ hb⟩
    · intro hnil
      have := congrArg List.length hnil
      rw [List.length_take, List.length_nil] at this
      omega
    · rw [forall_mem_run_iff (pieces.drop (n + 1)), hsplit, List.length_take]
      omega

/-- An expression takes the first `n + 1` pieces, and the other slots all that follow. -/
def FitsAfter (d : Dialect) (slots : List TagSlot) (pieces : List TagPiece) (n : Nat)
    (lengths : List Nat) (parts : List TagPart) : Prop :=
  ∃ e lengths₀ parts₀,
    ExprBuilder.build d.operators ((pieces.take (n + 1)).map TagPiece.content) = .ok e ∧
      Fits d slots (pieces.drop (n + 1)) lengths₀ parts₀ ∧ lengths = (n + 1) :: lengths₀ ∧
      parts = .expression e :: parts₀

/-- An expression takes the first `n + 1` pieces, and one of the other slots fails. -/
def FailsAfter (d : Dialect) (slots : List TagSlot) (pieces : List TagPiece) (n : Nat)
    (lengths : List Nat) (failure : Nat × ExprError) : Prop :=
  ∃ e lengths₀,
    ExprBuilder.build d.operators ((pieces.take (n + 1)).map TagPiece.content) = .ok e ∧
      Fails d slots (pieces.drop (n + 1)) lengths₀ failure ∧ lengths = (n + 1) :: lengths₀

/-- An expression takes one of the first `n` runs, and the other slots all that follows. -/
def FitsWithin (d : Dialect) (slots : List TagSlot) (pieces : List TagPiece) (n : Nat)
    (lengths : List Nat) (parts : List TagPart) : Prop :=
  ∃ k < n, FitsAfter d slots pieces k lengths parts

/-- An expression takes one of the first `n` runs, and one of the other slots fails; or it misreads
the longest run, if that is the last of the `n`. -/
def FailsWithin (d : Dialect) (slots : List TagSlot) (pieces : List TagPiece) (n : Nat)
    (lengths : List Nat) (failure : Nat × ExprError) : Prop :=
  (lengths = [] ∧ n = (longestRun d pieces).length ∧ Misreads d pieces failure) ∨
    ∃ k < n, FailsAfter d slots pieces k lengths failure

/-- The slots fit if the expression takes a run that is not longer than the longest. -/
theorem fits_expression_iff : Fits d (.expression :: slots) pieces lengths parts ↔
    FitsWithin d slots pieces (longestRun d pieces).length lengths parts := by
  rw [fits_cons_iff]
  constructor
  · rintro ⟨run, rest, part, lengths₀, parts₀, hp, ht, hr, rfl, rfl⟩
    obtain ⟨n, e, hn, hb, rfl, rfl, rfl⟩ := takes_expression_iff.mp ⟨hp, ht⟩
    have hlength := (longestRun_isPrefix d pieces).length_le
    refine ⟨n, hn, e, lengths₀, parts₀, hb, hr, ?_, rfl⟩
    rw [List.length_take, Nat.min_eq_left (by omega)]
  · rintro ⟨n, hn, e, lengths₀, parts₀, hb, hr, rfl, rfl⟩
    obtain ⟨hp, ht⟩ := takes_expression_iff.mpr ⟨n, e, hn, hb, rfl, rfl, rfl⟩
    have hlength := (longestRun_isPrefix d pieces).length_le
    refine ⟨_, _, _, lengths₀, parts₀, hp, ht, hr, ?_, rfl⟩
    rw [List.length_take, Nat.min_eq_left (by omega)]

/-- The slots fail if the expression misreads the longest run, or takes a run before a failure. -/
theorem fails_expression_iff {failure : Nat × ExprError} :
    Fails d (.expression :: slots) pieces lengths failure ↔
      FailsWithin d slots pieces (longestRun d pieces).length lengths failure := by
  rw [fails_cons_iff]
  refine or_congr (by simp) ⟨?_, ?_⟩
  · rintro ⟨run, rest, part, lengths₀, hp, ht, hr, rfl⟩
    obtain ⟨n, e, hn, hb, rfl, rfl, rfl⟩ := takes_expression_iff.mp ⟨hp, ht⟩
    have hlength := (longestRun_isPrefix d pieces).length_le
    refine ⟨n, hn, e, lengths₀, hb, hr, ?_⟩
    rw [List.length_take, Nat.min_eq_left (by omega)]
  · rintro ⟨n, hn, e, lengths₀, hb, hr, rfl⟩
    obtain ⟨hp, ht⟩ := takes_expression_iff.mpr ⟨n, e, hn, hb, rfl, rfl, rfl⟩
    have hlength := (longestRun_isPrefix d pieces).length_le
    refine ⟨_, _, _, lengths₀, hp, ht, hr, ?_⟩
    rw [List.length_take, Nat.min_eq_left (by omega)]

/-- A keyword or a name takes the first piece, and nothing else. -/
theorem eq_of_takes {piece : TagPiece} {rest run rest' : List TagPiece} {part part' : TagPart}
    (hs : slot ≠ .expression) (ht : TagPart.Takes d slot [piece] part)
    (hp : piece :: rest = run ++ rest') (ht' : TagPart.Takes d slot run part') :
    run = [piece] ∧ rest' = rest ∧ part' = part := by
  cases ht' with
  | keyword hw' =>
    cases hp
    cases ht
    exact ⟨rfl, rfl, rfl⟩
  | name hw' =>
    cases hp
    cases ht
    exact ⟨rfl, rfl, rfl⟩
  | expression => exact absurd rfl hs

end TagShape

end TagTemplate
