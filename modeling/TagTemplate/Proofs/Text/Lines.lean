import TagTemplate.Proofs.Text.Words

/-!
# Lines with their ends

The lines of a text do not tell how they end. A row is a line together with its end, and a text is its
rows one behind the other. What stands on a row can be changed without a change to the others, as
long as it is one line, so the rows of a text are the places at which its lines are replaced.
-/

namespace TagTemplate.Text

/-- How a line ends. -/
inductive LineEnd where
  /-- With a line feed. -/
  | feed
  /-- With a carriage return and a line feed. -/
  | returnFeed
  /-- With the text. -/
  | textEnd
  deriving DecidableEq, Repr

/-- The characters that end a line. -/
def LineEnd.chars : LineEnd → List Char
  | feed => ['\n']
  | returnFeed => ['\r', '\n']
  | textEnd => []

/-- A line and its end. -/
structure Row where
  /-- The line. -/
  line : List Char
  /-- Its end. -/
  lineEnd : LineEnd
  deriving DecidableEq, Repr

/-- The characters of a row. -/
def Row.chars (row : Row) : List Char := row.line ++ row.lineEnd.chars

/-- Rows one behind the other. -/
def joined (rows : List Row) : List Char := rows.flatMap Row.chars

/-- The row that a piece before a line feed is. -/
def Row.ofPiece (piece : List Char) : Row :=
  if piece.getLast? = some '\r' then ⟨piece.dropLast, .returnFeed⟩ else ⟨piece, .feed⟩

/-- The rows of the pieces between line feeds. -/
def rowsOf : List (List Char) → List Row
  | [] => []
  | [last] => if last = [] then [] else [⟨last, .textEnd⟩]
  | piece :: rest => Row.ofPiece piece :: rowsOf rest

/-- The rows of a text. -/
def rows (cs : List Char) : List Row := rowsOf (piecesAt '\n' cs)

/-- Rows of which each is one line, and only the last ends with the text. -/
inductive AreRows : List Row → Prop
  /-- There are none. -/
  | nil : AreRows []
  /-- The last line ends with the text. -/
  | textEnd {line : List Char} (hf : '\n' ∉ line) : AreRows [⟨line, .textEnd⟩]
  /-- A line that ends with a line feed has no carriage return before it. -/
  | feed {line : List Char} {rest : List Row} (hf : '\n' ∉ line) (hr : line.getLast? ≠ some '\r')
      (h : AreRows rest) : AreRows (⟨line, .feed⟩ :: rest)
  /-- A line that ends with a carriage return and a line feed. -/
  | returnFeed {line : List Char} {rest : List Row} (hf : '\n' ∉ line) (h : AreRows rest) :
      AreRows (⟨line, .returnFeed⟩ :: rest)

variable {cs piece : List Char} {pieces : List (List Char)}

/-- The row of a piece has its characters and a line feed. -/
theorem Row.chars_ofPiece (piece : List Char) : (ofPiece piece).chars = piece ++ ['\n'] := by
  unfold ofPiece
  split
  · next h =>
    obtain ⟨line, rfl⟩ := List.getLast?_eq_some_iff.mp h
    simp [chars, LineEnd.chars]
  · rfl

/-- The rows of pieces are the pieces with line feeds between them. -/
theorem joined_rowsOf (pieces : List (List Char)) :
    joined (rowsOf pieces) = ['\n'].intercalate pieces := by
  fun_induction rowsOf pieces with
  | case1 => rfl
  | case2 => rfl
  | case3 last _ => simp [joined, Row.chars, LineEnd.chars]
  | case4 piece rest hne ih =>
    obtain ⟨next, rest, rfl⟩ := List.exists_cons_of_ne_nil fun he => hne he
    rw [joined, List.flatMap_cons, Row.chars_ofPiece, ← joined, ih]
    simp [List.intercalate]

/-- A text is its rows one behind the other. -/
theorem joined_rows (cs : List Char) : joined (rows cs) = cs := by
  rw [rows, joined_rowsOf, piecesAt_eq_splitOn, List.intercalate_splitOn]

theorem areRows_rowsOf (h : ∀ piece ∈ pieces, '\n' ∉ piece) : AreRows (rowsOf pieces) := by
  fun_induction rowsOf pieces with
  | case1 => exact .nil
  | case2 => exact .nil
  | case3 last _ => exact .textEnd (h last List.mem_cons_self)
  | case4 piece rest _ ih =>
    obtain ⟨hpiece, hrest⟩ := List.forall_mem_cons.mp h
    unfold Row.ofPiece
    split
    · exact .returnFeed (fun hm => hpiece (List.dropLast_subset piece hm)) (ih hrest)
    · next hr => exact .feed hpiece hr (ih hrest)

/-- The rows of a text are lines. -/
theorem areRows_rows (cs : List Char) : AreRows (rows cs) := by
  refine areRows_rowsOf fun piece hp hm => ?_
  rw [piecesAt_eq_splitOn, List.splitOn_eq_splitOnP] at hp
  exact absurd (not_of_mem_splitOnP hp '\n' hm) (by decide)

theorem pieces_ne_nil (cs : List Char) : piecesAt '\n' cs ≠ [] := by
  rw [piecesAt_eq_splitOn]
  exact List.splitOn_ne_nil _ _

/-- The first line is what stands before the first line feed. -/
theorem lines_append_feed (h : '\n' ∉ piece) (cs : List Char) :
    lines (piece ++ '\n' :: cs) = withoutReturn piece :: lines cs := by
  have hp : piecesAt '\n' (piece ++ '\n' :: cs) = piece :: piecesAt '\n' cs := by
    rw [piecesAt_eq_splitOn, piecesAt_eq_splitOn, List.splitOn_append_cons_self_of_not_mem h]
  obtain ⟨first, rest, hrest⟩ := List.exists_cons_of_ne_nil (pieces_ne_nil cs)
  unfold lines
  rw [hp, hrest]
  dsimp only
  rw [List.dropLast_cons_of_ne_nil (List.cons_ne_nil first rest), List.getLast?_cons_cons]
  cases (first :: rest).getLast? with
  | none => rfl
  | some last => cases last <;> rfl

/-- Without a line feed there is at most one line. -/
theorem lines_of_not_mem (h : '\n' ∉ cs) : lines cs = if cs = [] then [] else [cs] := by
  have hp : piecesAt '\n' cs = [cs] := by
    rw [piecesAt_eq_splitOn, List.splitOn_eq_singleton h]
  unfold lines
  rw [hp]
  cases cs <;> rfl

/-- The lines of rows are those on the rows, but for one that is empty and ends with the text. -/
theorem lines_joined {rows : List Row} (h : AreRows rows) :
    lines (joined rows) = (rows.filter fun row => row.chars ≠ []).map Row.line := by
  induction h with
  | nil => rfl
  | @textEnd line hf =>
    have hchars : joined [⟨line, .textEnd⟩] = line := by
      simp [joined, Row.chars, LineEnd.chars]
    rw [hchars, lines_of_not_mem hf]
    cases line <;> rfl
  | @feed line rest hf hr _ ih =>
    have hline : withoutReturn line = line := if_neg hr
    have hchars : joined (⟨line, .feed⟩ :: rest) = line ++ '\n' :: joined rest := by
      simp [joined, Row.chars, LineEnd.chars]
    rw [hchars, lines_append_feed hf, hline, ih]
    simp [Row.chars, LineEnd.chars]
  | @returnFeed line rest hf _ ih =>
    have hline : withoutReturn (line ++ ['\r']) = line := by
      simp [withoutReturn]
    have hchars : joined (⟨line, .returnFeed⟩ :: rest) =
        (line ++ ['\r']) ++ '\n' :: joined rest := by
      simp [joined, Row.chars, LineEnd.chars]
    have hfree : '\n' ∉ line ++ ['\r'] := by
      simpa using hf
    rw [hchars, lines_append_feed hfree, hline, ih]
    simp [Row.chars, LineEnd.chars]

/-- Lines that are free of line feeds and do not end with a carriage return are rows, if only the last
ends with the text. -/
theorem areRows_of_forall {rows : List Row}
    (hf : ∀ row ∈ rows, '\n' ∉ row.line ∧ row.line.getLast? ≠ some '\r')
    (he : ∀ row ∈ rows.dropLast, row.lineEnd ≠ .textEnd) : AreRows rows := by
  induction rows with
  | nil => exact .nil
  | cons row rows ih =>
    obtain ⟨line, lineEnd⟩ := row
    obtain ⟨⟨hfeed, hreturn⟩, hrest⟩ := List.forall_mem_cons.mp hf
    have hrows : AreRows rows := by
      refine ih hrest fun row hrow => ?_
      cases rows with
      | nil => cases hrow
      | cons next rows => exact he row (List.mem_cons_of_mem _ hrow)
    cases lineEnd with
    | feed => exact .feed hfeed hreturn hrows
    | returnFeed => exact .returnFeed hfeed hrows
    | textEnd =>
      cases rows with
      | nil => exact .textEnd hfeed
      | cons next rows => exact absurd rfl (he _ List.mem_cons_self)

/-- No row of a text is without characters. -/
theorem chars_ne_nil_of_mem_rowsOf {row : Row} (h : row ∈ rowsOf pieces) : row.chars ≠ [] := by
  fun_induction rowsOf pieces with
  | case1 => cases h
  | case2 => cases h
  | case3 last hne =>
    rw [List.mem_singleton.mp h]
    simpa [Row.chars] using fun he => absurd he hne
  | case4 piece rest _ ih =>
    rcases List.mem_cons.mp h with rfl | h
    · rw [Row.chars_ofPiece]
      simp
    · exact ih h

/-- The lines of a text are those on its rows. -/
theorem lines_eq_map_rows (cs : List Char) : lines cs = (rows cs).map Row.line := by
  have h := lines_joined (areRows_rows cs)
  rwa [joined_rows, List.filter_eq_self.mpr] at h
  intro row hrow
  exact decide_eq_true (chars_ne_nil_of_mem_rowsOf hrow)

/-- The row, with nothing on it. -/
def Row.emptied (row : Row) : Row := { row with line := [] }

/-- The text whose lines with these numbers, from one on, are empty. -/
def emptied (numbers : List Nat) (cs : List Char) : List Char :=
  joined (((rows cs).zipIdx 1).map fun (row, n) => if n ∈ numbers then row.emptied else row)

theorem AreRows.emptied {rows : List Row} (h : AreRows rows) (numbers : List Nat) (n : Nat) :
    AreRows ((rows.zipIdx n).map fun (row, n) => if n ∈ numbers then row.emptied else row) := by
  induction h generalizing n with
  | nil => exact .nil
  | textEnd hf =>
    rw [List.zipIdx_cons, List.map_cons]
    dsimp only
    split
    · exact .textEnd List.not_mem_nil
    · exact .textEnd hf
  | feed hf hr _ ih =>
    rw [List.zipIdx_cons, List.map_cons]
    dsimp only
    split
    · exact .feed List.not_mem_nil nofun (ih _)
    · exact .feed hf hr (ih _)
  | returnFeed hf _ ih =>
    rw [List.zipIdx_cons, List.map_cons]
    dsimp only
    split
    · exact .returnFeed List.not_mem_nil (ih _)
    · exact .returnFeed hf (ih _)

/-- Only the last of some rows may be without characters. -/
theorem AreRows.filter_chars {rows : List Row} (h : AreRows rows) :
    (rows.filter fun row => row.chars ≠ []) = rows ∨
      (rows.filter fun row => row.chars ≠ []) ++ [⟨[], .textEnd⟩] = rows := by
  induction h with
  | nil => exact .inl rfl
  | @textEnd line hf => cases line with
    | nil => exact .inr rfl
    | cons c cs => exact .inl rfl
  | feed _ _ _ ih | returnFeed _ _ ih =>
    rw [List.filter_cons_of_pos (by simp [Row.chars, LineEnd.chars]), List.cons_append,
      List.cons_inj_right, List.cons_inj_right]
    exact ih

/-- Emptying lines of a text leaves the others as they are, and an empty one for each of them, but
that an empty one at the end of the text is none. -/
theorem lines_emptied (numbers : List Nat) (cs : List Char) :
    let replaced := ((lines cs).zipIdx 1).map fun (line, n) => if n ∈ numbers then [] else line
    lines (emptied numbers cs) = replaced ∨ lines (emptied numbers cs) ++ [[]] = replaced := by
  intro replaced
  have hrows := (areRows_rows cs).emptied numbers 1
  have hlines : (((rows cs).zipIdx 1).map fun (row, n) =>
      if n ∈ numbers then row.emptied else row).map Row.line = replaced := by
    unfold replaced
    rw [lines_eq_map_rows, List.zipIdx_map, List.map_map, List.map_map]
    refine List.map_congr_left fun (row, n) _ => ?_
    dsimp only [Function.comp_apply, Prod.map_apply, id]
    split <;> rfl
  rw [emptied, lines_joined hrows, ← hlines]
  rcases hrows.filter_chars with h | h
  · exact .inl (by rw [h])
  · exact .inr (List.map_append.symm.trans (congrArg (List.map Row.line) h))

end TagTemplate.Text
