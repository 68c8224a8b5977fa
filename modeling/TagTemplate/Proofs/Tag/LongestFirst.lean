import TagTemplate.Proofs.Dialect.Registered
import TagTemplate.Proofs.Tag.Origins

/-!
# The longest symbol first

A run of symbols is split from the left, each time at the longest symbol that begins what is left.
At most one symbol of a given length begins a run, so whatever finds the longest symbols finds the
same ones. What is left is given as one last piece exactly where no symbol begins it.
-/

namespace TagTemplate

namespace OperatorTable

/-- A symbol of the table begins the run, and no longer one does. -/
structure IsLongestAt (t : OperatorTable) (run : List Char) (text : String) : Prop where
  /-- It is a symbol of an operator. -/
  registered : ∃ op ∈ t.operators, text ∈ symbolsOf op
  /-- The run begins with it. -/
  isPrefix : text.toList <+: run
  /-- Other symbols that begin the run are not longer. -/
  longest : ∀ op ∈ t.operators, ∀ s ∈ symbolsOf op, s.toList <+: run → s.length ≤ text.length

end OperatorTable

namespace TagPiece

variable {symbols : List String} {run : List Char} {x y : Option String}

/-- There is one longest symbol that begins a run, or none that begins it. -/
theorem IsLongest.unique (hx : IsLongest symbols run x) (hy : IsLongest symbols run y) : x = y := by
  cases x with
  | none =>
    cases y with
    | none => rfl
    | some b => exact absurd hy.2.1 (hx b hy.1)
  | some a =>
    cases y with
    | none => exact absurd hx.2.1 (hy a hx.1)
    | some b =>
      have hlength : a.toList.length = b.toList.length := by
        rw [String.length_toList, String.length_toList]
        exact Nat.le_antisymm (hy.2.2 a hx.1 hx.2.1) (hx.2.2 b hy.1 hy.2.1)
      have hsame := List.prefix_of_prefix_length_le hx.2.1 hy.2.1 hlength.le
      rw [String.toList_injective (hsame.eq_of_length hlength)]

/-- The search finds the longest symbol, and nothing else does. -/
theorem isLongest_iff : IsLongest symbols run x ↔ longestSymbol symbols run = x :=
  ⟨(isLongest_longestSymbol symbols run).unique, fun h => h ▸ isLongest_longestSymbol symbols run⟩

/-- The longest symbol at a run is the one that is found. -/
theorem isLongestAt_iff {t : OperatorTable} {text : String} :
    t.IsLongestAt run text ↔ longestSymbol t.symbols run = some text := by
  rw [← isLongest_iff]
  simp only [IsLongest, OperatorTable.mem_symbols_iff]
  constructor
  · rintro ⟨hmem, hbegins, hmax⟩
    refine ⟨hmem, hbegins, ?_⟩
    rintro s ⟨op, hop, hs⟩
    exact hmax op hop s hs
  · rintro ⟨hmem, hbegins, hmax⟩
    exact ⟨hmem, hbegins, fun op hop s hs => hmax s ⟨op, hop, hs⟩⟩

/-- No symbol begins a run exactly if none is found. -/
theorem forall_not_isPrefix_iff {t : OperatorTable} :
    (∀ op ∈ t.operators, ∀ s ∈ OperatorTable.symbolsOf op, ¬ s.toList <+: run) ↔
      longestSymbol t.symbols run = none := by
  rw [← isLongest_iff]
  simp only [IsLongest, OperatorTable.mem_symbols_iff]
  constructor
  · rintro h s ⟨op, hop, hs⟩
    exact h op hop s hs
  · intro h op hop s hs
    exact h s ⟨op, hop, hs⟩

/-- A piece of a split run is what is found at its place, or all that is left, where nothing is
found. -/
theorem longestSymbol_of_splitRun {earlier later : List String} {text : String}
    (h : splitRun symbols run = some (earlier ++ text :: later)) :
    longestSymbol symbols ((text :: later).flatMap String.toList) = some text ∨
      later = [] ∧ longestSymbol symbols text.toList = none := by
  induction earlier generalizing run with
  | nil =>
    have hrun : (text :: later).flatMap String.toList = run := flatMap_of_splitRun h
    rw [hrun]
    cases run with
    | nil => simp [splitRun] at h
    | cons c rest =>
      rw [splitRun_cons, Option.map_eq_some_iff] at h
      obtain ⟨pieces, hpieces, heq⟩ := h
      obtain ⟨htext, rfl⟩ := List.cons.inj heq
      cases hfound : longestSymbol symbols (c :: rest) with
      | none =>
        rw [afterRound, hfound, splitRun, Option.some.injEq] at hpieces
        rw [hfound, Option.getD_none] at htext
        refine .inr ⟨hpieces.symm, ?_⟩
        rw [← htext, String.toList_ofList, hfound]
      | some symbol =>
        rw [hfound, Option.getD_some] at htext
        exact .inl (congrArg some htext)
  | cons first earlier ih =>
    cases run with
    | nil => simp [splitRun] at h
    | cons c rest =>
      rw [splitRun_cons, Option.map_eq_some_iff] at h
      obtain ⟨pieces, hpieces, heq⟩ := h
      exact ih ((List.cons.inj heq).2 ▸ hpieces)

/-- The contents of placed symbols are the symbols. -/
theorem map_content_place (position : Nat) (pieces : List String) :
    (place position pieces).map content = pieces.map .symbol := by
  induction pieces generalizing position with
  | nil => rfl
  | cons piece pieces ih => exact congrArg _ (ih _)

/-- A placed symbol stands behind the bytes of those before it. -/
theorem getElem?_place (position : Nat) (earlier later : List String) (text : String) :
    (place position (earlier ++ text :: later))[earlier.length]? =
      some ⟨.symbol text, position + Text.byteLength (earlier.flatMap String.toList)⟩ := by
  induction earlier generalizing position with
  | nil => rfl
  | cons first earlier ih =>
    rw [List.flatMap_cons, Text.byteLength_append, Text.byteLength_toList, ← Nat.add_assoc]
    exact ih _

end TagPiece

/-- **A run of symbols is split at the longest ones.** If no symbol of a table is empty, every run
is split to its end, into pieces whose texts are the run, one behind the other, each of them where
it stands in the run. Every piece but the last is the longest symbol that begins what is left there;
the last one is so too, or else it is left whole, exactly where no symbol begins it. Whatever finds
the longest symbols finds the same as the search that splitting uses. -/
theorem OperatorTable.splits_longest_first (t : OperatorTable)
    (hsymbols : ∀ op ∈ t.operators, "" ∉ symbolsOf op) (d : Dialect) (run : String)
    (position : Nat) :
    let pieces := TagPiece.ofToken d t.symbols ⟨.symbol, run, position⟩
    (∃ texts, TagPiece.splitRun t.symbols run.toList = some texts ∧
      texts.flatMap String.toList = run.toList ∧
      pieces.map TagPiece.content = texts.map .symbol ∧
      ∀ earlier text later, texts = earlier ++ text :: later →
        pieces[earlier.length]? = some
          ⟨.symbol text, position + Text.byteLength (earlier.flatMap String.toList)⟩ ∧
        (later ≠ [] → t.IsLongestAt ((text :: later).flatMap String.toList) text) ∧
        (later = [] → (¬ t.IsLongestAt text.toList text ↔
          ∀ op ∈ t.operators, ∀ s ∈ symbolsOf op, ¬ s.toList <+: text.toList))) ∧
    ∀ find : List Char → Option String,
      (∀ run, TagPiece.IsLongest t.symbols run (find run)) →
        find = TagPiece.longestSymbol t.symbols := by
  intro pieces
  have hempty : "" ∉ t.symbols := by
    rw [mem_symbols_iff]
    rintro ⟨op, hop, hs⟩
    exact hsymbols op hop hs
  obtain ⟨texts, hsplit⟩ :=
    TagPiece.forall_exists_splitRun_iff.mpr (fun h => absurd h hempty) run.toList
  have hpieces : pieces = TagPiece.place position texts := by
    change TagPiece.place position ((TagPiece.splitRun t.symbols run.toList).getD []) = _
    rw [hsplit, Option.getD_some]
  refine ⟨⟨texts, hsplit, TagPiece.flatMap_of_splitRun hsplit, ?_, ?_⟩, fun find hfind => ?_⟩
  · rw [hpieces, TagPiece.map_content_place]
  · rintro earlier text later rfl
    have hfound := TagPiece.longestSymbol_of_splitRun hsplit
    refine ⟨by rw [hpieces, TagPiece.getElem?_place], fun hlater => ?_, ?_⟩
    · exact TagPiece.isLongestAt_iff.mpr (hfound.resolve_right fun h => hlater h.1)
    · rintro rfl
      rw [List.flatMap_singleton] at hfound
      rw [TagPiece.isLongestAt_iff, TagPiece.forall_not_isPrefix_iff]
      rcases hfound with hfound | ⟨-, hfound⟩ <;> simp [hfound]
  · exact funext fun run => (TagPiece.isLongest_iff.mp (hfind run)).symm

/-- The law at a run of two standard operators, of which the first begins with a third, and of a
character that begins none. -/
theorem OperatorTable.splits_longest_first_unknown :
    (∀ op ∈ standard.operators, "" ∉ symbolsOf op) ∧
    ∃ d, Dialect.standard = .ok d ∧
      let pieces := TagPiece.ofToken d standard.symbols ⟨.symbol, "<=-#", 3⟩
      pieces.map TagPiece.content = [.symbol "<=", .symbol "-", .symbol "#"] ∧
      pieces[1]? = some ⟨.symbol "-", 5⟩ ∧ standard.IsLongestAt ['<', '=', '-', '#'] "<=" ∧
      ¬ standard.IsLongestAt ['#'] "#" := by
  have hsymbols : ∀ op ∈ standard.operators, "" ∉ symbolsOf op := by decide
  have hsplit : TagPiece.splitRun standard.symbols "<=-#".toList = some ["<=", "-", "#"] := by
    decide +kernel
  obtain ⟨d, hd, -⟩ := Dialect.exists_standard_insensitive
  obtain ⟨⟨texts, htexts, -, hcontents, hparts⟩, -⟩ :=
    splits_longest_first standard hsymbols d "<=-#" 3
  obtain rfl : ["<=", "-", "#"] = texts := Option.some.inj (hsplit.symm.trans htexts)
  obtain ⟨-, hfirst, -⟩ := hparts [] "<=" ["-", "#"] rfl
  obtain ⟨hsecond, -, -⟩ := hparts ["<="] "-" ["#"] rfl
  obtain ⟨-, -, hlast⟩ := hparts ["<=", "-"] "#" [] rfl
  exact ⟨hsymbols, d, hd, hcontents, hsecond, hfirst (List.cons_ne_nil _ _),
    (hlast rfl).mpr (by decide)⟩

end TagTemplate
