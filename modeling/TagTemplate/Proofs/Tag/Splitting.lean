import Mathlib.Logic.Function.Iterate
import TagTemplate.Proofs.Token.Structure

/-!
# Splitting runs of symbols

A run is split in rounds. A round cuts off the longest symbol that begins the run, or all of the run
where no symbol begins it. Every round takes at least one character unless only the empty symbol
begins the run; that round leaves the run as it was and is the last thing that happens. So a run is
split to its end exactly if no round comes to such a place. No dialect without an empty symbol has
one, but an operator may be registered under the empty symbol, and then every character that is no
symbol by itself is a run without an end.
-/

namespace TagTemplate

namespace OperatorTable

variable {s symbol : String} {symbols : List String}

/-- Putting a symbol into a list adds that symbol and no other. -/
theorem mem_insertSymbol_iff : s ∈ insertSymbol symbol symbols ↔ s = symbol ∨ s ∈ symbols := by
  induction symbols with
  | nil => simp [insertSymbol]
  | cons first rest ih =>
    unfold insertSymbol
    split
    · simp
    · split
      · next hequal => simp [hequal]
      · simp [ih, or_left_comm]

/-- The symbols of a table are those of its operators. -/
theorem mem_symbols_iff {t : OperatorTable} :
    s ∈ t.symbols ↔ ∃ op ∈ t.operators, s ∈ symbolsOf op := by
  have hfold (all : List String) : s ∈ all.foldr insertSymbol [] ↔ s ∈ all := by
    induction all with
    | nil => simp
    | cons first rest ih => simp [mem_insertSymbol_iff, ih]
  rw [symbols, hfold, List.mem_flatMap]

end OperatorTable

namespace TagPiece

variable {symbols : List String} {run rest : List Char} {c : Char}

/-- What is found is the longest of the symbols that begin the run; nothing is found only if none
begins it. -/
def IsLongest (symbols : List String) (run : List Char) : Option String → Prop
  | none => ∀ s ∈ symbols, ¬ s.toList <+: run
  | some longest => longest ∈ symbols ∧ longest.toList <+: run ∧
      ∀ s ∈ symbols, s.toList <+: run → s.length ≤ longest.length

/-- What is found when one more symbol is looked at. -/
def longer (run : List Char) (best : Option String) (symbol : String) : Option String :=
  if symbol.toList.isPrefixOf run &&
      (match best with
        | none => true
        | some b => decide (b.length < symbol.length))
  then some symbol else best

/-- A symbol is taken if it begins the run and what was found is shorter. -/
theorem longer_eq (run : List Char) (best : Option String) (symbol : String) :
    longer run best symbol =
      if symbol.toList <+: run ∧ ∀ b ∈ best, b.length < symbol.length then some symbol
      else best := by
  cases best <;> simp [longer]

/-- Looking at one more symbol finds the longest of all that were looked at. -/
theorem IsLongest.longer {best : Option String} (h : IsLongest symbols run best)
    (symbol : String) : IsLongest (symbols ++ [symbol]) run (longer run best symbol) := by
  have hlast {P : String → Prop} (hmem : ∀ s ∈ symbols, P s) (hsymbol : P symbol) :
      ∀ s ∈ symbols ++ [symbol], P s := by
    simpa [or_imp, forall_and] using ⟨hmem, hsymbol⟩
  rw [longer_eq]
  by_cases hnew : symbol.toList <+: run ∧ ∀ b ∈ best, b.length < symbol.length
  · rw [if_pos hnew]
    refine ⟨List.mem_concat_self, hnew.1, hlast (fun s hs hfront => ?_) fun _ => Nat.le_refl _⟩
    cases best with
    | none => exact absurd hfront (h s hs)
    | some longest => exact Nat.le_of_lt (Nat.lt_of_le_of_lt (h.2.2 s hs hfront) (hnew.2 _ rfl))
  · rw [if_neg hnew]
    cases best with
    | none => exact hlast h fun hfront => hnew ⟨hfront, nofun⟩
    | some longest =>
      obtain ⟨hmem, hlongest, hmax⟩ := h
      refine ⟨List.mem_append_left _ hmem, hlongest, hlast hmax fun hfront => ?_⟩
      refine Nat.not_lt.mp fun hlt => hnew ⟨hfront, fun b hb => ?_⟩
      rwa [← Option.mem_some.mp hb]

/-- The search for the longest symbol finds it. -/
theorem isLongest_longestSymbol (symbols : List String) (run : List Char) :
    IsLongest symbols run (longestSymbol symbols run) := by
  have hsearch (earlier later : List String) (best : Option String)
      (h : IsLongest earlier run best) :
      IsLongest (earlier ++ later) run (later.foldl (longer run) best) := by
    induction later generalizing earlier best with
    | nil => rwa [List.append_nil]
    | cons symbol later ih =>
      rw [List.append_cons]
      exact ih _ _ (h.longer symbol)
  exact hsearch [] symbols none nofun

/-- The empty symbol is the longest that begins a run if it is a symbol and no other begins it. -/
theorem longestSymbol_eq_empty_iff :
    longestSymbol symbols run = some "" ↔
      "" ∈ symbols ∧ ∀ s ∈ symbols, s.toList <+: run → s = "" := by
  have hlongest := isLongest_longestSymbol symbols run
  cases hfound : longestSymbol symbols run with
  | none =>
    rw [hfound] at hlongest
    have hempty : "" ∉ symbols := fun hmem => hlongest "" hmem List.nil_prefix
    simp [hempty]
  | some longest =>
    rw [hfound] at hlongest
    obtain ⟨hmem, hbegins, hmax⟩ := hlongest
    rw [Option.some.injEq]
    constructor
    · rintro rfl
      refine ⟨hmem, fun s hs hfront => ?_⟩
      exact String.length_eq_zero_iff.mp (Nat.le_zero.mp (hmax s hs hfront))
    · rintro ⟨-, honly⟩
      exact honly longest hmem hbegins

/-- What a round of splitting leaves of a run. -/
def afterRound (symbols : List String) (run : List Char) : List Char :=
  match longestSymbol symbols run with
  | some symbol => run.drop symbol.length
  | none => []

/-- A round that cuts off the empty symbol is the last thing that happens. -/
theorem sameRound_eq_none (run : List Char) : sameRound run = none := by
  cases hresult : sameRound run with
  | none => rfl
  | some pieces =>
    have habsurd := sameRound.partial_correctness run (fun _ => False)
      (fun _ ih pieces hpieces => ih pieces hpieces) pieces hresult
    exact habsurd.elim

/-- Splitting is a round and the splitting of what it leaves. -/
theorem splitRun_cons (symbols : List String) (c : Char) (rest : List Char) :
    splitRun symbols (c :: rest) =
      (splitRun symbols (afterRound symbols (c :: rest))).map
        ((longestSymbol symbols (c :: rest)).getD (String.ofList (c :: rest)) :: ·) := by
  rw [splitRun, afterRound]
  cases hfound : longestSymbol symbols (c :: rest) with
  | none =>
    dsimp only
    rw [splitRun]
    rfl
  | some symbol =>
    dsimp only
    by_cases hempty : symbol = ""
    · rw [if_pos hempty, sameRound_eq_none, hempty, String.length_empty, List.drop_zero, splitRun,
        hfound]
      dsimp only
      rw [if_pos hempty, sameRound_eq_none]
      rfl
    · have hlength : 0 < symbol.length :=
        Nat.pos_of_ne_zero fun hzero => hempty (String.length_eq_zero_iff.mp hzero)
      obtain ⟨n, hn⟩ := Nat.exists_eq_add_one.mpr hlength
      rw [if_neg hempty, hn, List.drop_succ_cons, Nat.add_sub_cancel]
      rfl

/-- A round takes something of a run unless it cuts off the empty symbol. -/
theorem length_afterRound_lt_iff :
    (afterRound symbols (c :: rest)).length < (c :: rest).length ↔
      longestSymbol symbols (c :: rest) ≠ some "" := by
  unfold afterRound
  cases longestSymbol symbols (c :: rest) with
  | none => simp
  | some symbol =>
    rw [List.length_drop, ne_eq, Option.some.injEq, ← String.length_eq_zero_iff, List.length_cons]
    omega

/-- After a round that cuts off the empty symbol the run is as it was. -/
theorem afterRound_eq_self (h : longestSymbol symbols run = some "") :
    afterRound symbols run = run := by
  rw [afterRound, h]
  rfl

/-- Nothing is left of nothing. -/
theorem afterRound_nil (symbols : List String) : afterRound symbols [] = [] := by
  unfold afterRound
  cases longestSymbol symbols [] with
  | none => rfl
  | some symbol => exact List.drop_nil

/-- A run is split to its end exactly if some number of rounds leaves nothing of it. -/
theorem exists_splitRun_iff :
    (∃ pieces, splitRun symbols run = some pieces) ↔ ∃ n, (afterRound symbols)^[n] run = [] := by
  constructor
  · rintro ⟨pieces, hsplit⟩
    refine ⟨pieces.length, ?_⟩
    induction pieces generalizing run with
    | nil =>
      cases run with
      | nil => rfl
      | cons c rest => simp [splitRun_cons] at hsplit
    | cons piece pieces ih =>
      cases run with
      | nil => simp [splitRun] at hsplit
      | cons c rest =>
        rw [splitRun_cons, Option.map_eq_some_iff] at hsplit
        obtain ⟨later, hlater, hpieces⟩ := hsplit
        rw [← (List.cons.inj hpieces).2] at ih ⊢
        exact ih hlater
  · rintro ⟨n, hend⟩
    induction n generalizing run with
    | zero =>
      obtain rfl : run = [] := hend
      exact ⟨[], by rw [splitRun]⟩
    | succ n ih =>
      cases run with
      | nil => exact ⟨[], by rw [splitRun]⟩
      | cons c rest =>
        obtain ⟨later, hlater⟩ := ih hend
        rw [splitRun_cons, hlater]
        exact ⟨_, rfl⟩

/-- The pieces of a run that is split to its end are the run, one behind the other. -/
theorem flatMap_of_splitRun {pieces : List String} (h : splitRun symbols run = some pieces) :
    pieces.flatMap String.toList = run := by
  induction pieces generalizing run with
  | nil =>
    cases run with
    | nil => rfl
    | cons c rest => simp [splitRun_cons] at h
  | cons piece pieces ih =>
    cases run with
    | nil => simp [splitRun] at h
    | cons c rest =>
      rw [splitRun_cons, Option.map_eq_some_iff] at h
      obtain ⟨later, hlater, hpieces⟩ := h
      obtain ⟨rfl, rfl⟩ := List.cons.inj hpieces
      have hfound := isLongest_longestSymbol symbols (c :: rest)
      rw [List.flatMap_cons, ih hlater, afterRound]
      cases hlongest : longestSymbol symbols (c :: rest) with
      | none => simp
      | some longest =>
        rw [hlongest] at hfound
        exact (List.prefix_append_drop hfound.2.1).symm

/-- No piece of a run that is split to its end is empty. -/
theorem ne_empty_of_splitRun {pieces : List String} (h : splitRun symbols run = some pieces) :
    ∀ piece ∈ pieces, piece ≠ "" := by
  fun_induction splitRun symbols run generalizing pieces with
  | case1 =>
    cases h
    exact List.forall_mem_nil _
  | case2 c rest hnone =>
    cases h
    simp
  | case3 c rest hfound =>
    rw [sameRound_eq_none] at h
    cases h
  | case4 c rest symbol hfound hempty ih =>
    obtain ⟨later, hlater, rfl⟩ := Option.map_eq_some_iff.mp h
    exact List.forall_mem_cons.mpr ⟨hempty, ih hlater⟩

/-- A run of which every round takes something is split to its end. -/
theorem exists_splitRun_of_lt (h : ∀ n c rest, (afterRound symbols)^[n] run = c :: rest →
      (afterRound symbols (c :: rest)).length < (c :: rest).length) :
    ∃ pieces, splitRun symbols run = some pieces := by
  -- By induction on the length of the run, as the first round leaves a shorter one.
  induction hlength : run.length using Nat.strongRecOn generalizing run with
  | ind length ih =>
    cases run with
    | nil => exact ⟨[], by rw [splitRun]⟩
    | cons c rest =>
      have hfirst := h 0 c rest rfl
      obtain ⟨later, hlater⟩ := ih _ (hlength ▸ hfirst) (fun n => h (n + 1)) rfl
      rw [splitRun_cons, hlater]
      exact ⟨_, rfl⟩

/-- A run is split to its end exactly if every round on the way takes something. -/
theorem exists_splitRun_iff_lt :
    (∃ pieces, splitRun symbols run = some pieces) ↔
      ∀ n c rest, (afterRound symbols)^[n] run = c :: rest →
        (afterRound symbols (c :: rest)).length < (c :: rest).length := by
  refine ⟨fun hsplit n c rest hround => ?_, exists_splitRun_of_lt⟩
  obtain ⟨m, hend⟩ := exists_splitRun_iff.mp hsplit
  rw [length_afterRound_lt_iff]
  intro hempty
  -- From a place that is not left, no further round leads to the end, and the end is not left.
  have hstay : (afterRound symbols)^[m] (c :: rest) = c :: rest :=
    Function.iterate_fixed (afterRound_eq_self hempty) m
  have hstop : (afterRound symbols)^[n] [] = [] :=
    Function.iterate_fixed (afterRound_nil symbols) n
  have hboth : (afterRound symbols)^[m + n] run = (afterRound symbols)^[n + m] run := by
    rw [Nat.add_comm]
  rw [Function.iterate_add_apply, Function.iterate_add_apply, hround, hend, hstay, hstop] at hboth
  cases hboth

/-- A character that is a symbol by itself is taken by every round that comes to it. -/
theorem longestSymbol_ne_empty_of_mem (h : String.ofList [c] ∈ symbols) :
    longestSymbol symbols (c :: rest) ≠ some "" := by
  rw [ne_eq, longestSymbol_eq_empty_iff]
  rintro ⟨-, honly⟩
  have hempty := honly _ h (by simp)
  simp at hempty

/-- A character that is no symbol by itself is not taken where the empty symbol is one. -/
theorem longestSymbol_singleton (hempty : "" ∈ symbols) (h : String.ofList [c] ∉ symbols) :
    longestSymbol symbols [c] = some "" := by
  rw [longestSymbol_eq_empty_iff]
  refine ⟨hempty, fun s hs hfront => ?_⟩
  rcases List.prefix_cons_iff.mp hfront with hs' | ⟨t, hs', ht⟩
  · exact String.toList_eq_nil_iff.mp hs'
  · rw [List.prefix_nil.mp ht] at hs'
    rw [← hs', String.ofList_toList] at h
    exact absurd hs h

/-- Every run is split to its end exactly if the empty symbol is none or every character is one. -/
theorem forall_exists_splitRun_iff :
    (∀ run, ∃ pieces, splitRun symbols run = some pieces) ↔
      ("" ∈ symbols → ∀ c, String.ofList [c] ∈ symbols) := by
  constructor
  · intro hall hempty c
    by_contra hsymbol
    have hlt := exists_splitRun_iff_lt.mp (hall [c]) 0 c [] rfl
    exact length_afterRound_lt_iff.mp hlt (longestSymbol_singleton hempty hsymbol)
  · intro hsymbols run
    refine exists_splitRun_of_lt fun n c rest _ => length_afterRound_lt_iff.mpr ?_
    by_cases hempty : "" ∈ symbols
    · exact longestSymbol_ne_empty_of_mem (hsymbols hempty c)
    · exact fun hfound => hempty (longestSymbol_eq_empty_iff.mp hfound).1

end TagPiece

namespace Lex

/-- The runs of symbols up to the end of a tag, or up to what does not belong into one. -/
def runs (tokens : List Token) : List (List Char) :=
  ((tokens.takeWhile fun token => decide (token.kind ∈ TokenKind.parts)).filter
    fun token => decide (token.kind = .symbol)).map fun token => token.text.toList

/-- The reading of tokens comes to an end: every run of symbols in a tag is split to its end, and
the reading of what is left after each unit comes to an end. -/
inductive Ends (d : Dialect) : List Token → Prop
  /-- Nothing is left. -/
  | nil : Ends d []
  /-- The first unit, and what is left after it. -/
  | cons {token : Token} {rest : List Token}
      (hruns : token.kind = .tagStart → ∀ run ∈ runs rest,
        ∃ pieces, TagPiece.splitRun d.operators.symbols run = some pieces)
      (hrest : Ends d (first d d.operators.symbols token rest).2) : Ends d (token :: rest)

/-- The reading of all tokens comes to an end exactly if all runs are split to their ends. -/
theorem forall_ends_iff {d : Dialect} :
    (∀ tokens, Ends d tokens) ↔
      ∀ run, ∃ pieces, TagPiece.splitRun d.operators.symbols run = some pieces := by
  constructor
  · intro hends run
    have hopened := hends [⟨.tagStart, "", 0⟩, ⟨.symbol, String.ofList run, 0⟩]
    cases hopened with
    | cons hruns _ =>
      refine hruns rfl run ?_
      simp [runs, TokenKind.parts]
  · intro hruns tokens
    -- By induction on the number of tokens, as what is left after a unit is less.
    induction hlength : tokens.length using Nat.strongRecOn generalizing tokens with
    | ind length ih =>
      cases tokens with
      | nil => exact .nil
      | cons token rest =>
        have hless := length_first_le d d.operators.symbols token rest
        refine .cons (fun _ run _ => hruns run) (ih _ ?_ _ rfl)
        rw [← hlength]
        exact Nat.lt_succ_of_le hless

end Lex

/-- **Splitting moves on, but for the empty symbol.** In every dialect, a round of splitting takes
something of a run unless the empty symbol is that of an operator and no other symbol begins the
run; a run is split to its end exactly if all its rounds take something; and the reading of all
lists of tokens comes to an end exactly if no operator has the empty symbol, or else every character
is a symbol. -/
theorem Dialect.splitting_moves (d : Dialect) :
    (∀ c rest, (TagPiece.afterRound d.operators.symbols (c :: rest)).length < (c :: rest).length ↔
      ¬ ((∃ op ∈ d.operators.operators, "" ∈ OperatorTable.symbolsOf op) ∧
        ∀ s ∈ d.operators.symbols, s.toList <+: c :: rest → s = "")) ∧
    (∀ run, (∃ pieces, TagPiece.splitRun d.operators.symbols run = some pieces) ↔
      ∀ n c rest, (TagPiece.afterRound d.operators.symbols)^[n] run = c :: rest →
        (TagPiece.afterRound d.operators.symbols (c :: rest)).length < (c :: rest).length) ∧
    ((∀ tokens, Lex.Ends d tokens) ↔
      ((∃ op ∈ d.operators.operators, "" ∈ OperatorTable.symbolsOf op) →
        ∀ c, String.ofList [c] ∈ d.operators.symbols)) := by
  have hempty := OperatorTable.mem_symbols_iff (s := "") (t := d.operators)
  refine ⟨fun c rest => ?_, fun run => TagPiece.exists_splitRun_iff_lt, ?_⟩
  · rw [TagPiece.length_afterRound_lt_iff, ne_eq, TagPiece.longestSymbol_eq_empty_iff, hempty]
  · rw [← hempty, ← TagPiece.forall_exists_splitRun_iff]
    exact Lex.forall_ends_iff

/-- The empty symbol can be that of an operator. A tag may then hold a run that a round of splitting
leaves as it is, and that is not split to its end. -/
theorem Dialect.exists_splitRun_eq_none :
    ∃ d, Dialect.ofSettings "silent"
        [.operator (Operator.prefixOp "" 1 .not), .standardOperators, .standardDirectives] =
          .ok d ∧
      Token.tokenize d.delimiters "\x7b#\x7d" =
        .ok [⟨.tagStart, "\x7b", 0⟩, ⟨.symbol, "#", 1⟩, ⟨.tagEnd, "\x7d", 2⟩] ∧
      TagPiece.afterRound d.operators.symbols ['#'] = ['#'] ∧
      TagPiece.splitRun d.operators.symbols ['#'] = none := by
  have hcheck : ((Dialect.ofSettings "silent"
      [.operator (Operator.prefixOp "" 1 .not), .standardOperators,
        .standardDirectives]).toOption.any fun d =>
      decide (d.delimiters = ⟨'\x7b', '\x7d'⟩) &&
        decide (TagPiece.longestSymbol d.operators.symbols ['#'] = some "")) = true := by
    decide +kernel
  obtain ⟨d, hd, hcheck⟩ := exists_ok_of_any hcheck
  rw [Bool.and_eq_true, decide_eq_true_eq, decide_eq_true_eq] at hcheck
  obtain ⟨hdelimiters, hfound⟩ := hcheck
  have hround := TagPiece.afterRound_eq_self hfound
  refine ⟨d, hd, ?_, hround, ?_⟩
  · rw [hdelimiters]
    cbv
  · cases hsplit : TagPiece.splitRun d.operators.symbols ['#'] with
    | none => rfl
    | some pieces =>
      have hlt := TagPiece.exists_splitRun_iff_lt.mp ⟨pieces, hsplit⟩ 0 '#' [] rfl
      rw [hround] at hlt
      exact absurd hlt (Nat.lt_irrefl _)

end TagTemplate
