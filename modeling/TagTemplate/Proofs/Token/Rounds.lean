import TagTemplate.Proofs.Result
import TagTemplate.Proofs.Token.Spans

/-!
# Rounds of a scan

A scan goes round by round. A round takes a text, a delimiter, a lexeme inside a tag or a blank
inside a tag off the front of what is left, and the scan goes on behind it. It stops where no round
can be made: with all that was read if nothing is left outside tags, and with an error otherwise. So
a scan succeeds exactly if rounds take everything and end outside tags, and what every round has in
common holds of every scan.
-/

namespace TagTemplate

/-- The place of a scan. -/
def Place.ofScan : Option Nat → Place
  | none => .outside
  | some _ => .inside

namespace Token

variable {d : Delimiters} {position : Nat} {inside after next : Option Nat}
  {cs raw front rest : List Char} {read : Option Lexeme} {tokens : List Token}

/-- A round at a position takes `raw`, which `rest` follows, and reads a lexeme from it unless it is
a blank. The scan is outside tags, or inside the one that opens at a position, before the round and
after it. -/
inductive Round (d : Delimiters) (position : Nat) :
    Option Nat → List Char → List Char → Option Lexeme → Option Nat → Prop
  /-- A text ends where no more of it can be read. -/
  | text {text rest : List Char} (hn : text ≠ [])
      (hs : Lexeme.textSpan d.opening rest = ([], [])) :
      Round d position none (Lexeme.doubled d.opening text) rest
        (some ⟨.text, text, Lexeme.doubled d.opening text⟩) none
  /-- A tag opens where no text can be read. -/
  | tagStart {rest : List Char} (hs : Lexeme.textSpan d.opening (d.opening :: rest) = ([], [])) :
      Round d position none [d.opening] rest (some (.verbatim .tagStart [d.opening]))
        (some position)
  /-- A blank inside a tag is passed over. -/
  | blank {opened : Nat} {c : Char} {rest : List Char} (hb : Text.isBlank c = true) :
      Round d position (some opened) [c] rest none (some opened)
  /-- A tag is closed. -/
  | tagEnd {opened : Nat} {rest : List Char} (hb : Text.isBlank d.closing = false) :
      Round d position (some opened) [d.closing] rest (some (.verbatim .tagEnd [d.closing])) none
  /-- Another lexeme is read inside a tag. -/
  | part {opened : Nat} {c : Char} {tail rest : List Char} {lexeme : Lexeme}
      (hb : Text.isBlank c = false) (hc : c ≠ d.closing) (ho : c ≠ d.opening)
      (hl : Lexeme.inTag? d c (tail ++ rest) = some lexeme) (hraw : lexeme.raw = c :: tail) :
      Round d position (some opened) (c :: tail) rest (some lexeme) (some opened)

/-- The tokens of what a round reads at a position. -/
def ofRead (position : Nat) (read : Option Lexeme) : List Token :=
  (read.map fun lexeme => lexeme.token position).toList

@[simp] theorem ofRead_some (position : Nat) (lexeme : Lexeme) :
    ofRead position (some lexeme) = [lexeme.token position] := rfl

/-- A scan makes a round and goes on behind it. -/
theorem Round.scan_eq (h : Round d position inside raw rest read next) :
    scan d inside (raw ++ rest) position =
      (scan d next rest (position + Text.byteLength raw)).map (ofRead position read ++ ·) := by
  cases h with
  | @text text _ hn hs =>
    have hspan := Lexeme.textSpan_doubled_append d.opening text rest
    rw [hs, List.append_nil, List.append_nil] at hspan
    have hraw := Lexeme.doubled_ne_nil d.opening hn
    generalize hcs : Lexeme.doubled d.opening text ++ rest = cs at hspan ⊢
    cases cs with
    | nil => exact absurd (List.append_eq_nil_iff.mp hcs).1 hraw
    | cons c cs =>
      rw [scan, hspan]
      dsimp only
      rw [if_neg (mt List.isEmpty_iff.mp hraw), drop_pred_of_eq_append hcs.symm hraw]
      rfl
  | tagStart hs =>
    rw [List.singleton_append, scan, hs]
    dsimp only
    rw [if_pos (List.isEmpty_iff.mpr rfl)]
    rfl
  | blank hb =>
    rw [List.singleton_append, scan, if_pos hb]
    exact (map_nil_append _).symm
  | tagEnd hb =>
    rw [List.singleton_append, scan, if_neg (ne_true_of_eq_false hb), if_pos rfl]
    rfl
  | @part _ c tail _ lexeme hb hc ho hl hraw =>
    have hcs : c :: (tail ++ rest) = lexeme.raw ++ rest := by rw [hraw, List.cons_append]
    have hn : lexeme.raw ≠ [] := hraw ▸ List.cons_ne_nil c tail
    rw [List.cons_append, scan, if_neg (ne_true_of_eq_false hb), if_neg hc, if_neg ho, hl]
    dsimp only
    rw [drop_pred_of_eq_append hcs hn, ← hraw]
    rfl

/-- Rounds from a position on take `front`, which `rest` follows, and read tokens; after them the
scan is outside tags, or inside the one that opens at a position. -/
inductive Rounds (d : Delimiters) (rest : List Char) (after : Option Nat) :
    Option Nat → Nat → List Char → List Token → Prop
  /-- No round is made. -/
  | done {position : Nat} : Rounds d rest after after position [] []
  /-- A round is made before others. -/
  | round {inside next : Option Nat} {position : Nat} {raw front : List Char}
      {read : Option Lexeme} {tokens : List Token}
      (hr : Round d position inside raw (front ++ rest) read next)
      (h : Rounds d rest after next (position + Text.byteLength raw) front tokens) :
      Rounds d rest after inside position (raw ++ front) (ofRead position read ++ tokens)

/-- A scan makes rounds and goes on behind them. -/
theorem Rounds.scan_eq (h : Rounds d rest after inside position front tokens) :
    scan d inside (front ++ rest) position =
      (scan d after rest (position + Text.byteLength front)).map (tokens ++ ·) := by
  induction h with
  | done => exact (map_nil_append _).symm
  | round hr _ ih =>
    rw [List.append_assoc, hr.scan_eq, ih, map_map, Text.byteLength_append, Nat.add_assoc]
    simp only [List.append_assoc]

/-- A scan stops where no round can be made. -/
inductive Stops (d : Delimiters) (position : Nat) :
    Option Nat → List Char → Except ParseError (List Token) → Prop
  /-- Nothing is left outside tags. -/
  | finished : Stops d position none [] (.ok [])
  /-- Nothing is left inside a tag. -/
  | unclosed {opened : Nat} : Stops d position (some opened) [] (.error (.unclosedTag opened))
  /-- The opening delimiter is inside a tag. -/
  | opening {opened : Nat} {rest : List Char} (hb : Text.isBlank d.opening = false)
      (hc : d.opening ≠ d.closing) :
      Stops d position (some opened) (d.opening :: rest)
        (.error (.malformedTag position (.openingInside d.opening)))
  /-- A string inside a tag has no end. -/
  | string {opened : Nat} {c : Char} {rest : List Char} (hb : Text.isBlank c = false)
      (hc : c ≠ d.closing) (ho : c ≠ d.opening) (hl : Lexeme.inTag? d c rest = none) :
      Stops d position (some opened) (c :: rest) (.error (.unterminatedString position))

theorem Stops.scan_eq {result : Except ParseError (List Token)}
    (h : Stops d position inside cs result) : scan d inside cs position = result := by
  cases h with
  | finished => rw [scan]
  | unclosed => rw [scan]
  | opening hb hc => rw [scan, if_neg (ne_true_of_eq_false hb), if_neg hc, if_pos rfl]
  | string hb hc ho hl =>
    rw [scan, if_neg (ne_true_of_eq_false hb), if_neg hc, if_neg ho, hl]

/-- Rounds take what a scan reads, up to where it stops. -/
def Ends (d : Delimiters) (inside : Option Nat) (position : Nat) (cs : List Char) : Prop :=
  ∃ front rest tokens after result, cs = front ++ rest ∧
    Rounds d rest after inside position front tokens ∧
    Stops d (position + Text.byteLength front) after rest result

theorem Stops.ends {result : Except ParseError (List Token)}
    (h : Stops d position inside cs result) : Ends d inside position cs :=
  ⟨[], cs, [], inside, result, rfl, .done, h⟩

theorem Round.ends (hr : Round d position inside raw rest read next)
    (h : Ends d next (position + Text.byteLength raw) rest) :
    Ends d inside position (raw ++ rest) := by
  obtain ⟨front, rest, tokens, after, result, rfl, h, hs⟩ := h
  rw [Nat.add_assoc, ← Text.byteLength_append] at hs
  exact ⟨raw ++ front, rest, _, after, result, (List.append_assoc ..).symm, .round hr h, hs⟩

/-- Every scan makes rounds up to where it stops. -/
theorem ends_scan (d : Delimiters) (inside : Option Nat) (cs : List Char) (position : Nat) :
    Ends d inside position cs := by
  fun_induction scan d inside cs position with
  | case1 => exact Stops.finished.ends
  | case2 => exact Stops.unclosed.ends
  | case3 position c rest text raw hs he ih =>
    have hspan : Lexeme.textSpan d.opening (c :: rest) = ([], []) := by
      rw [hs, List.isEmpty_iff.mp he, Lexeme.text_eq_nil_of_textSpan hs (List.isEmpty_iff.mp he)]
    obtain rfl : c = d.opening := Lexeme.eq_opening_of_textSpan (congrArg Prod.snd hspan)
    exact (Round.tagStart hspan).ends ih
  | case4 position c rest text raw hs hne ih =>
    obtain ⟨tail, hcs, hraw, hnone⟩ := Lexeme.textSpan_spec d.opening (c :: rest)
    rw [hs] at hcs hraw
    dsimp only at hcs hraw
    have hn : raw ≠ [] := mt List.isEmpty_iff.mpr hne
    have htext : text ≠ [] := by
      rintro rfl
      exact hn hraw
    rw [drop_pred_of_eq_append hcs hn] at ih
    subst hraw
    rw [hcs]
    exact (Round.text htext hnone).ends ih
  | case5 position c rest opened hb ih => exact (Round.blank hb).ends ih
  | case6 position rest opened hb ih => exact (Round.tagEnd (eq_false_of_ne_true hb)).ends ih
  | case7 position rest opened hb hc => exact (Stops.opening (eq_false_of_ne_true hb) hc).ends
  | case8 position c rest opened hb hc ho hl =>
    exact (Stops.string (eq_false_of_ne_true hb) hc ho hl).ends
  | case9 position c rest opened hb hc ho lexeme hl ih =>
    obtain ⟨hw, ⟨tail, hcs⟩, -⟩ := Lexeme.inTag?_spec hl
    rw [drop_pred_of_eq_append hcs.symm hw.raw_ne_nil] at ih
    obtain ⟨first, raw, hraw⟩ := List.exists_cons_of_ne_nil hw.raw_ne_nil
    rw [hraw] at hcs ih
    obtain ⟨rfl, rfl⟩ := List.cons.inj hcs
    exact (Round.part (eq_false_of_ne_true hb) hc ho hl hraw).ends ih

/-- A scan succeeds if rounds take everything and end outside tags, and only then. -/
theorem scan_eq_ok_iff :
    scan d inside cs position = .ok tokens ↔ Rounds d [] none inside position cs tokens := by
  constructor
  · intro h
    obtain ⟨front, rest, read, after, result, rfl, hrounds, hstops⟩ := ends_scan d inside cs position
    rw [hrounds.scan_eq, hstops.scan_eq] at h
    cases hstops with
    | finished =>
      obtain rfl : read ++ [] = tokens := Except.ok.inj h
      rwa [List.append_nil, List.append_nil]
    | _ => cases h
  · intro h
    have hscan := h.scan_eq
    rw [List.append_nil, scan] at hscan
    rw [hscan, Except.map, List.append_nil]

/-- A scan that fails makes rounds up to a fault inside a tag. -/
theorem exists_rounds_of_error {error : ParseError}
    (h : scan d inside cs position = .error error) :
    ∃ front rest tokens opened, cs = front ++ rest ∧
      Rounds d rest (some opened) inside position front tokens ∧
      Stops d (position + Text.byteLength front) (some opened) rest (.error error) := by
  obtain ⟨front, rest, tokens, after, result, rfl, hrounds, hstops⟩ := ends_scan d inside cs position
  rw [hrounds.scan_eq, hstops.scan_eq, map_eq_error_iff] at h
  subst h
  cases after with
  | none => cases hstops
  | some opened => exact ⟨front, rest, tokens, opened, rfl, hrounds, hstops⟩

/-- Where nothing is left outside tags, nothing more is read. -/
theorem Rounds.eq_nil (h : Rounds d [] none inside position [] tokens) :
    tokens = [] ∧ inside = none := by
  have hscan := scan_eq_ok_iff.mpr h
  cases inside with
  | none =>
    rw [scan] at hscan
    exact ⟨(Except.ok.inj hscan).symm, rfl⟩
  | some opened =>
    rw [scan] at hscan
    cases hscan

/-- Inside a tag something is left that closes it. -/
theorem Rounds.ne_nil {opened : Nat} (h : Rounds d [] none (some opened) position cs tokens) :
    cs ≠ [] := by
  rintro rfl
  cases h.eq_nil.2

/-- Rounds that end outside tags read something wherever something is left. -/
theorem Rounds.tokens_ne_nil (h : Rounds d [] none inside position cs tokens) (hn : cs ≠ []) :
    tokens ≠ [] := by
  induction h with
  | done => exact absurd rfl hn
  | round hr h ih =>
    cases hr with
    | blank => exact ih h.ne_nil
    | _ => exact List.cons_ne_nil _ _

end Token

end TagTemplate
