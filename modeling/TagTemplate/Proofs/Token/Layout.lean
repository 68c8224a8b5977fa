import TagTemplate.Proofs.Token.Rounds

/-!
# Layouts of tokens

Tokens are laid out over a template: each is written at its position, the next one follows it,
and only blanks inside tags lie between. The tokens of a template are laid out over all of it.
-/

namespace TagTemplate

/-- Tokens laid out over characters, from a place and a position on. -/
inductive Layout (d : Delimiters) : Place → Nat → List Char → List Token → Prop
  /-- Nothing is left outside tags. -/
  | finished {position : Nat} : Layout d .outside position [] []
  /-- A token is written after blanks, which stand only inside tags; the next tokens are laid out
  after it. Text does not follow text. -/
  | token {place after : Place} {position : Nat} {blanks rest : List Char} {lexeme : Lexeme}
      {tokens : List Token} (hl : lexeme.kind.Leads place after) (hw : lexeme.Written d)
      (hb : ∀ c ∈ blanks, Text.isBlank c = true) (ho : place = .outside → blanks = [])
      (ht : lexeme.kind = .text → tokens.head?.map Token.kind ≠ some .text)
      (h : Layout d after (position + Text.byteLength blanks + Text.byteLength lexeme.raw)
        rest tokens) :
      Layout d place position (blanks ++ lexeme.raw ++ rest)
        (lexeme.token (position + Text.byteLength blanks) :: tokens)

namespace Layout

variable {d : Delimiters} {position : Nat} {cs : List Char} {tokens : List Token}

/-- A blank inside a tag belongs to no token. -/
theorem blank {c : Char} (hc : Text.isBlank c = true)
    (h : Layout d .inside (position + c.utf8Size) cs tokens) :
    Layout d .inside position (c :: cs) tokens := by
  cases h with
  | @token _ after _ blanks rest lexeme tokens hl hw hb ho ht h =>
    have hbs : ∀ b ∈ c :: blanks, Text.isBlank b = true := by
      intro b hm
      rcases List.mem_cons.mp hm with rfl | hm
      · exact hc
      · exact hb b hm
    have hp : position + c.utf8Size + Text.byteLength blanks =
        position + Text.byteLength (c :: blanks) := by
      rw [Text.byteLength_cons, Nat.add_assoc]
    rw [hp] at h ⊢
    exact .token hl hw hbs (fun hp => by cases hp) ht h

/-- A token without blanks before it. -/
theorem written {place after : Place} {lexeme : Lexeme} {rest : List Char}
    (hl : lexeme.kind.Leads place after) (hw : lexeme.Written d)
    (ht : lexeme.kind = .text → tokens.head?.map Token.kind ≠ some .text)
    (h : Layout d after (position + Text.byteLength lexeme.raw) rest tokens)
    (hcs : cs = lexeme.raw ++ rest) :
    Layout d place position cs (lexeme.token position :: tokens) := by
  have hlay : Layout d place position ([] ++ lexeme.raw ++ rest)
      (lexeme.token (position + Text.byteLength []) :: tokens) :=
    .token hl hw (fun _ hm => absurd hm List.not_mem_nil) (fun _ => rfl) ht h
  rwa [List.nil_append, ← hcs] at hlay

end Layout

namespace Token

variable {d : Delimiters} {inside : Option Nat} {cs : List Char} {position : Nat}
  {tokens : List Token}

/-- Where no text can be read, the first token is not text. -/
theorem Rounds.head_kind_ne_text (hs : Lexeme.textSpan d.opening cs = ([], []))
    (h : Rounds d [] none none position cs tokens) : tokens.head?.map Token.kind ≠ some .text := by
  cases h with
  | done => exact nofun
  | @round _ _ _ _ front _ _ hr =>
    cases hr with
    | text hn => exact absurd hs (Lexeme.textSpan_doubled_ne hn front)
    | tagStart => exact nofun

/-- The tokens that rounds read are laid out over what the rounds take. -/
theorem Rounds.layout (h : Rounds d [] none inside position cs tokens) :
    Layout d (.ofScan inside) position cs tokens := by
  induction h with
  | done => exact .finished
  | round hr h ih =>
    cases hr with
    | text hn hs =>
      rw [List.append_nil] at hs
      exact .written .text (.text hn) (fun _ => h.head_kind_ne_text hs) ih rfl
    | tagStart => exact .written .tagStart .tagStart nofun ih rfl
    | blank hb => exact .blank hb ih
    | tagEnd => exact .written .tagEnd .tagEnd nofun ih rfl
    | part _ _ _ hl hraw =>
      obtain ⟨hw, -, hlead⟩ := Lexeme.inTag?_spec hl
      rw [← hraw] at ih ⊢
      exact .written hlead hw (fun hk => absurd (hk ▸ hlead.mem_parts) (by decide)) ih rfl

/-- The tokens that are scanned are laid out over what they are scanned from. -/
theorem layout_of_scan (h : scan d inside cs position = .ok tokens) :
    Layout d (.ofScan inside) position cs tokens :=
  (scan_eq_ok_iff.mp h).layout

end Token

end TagTemplate
