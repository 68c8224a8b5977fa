import TagTemplate.Text.Utf8

/-!
# Output

The texts that an evaluation has written. An output takes a text whole or takes nothing of it,
and which of the two may depend on the text and on all that it took before. An output may have a
limit; it then refuses every text that would bring the bytes written above the limit.
-/

namespace TagTemplate

/-- The texts that were taken, and what decides whether more are. -/
structure Output where
  /-- The texts that were taken, the last one first. -/
  texts : List String
  /-- Whether a text is taken after others, of which the last one comes first. -/
  takes : List String → String → Bool

namespace Output

/-- All that was taken, in order. -/
def written (o : Output) : String := String.join o.texts.reverse

/-- Nothing taken yet, and everything will be. -/
def unlimited : Output := ⟨[], fun _ _ => true⟩

/-- The bytes of texts. -/
def byteCount (texts : List String) : Nat :=
  texts.foldr (fun s count => s.utf8ByteSize + count) 0

/-- Nothing taken yet, and at most `limit` bytes will be. -/
def limited (limit : Nat) : Output where
  texts := []
  takes texts s := decide (byteCount texts + s.utf8ByteSize ≤ limit)

/-- Whether a text is taken. -/
def fits (o : Output) (s : String) : Bool := o.takes o.texts s

/-- The output with a text taken. -/
def append (o : Output) (s : String) : Output := { o with texts := s :: o.texts }

end Output

end TagTemplate
