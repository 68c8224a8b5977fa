/-!
# UTF-8

Byte lengths of texts, and the reading of bytes as text. A reader of bytes stops at the first
sequence that no character encodes; the fault tells where it starts and how many of its bytes
belong to it, or that the bytes end too early.
-/

namespace TagTemplate.Text

/-- The number of bytes that encode the characters. -/
def byteLength (cs : List Char) : Nat := cs.foldr (fun c n => c.utf8Size + n) 0

/-- The first place where bytes are not UTF-8. -/
structure Utf8Fault where
  /-- How many bytes before it are good. -/
  index : Nat
  /-- The length of the bad sequence, none when the bytes end inside it. -/
  length : Option Nat
  deriving DecidableEq, Repr

/-- The wording of a fault. -/
def Utf8Fault.message (fault : Utf8Fault) : String :=
  match fault.length with
  | some n => s!"invalid utf-8 sequence of {n} bytes from index {fault.index}"
  | none => s!"incomplete utf-8 byte sequence from index {fault.index}"

/-- The values that the second byte of a longer sequence may take after `first`, and how many
bytes follow in all; none for a byte that starts no sequence of several bytes. -/
def secondByte (first : UInt8) : Option (Nat × UInt8 × UInt8) :=
  if 0xC2 ≤ first ∧ first ≤ 0xDF then some (1, 0x80, 0xBF)
  else if first = 0xE0 then some (2, 0xA0, 0xBF)
  else if first = 0xED then some (2, 0x80, 0x9F)
  else if 0xE1 ≤ first ∧ first ≤ 0xEF then some (2, 0x80, 0xBF)
  else if first = 0xF0 then some (3, 0x90, 0xBF)
  else if 0xF1 ≤ first ∧ first ≤ 0xF3 then some (3, 0x80, 0xBF)
  else if first = 0xF4 then some (3, 0x80, 0x8F)
  else none

/-- Reads the `count` bytes that complete a sequence of which `used` are read. The next one lies
between `low` and `high`; the value so far is `value`. -/
def readTail (used : Nat) (low high : UInt8) (value : Nat) :
    Nat → List UInt8 → Except (Option Nat) (Nat × List UInt8)
  | 0, bytes => .ok (value, bytes)
  | _ + 1, [] => .error none
  | count + 1, b :: bytes =>
    if low ≤ b ∧ b ≤ high then
      readTail (used + 1) 0x80 0xBF (value * 64 + b.toNat % 64) count bytes
    else .error (some used)

/-- The first character of the bytes and what follows it. -/
def readChar (first : UInt8) (bytes : List UInt8) :
    Except (Option Nat) (Char × List UInt8) :=
  if first < 0x80 then .ok (Char.ofNat first.toNat, bytes)
  else
    match secondByte first with
    | none => .error (some 1)
    | some (count, low, high) =>
      (readTail 1 low high (first.toNat % Nat.pow 2 (6 - count)) count bytes).map
        fun (value, rest) => (Char.ofNat value, rest)

theorem length_of_readTail {used : Nat} {low high : UInt8} {value count : Nat}
    {bytes rest : List UInt8} {v : Nat}
    (h : readTail used low high value count bytes = .ok (v, rest)) :
    rest.length ≤ bytes.length := by
  induction count generalizing used low high value bytes with
  | zero =>
    simp only [readTail, Except.ok.injEq, Prod.mk.injEq] at h
    simp [h.2]
  | succ count ih =>
    cases bytes with
    | nil => simp [readTail] at h
    | cons b bytes =>
      simp only [readTail] at h
      split at h
      · have := ih h
        simp only [List.length_cons]
        omega
      · cases h

theorem length_of_readChar {first : UInt8} {bytes rest : List UInt8} {c : Char}
    (h : readChar first bytes = .ok (c, rest)) : rest.length ≤ bytes.length := by
  unfold readChar at h
  split at h
  · simp only [Except.ok.injEq, Prod.mk.injEq] at h
    simp [h.2]
  · split at h
    · cases h
    · rename_i count low high _
      cases ht : readTail 1 low high (first.toNat % Nat.pow 2 (6 - count)) count bytes with
      | error e =>
        rw [ht] at h
        cases h
      | ok pair =>
        obtain ⟨v, r⟩ := pair
        rw [ht] at h
        simp only [Except.map, Except.ok.injEq, Prod.mk.injEq] at h
        rw [← h.2]
        exact length_of_readTail ht

/-- The characters that the bytes encode, with `index` bytes before them. -/
def readChars (index : Nat) : List UInt8 → Except Utf8Fault (List Char)
  | [] => .ok []
  | first :: bytes =>
    match _h : readChar first bytes with
    | .error length => .error { index, length }
    | .ok (c, rest) => (readChars (index + c.utf8Size) rest).map (c :: ·)
  termination_by bytes => bytes.length
  decreasing_by
    have := length_of_readChar _h
    simp only [List.length_cons]
    omega

/-- The text that the bytes encode. -/
def decodeUtf8 (bytes : List UInt8) : Except Utf8Fault String :=
  (readChars 0 bytes).map String.ofList

end TagTemplate.Text
