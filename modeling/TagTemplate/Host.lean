/-!
# What the host remembers

Beside its variables an evaluation touches two things that outlive it: how often the counting
methods of host objects were invoked, and which cancellation flags are raised. Both are kept
under numbers. A raised flag stays raised.
-/

namespace TagTemplate

/-- Counts and cancellation flags. -/
structure Host where
  /-- The counters that are not zero. -/
  counts : List (Nat × Nat)
  /-- The flags that are raised. -/
  raised : List Nat
  deriving DecidableEq, Repr

namespace Host

/-- Nothing counted, nothing raised. -/
def fresh : Host := ⟨[], []⟩

/-- The count of a counter. -/
def count (h : Host) (counter : Nat) : Nat := (h.counts.lookup counter).getD 0

/-- Counts one more. -/
def increment (h : Host) (counter : Nat) : Host :=
  { h with counts := (counter, h.count counter + 1) :: h.counts.filter (·.1 != counter) }

/-- Whether a flag is raised. -/
def isRaised (h : Host) (flag : Nat) : Bool := h.raised.contains flag

/-- Raises a flag. -/
def raiseFlag (h : Host) (flag : Nat) : Host :=
  if h.isRaised flag then h else { h with raised := flag :: h.raised }

end Host

end TagTemplate
