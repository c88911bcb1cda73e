/-!
# Places in a text

A place is a byte offset and a length in bytes of the UTF-8 encoding.
-/

namespace ValueObjects

/-- A stretch of a text, in bytes of its UTF-8 encoding. -/
structure Span where
  offset : Nat
  length : Nat
deriving DecidableEq, Repr, Inhabited

/-- The stretch from one offset up to another. -/
def Span.between (start stop : Nat) : Span := ⟨start, stop - start⟩

/-- The offset just behind a stretch. -/
def Span.stop (s : Span) : Nat := s.offset + s.length

@[simp] theorem Span.stop_between {start stop : Nat} (h : start ≤ stop) : (Span.between start stop).stop = stop := by
  simp [Span.between, Span.stop]; omega

/-- A value together with the place it was read from. -/
structure Located (α : Type) where
  span : Span
  value : α
deriving Repr

end ValueObjects
