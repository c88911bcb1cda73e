/-!
# Search in a text

How many bytes characters take, and where the leftmost occurrence of a pattern starts.
-/

namespace ValueObjects.Text

/-! ## Length in bytes -/

/-- The number of bytes that the characters take in UTF-8. -/
def byteLength : List Char → Nat
  | [] => 0
  | c :: cs => c.utf8Size + byteLength cs

@[simp] theorem byteLength_nil : byteLength [] = 0 := rfl
@[simp] theorem byteLength_cons (c : Char) (cs : List Char) :
    byteLength (c :: cs) = c.utf8Size + byteLength cs := rfl

@[simp] theorem byteLength_append (xs ys : List Char) :
    byteLength (xs ++ ys) = byteLength xs + byteLength ys := by
  induction xs with
  | nil => simp
  | cons c cs ih => simp [ih, Nat.add_assoc]

/-! ## Occurrences -/

/-- Find the leftmost occurrence of a pattern: the number of bytes in front of it. -/
def findOffset? (pattern : List Char) : List Char → Option Nat
  | [] => if pattern.isEmpty then some 0 else none
  | c :: cs =>
    if pattern.isPrefixOf (c :: cs) then some 0
    else (findOffset? pattern cs).map (c.utf8Size + ·)

@[simp] theorem findOffset?_nil_left (cs : List Char) : findOffset? [] cs = some 0 := by
  cases cs <;> rfl

/-- Take a leading word off a text that starts with it, and leave any other text alone. -/
def withoutLeading (word cs : List Char) : List Char :=
  if word.isPrefixOf cs then cs.drop word.length else cs

end ValueObjects.Text
