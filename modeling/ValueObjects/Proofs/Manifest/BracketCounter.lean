import ValueObjects.Proofs.Manifest.TypeExpressions

/-!
# Bracket counter

Angle brackets counted in a machine word of 32 bits with a sign, which overflows rather than wraps. In an expression
with fewer characters than such a word can count it never overflows, and it decides what counting without a limit
decides. With that, type expressions are accepted and refused as their definition says.
-/

namespace ValueObjects

/-! ## Counting in 32 bits -/

namespace BracketCounter

/-- Add to the counter, unless the sum has no place in it. -/
def add? (depth step : Int32) : Option Int32 :=
  let sum := depth.toInt + step.toInt
  if Int32.minValue.toInt ≤ sum ∧ sum ≤ Int32.maxValue.toInt then some (depth + step) else none

/-- What a character does to the counter. -/
def next? (depth : Int32) (c : Char) : Option Int32 :=
  if c = '<' then add? depth 1
  else if c = '>' then add? depth (-1)
  else some depth

/-- Decide whether brackets are balanced, with some of them open. The scan ends as soon as the counter is negative, and
there is no answer if it overflows. -/
def balanced? (depth : Int32) : List Char → Option Bool
  | [] => some (depth == 0)
  | c :: cs => do
    let next ← next? depth c
    if next < 0 then return false else balanced? next cs

/-! ## Range -/

theorem add?_of_range {depth step : Int32} (hmin : Int32.minValue.toInt ≤ depth.toInt + step.toInt)
    (hmax : depth.toInt + step.toInt ≤ Int32.maxValue.toInt) :
    ∃ sum, add? depth step = some sum ∧ sum.toInt = depth.toInt + step.toInt := by
  refine ⟨depth + step, if_pos ⟨hmin, hmax⟩, ?_⟩
  have hminimum : Int32.minValue.toInt = -2147483648 := by decide
  have hmaximum : Int32.maxValue.toInt = 2147483647 := by decide
  rw [Int32.toInt_add]
  apply Int.bmod_eq_of_le
  · omega
  · omega

/-- A counter with room for one more moves by one at a bracket and stays at any other character. -/
theorem exists_next? {depth : Int32} (hdepth : 0 ≤ depth.toInt) (hroom : depth.toInt < Int32.maxValue.toInt) (c : Char) :
    ∃ next, next? depth c = some next
      ∧ next.toInt = depth.toInt + (if c = '<' then 1 else if c = '>' then -1 else 0) := by
  have hmin : Int32.minValue.toInt = -2147483648 := by decide
  have hone : (1 : Int32).toInt = 1 := by decide
  have hminus : (-1 : Int32).toInt = -1 := by decide
  unfold next?
  by_cases hopen : c = '<'
  · simp only [if_pos hopen, ← hone]
    exact add?_of_range (by omega) (by omega)
  by_cases hclose : c = '>'
  · simp only [if_neg hopen, if_pos hclose, ← hminus]
    exact add?_of_range (by omega) (by omega)
  · exact ⟨depth, by simp [hopen, hclose]⟩

/-- With room for all characters the counter answers what counting without a limit answers. -/
theorem balanced?_eq {depth : Int32} {cs : List Char} (hdepth : 0 ≤ depth.toInt)
    (hroom : depth.toInt + cs.length ≤ Int32.maxValue.toInt) :
    balanced? depth cs = some (balancedFrom depth.toInt.toNat cs) := by
  induction cs generalizing depth with
  | nil =>
    have hzero : depth = 0 ↔ depth.toInt.toNat = 0 := by
      rw [← Int32.toInt_inj, Int32.toInt_zero]
      omega
    have hbeq : (depth == 0) = (depth.toInt.toNat == 0) := by
      rw [Bool.eq_iff_iff, beq_iff_eq, beq_iff_eq, hzero]
    rw [balanced?, balancedFrom, hbeq]
  | cons c cs ih =>
    rw [List.length_cons] at hroom
    obtain ⟨next, hnext, hvalue⟩ := exists_next? hdepth (by omega) c
    have hnegative : next < 0 ↔ next.toInt < 0 := by rw [Int32.lt_iff_toInt_lt, Int32.toInt_zero]
    rw [balanced?, hnext, Option.bind_eq_bind, Option.bind_some]
    simp only [hnegative]
    by_cases hopen : c = '<'
    · subst hopen
      rw [if_pos rfl] at hvalue
      rw [if_neg (by omega), ih (by omega) (by omega), balancedFrom]
      congr 2
      omega
    by_cases hclose : c = '>'
    · subst hclose
      rw [if_neg (by decide), if_pos rfl] at hvalue
      -- a bracket closes one that is open, or the scan ends
      cases hopened : depth.toInt.toNat with
      | zero =>
        rw [if_pos (by omega)]
        rfl
      | succ n =>
        rw [if_neg (by omega), ih (by omega) (by omega), balancedFrom]
        congr 2
        omega
    · rw [if_neg hopen, if_neg hclose] at hvalue
      rw [if_neg (by omega), ih (by omega) (by omega)]
      simp [balancedFrom, hvalue]

end BracketCounter

/-! ## Acceptance and reasons -/

/-- A type expression with fewer than 2³¹ characters passes exactly if it is not empty, has no blank at either end,
consists of the right characters, and has balanced angle brackets. The counter of the brackets does not overflow. An
expression that is refused is refused for the first flaw that it has. -/
theorem typeFlaw?_decides {s : String} (hlength : s.length < 2147483648) :
    (typeFlaw? s = none ↔
      s ≠ "" ∧ (∀ c ∈ s.toList.head?, ¬ Text.isBlank c) ∧ (∀ c ∈ s.toList.getLast?, ¬ Text.isBlank c)
        ∧ (∀ c ∈ s.toList, c.isAlphanum ∨ c ∈ ['_', '.', ':', '<', '>', ',', ' ', '[', ']'])
        ∧ (∀ p, p <+: s.toList → p.count '>' ≤ p.count '<') ∧ s.toList.count '>' = s.toList.count '<')
    ∧ BracketCounter.balanced? 0 s.toList = some (balancedFrom 0 s.toList)
    ∧ ∀ flaw, typeFlaw? s = some flaw ↔
      ∃ before after, TypeFlaw.inOrder = before ++ flaw :: after ∧ (∀ f ∈ before, ¬ f.Spoils s) ∧ flaw.Spoils s := by
  refine ⟨?accepted, ?counted, ?reported⟩
  case accepted =>
    have hcharacter : ∀ c, isTypeCharacter c = true ↔ c.isAlphanum ∨ c ∈ ['_', '.', ':', '<', '>', ',', ' ', '[', ']'] := by
      intro c
      simp [isTypeCharacter]
    rw [typeFlaw?_eq_none]
    constructor
    · rintro ⟨hnonempty, hbegins, hends, hcharacters, hbalanced⟩
      refine ⟨by simpa using hnonempty, hbegins, hends, ?_, hbalanced.beginnings, hbalanced.whole⟩
      exact fun c hc => (hcharacter c).mp (hcharacters c hc)
    · rintro ⟨hnonempty, hbegins, hends, hcharacters, hbeginnings, hwhole⟩
      refine ⟨by simpa using hnonempty, hbegins, hends, ?_, hbeginnings, hwhole⟩
      exact fun c hc => (hcharacter c).mpr (hcharacters c hc)
  case counted =>
    have hmaximum : Int32.maxValue.toInt = 2147483647 := by decide
    have hroom : (0 : Int32).toInt + s.toList.length ≤ Int32.maxValue.toInt := by
      rw [hmaximum, Int32.toInt_zero, String.length_toList]
      omega
    exact BracketCounter.balanced?_eq (by decide) hroom
  case reported =>
    intro flaw
    rw [typeFlaw?_eq_find?, List.find?_eq_some_iff_append]
    simp only [decide_eq_true_eq, Bool.not_eq_true', decide_eq_false_iff_not]
    constructor
    · rintro ⟨hflaw, before, after, horder, hbefore⟩
      exact ⟨before, after, horder, hbefore, hflaw⟩
    · rintro ⟨before, after, horder, hbefore, hflaw⟩
      exact ⟨hflaw, before, after, horder, hbefore⟩

/-- A nested expression passes, and a bracket that closes nothing is seen although as many are opened. -/
theorem typeFlaw?_decides_nested :
    "Map<string, List<int>>".length < 2147483648 ∧ typeFlaw? "Map<string, List<int>>" = none
      ∧ (∀ p, p <+: "Map<string, List<int>>".toList → p.count '>' ≤ p.count '<')
      ∧ "List>int<".length < 2147483648 ∧ typeFlaw? "List>int<" = some .unbalanced
      ∧ BracketCounter.balanced? 0 "List>int<".toList = some false := by
  have hnested : "Map<string, List<int>>".length < 2147483648 := by decide
  have hcrossed : "List>int<".length < 2147483648 := by decide
  have hnone : typeFlaw? "Map<string, List<int>>" = none := by decide +kernel
  obtain ⟨-, -, -, -, hbeginnings, -⟩ := (typeFlaw?_decides hnested).1.mp hnone
  obtain ⟨-, hcounted, hreported⟩ := typeFlaw?_decides hcrossed
  refine ⟨hnested, hnone, hbeginnings, hcrossed, (hreported .unbalanced).mpr ?_, hcounted⟩
  exact ⟨[.empty, .surroundingBlanks, .nullable, .badCharacter], [], rfl, by decide, by decide⟩

end ValueObjects
