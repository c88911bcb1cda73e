import ValueObjects.Text.Digits

/-!
# Dates and times

The written forms of dates, times and moments, and the form in which they are shown. Seconds may be left out where
they are written, but they are always shown.
-/

namespace ValueObjects.Toml

/-! ## Parts -/

/-- A day of the calendar. -/
structure Date where
  year : Nat
  month : Nat
  day : Nat
deriving DecidableEq, Repr

/-- A time of day. -/
structure Time where
  hour : Nat
  minute : Nat
  second : Nat
  nanosecond : Nat
deriving DecidableEq, Repr

/-- The distance from universal time. -/
inductive Offset
  | universal
  /-- So many minutes ahead of universal time, or behind it if the number is negative. -/
  | distance (minutes : Int)
deriving DecidableEq, Repr

/-- A date, a time, or both, possibly with a distance from universal time. -/
inductive DateTime
  | date (date : Date)
  | time (time : Time)
  | moment (date : Date) (time : Time) (offset : Option Offset)
deriving DecidableEq, Repr

/-! ## Calendar -/

/-- Decide whether a year has a leap day. -/
def isLeapYear (year : Nat) : Bool := year % 4 == 0 && (year % 100 != 0 || year % 400 == 0)

/-- The number of days of a month; no days for a month that there is not. -/
def daysInMonth (year month : Nat) : Nat :=
  match month with
  | 2 => if isLeapYear year then 29 else 28
  | 4 | 6 | 9 | 11 => 30
  | 1 | 3 | 5 | 7 | 8 | 10 | 12 => 31
  | _ => 0

/-- Decide whether there is such a day. -/
def Date.isValid (d : Date) : Bool := 1 ≤ d.day && d.day ≤ daysInMonth d.year d.month

/-- Decide whether there is such a time. A minute may have a leap second. -/
def Time.isValid (t : Time) : Bool := t.hour ≤ 23 && t.minute ≤ 59 && t.second ≤ 60

/-! ## Reading -/

/-- Read a number of exactly `count` digits. -/
def fixedNumber? (count : Nat) (cs : List Char) : Option (Nat × List Char) :=
  let digits := cs.take count
  if digits.length = count ∧ digits.all Char.isDigit then some (Text.ofDigits 10 digits, cs.drop count) else none

/-- Read one expected character. -/
def expected? (c : Char) : List Char → Option (List Char)
  | d :: cs => if d = c then some cs else none
  | [] => none

/-- Read a date: year, month and day with hyphens between them. -/
def Date.read? (cs : List Char) : Option (Date × List Char) := do
  let (year, cs) ← fixedNumber? 4 cs
  let cs ← expected? '-' cs
  let (month, cs) ← fixedNumber? 2 cs
  let cs ← expected? '-' cs
  let (day, cs) ← fixedNumber? 2 cs
  let d : Date := ⟨year, month, day⟩
  if d.isValid then some (d, cs) else none

/-- The nanoseconds that the digits of a fraction of a second stand for. Digits behind the ninth are left out. -/
def nanoseconds (fraction : List Char) : Nat := Text.ofDigits 10 ((fraction ++ List.replicate 9 '0').take 9)

/-- Read the fraction of a second in nanoseconds, if there is one. -/
def fraction? : List Char → Option (Nat × List Char)
  | '.' :: cs =>
    let digits := cs.takeWhile Char.isDigit
    if digits = [] then none else some (nanoseconds digits, cs.dropWhile Char.isDigit)
  | cs => some (0, cs)

/-- Read a second, which may have a fraction, if there is one. -/
def seconds? : List Char → Option (Nat × Nat × List Char)
  | ':' :: cs => do
    let (second, cs) ← fixedNumber? 2 cs
    let (nanosecond, cs) ← fraction? cs
    return (second, nanosecond, cs)
  | cs => some (0, 0, cs)

/-- Read a time: hour and minute, and possibly a second. -/
def Time.read? (cs : List Char) : Option (Time × List Char) := do
  let (hour, cs) ← fixedNumber? 2 cs
  let cs ← expected? ':' cs
  let (minute, cs) ← fixedNumber? 2 cs
  let (second, nanosecond, cs) ← seconds? cs
  let t : Time := ⟨hour, minute, second, nanosecond⟩
  if t.isValid then some (t, cs) else none

/-- Read hours and minutes as a number of minutes. -/
def Offset.minutes? (cs : List Char) : Option Nat := do
  let (hours, cs) ← fixedNumber? 2 cs
  let cs ← expected? ':' cs
  let (minutes, cs) ← fixedNumber? 2 cs
  if cs = [] ∧ hours ≤ 23 ∧ minutes ≤ 59 then some (60 * hours + minutes) else none

/-- Read what stands behind a date and a time: nothing, or a distance from universal time. -/
def Offset.read? : List Char → Option (Option Offset)
  | [] => some none
  | ['Z'] => some (some .universal)
  | ['z'] => some (some .universal)
  | '+' :: cs => (Offset.minutes? cs).map fun (n : Nat) => some (.distance n)
  | '-' :: cs => (Offset.minutes? cs).map fun (n : Nat) => some (.distance (-n))
  | _ => none

/-- Read a whole text as a date, a time, or both with a `T` or a space between them. -/
def DateTime.ofText? (cs : List Char) : Option DateTime :=
  -- four digits and a hyphen are no time, so a text is never both
  match Date.read? cs with
  | some (d, []) => some (.date d)
  | some (d, c :: cs) => do
    if c ≠ 'T' ∧ c ≠ 't' ∧ c ≠ ' ' then none
    let (t, cs) ← Time.read? cs
    let offset ← Offset.read? cs
    return .moment d t offset
  | none =>
    match Time.read? cs with
    | some (t, []) => some (.time t)
    | _ => none

/-! ## Showing -/

/-- A number with at least `count` digits. -/
def padded (count n : Nat) : String :=
  let digits := Nat.toDigits 10 n
  String.ofList (List.replicate (count - digits.length) '0' ++ digits)

/-- Show a day. -/
def Date.text (d : Date) : String := padded 4 d.year ++ "-" ++ padded 2 d.month ++ "-" ++ padded 2 d.day

/-- Show nanoseconds as a fraction of a second, without zeros at the end. No nanoseconds are not shown. -/
def shownFraction (nanosecond : Nat) : String :=
  if nanosecond = 0 then ""
  else "." ++ String.ofList ((padded 9 nanosecond).toList.reverse.dropWhile (· == '0')).reverse

/-- Show a time of day, with its second. -/
def Time.text (t : Time) : String :=
  padded 2 t.hour ++ ":" ++ padded 2 t.minute ++ ":" ++ padded 2 t.second ++ shownFraction t.nanosecond

/-- Show a distance from universal time. -/
def Offset.text : Offset → String
  | universal => "Z"
  | distance minutes =>
    (if minutes < 0 then "-" else "+") ++ padded 2 (minutes.natAbs / 60) ++ ":" ++ padded 2 (minutes.natAbs % 60)

/-- Show a date, a time, or both. -/
def DateTime.text : DateTime → String
  | date d => d.text
  | time t => t.text
  | moment d t offset => d.text ++ "T" ++ t.text ++ ((offset.map Offset.text).getD "")

end ValueObjects.Toml
