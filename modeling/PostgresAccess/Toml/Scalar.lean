import PostgresAccess.Numeral.Nearest
import PostgresAccess.Toml.Fault

/-!
# Numbers, dates and times of a TOML document

Each reader takes the longest beginning of the text that has its form, and nothing if there is no
such beginning.  Dates are tried before times and times before numbers, because the digits of a
number start each of them.
-/

namespace PostgresAccess.Toml

open Numeral (Binary64 IntegerFault digitLimit signed splitSign)
open Text (asciiDigit? hexDigit? ofDigits)

/-! ## Dates and times -/

/-- A number of two digits between two bounds. -/
def twoDigits? (low high : Nat) : List Char → Option (Nat × List Char)
  | a :: b :: rest => do
    let tens ← asciiDigit? a
    let ones ← asciiDigit? b
    let n := 10 * tens + ones
    if low ≤ n ∧ n ≤ high then some (n, rest) else none
  | _ => none

/-- Drops a character that has to come. -/
def dropChar? (c : Char) : List Char → Option (List Char)
  | d :: rest => if d = c then some rest else none
  | [] => none

/-- The part of a second after a point, in microseconds; digits beyond the sixth are dropped. -/
def microseconds (cs : List Char) : Nat × List Char :=
  match cs with
  | '.' :: rest =>
    let digits := (rest.takeWhile Char.isDigit).filterMap asciiDigit?
    if digits.isEmpty then (0, cs)
    else
      let six := digits.take 6
      (ofDigits 10 (six ++ List.replicate (6 - six.length) 0), rest.dropWhile Char.isDigit)
  | _ => (0, cs)

/-- A time of day. -/
def readTime? (cs : List Char) : Option (TimeOfDay × List Char) := do
  let (hour, cs) ← twoDigits? 0 23 cs
  let cs ← dropChar? ':' cs
  let (minute, cs) ← twoDigits? 0 59 cs
  let cs ← dropChar? ':' cs
  let (second, cs) ← twoDigits? 0 59 cs
  let (microsecond, cs) := microseconds cs
  some (⟨hour, minute, second, microsecond⟩, cs)

/-- The offset of a time from universal time, in minutes, if one follows. -/
def readOffset (cs : List Char) : Option Int × List Char :=
  let numeric (sign : Int) (rest : List Char) : Option (Int × List Char) := do
    let (hour, rest) ← twoDigits? 0 23 rest
    let rest ← dropChar? ':' rest
    let (minute, rest) ← twoDigits? 0 59 rest
    some (sign * (60 * hour + minute : Nat), rest)
  let found := match cs with
    | 'Z' :: rest | 'z' :: rest => some (0, rest)
    | '+' :: rest => numeric 1 rest
    | '-' :: rest => numeric (-1) rest
    | _ => none
  match found with
  | some (offset, rest) => (some offset, rest)
  | none => (none, cs)

/-- The digits of a date. -/
def readDate? (cs : List Char) : Option (Date × List Char) := do
  let (century, cs) ← twoDigits? 0 99 cs
  let (year, cs) ← twoDigits? 0 99 cs
  let cs ← dropChar? '-' cs
  let (month, cs) ← twoDigits? 1 12 cs
  let cs ← dropChar? '-' cs
  let (day, cs) ← twoDigits? 1 31 cs
  some (⟨100 * century + year, month, day⟩, cs)

/-- Whether a year has a 29th of February. -/
def isLeapYear (year : Nat) : Bool := year % 4 = 0 && (year % 100 ≠ 0 || year % 400 = 0)

/-- The number of days of a month. -/
def daysInMonth (year month : Nat) : Nat :=
  if month = 2 then if isLeapYear year then 29 else 28
  else if month = 4 ∨ month = 6 ∨ month = 9 ∨ month = 11 then 30
  else 31

/-- A day that the calendar has. -/
def isCalendarDay (d : Date) : Bool := 1 ≤ d.year && d.day ≤ daysInMonth d.year d.month

/-- A date, alone or with a time after a `T` or a space. -/
def readDateTime? (cs : List Char) : Option (Date × Option (TimeOfDay × Option Int) × List Char) :=
  do
  let (date, rest) ← readDate? cs
  let time := match rest with
    | 'T' :: more | 't' :: more | ' ' :: more => readTime? more
    | _ => none
  match time with
  | none => some (date, none, rest)
  | some (time, rest) =>
    let (offset, rest) := readOffset rest
    some (date, some (time, offset), rest)

/-! ## Numbers -/

/-- The longest run of digits with single underscores between them. -/
def underscoredRun (digit? : Char → Option Nat) : List Char → List Nat × List Char
  | [] => ([], [])
  | c :: rest =>
    match digit? c with
    | none => ([], c :: rest)
    | some d =>
      match rest with
      | '_' :: next :: later =>
        if (digit? next).isSome then
          let (digits, after) := underscoredRun digit? (next :: later)
          (d :: digits, after)
        else ([d], rest)
      | rest =>
        let (digits, after) := underscoredRun digit? rest
        (d :: digits, after)

/-- The value of a digit below a base. -/
def digitBelow? (base : Nat) (c : Char) : Option Nat :=
  (hexDigit? c).filter (· < base)

/-- A number with a letter for its base after a zero. -/
def readBasedInteger? (cs : List Char) : Option (Int × List Char) :=
  let read (base : Nat) (rest : List Char) : Option (Int × List Char) :=
    let (digits, after) := underscoredRun (digitBelow? base) rest
    if digits.isEmpty then none else some (ofDigits base digits, after)
  match cs with
  | '0' :: 'x' :: rest => read 16 rest
  | '0' :: 'b' :: rest => read 2 rest
  | '0' :: 'o' :: rest => read 8 rest
  | _ => none

/-- The digits of the whole part of a decimal number: a zero, or a run that starts with none. -/
def readWhole? (cs : List Char) : Option (List Nat × List Char) :=
  match cs with
  | '0' :: rest => some ([0], rest)
  | c :: _ => if c.isDigit then some (underscoredRun asciiDigit? cs) else none
  | [] => none

/-- The digits after a point, if there are any. -/
def readFraction (cs : List Char) : Option (List Nat) × List Char :=
  match cs with
  | '.' :: rest =>
    let (digits, after) := underscoredRun asciiDigit? rest
    if digits.isEmpty then (none, cs) else (some digits, after)
  | _ => (none, cs)

/-- The power of ten at the end of a number, if there is one. -/
def readPower (cs : List Char) : Option Int × List Char :=
  match cs with
  | 'e' :: rest | 'E' :: rest =>
    let (negative, body) := splitSign rest
    let (digits, after) := underscoredRun asciiDigit? body
    if digits.isEmpty then (none, cs) else (some (signed negative (ofDigits 10 digits)), after)
  | _ => (none, cs)

/-- A decimal number: floating-point if it has a fraction or a power of ten. -/
def readDecimal? (cs : List Char) : Option (Except IntegerFault Value × List Char) := do
  let (negative, body) := splitSign cs
  let (whole, rest) ← readWhole? body
  let (fraction, rest) := readFraction rest
  let (power, rest) := readPower rest
  if fraction.isNone && power.isNone then
    if whole.length > digitLimit then some (.error (.tooLong whole.length), rest)
    else some (.ok (.int (signed negative (ofDigits 10 whole))), rest)
  else
    let digits := whole ++ fraction.getD []
    let exponent := power.getD 0 - (fraction.getD []).length
    some (.ok (.real (Binary64.ofDecimal negative digits exponent)), rest)

/-- An infinity or NaN. -/
def readSpecial? (cs : List Char) : Option (Value × List Char) :=
  let (negative, body) := splitSign cs
  match body with
  | 'i' :: 'n' :: 'f' :: rest => some (.real (.infinity negative), rest)
  | 'n' :: 'a' :: 'n' :: rest => some (.real .nan, rest)
  | _ => none

/-! ## All of them -/

/-- A number, a date or a time. -/
def readScalar (cs : List Char) : Except Fault (Value × List Char) :=
  match readDateTime? cs with
  | some (date, time, rest) =>
    if !isCalendarDay date then fail .invalidDate cs
    else
      match time with
      | none => .ok (.date date, rest)
      | some (time, offset) => .ok (.dateTime ⟨date, time, offset⟩, rest)
  | none =>
    match readTime? cs with
    | some (time, rest) => .ok (.time time, rest)
    | none =>
      match readBasedInteger? cs with
      | some (n, rest) => .ok (.int n, rest)
      | none =>
        match readDecimal? cs with
        | some (.ok v, rest) => .ok (v, rest)
        | some (.error fault, _) => fail (.number fault) cs
        | none =>
          match readSpecial? cs with
          | some (v, rest) => .ok (v, rest)
          | none => fail .invalidValue cs

end PostgresAccess.Toml
