import SqlShape.Json.Basic

/-!
# Scalars in TOML

Numbers, truth values, dates and times, each written as one word. An underscore may stand between two digits.
An integer may be written in base 16, 8 or 2; it must fit 128 bits. A date or a time has no JSON form
and is read as a record of one field, its text.
-/

namespace SqlShape.Toml

/-- The digits of a group without its underscores, each of which must stand between two digits. -/
def digits? (isDigit : Char → Bool) : List Char → Option (List Char)
  | [] => none
  | [c] => if isDigit c then some [c] else none
  | c :: '_' :: rest => if isDigit c then (digits? isDigit rest).map (c :: ·) else none
  | c :: rest => if isDigit c then (digits? isDigit rest).map (c :: ·) else none

/-- The value of a digit in bases up to 16. -/
def digitValue (c : Char) : Nat :=
  if c.isDigit then c.toNat - '0'.toNat
  else if 'a' ≤ c ∧ c ≤ 'f' then c.toNat - 'a'.toNat + 10
  else c.toNat - 'A'.toNat + 10

/-- The number that digits denote. -/
def natOfDigits (base : Nat) (cs : List Char) : Nat :=
  cs.foldl (fun n c => n * base + digitValue c) 0

/-- A digit of base 16. -/
def isHexDigit (c : Char) : Bool :=
  c.isDigit || decide ('a' ≤ c ∧ c ≤ 'f') || decide ('A' ≤ c ∧ c ≤ 'F')

/-- An integer that fits 128 bits, signed or unsigned. -/
def integer? (i : Int) : Option Json :=
  if -(Nat.pow 2 127 : Int) ≤ i ∧ i < (Nat.pow 2 128 : Int) then some (.integer i) else none

/-- An integer in another base. -/
def based? (base : Nat) (isDigit : Char → Bool) (cs : List Char) : Option Json := do
  integer? (natOfDigits base (← digits? isDigit cs))

/-- The digits before the point: no leading zero but a zero alone. -/
def whole? (cs : List Char) : Option (List Char) := do
  let ds ← digits? Char.isDigit cs
  match ds with
  | '0' :: _ :: _ => none
  | _ => some ds

/-- A word without its sign, and whether that is a minus. -/
def unsigned (cs : List Char) : Bool × List Char :=
  match cs with
  | '+' :: rest => (false, rest)
  | '-' :: rest => (true, rest)
  | rest => (false, rest)

/-- The exponent of a double. -/
def exponent? (cs : List Char) : Option Int := do
  let (negative, cs) := unsigned cs
  let n := natOfDigits 10 (← digits? Char.isDigit cs)
  return if negative then -(n : Int) else n

/-- The mark of an exponent. -/
def isExponentMark (c : Char) : Bool :=
  c == 'e' || c == 'E'

/-- A double with a fraction, an exponent or both. It must not overflow. -/
def double? (negative : Bool) (cs : List Char) : Option Json := do
  let mantissa := cs.takeWhile fun c => !isExponentMark c
  let exponent ← match cs.dropWhile fun c => !isExponentMark c with
    | [] => some 0
    | _ :: rest => exponent? rest
  let whole ← whole? (mantissa.takeWhile (· != '.'))
  let fraction ← match mantissa.dropWhile (· != '.') with
    | [] => some []
    | _ :: rest => digits? Char.isDigit rest
  let value := Double.ofDecimal negative (natOfDigits 10 (whole ++ fraction)) (exponent - fraction.length)
  if value.isFinite then some (.double value) else none

/-- A number. -/
def number? (cs : List Char) : Option Json :=
  match cs with
  | '0' :: 'x' :: rest => based? 16 isHexDigit rest
  | '0' :: 'o' :: rest => based? 8 (fun c => decide ('0' ≤ c ∧ c ≤ '7')) rest
  | '0' :: 'b' :: rest => based? 2 (fun c => c == '0' || c == '1') rest
  | _ =>
    let (negative, magnitude) := unsigned cs
    match magnitude with
    | ['i', 'n', 'f'] => some (.double (.ofMagnitude negative Double.infinityMagnitude))
    | ['n', 'a', 'n'] => some (.double (.ofMagnitude negative (Double.infinityMagnitude + Double.exponentUnit / 2)))
    | _ =>
      if magnitude.any fun c => c == '.' || isExponentMark c then double? negative magnitude
      else do
        let n := natOfDigits 10 (← whole? magnitude)
        integer? (if negative then -(n : Int) else n)

/-! ## Dates and times -/

/-- A number of exactly so many digits. -/
def fixedNat? (size : Nat) (cs : List Char) : Option Nat :=
  if cs.length = size ∧ cs.all Char.isDigit then some (natOfDigits 10 cs) else none

/-- The number of days in a month. -/
def daysInMonth (year month : Nat) : Nat :=
  if month = 2 then if year % 4 = 0 ∧ (year % 100 ≠ 0 ∨ year % 400 = 0) then 29 else 28
  else if month = 4 ∨ month = 6 ∨ month = 9 ∨ month = 11 then 30
  else 31

/-- A date: four digits for the year, two for the month and two for the day. -/
def isDate (cs : List Char) : Bool :=
  match fixedNat? 4 (cs.take 4), cs.drop 4 with
  | some year, ['-', a, b, '-', c, d] =>
    match fixedNat? 2 [a, b], fixedNat? 2 [c, d] with
    | some month, some day =>
      decide (1 ≤ month ∧ month ≤ 12 ∧ 1 ≤ day ∧ day ≤ daysInMonth year month)
    | _, _ => false
  | _, _ => false

/-- Hours and minutes within their bounds. -/
def isClock (a b c d : Char) : Bool :=
  match fixedNat? 2 [a, b], fixedNat? 2 [c, d] with
  | some hour, some minute => decide (hour ≤ 23 ∧ minute ≤ 59)
  | _, _ => false

/-- Seconds with an optional fraction, or nothing. -/
def isSeconds (cs : List Char) : Bool :=
  match cs with
  | [] => true
  | ':' :: a :: b :: rest =>
    match fixedNat? 2 [a, b] with
    | some second =>
      decide (second ≤ 60) && match rest with
        | [] => true
        | '.' :: fraction => !fraction.isEmpty && fraction.all Char.isDigit
        | _ => false
    | none => false
  | _ => false

/-- A time of the day. -/
def isTime (cs : List Char) : Bool :=
  match cs with
  | a :: b :: ':' :: c :: d :: rest => isClock a b c d && isSeconds rest
  | _ => false

/-- A time of the day with an optional offset from universal time. -/
def isOffsetTime (cs : List Char) : Bool :=
  let isOffsetMark (c : Char) : Bool := c == 'Z' || c == 'z' || c == '+' || c == '-'
  let time := cs.takeWhile fun c => !isOffsetMark c
  isTime time && match cs.dropWhile fun c => !isOffsetMark c with
    | [] => true
    | ['Z'] | ['z'] => true
    | [_, a, b, ':', c, d] => isClock a b c d
    | _ => false

/-- A date, a time or both. -/
def isMoment (cs : List Char) : Bool :=
  isDate cs || isTime cs || match cs.drop 10 with
    | c :: rest => isDate (cs.take 10) && (c == 'T' || c == 't' || c == ' ') && isOffsetTime rest
    | [] => false

/-- The record of a date or a time. -/
def moment (cs : List Char) : Json :=
  .obj [("moment", .str (String.ofList cs))]

/-- The value of a word. -/
def scalar? (cs : List Char) : Option Json :=
  match cs with
  | ['t', 'r', 'u', 'e'] => some (.bool true)
  | ['f', 'a', 'l', 's', 'e'] => some (.bool false)
  | _ => if isMoment cs then some (moment cs) else number? cs

end SqlShape.Toml
