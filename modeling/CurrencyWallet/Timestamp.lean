import CurrencyWallet.Decimal.Parser
import CurrencyWallet.Power
import CurrencyWallet.Text.Blank
import CurrencyWallet.Text.Padded

/-!
# Time stamps

An instant as the seconds since the beginning of 1970 in UTC with nanoseconds. In a leap
second the nanoseconds go on beyond `10 ^ 9`.

The text is that of RFC 3339. It is written in UTC with 0, 3, 6 or 9 fractional digits,
the fewest that lose nothing. Reading takes any offset and is lenient about blanks
around the parts, missing leading zeros, a space in the place of the `T`, and the form
of the offset.
-/

namespace CurrencyWallet

structure Timestamp where
  /-- Seconds since the beginning of 1970 in UTC. -/
  seconds : Int
  /-- Nanoseconds since that second, less than `2 * 10 ^ 9`. -/
  nanoseconds : Nat
deriving DecidableEq

namespace Timestamp

/-- The instant so many microseconds after the beginning of 2000. -/
def ofMicrosecondsSince2000 (n : Int) : Timestamp where
  seconds := 946684800 + n / 1000000
  nanoseconds := (n % 1000000).toNat * 1000

/-- The instant so many milliseconds after the beginning of 1970. -/
def ofMilliseconds (n : Nat) : Timestamp where
  seconds := n / 1000
  nanoseconds := n % 1000 * 1000000

/-!
### Calendar

Years are counted from March, so that the leap day is the last of its year; 400 years
have 146097 days.
-/

/-- The days from the beginning of 1970 to a date of the Gregorian calendar. -/
def daysOfDate (year : Int) (month day : Nat) : Int :=
  let y := if month ≤ 2 then year - 1 else year
  let dayOfYear := (153 * ((month + 9) % 12) + 2) / 5 + day - 1
  y * 365 + y / 4 - y / 100 + y / 400 + dayOfYear - 719468

/-- The date so many days after the beginning of 1970, as year, month and day. -/
def dateOfDays (days : Int) : Int × Nat × Nat :=
  let n := days + 719468
  let era := n / 146097
  let dayOfEra := (n % 146097).toNat
  let yearOfEra := (dayOfEra - dayOfEra / 1460 + dayOfEra / 36524 - dayOfEra / 146096) / 365
  let dayOfYear := dayOfEra - (365 * yearOfEra + yearOfEra / 4 - yearOfEra / 100)
  let m := (5 * dayOfYear + 2) / 153
  let day := dayOfYear - (153 * m + 2) / 5 + 1
  let month := if m < 10 then m + 3 else m - 9
  (era * 400 + yearOfEra + (if month ≤ 2 then 1 else 0), month, day)

def isDate (year : Int) (month day : Nat) : Bool :=
  1 ≤ month && month ≤ 12 && 1 ≤ day &&
    dateOfDays (daysOfDate year month day) = (year, month, day)

/-!
### Writing
-/

/-- The fraction of a second with a point before it, or nothing for a whole second. -/
def fraction (nanoseconds : Nat) : String :=
  if nanoseconds = 0 then ""
  else if nanoseconds % 1000000 = 0 then "." ++ Text.padded 3 (nanoseconds / 1000000)
  else if nanoseconds % 1000 = 0 then "." ++ Text.padded 6 (nanoseconds / 1000)
  else "." ++ Text.padded 9 nanoseconds

/-- A year; outside the four digits it gets a sign. -/
def yearText (year : Int) : String :=
  if 0 ≤ year ∧ year ≤ 9999 then Text.padded 4 year.toNat
  else if year < 0 then "-" ++ Text.padded 4 year.natAbs
  else "+" ++ Text.padded 4 year.natAbs

instance : ToString Timestamp where
  toString t :=
    let (year, month, day) := dateOfDays (t.seconds / 86400)
    let second := (t.seconds % 86400).toNat
    let leap := t.nanoseconds / 1000000000
    yearText year ++ "-" ++ Text.padded 2 month ++ "-" ++ Text.padded 2 day ++ "T" ++
      Text.padded 2 (second / 3600) ++ ":" ++ Text.padded 2 (second / 60 % 60) ++ ":" ++
      Text.padded 2 (second % 60 + leap) ++ fraction (t.nanoseconds % 1000000000) ++ "Z"

/-!
### Reading

Each reader takes what it needs from the front of the text and returns the rest.
-/

/-- Takes at least one and at most `width` digits. -/
def readNat? (width : Nat) (cs : List Char) : Option (Nat × List Char) :=
  let digits := (cs.take width).takeWhile (fun c => (digit? c).isSome)
  (natOfDigits? digits).map (·, cs.drop digits.length)

def readField? (width : Nat) (cs : List Char) : Option (Nat × List Char) :=
  readNat? width (cs.dropWhile Text.isBlank)

/-- Takes a year: four digits at most, or any number of them behind a sign. -/
def readYear? (cs : List Char) : Option (Int × List Char) :=
  match cs.dropWhile Text.isBlank with
  | '-' :: cs => (readNat? cs.length cs).map (fun (n, cs) => (-n, cs))
  | '+' :: cs => (readNat? cs.length cs).map (fun (n, cs) => (n, cs))
  | cs => (readNat? 4 cs).map (fun (n, cs) => (n, cs))

def readMark? (mark : Char) (cs : List Char) : Option (List Char) :=
  match cs.dropWhile Text.isBlank with
  | c :: cs => if c = mark then some cs else none
  | [] => none

/-- Takes a fraction if there is one, as nanoseconds. Digits beyond the ninth are
dropped. -/
def readFraction? (cs : List Char) : Option (Nat × List Char) :=
  match cs with
  | '.' :: cs =>
      let digits := cs.takeWhile (fun c => (digit? c).isSome)
      (natOfDigits? (digits.take 9)).map fun n =>
        (n * 10 ^ (9 - digits.length), cs.drop digits.length)
  | cs => some (0, cs)

/-- Takes exactly two digits, the first of them at most `top`. -/
def readPair? (top : Nat) : List Char → Option (Nat × List Char)
  | a :: b :: cs =>
      match digit? a, digit? b with
      | some a, some b => if a ≤ top then some (10 * a + b, cs) else none
      | _, _ => none
  | _ => none

/-- Takes hours and minutes of an offset, with a colon or blanks or nothing between
them, as seconds. -/
def readHoursAndMinutes? (cs : List Char) : Option (Nat × List Char) :=
  (readPair? 9 cs).bind fun (hours, cs) =>
    (readPair? 5 (cs.dropWhile (fun c => c = ':' || Text.isBlank c))).map fun (minutes, cs) =>
      (hours * 3600 + minutes * 60, cs)

def readOffset? (cs : List Char) : Option (Int × List Char) :=
  if (cs.take 3).map Char.toUpper = ['U', 'T', 'C'] then some (0, cs.drop 3)
  else
    match cs with
    | 'Z' :: cs => some (0, cs)
    | 'z' :: cs => some (0, cs)
    | '+' :: cs => (readHoursAndMinutes? cs).map (fun (n, cs) => (n, cs))
    | '-' :: cs => (readHoursAndMinutes? cs).map (fun (n, cs) => (-n, cs))
    | '−' :: cs => (readHoursAndMinutes? cs).map (fun (n, cs) => (-n, cs))
    | _ => none

def firstYear : Int := -262143

def lastYear : Int := 262142

/-- The parts of a date and time with its offset, when they are in range. Both the date as it
is written and the instant in UTC lie in the calendar. Sixty seconds are the leap second. -/
def ofParts? (year : Int) (month day hour minute second nanosecond : Nat) (offset : Int) :
    Option Timestamp :=
  let days := daysOfDate year month day
  let seconds := days * 86400 + hour * 3600 + minute * 60 + min second 59 - offset
  if firstYear ≤ year ∧ year ≤ lastYear ∧ isDate year month day ∧ hour < 24 ∧ minute < 60 ∧
      second ≤ 60 ∧ offset.natAbs < 86400 ∧ daysOfDate firstYear 1 1 * 86400 ≤ seconds ∧
      seconds < daysOfDate (lastYear + 1) 1 1 * 86400 then
    some ⟨seconds, nanosecond + if second = 60 then 1000000000 else 0⟩
  else none

def ofChars? (cs : List Char) : Option Timestamp := do
  let (year, cs) ← readYear? cs
  let cs ← readMark? '-' cs
  let (month, cs) ← readField? 2 cs
  let cs ← readMark? '-' cs
  let (day, cs) ← readField? 2 cs
  let separator ← cs.head?
  guard (separator = 'T' ∨ separator = 't' ∨ separator = ' ')
  let (hour, cs) ← readField? 2 (cs.drop 1)
  let cs ← readMark? ':' cs
  let (minute, cs) ← readField? 2 cs
  let cs ← readMark? ':' cs
  let (second, cs) ← readField? 2 cs
  let (nanosecond, cs) ← readFraction? cs
  let (offset, cs) ← readOffset? (cs.dropWhile Text.isBlank)
  guard (cs.all Text.isBlank)
  ofParts? year month day hour minute second nanosecond offset

def parse? (text : String) : Option Timestamp :=
  ofChars? text.toList

end Timestamp

end CurrencyWallet
