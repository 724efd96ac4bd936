import CurrencyWallet.Json.Value
import CurrencyWallet.Decimal.Parser
import CurrencyWallet.UserId

/-!
# Reading JSON

A reader for JSON as RFC 8259 defines it, without any extension: blanks are the four
characters of that document, numbers have no leading zeros, control characters must be
escaped, and nothing may follow the value.

Each reader takes what it reads from the front of the text and returns the rest.
-/

namespace CurrencyWallet

namespace Json

/-- Whether a character may stand between the parts of a document. -/
def isBlank (c : Char) : Bool :=
  c = ' ' || c = '\t' || c = '\n' || c = '\r'

def skipBlanks (cs : List Char) : List Char :=
  cs.dropWhile isBlank

/-- Reads a text behind its opening quote as code points. An escape may stand for half
of a surrogate pair. -/
def readUnits : List Char → Option (List Nat × List Char)
  | [] => none
  | '"' :: cs => some ([], cs)
  | '\\' :: 'u' :: a :: b :: c :: d :: cs =>
      match natOfHex? [a, b, c, d] with
      | some n => (readUnits cs).map (fun (us, cs) => (n :: us, cs))
      | none => none
  | '\\' :: c :: cs =>
      let unit? : Option Nat :=
        match c with
        | '"' => some 0x22
        | '\\' => some 0x5c
        | '/' => some 0x2f
        | 'b' => some 0x08
        | 'f' => some 0x0c
        | 'n' => some 0x0a
        | 'r' => some 0x0d
        | 't' => some 0x09
        | _ => none
      match unit? with
      | some n => (readUnits cs).map (fun (us, cs) => (n :: us, cs))
      | none => none
  | c :: cs =>
      if c.toNat < 0x20 ∨ c = '\\' then none
      else (readUnits cs).map (fun (us, cs) => (c.toNat :: us, cs))

/-- Joins surrogate pairs. There is no text when half of a pair stands alone. -/
def joinUnits? : List Nat → Option (List Char)
  | [] => some []
  | [u] => if u.isValidChar then some [Char.ofNat u] else none
  | u :: v :: us =>
      if u.isValidChar then (joinUnits? (v :: us)).map (Char.ofNat u :: ·)
      else if u < 0xdc00 ∧ 0xdc00 ≤ v ∧ v ≤ 0xdfff then
        (joinUnits? us).map (Char.ofNat (0x10000 + (u - 0xd800) * 0x400 + (v - 0xdc00)) :: ·)
      else none

/-- Reads a text behind its opening quote. The text itself is absent when it has half of
a surrogate pair. -/
def readString (cs : List Char) : Option (Option String × List Char) :=
  (readUnits cs).map (fun (us, cs) => ((joinUnits? us).map String.ofList, cs))

def spanDigits (cs : List Char) : List Char × List Char :=
  (cs.takeWhile (fun c => (digit? c).isSome), cs.dropWhile (fun c => (digit? c).isSome))

/-- Reads the digits before the point: a zero alone, or digits of which the first is not
zero. -/
def readWhole (cs : List Char) : Option (List Char × List Char) :=
  match cs with
  | '0' :: cs => some (['0'], cs)
  | cs => if (spanDigits cs).1.isEmpty then none else some (spanDigits cs)

/-- Reads a point with at least one digit behind it, or nothing. -/
def readFraction (cs : List Char) : Option (List Char × List Char) :=
  match cs with
  | '.' :: cs => if (spanDigits cs).1.isEmpty then none else some (spanDigits cs)
  | cs => some ([], cs)

/-- Reads an exponent with at least one digit, or nothing. -/
def readExponent (cs : List Char) : Option (Option Int × List Char) :=
  let read (sign : Int) (cs : List Char) : Option (Option Int × List Char) :=
    (natOfDigits? (spanDigits cs).1).map (fun n => (some (sign * n), (spanDigits cs).2))
  let signed (cs : List Char) : Option (Option Int × List Char) :=
    match cs with
    | '-' :: cs => read (-1) cs
    | '+' :: cs => read 1 cs
    | cs => read 1 cs
  match cs with
  | 'e' :: cs => signed cs
  | 'E' :: cs => signed cs
  | cs => some (none, cs)

def readNumeral (cs : List Char) : Option (Numeral × List Char) := do
  let (negative, cs) := match cs with
    | '-' :: cs => (true, cs)
    | cs => (false, cs)
  let (whole, cs) ← readWhole cs
  let (fraction, cs) ← readFraction cs
  let (exponent, cs) ← readExponent cs
  let digits ← natOfDigits? (whole ++ fraction)
  return (⟨negative, digits, fraction.length, exponent⟩, cs)

/-- An object with these members, which stands for nothing if one of the names does. -/
def ofMembers (members : List (Option String × Json)) : Json :=
  match members.mapM (fun (name?, j) => name?.map (·, j)) with
  | some members => .object members
  | none => .broken

mutual

/-- Reads a value. The number bounds the depth of the recursion. -/
def readValue : Nat → List Char → Option (Json × List Char)
  | 0, _ => none
  | n + 1, cs =>
      match skipBlanks cs with
      | 'n' :: 'u' :: 'l' :: 'l' :: cs => some (.null, cs)
      | 't' :: 'r' :: 'u' :: 'e' :: cs => some (.bool true, cs)
      | 'f' :: 'a' :: 'l' :: 's' :: 'e' :: cs => some (.bool false, cs)
      | '"' :: cs => (readString cs).map (fun (s?, cs) => (s?.elim .broken .string, cs))
      | '[' :: cs =>
          match skipBlanks cs with
          | ']' :: cs => some (.array [], cs)
          | cs => (readItems n cs).map (fun (js, cs) => (.array js, cs))
      | '\x7b' :: cs =>
          match skipBlanks cs with
          | '\x7d' :: cs => some (.object [], cs)
          | cs => (readMembers n cs).map (fun (ms, cs) => (ofMembers ms, cs))
      | cs => (readNumeral cs).map (fun (m, cs) => (.number m, cs))

/-- Reads values with commas between them and the closing bracket. -/
def readItems : Nat → List Char → Option (List Json × List Char)
  | 0, _ => none
  | n + 1, cs =>
      match readValue n cs with
      | some (j, cs) =>
          match skipBlanks cs with
          | ',' :: cs => (readItems n cs).map (fun (js, cs) => (j :: js, cs))
          | ']' :: cs => some ([j], cs)
          | _ => none
      | none => none

/-- Reads named values with commas between them and the closing brace. -/
def readMembers : Nat → List Char → Option (List (Option String × Json) × List Char)
  | 0, _ => none
  | n + 1, cs =>
      match skipBlanks cs with
      | '"' :: cs =>
          match readString cs with
          | some (name?, cs) =>
              match skipBlanks cs with
              | ':' :: cs =>
                  match readValue n cs with
                  | some (j, cs) =>
                      match skipBlanks cs with
                      | ',' :: cs => (readMembers n cs).map (fun (ms, cs) => ((name?, j) :: ms, cs))
                      | '\x7d' :: cs => some ([(name?, j)], cs)
                      | _ => none
                  | none => none
              | _ => none
          | none => none
      | _ => none

end

/-- Reads a document: one value with blanks around it. Every step of the recursion reads
a character or follows one that did, so twice the length of the text is a bound for its
depth. -/
def ofChars? (cs : List Char) : Option Json :=
  match readValue (2 * cs.length + 2) cs with
  | some (j, rest) => if rest.all isBlank then some j else none
  | none => none

def parse? (text : String) : Option Json :=
  ofChars? text.toList

end Json

end CurrencyWallet
