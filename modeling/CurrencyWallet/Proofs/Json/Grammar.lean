import CurrencyWallet.Json.Reader

/-!
# The grammar of JSON

Which texts stand for a value, as RFC 8259 defines it. A value has many texts: there may be
blanks between its parts, a character of a text may be escaped, and a number may be written
without an exponent or with one.

An escape may stand for half of a surrogate pair. A text in which such a half stands alone is
well formed but is no text, and neither is an object with such a name a value.
-/

namespace CurrencyWallet

namespace Json

def IsBlanks (cs : List Char) : Prop :=
  forall c, c ∈ cs -> isBlank c

/-!
## Texts
-/

/-- The characters that may stand behind a backslash, and the code points they stand for. -/
def shortEscapes : List (Char × Nat) :=
  [('"', 0x22), ('\\', 0x5c), ('/', 0x2f), ('b', 0x08), ('f', 0x0c), ('n', 0x0a), ('r', 0x0d),
    ('t', 0x09)]

inductive UnitText : Nat -> List Char -> Prop where
  | plain {c : Char} (hprintable : 0x20 ≤ c.toNat) (hquote : c ≠ '"') (hslash : c ≠ '\\') :
      UnitText c.toNat [c]
  | short {c : Char} {n : Nat} (h : (c, n) ∈ shortEscapes) : UnitText n ['\\', c]
  | hex {a b c d : Char} {n : Nat} (h : natOfHex? [a, b, c, d] = some n) :
      UnitText n ['\\', 'u', a, b, c, d]

inductive UnitsText : List Nat -> List Char -> Prop where
  | nil : UnitsText [] []
  | cons {n : Nat} {ns : List Nat} {cs cs' : List Char} (h : UnitText n cs)
      (hs : UnitsText ns cs') : UnitsText (n :: ns) (cs ++ cs')

inductive StringText : Option String -> List Char -> Prop where
  | quoted {ns : List Nat} {cs : List Char} (h : UnitsText ns cs) :
      StringText ((joinUnits? ns).map String.ofList) ('"' :: (cs ++ ['"']))

/-!
## Numbers
-/

def IsDigits (cs : List Char) : Prop :=
  cs ≠ [] ∧ forall c, c ∈ cs -> c.isDigit

/-- Digits before the point. Only a zero alone may begin with a zero. -/
def IsWhole (cs : List Char) : Prop :=
  cs = ['0'] ∨ IsDigits cs ∧ cs.head? ≠ some '0'

inductive FractionText : List Char -> List Char -> Prop where
  | absent : FractionText [] []
  | point {ds : List Char} (h : IsDigits ds) : FractionText ds ('.' :: ds)

def IsExponentMark (c : Char) : Prop :=
  c = 'e' ∨ c = 'E'

instance (c : Char) : Decidable (IsExponentMark c) :=
  inferInstanceAs (Decidable (_ ∨ _))

inductive ExponentText : Option Int -> List Char -> Prop where
  | absent : ExponentText none []
  | unsigned {mark : Char} {ds : List Char} (hmark : IsExponentMark mark) (h : IsDigits ds) :
      ExponentText (some (Nat.ofDigitChars 10 ds 0)) (mark :: ds)
  | plus {mark : Char} {ds : List Char} (hmark : IsExponentMark mark) (h : IsDigits ds) :
      ExponentText (some (Nat.ofDigitChars 10 ds 0)) (mark :: '+' :: ds)
  | minus {mark : Char} {ds : List Char} (hmark : IsExponentMark mark) (h : IsDigits ds) :
      ExponentText (some (-Nat.ofDigitChars 10 ds 0)) (mark :: '-' :: ds)

inductive NumeralText : Numeral -> List Char -> Prop where
  | parts (negative : Bool) {whole fraction behind tail : List Char} {exponent : Option Int}
      (hwhole : IsWhole whole) (hfraction : FractionText fraction behind)
      (hexponent : ExponentText exponent tail) :
      NumeralText ⟨negative, Nat.ofDigitChars 10 (whole ++ fraction) 0, fraction.length, exponent⟩
        ((if negative then ['-'] else []) ++ (whole ++ (behind ++ tail)))

/-!
## Values
-/

/-- What a stretch of a document stands for. Elements are values with blanks around them, and
there is at least one item or member. -/
inductive Part where
  | value (j : Json)
  | element (j : Json)
  | items (js : List Json)
  | member (name? : Option String) (j : Json)
  | members (ms : List (Option String × Json))

inductive PartText : Part -> List Char -> Prop where
  | null : PartText (.value .null) ['n', 'u', 'l', 'l']
  | bool (b : Bool) :
      PartText (.value (.bool b)) (if b then ['t', 'r', 'u', 'e'] else ['f', 'a', 'l', 's', 'e'])
  | number {n : Numeral} {cs : List Char} (h : NumeralText n cs) : PartText (.value (.number n)) cs
  | string {s? : Option String} {cs : List Char} (h : StringText s? cs) :
      PartText (.value (s?.elim .broken .string)) cs
  | emptyArray {blanks : List Char} (h : IsBlanks blanks) :
      PartText (.value (.array [])) ('[' :: (blanks ++ [']']))
  | array {js : List Json} {cs : List Char} (h : PartText (.items js) cs) :
      PartText (.value (.array js)) ('[' :: (cs ++ [']']))
  | emptyObject {blanks : List Char} (h : IsBlanks blanks) :
      PartText (.value (.object [])) ('\x7b' :: (blanks ++ ['\x7d']))
  | object {ms : List (Option String × Json)} {cs : List Char} (h : PartText (.members ms) cs) :
      PartText (.value (ofMembers ms)) ('\x7b' :: (cs ++ ['\x7d']))
  | element {j : Json} {before cs after : List Char} (hbefore : IsBlanks before)
      (h : PartText (.value j) cs) (hafter : IsBlanks after) :
      PartText (.element j) (before ++ (cs ++ after))
  | lastItem {j : Json} {cs : List Char} (h : PartText (.element j) cs) : PartText (.items [j]) cs
  | item {j : Json} {js : List Json} {cs cs' : List Char} (h : PartText (.element j) cs)
      (hs : PartText (.items js) cs') : PartText (.items (j :: js)) (cs ++ ',' :: cs')
  | member {name? : Option String} {j : Json} {before name after cs : List Char}
      (hbefore : IsBlanks before) (hname : StringText name? name) (hafter : IsBlanks after)
      (h : PartText (.element j) cs) :
      PartText (.member name? j) (before ++ (name ++ (after ++ ':' :: cs)))
  | lastMember {name? : Option String} {j : Json} {cs : List Char}
      (h : PartText (.member name? j) cs) : PartText (.members [(name?, j)]) cs
  | members {name? : Option String} {j : Json} {ms : List (Option String × Json)}
      {cs cs' : List Char} (h : PartText (.member name? j) cs) (hs : PartText (.members ms) cs') :
      PartText (.members ((name?, j) :: ms)) (cs ++ ',' :: cs')

def IsDocument (j : Json) (text : String) : Prop :=
  PartText (.element j) text.toList

end Json

end CurrencyWallet
