import CurrencyWallet.Binary64.Shortest

/-!
# JSON values

A JSON document as a tree. Numbers keep the digits they are written with, and objects
keep their members in order with repetitions. What a number or a repeated name means is
decided where the value is used.
-/

namespace CurrencyWallet

/-- A number as it is written: `± digits * 10 ^ (exponent - places)`. -/
structure Numeral where
  negative : Bool
  digits : Nat
  places : Nat
  /-- The exponent, if one is written. -/
  exponent : Option Int
deriving DecidableEq

namespace Numeral

/-- A number is written as an integer when it has neither point nor exponent. -/
def IsInteger (n : Numeral) : Prop :=
  n.places = 0 ∧ n.exponent = none

instance (n : Numeral) : Decidable n.IsInteger :=
  inferInstanceAs (Decidable (_ ∧ _))

def ofInt (n : Int) : Numeral :=
  ⟨n < 0, n.natAbs, 0, none⟩

/-- The binary number nearest to a written number, if it is not too large. -/
def toBinary64? (n : Numeral) : Option Binary64 :=
  Binary64.ofDigits? n.negative n.digits (n.exponent.getD 0 - n.places)

end Numeral

inductive Json where
  | null
  | bool (b : Bool)
  | number (n : Numeral)
  | string (s : String)
  | array (items : List Json)
  | object (members : List (String × Json))
  /-- A well formed value that stands for nothing, since a text or name in it has half
  of a surrogate pair. -/
  | broken

namespace Json

def nat (n : Nat) : Json :=
  .number (.ofInt n)

def membersNamed (members : List (String × Json)) (name : String) : List Json :=
  (members.filter (fun m => m.1 = name)).map Prod.snd

/-- The value under a name, the last one if there are several. -/
def field? (j : Json) (name : String) : Option Json :=
  match j with
  | .object members => (membersNamed members name).getLast?
  | _ => none

end Json

end CurrencyWallet
