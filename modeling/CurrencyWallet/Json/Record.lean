import CurrencyWallet.Json.Printer
import CurrencyWallet.Json.Reader

/-!
# Records

A record is a value with named fields in a fixed order. Its JSON form is an
object with these names, in any order and possibly among others, or an array
of just the values in the order of the fields.
-/

namespace CurrencyWallet

namespace Json

/-- The value under a name: absent if the name does not occur. There is no
answer when it occurs twice. -/
def onlyMember? (members : List (String × Json)) (name : String) : Option (Option Json) :=
  match membersNamed members name with
  | [] => some none
  | [j] => some (some j)
  | _ => none

/-- The values of the fields with these names, where a field may be absent. -/
def optionalFields? (j : Json) (names : List String) : Option (List (Option Json)) :=
  match j with
  | .object members => names.mapM (onlyMember? members)
  | .array items => if items.length = names.length then some (items.map some) else none
  | _ => none

/-- The values of the fields with these names, all of which must be there. -/
def fields? (j : Json) (names : List String) : Option (List Json) :=
  (j.optionalFields? names).bind (fun values => values.mapM id)

def text? : Json → Option String
  | .string s => some s
  | _ => none

/-- A binary number: any number that is not too large. -/
def binary64? : Json → Option Binary64
  | .number n => n.toBinary64?
  | _ => none

/-- A value that may be absent or null. There is no answer when it is there
but of the wrong kind. -/
def nullable? {α : Type} (read : Json → Option α) : Option Json → Option (Option α)
  | none => some none
  | some .null => some none
  | some j => (read j).map some

end Json

end CurrencyWallet
