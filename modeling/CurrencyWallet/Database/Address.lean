import CurrencyWallet.Network
import CurrencyWallet.Text.Quoted
import CurrencyWallet.Url.Parser

/-!
# Database addresses

The address of a database is a web address of any scheme. The query has options, each of
which replaces what the address or an option before it says. All of them are checked before
the database is sought.
-/

namespace CurrencyWallet

namespace Database

/-- Why a text is no number. -/
inductive NumberFault where
  | empty
  | invalidDigit
  | tooLarge
deriving DecidableEq

def NumberFault.message : NumberFault → String
  | empty => "cannot parse integer from empty string"
  | invalidDigit => "invalid digit found in string"
  | tooLarge => "number too large to fit in target type"

/-- Reads digits from left to right, and stops at the first that is none or makes the number
too large. -/
def readDigits (limit n : Nat) : List Char → Except NumberFault Nat
  | [] => .ok n
  | c :: cs =>
      match digit? c with
      | none => .error .invalidDigit
      | some d => if 10 * n + d < limit then readDigits limit (10 * n + d) cs else .error .tooLarge

/-- Reads a number below a limit, with a plus sign or not. -/
def readNumber (limit : Nat) : List Char → Except NumberFault Nat
  | [] => .error .empty
  | '+' :: c :: cs => readDigits limit 0 (c :: cs)
  | cs => readDigits limit 0 cs

/-- What is wrong with an address. -/
inductive AddressFault where
  | url (fault : UrlFault)
  | encoding (fault : Text.Utf8Fault)
  | securityMode (text : String)
  /-- An option is no number. -/
  | number (fault : NumberFault)
  /-- An option is no number of a machine. -/
  | machineNumber
deriving DecidableEq

def AddressFault.message : AddressFault → String
  | url fault => fault.message
  | encoding fault => fault.message
  | securityMode text =>
      "error with configuration: unknown value " ++ Text.quoted text ++ " for `ssl_mode`"
  | number fault => fault.message
  | machineNumber => "invalid IP address syntax"

def securityModes : List String :=
  ["disable", "allow", "prefer", "require", "verify-ca", "verify-full"]

/-- Where a text from the address places the database. -/
def placeOf (host : List Char) : Place :=
  if host.head? = some '/' then .socket
  else if host = "localhost".toList ∨ Url.isIpv4 host ∨ Url.isIpv6 host then .machine
  else .named

/-- Moves the database to another place. A socket takes precedence over any machine. -/
def moveTo (place : Place) (host : List Char) : Place :=
  if place = .socket then .socket else placeOf host

def applyOption (place : Place) (option : String) (value : List Char) :
    Except AddressFault Place :=
  match option with
  | "sslmode" | "ssl-mode" =>
      if securityModes.contains (String.ofList (value.map Char.toLower)) then .ok place
      else .error (.securityMode (String.ofList value))
  | "statement-cache-capacity" =>
      ((readNumber (2 ^ (64 : Nat)) value).mapError AddressFault.number).map (fun _ => place)
  | "port" =>
      ((readNumber (2 ^ (16 : Nat)) value).mapError AddressFault.number).map (fun _ => place)
  | "host" => .ok (moveTo place value)
  | "hostaddr" =>
      if Url.isIpv4 value ∨ Url.isIpv6 value then .ok (moveTo place value)
      else .error .machineNumber
  | _ => .ok place

/-- Where the host of an address places the database. Without a host it is this machine. The
name of a socket is written with percent signs, and is the only name that is read. -/
def hostPlace : UrlHost → Except Text.Utf8Fault Place
  | .none => .ok .machine
  | .number => .ok .machine
  | .name host =>
      if (Url.bytes host).head? = some 0x2f then (Url.text host).map (fun _ => .socket)
      else .ok (placeOf host)

/-- Reads an address and tells where the database is. -/
def readAddress (address : String) : Except AddressFault Place := do
  let url ← (Url.parse address).mapError AddressFault.url
  let place ← (hostPlace url.host).mapError AddressFault.encoding
  let _ ← (Url.text url.username).mapError AddressFault.encoding
  let _ ← (Url.text url.password).mapError AddressFault.encoding
  url.queryPairs.foldlM (fun place (option, value) =>
    applyOption place (String.ofList option) value) place

end Database

end CurrencyWallet
