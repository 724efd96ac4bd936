import CurrencyWallet.Text.Percent
import CurrencyWallet.Text.Split
import CurrencyWallet.Text.Utf8

/-!
# Web addresses

The parts of an address that a client of a service needs: who asks, which machine is asked,
and what else is to be known. The query at the end is a list of names and values.
-/

namespace CurrencyWallet

/-- Why a text is no address. -/
inductive UrlFault where
  | relative
  /-- No machine is named where one is needed. -/
  | emptyHost
  /-- The port is no number of 16 bits. -/
  | invalidPort
  /-- A number of four bytes is out of order. -/
  | invalidIpv4
  /-- A number in brackets is out of order. -/
  | invalidIpv6
  | invalidHostCharacter
  | invalidDomain
deriving DecidableEq

def UrlFault.message : UrlFault → String
  | relative => "relative URL without a base"
  | emptyHost => "empty host"
  | invalidPort => "invalid port number"
  | invalidIpv4 => "invalid IPv4 address"
  | invalidIpv6 => "invalid IPv6 address"
  | invalidHostCharacter => "invalid domain character"
  | invalidDomain => "invalid international domain name"

/-- The machine that an address names. -/
inductive UrlHost where
  | none
  | number
  | name (text : List Char)
deriving DecidableEq

structure Url where
  /-- Who asks. Empty if that is not said. -/
  username : List Char := []
  /-- The password. Empty if there is none. -/
  password : List Char := []
  host : UrlHost := .none
  query : List Char := []
deriving DecidableEq

namespace Url

/-- The bytes that a part of an address stands for. -/
def bytes (cs : List Char) : List UInt8 :=
  Text.decodePercent (Text.encodeUtf8 cs)

def text (cs : List Char) : Except Text.Utf8Fault (List Char) :=
  Text.decodeUtf8 (bytes cs)

/-- The text of a name or value in a query, where a plus sign is a space. -/
def queryText (cs : List Char) : List Char :=
  Text.decodeUtf8Lenient (bytes (cs.map (fun c => if c = '+' then ' ' else c)))

/-- The names and values of the query, in their order. -/
def queryPairs (u : Url) : List (List Char × List Char) :=
  ((Text.split '&' u.query).filter (! ·.isEmpty)).map fun field =>
    let (name, value) := Text.splitFirst '=' field
    (queryText name, queryText value)

end Url

end CurrencyWallet
