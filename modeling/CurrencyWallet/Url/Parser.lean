import CurrencyWallet.Url.Basic
import CurrencyWallet.Url.Domain
import CurrencyWallet.Url.Numeric

/-!
# Reading a web address

An address begins with a scheme and a colon. The schemes of the web always name a machine,
by its number or by a domain name, and take a backslash for a slash. Other schemes name a
machine only behind two slashes, and by a text of their own.
-/

namespace CurrencyWallet

namespace Url

/-- What is known about a scheme. -/
inductive SchemeKind where
  | web
  | file
  | other
deriving DecidableEq

def SchemeKind.of (scheme : List Char) : SchemeKind :=
  let scheme := String.ofList (scheme.map Char.toLower)
  if scheme = "file" then .file
  else if ["http", "https", "ws", "wss", "ftp"].contains scheme then .web
  else .other

/-- The text without controls and spaces at either end, and without tabs and line ends
anywhere. -/
def tidy (cs : List Char) : List Char :=
  let isOuter (c : Char) : Bool := c ≤ ' '
  ((cs.dropWhile isOuter).reverse.dropWhile isOuter).reverse.filter
    (fun c => c ≠ '\t' && c ≠ '\n' && c ≠ '\r')

/-- Whether a character may stand in a scheme behind its first letter. -/
def isSchemeChar (c : Char) : Bool :=
  c.isAlphanum || c = '+' || c = '-' || c = '.'

def splitScheme? (cs : List Char) : Option (List Char × List Char) :=
  match cs.head?, cs.dropWhile isSchemeChar with
  | some c, ':' :: rest => if c.isAlpha then some (cs.takeWhile isSchemeChar, rest) else none
  | _, _ => none

/-- Whether a character ends the part of an address that names a machine. -/
def endsAuthority (kind : SchemeKind) (c : Char) : Bool :=
  c = '/' || c = '?' || c = '#' || (kind ≠ .other && c = '\\')

/-- What stands before the last at sign of the part that names a machine, if there is one,
and what follows it. -/
def splitCredentials (kind : SchemeKind) (cs : List Char) : Option (List Char) × List Char :=
  let authority := cs.takeWhile (! endsAuthority kind ·)
  let place := (authority.reverse.takeWhile (· ≠ '@')).reverse
  if place.length = authority.length then (none, cs)
  else
    let credentials := authority.take (authority.length - place.length - 1)
    (some credentials, cs.drop (credentials.length + 1))

/-- The text that names a machine, and what follows it. A colon ends the text unless it
stands in brackets. -/
def splitHost (kind : SchemeKind) (inBrackets : Bool) : List Char → List Char × List Char
  | [] => ([], [])
  | c :: cs =>
      if endsAuthority kind c || (c = ':' && !inBrackets) then ([], c :: cs)
      else
        let (host, rest) := splitHost kind (c = '[' || (inBrackets && c ≠ ']')) cs
        (c :: host, rest)

def readBracketed (cs : List Char) : Except UrlFault UrlHost :=
  if cs.getLast? = some ']' ∧ isIpv6 (cs.drop 1).dropLast then .ok .number
  else .error .invalidIpv6

def readWebHost (cs : List Char) : Except UrlFault UrlHost :=
  if cs.head? = some '[' then readBracketed cs
  else
    match domain? (bytes cs) with
    | none => .error .invalidDomain
    | some [] => .error .emptyHost
    | some name =>
        if !endsInNumber name then .ok (.name name)
        else if isLooseIpv4 name then .ok .number
        else .error .invalidIpv4

/-- Characters that the name of a machine cannot have even where it is a text of its own. -/
def isForbiddenInHost (c : Char) : Bool :=
  c = '\x00' || " #/:<>?@[\\]^|".toList.contains c

/-- Reads the machine of an address with a scheme of its own. -/
def readOtherHost (cs : List Char) : Except UrlFault UrlHost :=
  if cs.head? = some '[' then readBracketed cs
  else if cs.any isForbiddenInHost then .error .invalidHostCharacter
  else if cs.isEmpty then .ok .none
  else .ok (.name cs)

def readHost (kind : SchemeKind) (cs : List Char) : Except UrlFault UrlHost :=
  match kind with
  | .other => readOtherHost cs
  | _ => if cs.isEmpty then .error .emptyHost else readWebHost cs

/-- Checks the port, if there is one, and gives what follows it. -/
def checkPort (host : List Char) (cs : List Char) : Except UrlFault (List Char) :=
  match cs with
  | ':' :: cs =>
      let rest := cs.dropWhile Char.isDigit
      let digits := cs.takeWhile Char.isDigit
      if host.isEmpty then .error .emptyHost
      else if (natOfDigits? digits).any (2 ^ (16 : Nat) ≤ ·) then .error .invalidPort
      else if rest.head?.any (! endsAuthority .web ·) then .error .invalidPort
      else .ok rest
  | cs => .ok cs

/-- What follows the first question mark, up to a number sign. -/
def queryOf (cs : List Char) : List Char :=
  ((cs.takeWhile (· ≠ '#')).dropWhile (· ≠ '?')).drop 1

/-- Reads an address from behind the slashes that announce a machine. -/
def readAuthority (kind : SchemeKind) (cs : List Char) : Except UrlFault Url := do
  let (credentials, cs) := splitCredentials kind cs
  if credentials = some [] ∧ cs.head?.any (endsAuthority kind) then throw .emptyHost
  let (username, password) := Text.splitFirst ':' (credentials.getD [])
  let (hostText, cs) := splitHost kind false cs
  let host ← readHost kind hostText
  let cs ← checkPort hostText cs
  if host = .none ∧ ¬(username = [] ∧ password = []) then throw .emptyHost
  return { username, password, host, query := queryOf cs }

def isDrive : List Char → Bool
  | [letter, mark] => letter.isAlpha && (mark = ':' || mark = '|')
  | _ => false

/-- Reads the machine that has a file. A drive is no machine. -/
def readFileHost (cs : List Char) : Except UrlFault UrlHost :=
  if cs.isEmpty || isDrive cs then .ok .none
  else
    match readWebHost cs with
    | .ok (.name name) => .ok (if name = "localhost".toList then .none else .name name)
    | r => r

/-- Reads the address of a file from behind the scheme. -/
def readFile (cs : List Char) : Except UrlFault Url :=
  match cs with
  | a :: b :: cs =>
      if (a = '/' ∨ a = '\\') ∧ (b = '/' ∨ b = '\\') then
        (readFileHost (cs.takeWhile (! endsAuthority .file ·))).map
          (fun host => { host, query := queryOf cs })
      else .ok { query := queryOf (a :: b :: cs) }
  | cs => .ok { query := queryOf cs }

def parse (address : String) : Except UrlFault Url :=
  match splitScheme? (tidy address.toList) with
  | none => .error .relative
  | some (scheme, rest) =>
      match SchemeKind.of scheme, rest with
      | .file, rest => readFile rest
      | .web, rest => readAuthority .web (rest.dropWhile (fun c => c = '/' || c = '\\'))
      | .other, '/' :: '/' :: rest => readAuthority .other rest
      | .other, rest => .ok { query := queryOf rest }

end Url

end CurrencyWallet
