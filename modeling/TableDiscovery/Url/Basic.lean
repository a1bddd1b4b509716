import TableDiscovery.Text.Blank
import TableDiscovery.Text.Case
import TableDiscovery.Text.Integer
import TableDiscovery.Text.Quoted
import TableDiscovery.Url.Address

/-!
# Connection URLs

A URL is cut into scheme, authority, path and query. Reading is lenient: only brackets that do not
hold an address, and characters that turn into separators under compatibility normalisation, are
refused, and the port is read when it is asked for.

* `Url`, `Url.Fault`, `Url.parse`;
* `Url.user?`, `Url.password?`, `Url.host?`, `Url.port?`.
-/

namespace TableDiscovery

/-- The parts of a URL that a connection is made from. -/
structure Url where
  scheme : String
  authority : String
  path : String
  query : String
deriving DecidableEq, Repr

namespace Url

/-- Why a text is not taken as a URL, or its port not as a number. -/
inductive Fault
  | brackets
  | futureAddress
  | octetsInBrackets
  | notAnAddress (text : String)
  | hiddenSeparator (authority : String)
  | portNotNumeric (text : String)
  | portTooLong (count : Nat)
  | portOutOfRange
deriving DecidableEq, Repr

/-- What is said about a fault. -/
def Fault.message : Fault → String
  | brackets => "Invalid IPv6 URL"
  | futureAddress => "IPvFuture address is invalid"
  | octetsInBrackets => "An IPv4 address cannot be in brackets"
  | notAnAddress text => Text.quoted text ++ " does not appear to be an IPv4 or IPv6 address"
  | hiddenSeparator authority =>
    "netloc '" ++ authority ++ "' contains invalid characters under NFKC normalization"
  | portNotNumeric text => "Port could not be cast to integer value as " ++ Text.quoted text
  | portTooLong count =>
    "Exceeds the limit (4300 digits) for integer string conversion: value has " ++
      toString count ++ " digits; use sys.set_int_max_str_digits() to increase the limit"
  | portOutOfRange => "Port out of range 0-65535"

/-- What stands before the first `c` and after it, nothing if there is none. -/
def before (c : Char) (cs : List Char) : List Char × List Char := (Text.cut? c cs).getD (cs, [])

/-- What stands before the last `c`, if there is one, and after it. -/
def afterLast (c : Char) (cs : List Char) : Option (List Char) × List Char :=
  match Text.cutLast? c cs with
  | some (a, b) => (some a, b)
  | none => (none, cs)

/-- Characters of a scheme. -/
def isSchemeChar (c : Char) : Bool := c.isAlphanum || c = '+' || c = '-' || c = '.'

/-- The scheme in front of the first colon, and the rest. -/
def cutScheme (cs : List Char) : String × List Char :=
  match Text.cut? ':' cs with
  | some (c :: rest, tail) =>
    if c.isAlpha && rest.all isSchemeChar then
      (String.ofList ((c :: rest).map Char.toLower), tail)
    else ("", cs)
  | _ => ("", cs)

/-- The authority after two slashes, and the rest. -/
def cutAuthority : List Char → List Char × List Char
  | '/' :: '/' :: rest =>
    let stop (c : Char) : Bool := !(c = '/' || c = '?' || c = '#')
    (rest.takeWhile stop, rest.dropWhile stop)
  | cs => ([], cs)

/-- A version, a point and something after it. -/
def isFutureAddress : List Char → Bool
  | 'v' :: rest =>
    let version := rest.takeWhile fun c => (Text.hexValue? c).isSome
    match rest.dropWhile fun c => (Text.hexValue? c).isSome with
    | '.' :: tail => !version.isEmpty && !tail.isEmpty
    | _ => false
  | _ => false

/-- The content of brackets must be an address. -/
def checkAddress (cs : List Char) : Except Fault Unit :=
  if cs.head? = some 'v' then
    if isFutureAddress cs then .ok () else .error .futureAddress
  else if isIPv4 cs then .error .octetsInBrackets
  else if isIPv6 cs then .ok ()
  else .error (.notAnAddress (String.ofList cs))

/-- Brackets come in both kinds, nothing stands before them and only a port after them. -/
def checkBrackets (authority : List Char) : Except Fault Unit :=
  let opened := authority.contains '['
  let closed := authority.contains ']'
  if opened != closed then .error .brackets
  else if !opened then .ok ()
  else
    let host := (afterLast '@' authority).2
    match Text.cut? '[' host with
    | none => checkAddress (before ':' host).1
    | some (front, rest) =>
      let (inside, tail) := before ']' rest
      if !front.isEmpty || !(tail.isEmpty || tail.head? = some ':') then .error .brackets
      else checkAddress inside

/-- Characters whose compatibility form holds one of `/ ? # @ :`. -/
def hiddenSeparators : List Nat :=
  [0x2047, 0x2048, 0x2049, 0x2100, 0x2101, 0x2105, 0x2106, 0x2a74, 0xfe13, 0xfe16, 0xfe55, 0xfe56,
    0xfe5f, 0xfe6b, 0xff03, 0xff0f, 0xff1a, 0xff1f, 0xff20]

/-- No separator may appear by normalisation. -/
def checkSeparators (authority : List Char) : Except Fault Unit :=
  if authority.any fun c => hiddenSeparators.contains c.toNat then
    .error (.hiddenSeparator (String.ofList authority))
  else .ok ()

/-- Schemes whose last path segment may end in parameters. -/
def schemesWithParameters : List String :=
  ["", "ftp", "hdl", "prospero", "http", "imap", "https", "shttp", "rtsp", "rtspu", "sip", "sips",
    "mms", "sftp", "tel"]

/-- A path without the parameters of its last segment. -/
def dropParameters (scheme : String) (path : List Char) : List Char :=
  if schemesWithParameters.contains scheme then
    match Text.cutLast? '/' path with
    | some (front, last) => front ++ '/' :: (before ';' last).1
    | none => (before ';' path).1
  else path

/-- Reads a URL: leading controls and blanks and all line breaks and tabs are ignored. -/
def parse (text : String) : Except Fault Url := do
  let cs := text.toList.dropWhile fun c => c.toNat ≤ 0x20
  let cs := cs.filter fun c => !(c = '\t' || c = '\r' || c = '\n')
  let (scheme, rest) := cutScheme cs
  let (authority, rest) := cutAuthority rest
  checkBrackets authority
  let withoutFragment := (before '#' rest).1
  let (path, query) := before '?' withoutFragment
  checkSeparators authority
  return { scheme
           authority := String.ofList authority
           path := String.ofList (dropParameters scheme path)
           query := String.ofList query }

/-- User and password in front of the last `@`, still with their escapes. -/
def credentials (u : Url) : Option (List Char × Option (List Char)) :=
  (afterLast '@' u.authority.toList).1.map fun info =>
    match Text.cut? ':' info with
    | some (user, password) => (user, some password)
    | none => (info, none)

/-- The user, still with its escapes. -/
def user? (u : Url) : Option String := u.credentials.map fun p => String.ofList p.1

/-- The password, still with its escapes. -/
def password? (u : Url) : Option String := u.credentials.bind fun p => p.2.map String.ofList

/-- Host and port texts. -/
def hostAndPort (u : Url) : List Char × List Char :=
  let host := (afterLast '@' u.authority.toList).2
  match Text.cut? '[' host with
  | some (_, rest) =>
    let (inside, tail) := before ']' rest
    (inside, (before ':' tail).2)
  | none => before ':' host

/-- The host in lower case, a zone left as it is. -/
def host? (u : Url) : Option String :=
  let host := u.hostAndPort.1
  if host.isEmpty then none
  else
    match Text.cut? '%' host with
    | some (name, zone) => some (Text.lower (String.ofList name) ++ "%" ++ String.ofList zone)
    | none => some (Text.lower (String.ofList host))

/-- The port, if one is given. -/
def port? (u : Url) : Except Fault (Option Nat) :=
  let text := u.hostAndPort.2
  if text.isEmpty then .ok none
  else if !text.all Char.isDigit then .error (.portNotNumeric (String.ofList text))
  else if Text.maxDigits < text.length then .error (.portTooLong text.length)
  else
    let n := Text.ofDigits (text.map fun c => c.toNat - '0'.toNat)
    if n ≤ 65535 then .ok (some n) else .error .portOutOfRange

end Url

end TableDiscovery
