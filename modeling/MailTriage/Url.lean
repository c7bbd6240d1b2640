import MailTriage.Text.Part
import MailTriage.Text.Case
import MailTriage.Text.Class
import MailTriage.Text.Quoted

/-!
# Web addresses

Of an address the scheme and the authority matter here: whether an address may be opened in a
browser, and which host it names. An authority with brackets has to hold an IP address of the later
version in them, and no character of it may turn into a delimiter under compatibility normalization,
for then the address would name another host than it shows.
-/

namespace MailTriage

open Text

/-- Why an address cannot be read. -/
inductive UrlFault
  | unbalancedBracket
  | badFutureAddress
  | bracketedIPv4
  | notAnAddress (host : String)
  | deceptive (authority : String)
  deriving DecidableEq

def UrlFault.message : UrlFault → String
  | unbalancedBracket => "Invalid IPv6 URL"
  | badFutureAddress => "IPvFuture address is invalid"
  | bracketedIPv4 => "An IPv4 address cannot be in brackets"
  | notAnAddress host => quoted host ++ " does not appear to be an IPv4 or IPv6 address"
  | deceptive authority =>
    "netloc '" ++ authority ++ "' contains invalid characters under NFKC normalization"

namespace IpAddress

/-- A number from 0 to 255 without a zero in front. -/
def isOctet (cs : List Char) : Bool :=
  cs ≠ [] && cs.all Char.isDigit && cs.length ≤ 3 && (cs = ['0'] || cs.head? ≠ some '0') &&
    cs.foldl (fun n c => 10 * n + (c.toNat - 48)) 0 ≤ 255

def isVersion4 (cs : List Char) : Bool :=
  let octets := splitAll '.' cs
  octets.length = 4 && octets.all isOctet

def isHextet (cs : List Char) : Bool :=
  cs ≠ [] && cs.all isAsciiHexDigit && cs.length ≤ 4

/-- The number of groups between colons, where an address of four octets at the end counts for two;
`none` when something is no group. -/
def groupCount? : List (List Char) → Option Nat
  | [] => some 0
  | [last] =>
    if isHextet last then some 1
    else if isVersion4 last then some 2
    else none
  | first :: rest => if isHextet first then (groupCount? rest).map (· + 1) else none

/-- The groups of a part of an address; an empty part has none. -/
def groupsOf (cs : List Char) : List (List Char) :=
  if cs.isEmpty then [] else splitAll ':' cs

def cutAtGap : List Char → List Char × Option (List Char)
  | [] => ([], none)
  | ':' :: ':' :: rest => ([], some rest)
  | c :: rest =>
    let (front, back) := cutAtGap rest
    (c :: front, back)

/-- Eight groups, or at most seven with a gap of zeros between them. -/
def isPlainVersion6 (cs : List Char) : Bool :=
  match cutAtGap cs with
  | (all, none) => groupCount? (groupsOf all) = some 8
  | (front, some back) =>
    (groupsOf front).all isHextet &&
      (match groupCount? (groupsOf back) with
       | some n => (groupsOf front).length + n ≤ 7
       | none => false)

/-- An address of the later version, with a zone after a percent sign. -/
def isVersion6 (cs : List Char) : Bool :=
  !cs.contains '/' &&
    (match cutAt '%' cs with
     | (address, none) => isPlainVersion6 address
     | (address, some zone) => zone ≠ [] && !zone.contains '%' && isPlainVersion6 address)

/-- An address of a version to come: a letter v, its number, a point and the rest. -/
def isFuture (cs : List Char) : Bool :=
  match cs with
  | 'v' :: rest =>
    match cutAt '.' rest with
    | (version, some address) => version ≠ [] && version.all isAsciiHexDigit && address ≠ []
    | (_, none) => false
  | _ => false

end IpAddress

/-- The scheme and the authority of an address. -/
structure Url where
  scheme : List Char
  authority : List Char
  deriving DecidableEq

namespace Url

def isControlOrSpace (c : Char) : Bool := c.toNat ≤ 0x20

def isSchemeChar (c : Char) : Bool :=
  c.isAlphanum || c = '+' || c = '-' || c = '.'

def endsAuthority (c : Char) : Bool :=
  c = '/' || c = '?' || c = '#'

/-- Characters whose compatibility form holds one of the delimiters `/ ? # @ :`. -/
def deceptiveCodes : List Nat :=
  [0x2047, 0x2048, 0x2049, 0x2100, 0x2101, 0x2105, 0x2106, 0x2a74, 0xfe13, 0xfe16, 0xfe55, 0xfe56,
   0xfe5f, 0xfe6b, 0xff03, 0xff0f, 0xff1a, 0xff1f, 0xff20]

def checkHost (host : List Char) : Except UrlFault Unit :=
  if host.head? = some 'v' then
    if IpAddress.isFuture host then .ok () else .error .badFutureAddress
  else if IpAddress.isVersion4 host then .error .bracketedIPv4
  else if IpAddress.isVersion6 host then .ok ()
  else .error (.notAnAddress (String.ofList host))

/-- Checks an authority with brackets: nothing may stand in front of them, and only a colon and a
number after them. -/
def checkBracketed (authority : List Char) : Except UrlFault Unit :=
  let place := afterLast '@' authority
  match cutAt '[' place with
  | (front, some bracketed) =>
    let back := (after? ']' bracketed).getD []
    if front ≠ [] || (back ≠ [] && back.head? ≠ some ':') then .error .unbalancedBracket
    else checkHost (before ']' bracketed)
  | (_, none) => checkHost (before ':' place)

def checkBrackets (authority : List Char) : Except UrlFault Unit :=
  match authority.contains '[', authority.contains ']' with
  | false, false => .ok ()
  | true, true => checkBracketed authority
  | _, _ => .error .unbalancedBracket

def checkDeceptive (authority : List Char) : Except UrlFault Unit :=
  if authority.any fun c => deceptiveCodes.contains c.toNat then
    .error (.deceptive (String.ofList authority))
  else .ok ()

/-- Splits off the scheme, in lower case; without one it is empty. -/
def splitScheme (cs : List Char) : List Char × List Char :=
  match cutAt ':' cs with
  | (scheme, some rest) =>
    match scheme with
    | first :: _ =>
      if first.isAlpha && scheme.all isSchemeChar then (scheme.map Char.toLower, rest) else ([], cs)
    | [] => ([], cs)
  | (_, none) => ([], cs)

/-- What stands between two slashes at the beginning and the next delimiter. -/
def authorityOf : List Char → List Char
  | '/' :: '/' :: rest => rest.takeWhile fun c => !endsAuthority c
  | _ => []

/-- Reads an address. Control characters in front, tabs and line breaks do not count. -/
def parse (text : String) : Except UrlFault Url := do
  let cs := (text.toList.dropWhile isControlOrSpace).filter fun c =>
    c ≠ '\t' && c ≠ '\n' && c ≠ '\r'
  let (scheme, rest) := splitScheme cs
  let authority := authorityOf rest
  checkBrackets authority
  checkDeceptive authority
  return ⟨scheme, authority⟩

/-- The host, without the user, the number and the brackets around it, in lower case up to the zone;
none when it is empty. -/
def host? (url : Url) : Option String :=
  let place := afterLast '@' url.authority
  let host := match after? '[' place with
    | some bracketed => before ']' bracketed
    | none => before ':' place
  if host.isEmpty then none
  else
    let name := lower (String.ofList (before '%' host))
    let zone := match after? '%' host with
      | some zone => "%" ++ String.ofList zone
      | none => ""
    some (name ++ zone)

/-- Whether a browser may be sent there: a web scheme and some authority. -/
def isWeb (url : Url) : Bool :=
  (url.scheme = "http".toList || url.scheme = "https".toList) && url.authority ≠ []

end Url

end MailTriage
