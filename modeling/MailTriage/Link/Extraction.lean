import MailTriage.Email
import MailTriage.Link.Patterns
import MailTriage.Markup.Reference
import MailTriage.Pattern.Matcher
import MailTriage.Text.Part
import MailTriage.Url

/-!
# Extracting links

The links of an email are the web addresses in the anchors of its HTML body, or else what looks like
an address or a site in its plain body. Each address counts once, at its first place.
-/

namespace MailTriage

open Text

/-- Why the links of a text cannot be listed. -/
inductive LinkFault
  | badUrl (fault : UrlFault)
  /-- A character reference with more digits than are read. -/
  | tooManyDigits (count : Nat)
  deriving DecidableEq

def Number.tooManyDigitsText (count : Nat) : String :=
  s!"Exceeds the limit ({digitLimit} digits) for integer string conversion: " ++
    s!"value has {count} digits; use sys.set_int_max_str_digits() to increase the limit"

def LinkFault.message : LinkFault → String
  | badUrl fault => fault.message
  | tooManyDigits count => Number.tooManyDigitsText count

namespace Link

def trailingPunctuation : List Char := ".,;:!?)\x27\"".toList

/-- A link to an address; without a scheme the secure one is meant. -/
def make (url text : String) : Except LinkFault Link :=
  let full :=
    if (schemeOnly.matchAt? url.toList.toArray 0).isSome then url else "https://" ++ url
  match Url.parse full with
  | .error fault => .error (.badUrl fault)
  | .ok parsed => .ok ⟨full, text, parsed.host?.getD "invalid-url"⟩

def found (pattern : Pattern) (text : String) : List String :=
  let cs := text.toList.toArray
  (pattern.allMatches cs).map fun hit =>
    String.ofList (stripEnd trailingPunctuation (Pattern.slice cs hit.first hit.last))

/-- Adds the sites that occur in none of the addresses before them. -/
def addSites (addresses : List String) : List String → List String
  | [] => addresses
  | site :: rest =>
    if addresses.any fun address => contains address site then addSites addresses rest
    else addSites (addresses ++ [site]) rest

/-- The links in a plain text: first those with a scheme, then the bare sites. -/
def ofText (text : String) : Except LinkFault (List Link) :=
  (addSites (found schemePattern text) (found barePattern text)).mapM fun url => make url url

def without (pattern : Pattern) (text : String) : List Char :=
  let cs := text.toList.toArray
  let (kept, last) := (pattern.allMatches cs).foldl
    (fun (kept, last) hit => (kept ++ Pattern.slice cs last hit.first, hit.last)) ([], 0)
  kept ++ Pattern.slice cs last cs.size

/-- A text with its character references replaced. -/
def decoded (cs : List Char) : Except LinkFault String :=
  match Markup.decode cs with
  | .ok plain => .ok (String.ofList plain)
  | .error count => .error (.tooManyDigits count)

/-- The link of an anchor, if it leads to the web. Without a text of its own its address is
shown. -/
def ofAnchor (address inner : String) : Except LinkFault (Option Link) := do
  let url ← decoded (strip address).toList
  if beginsWith (lower url) "http://" || beginsWith (lower url) "https://" then
    let text := strip (← decoded (without tagPattern inner))
    return some (← make url (if text.isEmpty then url else text))
  else return none

def ofHtml (markup : String) : Except LinkFault (List Link) := do
  let cs := markup.toList.toArray
  let links ← (anchorPattern.allMatches cs).mapM fun hit =>
    ofAnchor ((hit.group? cs 1).getD "") ((hit.group? cs 2).getD "")
  return links.filterMap id

/-- Keeps the first of several links with one address. -/
def distinct (links : List Link) : List Link :=
  links.foldl (fun kept link => if kept.any (·.url = link.url) then kept else kept ++ [link]) []

/-- The links of an email: those of the HTML body, or, when it has none, those of the plain body. -/
def ofBodies (body htmlBody : String) : Except LinkFault (List Link) := do
  match ← ofHtml htmlBody with
  | [] => distinct <$> ofText body
  | links => return distinct links

end Link

end MailTriage
