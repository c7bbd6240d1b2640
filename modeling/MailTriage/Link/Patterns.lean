import MailTriage.Pattern.Node

/-!
# Patterns of links

What counts as a link in plain text and in HTML. A site is labels joined by points; a label has
letters, digits and inner hyphens, at most sixty-three of them. In plain text a site counts with a
scheme in front, or on its own when its last label has letters only and nothing that could belong to
it stands before it.
-/

namespace MailTriage.Link

open Pattern

def char (c : Char) : Node := .literal false c.toNat

def one (c : Char) : Item := .single c.toNat

def range (first last : Char) : Item := .span first.toNat last.toNat

def maybe (node : Node) : Node := .repeated .greedy 0 (some 1) node

def many (node : Node) : Node := .repeated .greedy 0 none node

def letters : List Item := [range 'a' 'z', range 'A' 'Z']

def lettersAndDigits : List Item := letters ++ [range '0' '9']

def label : Node :=
  .seq (.oneOf false lettersAndDigits)
    (maybe (.seq
      (.repeated .greedy 0 (some 61) (.oneOf false (lettersAndDigits ++ [one '-'])))
      (.oneOf false lettersAndDigits)))

def site : Node :=
  .seq label (many (.seq (char '.') label))

def siteNumber : Node :=
  maybe (.seq (char ':') (.repeated .greedy 1 (some 5) (.oneOf false [range '0' '9'])))

/-- Characters that end a path: blanks, and those that addresses do not hold. -/
def pathEnds : List Item :=
  [.family .space false, one '<', one '>', one '"', one '\x7b', one '\x7d', one '|', one '\\',
   one '^', .single 0x60, one '[', one ']']

def path : Node :=
  maybe (.seq (char '/') (many (.oneOf true pathEnds)))

def scheme : Node :=
  .alt
    (Node.ofList [Node.ofText "http", maybe (char 's'), Node.ofText "://"])
    (Node.ofText "ftp://")

def ignoringCase (root : Node) (groups : Nat) (dotAll : Bool) : Pattern :=
  { root := root, flags := { ignoreCase := true, unicode := true, dotAll := dotAll }
    groups := groups }

def schemePattern : Pattern :=
  ignoringCase (Node.ofList [scheme, site, siteNumber, path]) 0 false

/-- A site without a scheme, not right after an at sign, a letter, a digit, an underscore, a point
or a hyphen. -/
def barePattern : Pattern :=
  ignoringCase
    (Node.ofList
      [.behind true 1 1 (.oneOf false [one '@', .family .word false, one '.', one '-']),
       maybe (Node.ofText "www."), site, char '.',
       .repeated .greedy 2 none (.oneOf false letters), siteNumber, path, .anchor .wordEdge])
    0 false

def schemeOnly : Pattern := ignoringCase scheme 0 false

def blanks : Node := many (.oneOf false [.family .space false])

def quotes : List Item := [one '"', one '\x27']

/-- An anchor of HTML: the first group is its address, the second what it encloses. -/
def anchorPattern : Pattern :=
  ignoringCase
    (Node.ofList
      [Node.ofText "<a", .oneOf false [.family .space false],
       .repeated .lazy 0 none (.literal true '>'.toNat), Node.ofText "href", blanks,
         char '=', blanks,
       .oneOf false quotes, .group 1 (.repeated .greedy 1 none (.oneOf true quotes)),
       .oneOf false quotes, many (.literal true '>'.toNat), char '>',
       .group 2 (.repeated .lazy 0 none .any), Node.ofText "</a>"])
    2 true

def tagPattern : Pattern :=
  { root := Node.ofList
      [char '<', .repeated .greedy 1 none (.literal true '>'.toNat), char '>']
    flags := { unicode := true }
    groups := 0 }

end MailTriage.Link
