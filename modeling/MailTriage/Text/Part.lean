/-!
# Parts of texts

Texts are trimmed by one of three sets of blanks: the separators of Unicode together with the
separator controls, the White_Space property, which numbers are trimmed by, and the six ASCII
blanks. They are cut at the first or the last occurrence of a separator, and searched for other
texts.
-/

namespace MailTriage.Text

/-! ## Blanks -/

def isWhiteSpace (c : Char) : Bool :=
  let n := c.toNat
  (9 ≤ n && n ≤ 13) || n == 0x20 || n == 0x85 || n == 0xa0 || n == 0x1680 ||
    (0x2000 ≤ n && n ≤ 0x200a) || n == 0x2028 || n == 0x2029 || n == 0x202f || n == 0x205f ||
    n == 0x3000

/-- White space, and the four information separators. -/
def isBlank (c : Char) : Bool :=
  isWhiteSpace c || (0x1c ≤ c.toNat && c.toNat ≤ 0x1f)

/-- Tab, line feed, vertical tab, form feed, carriage return and space. -/
def isAsciiBlank (c : Char) : Bool :=
  (9 ≤ c.toNat && c.toNat ≤ 13) || c.toNat == 0x20

def trimWhere (p : Char → Bool) (cs : List Char) : List Char :=
  ((cs.dropWhile p).reverse.dropWhile p).reverse

def strip (s : String) : String :=
  String.ofList (trimWhere isBlank s.toList)

def stripEnd (unwanted : List Char) (cs : List Char) : List Char :=
  (cs.reverse.dropWhile (unwanted.contains ·)).reverse

def isBlankText (s : String) : Bool :=
  s.toList.all isBlank

/-! ## Cutting -/

/-- Cuts a list at the first occurrence of a separator, which is dropped. -/
def cutAt (separator : Char) : List Char → List Char × Option (List Char)
  | [] => ([], none)
  | c :: rest =>
    if c = separator then ([], some rest)
    else
      let (before, after) := cutAt separator rest
      (c :: before, after)

def splitAll (separator : Char) : List Char → List (List Char)
  | [] => [[]]
  | c :: rest =>
    if c = separator then [] :: splitAll separator rest
    else
      match splitAll separator rest with
      | [] => [[c]]
      | word :: words => (c :: word) :: words

def before (separator : Char) (cs : List Char) : List Char :=
  (cutAt separator cs).1

def after? (separator : Char) (cs : List Char) : Option (List Char) :=
  (cutAt separator cs).2

def afterLast (separator : Char) (cs : List Char) : List Char :=
  (cs.reverse.takeWhile (· ≠ separator)).reverse

/-- What stands before the last occurrence of a separator; nothing when there is none. -/
def beforeLast (separator : Char) (cs : List Char) : List Char :=
  ((cs.reverse.dropWhile (· ≠ separator)).drop 1).reverse

/-! ## Searching -/

def occursIn (part : List Char) : List Char → Bool
  | [] => part.isEmpty
  | c :: rest => part.isPrefixOf (c :: rest) || occursIn part rest

def contains (whole part : String) : Bool :=
  occursIn part.toList whole.toList

def beginsWith (whole part : String) : Bool :=
  part.toList.isPrefixOf whole.toList

def endsWith (whole part : String) : Bool :=
  part.toList.isSuffixOf whole.toList

end MailTriage.Text
