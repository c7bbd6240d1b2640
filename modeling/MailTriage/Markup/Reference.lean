import MailTriage.Markup.Entity
import MailTriage.Number.Reading
import MailTriage.Text.Class

/-!
# Character references

A reference is an ampersand with a number or a name. Numbers that name no character stand for the
replacement character or for nothing, and those of an old code page for the characters of that page.
A name without a semicolon is taken as far as some name reaches. Whatever is no reference stays as
it is.
-/

namespace MailTriage.Markup

open MailTriage.Text

/-- Numbers that stand for other characters. -/
def replacedCodes : List (Nat × Nat) :=
  (wordsOf
    ["0:fffd d:d 80:20ac 81:81 82:201a 83:192 84:201e 85:2026 86:2020 87:2021 88:2c6 89:2030",
     "8a:160 8b:2039 8c:152 8d:8d 8e:17d 8f:8f 90:90 91:2018 92:2019 93:201c 94:201d 95:2022",
     "96:2013 97:2014 98:2dc 99:2122 9a:161 9b:203a 9c:153 9d:9d 9e:17e 9f:178"]).map fun word =>
    let (code, image) := cutAt ':' word
    (hexNumber code, hexNumber (image.getD []))

/-- Numbers that stand for nothing: controls and code points that are no characters. -/
def isIgnoredCode (n : Nat) : Bool :=
  (1 ≤ n && n ≤ 8) || n = 0xb || (0xe ≤ n && n ≤ 0x1f) || (0x7f ≤ n && n ≤ 0x9f) ||
    (0xfdd0 ≤ n && n ≤ 0xfdef) || 0xfffe ≤ n % 0x10000

def ofCode (n : Nat) : List Char :=
  match replacedCodes.lookup n with
  | some image => [Char.ofNat image]
  | none =>
    if (0xd800 ≤ n && n ≤ 0xdfff) || 0x10ffff < n then [Char.ofNat 0xfffd]
    else if isIgnoredCode n then []
    else [Char.ofNat n]

def semicolonAt (rest : List Char) : Nat :=
  if rest.head? = some ';' then 1 else 0

def isNameChar (c : Char) : Bool :=
  !(c = '\t' || c = '\n' || c.toNat = 12 || c = ' ' || c = '<' || c = '&' || c = '#' || c = ';')

/-- The longest name without a semicolon, of two characters at least, that a run begins with. -/
def longestBare? (run : List Char) : (length : Nat) → Option (List Char × Nat)
  | 0 => none
  | length + 1 =>
    if length = 0 then none
    else
      ((bareEntities.get? (String.ofList (run.take (length + 1)))).map (·, length + 1)).or
        (longestBare? run length)

/-- A named reference: its characters, and how many characters of the run it takes. -/
def named? (run : List Char) (semicolon : Bool) : Option (List Char × Nat) :=
  match if semicolon then entities.get? (String.ofList run) else none with
  | some characters => some (characters, run.length + 1)
  | none => longestBare? run run.length

/-- A reference that begins after an ampersand: its characters, and how many characters it takes. A
decimal number past the digit limit is given back as the number of its digits. -/
def reference (cs : List Char) : Except Nat (Option (List Char × Nat)) :=
  match cs with
  | '#' :: mark :: rest =>
    if mark.isDigit then
      let digits := (mark :: rest).takeWhile Char.isDigit
      if Number.digitLimit < digits.length then .error digits.length
      else
        let taken := 1 + digits.length
        .ok (some (ofCode (Number.ofDigits digits), taken + semicolonAt (cs.drop taken)))
    else if mark = 'x' || mark = 'X' then
      let digits := rest.takeWhile isAsciiHexDigit
      let taken := 2 + digits.length
      if digits.isEmpty then .ok none
      else .ok (some (ofCode (hexNumber digits), taken + semicolonAt (cs.drop taken)))
    else .ok none
  | _ =>
    let run := (cs.takeWhile isNameChar).take 32
    .ok (named? run ((cs.drop run.length).head? = some ';'))

def decode : List Char → Except Nat (List Char)
  | [] => .ok []
  | c :: rest =>
    if c = '&' then
      match reference rest with
      | .error digits => .error digits
      | .ok none => (decode rest).map (c :: ·)
      | .ok (some (characters, taken)) => (decode (rest.drop taken)).map (characters ++ ·)
    else (decode rest).map (c :: ·)
  termination_by cs => cs.length
  decreasing_by all_goals simp only [List.length_drop, List.length_cons]; omega

end MailTriage.Markup
