import MailTriage.Number.Reading
import MailTriage.Text.Class

/-!
# Words of scripts

A script is read as a list of words: names, numbers, texts and signs. Blanks, line breaks and
comments part them; whether a line break stands before a word is kept, since a statement may end
there.
-/

namespace MailTriage.Script

open Text

/-- A word of a script. -/
inductive Token
  | name (s : String)
  | number (x : Binary64)
  | text (s : String)
  | sign (s : String)
  deriving DecidableEq

/-- A word and whether it is the first of its line. -/
structure Lexeme where
  token : Token
  newLine : Bool
  deriving DecidableEq

def opensName (c : Char) : Bool := c = '$' || c = '_' || startsName c

def isInName (c : Char) : Bool := c = '$' || continuesName c

def isLineBreak (c : Char) : Bool :=
  c = '\n' || c = '\r' || c.toNat = 0x2028 || c.toNat = 0x2029

/-- The signs, longer ones first. -/
def signs : List String :=
  ["===", "!==", "==", "!=", "<=", ">=", "&&", "||", "++", "--", "+=", "-=", "*=", "/=", "%=",
   "\x7b", "\x7d", "(", ")", "[", "]", ";", ",", ".", "<", ">", "+", "-", "*", "/", "%", "!", "=",
   "?", ":"]

def signAt? (cs : List Char) : Option String :=
  signs.find? fun s => s.toList.isPrefixOf cs

/-- A number written with decimal digits, and what follows it. -/
def decimalAt (cs : List Char) : Option (Binary64 × List Char) :=
  let whole := cs.takeWhile Char.isDigit
  let rest := cs.drop whole.length
  let fraction := match rest with
    | '.' :: more => '.' :: more.takeWhile Char.isDigit
    | _ => []
  let rest := rest.drop fraction.length
  let exponent := match rest with
    | mark :: more =>
      if mark = 'e' || mark = 'E' then
        let sign := match more with
          | '+' :: _ => ['+']
          | '-' :: _ => ['-']
          | _ => []
        let digits := (more.drop sign.length).takeWhile Char.isDigit
        if digits.isEmpty then [] else mark :: (sign ++ digits)
      else []
    | [] => []
  (Number.decimal? false (whole ++ fraction ++ exponent)).map fun x =>
    (x, rest.drop exponent.length)

def escapedChar (c : Char) : Char :=
  if c = 'n' then '\n'
  else if c = 't' then '\t'
  else if c = 'r' then '\r'
  else if c = 'b' then Char.ofNat 8
  else if c = 'f' then Char.ofNat 12
  else if c = 'v' then Char.ofNat 11
  else if c = '0' then Char.ofNat 0
  else c

/-- The characters of a text up to its closing quote, and what follows it. -/
def textUntil (quote : Char) : List Char → Option (List Char × List Char)
  | [] => none
  | '\\' :: 'x' :: a :: b :: rest =>
    if isAsciiHexDigit a && isAsciiHexDigit b then
      (textUntil quote rest).map fun (s, after) => (Char.ofNat (hexNumber [a, b]) :: s, after)
    else none
  | '\\' :: 'u' :: a :: b :: c :: d :: rest =>
    if [a, b, c, d].all isAsciiHexDigit then
      (textUntil quote rest).map fun (s, after) => (Char.ofNat (hexNumber [a, b, c, d]) :: s, after)
    else none
  | '\\' :: c :: rest =>
    (textUntil quote rest).map fun (s, after) =>
      (if isLineBreak c then s else escapedChar c :: s, after)
  | c :: rest =>
    if c = quote then some ([], rest)
    else if c = '\n' || c = '\r' then none
    else (textUntil quote rest).map fun (s, after) => (c :: s, after)

/-- What follows a comment over lines, and whether it held a line break. -/
def afterComment : List Char → Option (List Char × Bool)
  | [] => none
  | '*' :: '/' :: rest => some (rest, false)
  | c :: rest => (afterComment rest).map fun (after, broken) => (after, broken || isLineBreak c)

def tokenAt (cs : List Char) : Option (Token × List Char) :=
  match cs with
  | [] => none
  | c :: rest =>
    if opensName c then
      some (.name (String.ofList (c :: rest.takeWhile isInName)), rest.dropWhile isInName)
    else if c.isDigit || (c = '.' && (rest.head?.map Char.isDigit).getD false) then
      (decimalAt cs).map fun (x, after) => (.number x, after)
    else if c = '"' || c = '\x27' then
      (textUntil c rest).map fun (s, after) => (.text (String.ofList s), after)
    else (signAt? cs).map fun s => (.sign s, cs.drop s.length)

/-- The words of a script; `none` when some character begins none. -/
def lexemes (newLine : Bool) (cs : List Char) : (fuel : Nat) → Option (List Lexeme)
  | 0 => some []
  | fuel + 1 =>
    match cs with
    | [] => some []
    | '/' :: '/' :: rest => lexemes newLine (rest.dropWhile fun c => !isLineBreak c) fuel
    | '/' :: '*' :: rest => do
      let (after, broken) ← afterComment rest
      lexemes (newLine || broken) after fuel
    | c :: rest =>
      if isLineBreak c then lexemes true rest fuel
      else if isBlank c || c.toNat = 0xfeff then lexemes newLine rest fuel
      else do
        let (token, after) ← tokenAt cs
        let more ← lexemes false after fuel
        return ⟨token, newLine⟩ :: more

end MailTriage.Script
