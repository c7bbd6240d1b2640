import MailTriage.Text.Class

/-!
# Quoted texts

Messages show a text between quotes: single ones, or double ones when the text holds a single and no
double quote. A backslash guards the quote and itself, and whatever cannot be shown is written as an
escape of two, four or eight hexadecimal digits.
-/

namespace MailTriage.Text

def hexDigitChar (n : Nat) : Char :=
  if n < 10 then Char.ofNat (48 + n) else Char.ofNat (87 + n)

/-- The last `width` hexadecimal digits of a number. -/
def hexDigits : (width : Nat) → Nat → List Char
  | 0, _ => []
  | width + 1, n => hexDigits width (n / 16) ++ [hexDigitChar (n % 16)]

namespace Quoted

def quoteFor (cs : List Char) : Char :=
  if cs.contains '\x27' && !cs.contains '"' then '"' else '\x27'

def encodeChar (quote c : Char) : List Char :=
  if c = quote ∨ c = '\\' then ['\\', c]
  else if c = '\n' then ['\\', 'n']
  else if c = '\r' then ['\\', 'r']
  else if c = '\t' then ['\\', 't']
  else if isPrintable c then [c]
  else if c.toNat < 0x100 then '\\' :: 'x' :: hexDigits 2 c.toNat
  else if c.toNat < 0x10000 then '\\' :: 'u' :: hexDigits 4 c.toNat
  else '\\' :: 'U' :: hexDigits 8 c.toNat

def encode (cs : List Char) : List Char :=
  let quote := quoteFor cs
  quote :: (cs.flatMap (encodeChar quote) ++ [quote])

end Quoted

def quoted (s : String) : String :=
  String.ofList (Quoted.encode s.toList)

end MailTriage.Text
