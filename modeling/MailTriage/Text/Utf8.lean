/-!
# UTF-8

Texts as bytes. Reading never fails: where bytes spell no character, the longest run that a
character could begin with, or a single byte, is read as the replacement character.
-/

namespace MailTriage.Text.Utf8

def encodeChar (c : Char) : List Nat :=
  let n := c.toNat
  if n < 0x80 then [n]
  else if n < 0x800 then [0xc0 + n / 0x40, 0x80 + n % 0x40]
  else if n < 0x10000 then [0xe0 + n / 0x1000, 0x80 + n / 0x40 % 0x40, 0x80 + n % 0x40]
  else [0xf0 + n / 0x40000, 0x80 + n / 0x1000 % 0x40, 0x80 + n / 0x40 % 0x40, 0x80 + n % 0x40]

def encode (cs : List Char) : List Nat := cs.flatMap encodeChar

/-- What stands for bytes that spell no character. -/
def replacement : Char := Char.ofNat 0xfffd

def isContinuation (b : Nat) : Bool := 0x80 ≤ b && b < 0xc0

/-- What a first byte asks for: how many bytes follow, the bounds of the first of them, and the part
of the code point that the byte itself carries. -/
structure Lead where
  more : Nat
  lowest : Nat
  highest : Nat
  bits : Nat

/-- What a byte that is not ASCII asks for, if a character can begin with it. -/
def lead? (b : Nat) : Option Lead :=
  if 0xc2 ≤ b && b < 0xe0 then some ⟨1, 0x80, 0xbf, b - 0xc0⟩
  else if b = 0xe0 then some ⟨2, 0xa0, 0xbf, 0⟩
  else if b = 0xed then some ⟨2, 0x80, 0x9f, 0xd⟩
  else if 0xe0 < b && b < 0xf0 then some ⟨2, 0x80, 0xbf, b - 0xe0⟩
  else if b = 0xf0 then some ⟨3, 0x90, 0xbf, 0⟩
  else if 0xf0 < b && b < 0xf4 then some ⟨3, 0x80, 0xbf, b - 0xf0⟩
  else if b = 0xf4 then some ⟨3, 0x80, 0x8f, 4⟩
  else none

/-- The bytes, at most `more`, that continue a character, with the code point that they complete. -/
def gather (code : Nat) : (more : Nat) → List Nat → Nat × Nat
  | 0, _ => (code, 0)
  | _ + 1, [] => (code, 0)
  | more + 1, b :: rest =>
    if isContinuation b then
      let (code, taken) := gather (code * 0x40 + (b - 0x80)) more rest
      (code, taken + 1)
    else (code, 0)

/-- A character that begins with a byte that is not ASCII, and how many of the following bytes are
read with it. -/
def charAfter (b : Nat) (rest : List Nat) : Char × Nat :=
  match lead? b, rest with
  | none, _ => (replacement, 0)
  | some _, [] => (replacement, 0)
  | some lead, second :: _ =>
    if lead.lowest ≤ second && second ≤ lead.highest then
      let (code, taken) := gather lead.bits lead.more rest
      if taken = lead.more then (Char.ofNat code, taken) else (replacement, taken)
    else (replacement, 0)

/-- Reads bytes, skipping some that have been read already. -/
def decodeFrom : (skip : Nat) → List Nat → List Char
  | _, [] => []
  | skip + 1, _ :: rest => decodeFrom skip rest
  | 0, b :: rest =>
    if b < 0x80 then Char.ofNat b :: decodeFrom 0 rest
    else
      let (c, taken) := charAfter b rest
      c :: decodeFrom taken rest

def decode (bytes : List Nat) : List Char := decodeFrom 0 bytes

end MailTriage.Text.Utf8
