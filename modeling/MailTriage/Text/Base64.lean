/-!
# Base64 for addresses

Bytes written with sixty-four signs, six bits a sign: letters, digits, hyphen and underscore, with
equals signs up to a multiple of four. Reading is lenient: plus and slash are taken for hyphen and
underscore, other signs are skipped, and what follows a complete padding is ignored. It fails when
signs are left that make no whole group.
-/

namespace MailTriage.Text.Base64

def sign (n : Nat) : Char :=
  if n < 26 then Char.ofNat ('A'.toNat + n)
  else if n < 52 then Char.ofNat ('a'.toNat + (n - 26))
  else if n < 62 then Char.ofNat ('0'.toNat + (n - 52))
  else if n = 62 then '-'
  else '_'

def bits? (c : Char) : Option Nat :=
  let n := c.toNat
  if 'A' ≤ c && c ≤ 'Z' then some (n - 'A'.toNat)
  else if 'a' ≤ c && c ≤ 'z' then some (n - 'a'.toNat + 26)
  else if '0' ≤ c && c ≤ '9' then some (n - '0'.toNat + 52)
  else if c = '-' || c = '+' then some 62
  else if c = '_' || c = '/' then some 63
  else none

def encode : List Nat → List Char
  | [] => []
  | [a] => [sign (a / 4), sign (a % 4 * 16), '=', '=']
  | [a, b] => [sign (a / 4), sign (a % 4 * 16 + b / 16), sign (b % 16 * 4), '=']
  | a :: b :: c :: rest =>
    sign (a / 4) :: sign (a % 4 * 16 + b / 16) :: sign (b % 16 * 4 + c / 64) :: sign
      (c % 64) :: encode rest

/-- How far the reading of a group of four signs has come. -/
inductive Group
  | start
  | one (bits : Nat)
  | two (bits : Nat)
  | three (bits : Nat)

/-- Takes a sign into a group: the next state, and a byte when one is complete. -/
def Group.take (group : Group) (bits : Nat) : Group × List Nat :=
  match group with
  | start => (one bits, [])
  | one left => (two (bits % 16), [left * 4 + bits / 16])
  | two left => (three (bits % 4), [left * 16 + bits / 4])
  | three left => (start, [left * 64 + bits])

/-- How many equals signs complete a group, if any do. -/
def Group.padding? : Group → Option Nat
  | start => none
  | one _ => none
  | two _ => some 2
  | three _ => some 1

/-- Reads signs; `pads` counts the equals signs just before. -/
def decodeFrom (group : Group) (pads : Nat) : List Char → Option (List Nat)
  | [] =>
    match group with
    | .start => some []
    | _ => none
  | c :: rest =>
    if c = '=' then
      match group.padding? with
      | none => decodeFrom group pads rest
      | some needed => if needed ≤ pads + 1 then some [] else decodeFrom group (pads + 1) rest
    else
      match bits? c with
      | none => decodeFrom group pads rest
      | some bits =>
        let (group, bytes) := group.take bits
        (decodeFrom group 0 rest).map (bytes ++ ·)

/-- Reads signs as bytes; beyond ASCII nothing is a sign. -/
def decode (cs : List Char) : Option (List Nat) :=
  if cs.all fun c => c.toNat < 0x80 then decodeFrom .start 0 cs else none

/-- The signs with equals signs added up to a multiple of four. -/
def pad (cs : List Char) : List Char :=
  cs ++ List.replicate ((4 - cs.length % 4) % 4) '='

end MailTriage.Text.Base64
