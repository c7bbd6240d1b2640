import MailTriage.Email
import MailTriage.Text.Part

/-!
# Address headers

A header names mailboxes: an address alone, or a phrase with an address in angle brackets. Phrases
may be quoted, and comments in parentheses may stand almost anywhere; those around a bare address
serve as its name. A header that does not name exactly one mailbox, or whose parentheses do not
match, names none.
-/

namespace MailTriage.Address

open Text

/-- A display name and an address. -/
structure Mailbox where
  name : List Char := []
  address : List Char := []
  deriving DecidableEq, Inhabited

/-- What is left of a header, and the comments seen in the current mailbox. -/
structure Scan where
  rest : List Char
  comments : List (List Char) := []

abbrev Scanner := StateM Scan

def specials : List Char := "()<>@,:;.\"[]".toList

def spaces : List Char := [' ', '\t', '\r', '\n']

def atomEnds : List Char := specials ++ spaces

/-- What ends a word of a phrase; points may stand inside. -/
def phraseEnds : List Char := atomEnds.filter (· ≠ '.')

/-- The content of a comment after its opening parenthesis, and what follows it. Inner comments,
`depth` of them open, lose their parentheses; a backslash guards the next character. -/
def comment (depth : Nat) (guarded : Bool) : List Char → List Char × List Char
  | [] => ([], [])
  | c :: rest =>
    let keep : List Char × List Char :=
      let (inner, after) := comment depth false rest
      (c :: inner, after)
    if guarded then keep
    else if c = ')' || c = '\r' then
      if depth = 0 then ([], rest) else comment (depth - 1) false rest
    else if c = '(' then comment (depth + 1) false rest
    else if c = '\\' then comment depth true rest
    else keep

/-- What stands before a closing character, and what follows it; a line break closes too. -/
def delimited (close : Char) (guarded : Bool) : List Char → List Char × List Char
  | [] => ([], [])
  | c :: rest =>
    let keep : List Char × List Char :=
      let (inner, after) := delimited close false rest
      (c :: inner, after)
    if guarded then keep
    else if c = close || c = '\r' then ([], rest)
    else if c = '\\' then delimited close true rest
    else keep

/-- A quoted text with its quotes and guards. -/
def requoted (cs : List Char) : List Char :=
  '"' :: (cs.flatMap (fun c => if c = '\\' || c = '"' then ['\\', c] else [c]) ++ ['"'])

/-- Takes a comment, whose parenthesis has been taken. -/
def takeComment (rest : List Char) : Scanner Unit :=
  modify fun s =>
    let (inner, after) := comment 0 false rest
    { rest := after, comments := s.comments ++ [inner] }

/-- Skips blanks and comments; the blanks that are no line breaks are returned. -/
def skipBlank : (fuel : Nat) → Scanner (List Char)
  | 0 => pure []
  | fuel + 1 => do
    match (← get).rest with
    | [] => pure []
    | c :: rest =>
      if spaces.contains c then do
        modify fun s => { s with rest := rest }
        let more ← skipBlank fuel
        pure (if c = '\n' || c = '\r' then more else c :: more)
      else if c = '(' then do
        takeComment rest
        skipBlank fuel
      else pure []

def skip : Scanner (List Char) := do
  skipBlank (← get).rest.length

def word (ends : List Char) : Scanner (List Char) := do
  let rest := (← get).rest
  modify fun s => { s with rest := rest.dropWhile fun c => !ends.contains c }
  pure (rest.takeWhile fun c => !ends.contains c)

/-- Takes what a closing character ends, after its opening one. -/
def takeDelimited (close : Char) (rest : List Char) : Scanner (List Char) := do
  let (inner, after) := delimited close false rest
  modify fun s => { s with rest := after }
  pure inner

def phrase : (fuel : Nat) → Scanner (List (List Char))
  | 0 => pure []
  | fuel + 1 => do
    match (← get).rest with
    | [] => pure []
    | c :: rest =>
      if spaces.contains c then do
        modify fun s => { s with rest := rest }
        phrase fuel
      else if c = '"' then do
        let quoted ← takeDelimited '"' rest
        return quoted :: (← phrase fuel)
      else if c = '(' then do
        takeComment rest
        phrase fuel
      else if phraseEnds.contains c then pure []
      else do
        let first ← word phraseEnds
        return first :: (← phrase fuel)

/-- The site of an address; none when it holds another at sign. -/
def domain (parts : List Char) : (fuel : Nat) → Scanner (List Char)
  | 0 => pure parts
  | fuel + 1 => do
    match (← get).rest with
    | [] => pure parts
    | c :: rest =>
      if c = ' ' || c = '\t' then do
        modify fun s => { s with rest := rest }
        domain parts fuel
      else if c = '(' then do
        takeComment rest
        domain parts fuel
      else if c = '[' then do
        let inner ← takeDelimited ']' rest
        domain (parts ++ '[' :: (inner ++ [']'])) fuel
      else if c = '.' then do
        modify fun s => { s with rest := rest }
        domain (parts ++ ['.']) fuel
      else if c = '@' then pure []
      else if atomEnds.contains c then pure parts
      else do
        let part ← word atomEnds
        domain (parts ++ part) fuel

def dropBlankEnd (parts : List (List Char)) : List (List Char) :=
  match parts.getLast? with
  | some last => if last.all isBlank then parts.dropLast else parts
  | none => parts

def localParts (parts : List (List Char)) : (fuel : Nat) → Scanner (List (List Char))
  | 0 => pure parts
  | fuel + 1 => do
    match (← get).rest with
    | [] => pure parts
    | c :: rest =>
      if c = '.' then do
        modify fun s => { s with rest := rest }
        let _ ← skip
        localParts (dropBlankEnd parts ++ [['.']]) fuel
      else if c = '"' then do
        let quoted ← takeDelimited '"' rest
        let blanks ← skip
        localParts (parts ++ requoted quoted :: (if blanks.isEmpty then [] else [blanks])) fuel
      else if atomEnds.contains c then pure (dropBlankEnd parts)
      else do
        let part ← word atomEnds
        let blanks ← skip
        localParts (parts ++ part :: (if blanks.isEmpty then [] else [blanks])) fuel

/-- An address; one whose site cannot be read is empty. -/
def addressSpec : Scanner (List Char) := do
  let _ ← skip
  let front := (← localParts [] (← get).rest.length).flatten
  match (← get).rest with
  | '@' :: rest => do
    modify fun s => { s with rest := rest }
    let _ ← skip
    let site ← domain [] (← get).rest.length
    pure (if site.isEmpty then [] else front ++ '@' :: site)
  | _ => pure front

/-- The address between angle brackets, after the opening one; sites of a route in front of it are
left out. -/
def routeAddress (routed : Bool) : (fuel : Nat) → Scanner (List Char)
  | 0 => pure []
  | fuel + 1 => do
    match (← get).rest with
    | [] => pure []
    | c :: rest =>
      if routed then do
        let _ ← domain [] (c :: rest).length
        let _ ← skip
        routeAddress false fuel
      else if c = '>' then do
        modify fun s => { s with rest := rest }
        pure []
      else if c = '@' || c = ':' then do
        modify fun s => { s with rest := rest }
        let _ ← skip
        routeAddress (c = '@') fuel
      else do
        let address ← addressSpec
        modify fun s => { s with rest := s.rest.drop 1 }
        pure address

def spaced (texts : List (List Char)) : List Char :=
  List.intercalate [' '] texts

/-- The first of the words of a phrase as an address, with the comments for its name. -/
def wordAsAddress (words : List (List Char)) : Scanner (List Mailbox) := do
  let comments := (← get).comments
  match words with
  | [] => pure []
  | first :: _ => pure [⟨spaced comments, first⟩]

/-- A phrase with an address in angle brackets, whose opening one has been taken. -/
def bracketed (words : List (List Char)) : Scanner (List Mailbox) := do
  let _ ← skip
  let address ← routeAddress false (2 * (← get).rest.length + 1)
  let comments := (← get).comments
  let name := spaced words
  let name := if comments.isEmpty then name else name ++ " (".toList ++ spaced comments ++ [')']
  pure [⟨name, address⟩]

def skipComma : Scanner Unit := do
  let _ ← skip
  match (← get).rest with
  | ',' :: rest => modify fun s => { s with rest := rest }
  | _ => pure ()

mutual

def mailbox : (fuel : Nat) → Scanner (List Mailbox)
  | 0 => do
    modify fun s => { s with rest := [] }
    pure []
  | fuel + 1 => do
    modify fun s => { s with comments := [] }
    let _ ← skip
    let start := (← get).rest
    let words ← phrase start.length
    let _ ← skip
    let found ← match (← get).rest with
      | [] => wordAsAddress words
      | c :: rest =>
        if c = '.' || c = '@' then do
          modify fun s => { s with rest := start }
          let address ← addressSpec
          pure [⟨spaced (← get).comments, address⟩]
        else if c = ':' then do
          modify fun s => { s with rest := rest }
          members fuel
        else if c = '<' then do
          modify fun s => { s with rest := rest }
          bracketed words
        else do
          let found ← wordAsAddress words
          if words.isEmpty && specials.contains c then modify fun s => { s with rest := rest }
          pure found
    skipComma
    pure found

def members : (fuel : Nat) → Scanner (List Mailbox)
  | 0 => pure []
  | fuel + 1 => do
    if (← get).rest.isEmpty then pure []
    else do
      let _ ← skip
      match (← get).rest with
      | ';' :: rest => do
        modify fun s => { s with rest := rest }
        pure []
      | _ => do
        let found ← mailbox fuel
        return found ++ (← members fuel)

end

/-- The mailboxes of a header; what is none counts as an empty one. -/
def mailboxes : (fuel : Nat) → Scanner (List Mailbox)
  | 0 => pure []
  | fuel + 1 => do
    let rest := (← get).rest
    if rest.isEmpty then pure []
    else do
      let found ← mailbox (2 * rest.length + 2)
      let found := if found.isEmpty then [{}] else found
      return found ++ (← mailboxes fuel)

/-- A text without its quoted parts; a quote without its partner stays. The quote that is open is
given by what has been seen since. -/
def unquoted (opened : Option (List Char)) (guarded : Bool) : List Char → List Char
  | [] => (opened.getD []).reverse
  | c :: rest =>
    let onward (guarded : Bool) : List Char :=
      match opened with
      | some seen => unquoted (some (c :: seen)) guarded rest
      | none => c :: unquoted none guarded rest
    if guarded then onward false
    else if c = '\\' then onward true
    else if c = '"' then
      match opened with
      | some _ => unquoted none false rest
      | none => unquoted (some ['"']) false rest
    else onward false

/-- Whether parentheses match, with `depth` of them open. -/
def isBalanced (depth : Nat) (guarded : Bool) : List Char → Bool
  | [] => depth = 0
  | c :: rest =>
    if guarded then isBalanced depth false rest
    else if c = '\\' then isBalanced depth true rest
    else if c = '(' then isBalanced (depth + 1) false rest
    else if c = ')' then depth ≠ 0 && isBalanced (depth - 1) false rest
    else isBalanced depth false rest

/-- What is read in place of a header whose parentheses do not match. -/
def placeholder : List Char := "(\x27\x27, \x27\x27)".toList

/-- The one mailbox that a header names; an empty one when there is none, or more than one. -/
def parse (header : List Char) : Mailbox :=
  let text := if isBalanced 0 false (unquoted none false header) then header else placeholder
  match (mailboxes text.length).run ⟨text, []⟩ with
  | ([only], _) => if only.address.contains '[' then {} else only
  | _ => {}

end MailTriage.Address

namespace MailTriage

/-- The sender that a header names. Without an address its name is the phrase, or the header
itself. -/
def Sender.ofHeader (header : String) : Sender :=
  let found := Address.parse header.toList
  if found.address.contains '@' then ⟨String.ofList found.address, String.ofList found.name⟩
  else
    ⟨"", if found.name.isEmpty then Text.strip header else String.ofList found.name⟩

end MailTriage
