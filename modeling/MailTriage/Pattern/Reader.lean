import MailTriage.Number.Reading
import MailTriage.Pattern.CharacterName
import MailTriage.Pattern.Cursor

/-!
# Reading patterns

From the text of a pattern to its tree. Alternatives are parted by bars, a sequence is read item by
item, and a quantifier takes back the item before it. All counts of fuel are bounded by the length
of the text, since every step but the entry into a group takes a token.
-/

namespace MailTriage.Pattern

open MailTriage.Text
open MailTriage.Number

/-- The first repetition count that is too large. -/
def repeatLimit : Nat := 4294967295

def lookbehindLimit : Nat := 4294967295

def octalNumber (digits : List Char) : Nat :=
  digits.foldl (fun n c => 8 * n + (c.toNat - 48)) 0

def controlEscape? (c : Char) : Option Nat :=
  if c = 'a' then some 7
  else if c = 'b' then some 8
  else if c = 'f' then some 12
  else if c = 'n' then some 10
  else if c = 'r' then some 13
  else if c = 't' then some 9
  else if c = 'v' then some 11
  else if c = '\\' then some 92
  else none

def familyEscape? (c : Char) : Option Item :=
  if c = 'd' then some (.family .digit false)
  else if c = 'D' then some (.family .digit true)
  else if c = 's' then some (.family .space false)
  else if c = 'S' then some (.family .space true)
  else if c = 'w' then some (.family .word false)
  else if c = 'W' then some (.family .word true)
  else none

def anchorEscape? (c : Char) : Option Anchor :=
  if c = 'A' then some .textStart
  else if c = 'b' then some .wordEdge
  else if c = 'B' then some .wordInside
  else if c = 'Z' then some .textEnd
  else none

namespace Reader

/-- A code point in a fixed number of hexadecimal digits. -/
def hexEscape (letter : Char) (width : Nat) : Reader Nat := do
  let digits ← takeWhile isAsciiHexDigit width
  let escape := '\\' :: letter :: digits
  if digits.length = width then
    let code := hexNumber digits
    if 0x7fffffff < code then throw .codeTooLarge
    if 0x10ffff < code then refuse (.badEscape (String.ofList escape)) escape.length
    return code
  else
    refuse (.incompleteEscape (String.ofList escape)) escape.length

/-- A code point given by its name between braces. -/
def namedEscape : Reader Nat := do
  if !(← accept '\x7b') then refuse .missingBrace 0
  let name ← nameUntil '\x7d' "character name"
  match characterNamed? name with
  | some code => return code
  | none => refuse (.unknownCharacterName name) (name.length + 4)

/-- The escapes that mean the same inside and outside of a character set. -/
def codeEscape? (c : Char) : Option (Reader Nat) :=
  if c = 'x' then some (hexEscape 'x' 2)
  else if c = 'u' then some (hexEscape 'u' 4)
  else if c = 'U' then some (hexEscape 'U' 8)
  else if c = 'N' then some namedEscape
  else none

def plainEscape (c : Char) : Reader Nat := do
  if c.isAlphanum then refuse (.badEscape (String.ofList ['\\', c])) 2
  return c.toNat

/-- An escape inside a character set, after its first letter. -/
def setEscape (c : Char) : Reader Item := do
  match controlEscape? c, familyEscape? c, codeEscape? c with
  | some code, _, _ => return .single code
  | _, some family, _ => return family
  | _, _, some read => return .single (← read)
  | none, none, none =>
    if isOctalDigit c then
      let digits := c :: (← takeWhile isOctalDigit 2)
      let code := octalNumber digits
      if 0o377 < code then
        refuse (.octalTooLarge (String.ofList ('\\' :: digits))) (digits.length + 1)
      return .single code
    else
      return .single (← plainEscape c)

def groupReference (digits : List Char) : Reader Node := do
  let group := ofDigits digits
  if group < (← groupCount) then
    if !(← isClosed group) then refuse .openGroup (digits.length + 1)
    checkLookbehind group
    return .sameAs group
  else
    refuse (.unknownGroup group) digits.length

/-- An escape that begins with a digit other than zero: a group, or three octal digits. -/
def digitEscape (c : Char) : Reader Node := do
  match ← peek with
  | some [d] =>
    if d.isDigit then
      advance
      match ← peek with
      | some [e] =>
        if isOctalDigit c && isOctalDigit d && isOctalDigit e then
          advance
          let code := octalNumber [c, d, e]
          if 0o377 < code then refuse (.octalTooLarge (String.ofList ['\\', c, d, e])) 4
          return .literal false code
        else groupReference [c, d]
      | _ => groupReference [c, d]
    else groupReference [c]
  | _ => groupReference [c]

/-- An escape outside of a character set, after its first letter. -/
def escape (c : Char) : Reader Node := do
  match anchorEscape? c, familyEscape? c, controlEscape? c, codeEscape? c with
  | some anchor, _, _, _ => return .anchor anchor
  | _, some family, _, _ => return .oneOf false [family]
  | _, _, some code, _ => return .literal false code
  | _, _, _, some read => return .literal false (← read)
  | none, none, none, none =>
    if c = '0' then
      return .literal false (octalNumber (← takeWhile isOctalDigit 2))
    else if c.isDigit then digitEscape c
    else return .literal false (← plainEscape c)

/-- A member of a character set that begins with a token. -/
def setItem (token : Token) : Reader Item :=
  match token with
  | '\\' :: c :: _ => setEscape c
  | c :: _ => return .single c.toNat
  | [] => return .single 0

/-- The members of a character set up to its closing bracket; `start` is the opening one. -/
def setItems (start : Nat) (items : List Item) : (fuel : Nat) → Reader (List Item)
  | 0 => refuse .tooDeep 0
  | fuel + 1 => do
    match ← take with
    | none => refuseAt .unterminatedSet start
    | some this =>
      if this = [']'] ∧ !items.isEmpty then return items
      let first ← setItem this
      if ← accept '-' then
        match ← take with
        | none => refuseAt .unterminatedSet start
        | some that =>
          if that = [']'] then return items ++ [first, .single 45]
          let last ← setItem that
          let bad : Cause := .badRange (String.ofList this) (String.ofList that)
          match first, last with
          | .single lo, .single hi =>
            if hi < lo then refuse bad (this.length + 1 + that.length)
            setItems start (items ++ [.span lo hi]) fuel
          | _, _ => refuse bad (this.length + 1 + that.length)
      else
        setItems start (items ++ [first]) fuel

/-- A character set after its opening bracket. A set of one character is that character. -/
def characterSet : Reader Node := do
  let start := (← position) - 1
  let negated ← accept '^'
  let items ← setItems start [] ((← get).text.size + 1)
  match items.eraseDups with
  | [.single code] => return .literal negated code
  | distinct => return .oneOf negated distinct

def countOf (digits : List Char) : Reader (Option Nat) := do
  if digits.isEmpty then return none
  let count := ofDigits digits
  if repeatLimit ≤ count then throw .countTooLarge
  return some count

/-- The bounds that a quantifier gives; none when a brace turns out to be an ordinary character. -/
def bounds? (quantifier : Char) : Reader (Option (Nat × Option Nat)) := do
  let here ← position
  if quantifier = '?' then return some (0, some 1)
  else if quantifier = '*' then return some (0, none)
  else if quantifier = '+' then return some (1, none)
  else if (← peek) = some ['\x7d'] then return none
  else
    let size := (← get).text.size
    let low ← takeWhile Char.isDigit size
    let high ← if ← accept ',' then takeWhile Char.isDigit size else pure low
    if !(← accept '\x7d') then
      seek here
      return none
    let least := (← countOf low).getD 0
    let most ← countOf high
    match most with
    | some most => if most < least then refuseAt .reversedRepeat here
    | none => pure ()
    return some (least, most)

/-- Repeats an item as a quantifier says; `here` is the position after the quantifier's first
character. -/
def repeatItem (here least : Nat) (most : Option Nat) (item : Option Node) : Reader Node := do
  match item with
  | none => refuseAt .nothingToRepeat (here - 1)
  | some item =>
    if item.isAnchor then refuseAt .nothingToRepeat (here - 1)
    if item.isRepeated then refuseAt .repeatedTwice (here - 1)
    if ← accept '?' then return .repeated .lazy least most item
    else if ← accept '+' then return .repeated .possessive least most item
    else return .repeated .greedy least most item

def flag? (c : Char) : Option Flags :=
  if c = 'i' then some { ignoreCase := true }
  else if c = 'm' then some { multiLine := true }
  else if c = 's' then some { dotAll := true }
  else if c = 'x' then some { verbose := true }
  else if c = 'a' then some { ascii := true }
  else if c = 't' then some { template := true }
  else if c = 'u' then some { unicode := true }
  else none

def isFlagLetter (c : Char) : Bool :=
  (flag? c).isSome || c = 'L'

/-- Refuses a token where a switch or an end was due. -/
def refuseFlag {α : Type} (token : Token) (otherwise : Cause) : Reader α :=
  match token with
  | [c] => refuse (if isLetter c then .unknownFlag else otherwise) 1
  | _ => refuse otherwise token.length

/-- Adds the switch of a letter to those turned on. -/
def addFlag (on : Flags) (c : Char) : Reader Flags := do
  match flag? c with
  | none => refuse .localeFlag 0
  | some flag =>
    let on := on.union flag
    if flag.namesRepertoire && on.ascii && on.unicode then refuse .conflictingFlags 0
    return on

/-- Switches to turn on, from a letter to the token that ends them. -/
def flagsOn (on : Flags) (c : Char) : (fuel : Nat) → Reader (Flags × Char)
  | 0 => refuse .tooDeep 0
  | fuel + 1 => do
    let on ← addFlag on c
    match ← take with
    | none => refuse .unfinishedFlags 0
    | some [d] =>
      if d = ')' ∨ d = '-' ∨ d = ':' then return (on, d)
      else if isFlagLetter d then flagsOn on d fuel
      else refuseFlag [d] .unfinishedFlags
    | some token => refuseFlag token .unfinishedFlags

/-- Switches to turn off, from a letter to the colon. -/
def flagsOff (off : Flags) (c : Char) : (fuel : Nat) → Reader Flags
  | 0 => refuse .tooDeep 0
  | fuel + 1 => do
    let off ← match flag? c with
      | none => refuse .repertoireOff 0
      | some flag =>
        if flag.namesRepertoire then refuse .repertoireOff 0
        else pure (off.union flag)
    match ← take with
    | none => refuse .missingColon 0
    | some [d] =>
      if d = ':' then return off
      else if isFlagLetter d then flagsOff off d fuel
      else refuseFlag [d] .missingColon
    | some token => refuseFlag token .missingColon

/-- The switches of a group, after their first character; none when they are for the whole pattern
and have been set. -/
def switches (first : Char) : Reader (Option (Flags × Flags)) := do
  let size := (← get).text.size
  let (on, stop) ← if first = '-' then pure (({} : Flags), '-') else flagsOn {} first (size + 1)
  if stop = ')' then
    modify fun s => { s with flags := s.flags.union on }
    return none
  if on.template then refuse .globalFlagOn 1
  let off ←
    if stop = '-' then
      match ← take with
      | none => refuse .missingFlag 0
      | some [d] =>
        if isFlagLetter d then flagsOff {} d (size + 1) else refuseFlag [d] .missingFlag
      | some token => refuseFlag token .missingFlag
    else pure ({} : Flags)
  if off.template then refuse .globalFlagOff 1
  if on.meets off then refuse .flagOnAndOff 1
  return some (on, off)

/-- Takes a comment up to its closing parenthesis; `start` is the opening one. -/
def skipComment (start : Nat) : (fuel : Nat) → Reader Unit
  | 0 => refuse .tooDeep 0
  | fuel + 1 => do
    if (← peek).isNone then refuseAt .unterminatedComment start
    if (← take) = some [')'] then return ()
    skipComment start fuel

def skipLine : (fuel : Nat) → Reader Unit
  | 0 => return ()
  | fuel + 1 => do
    match ← take with
    | none => return ()
    | some token => if token = ['\n'] then return () else skipLine fuel

def checkName (name : String) : Reader Unit := do
  if !isName name.toList then refuse (.badGroupName name) (name.length + 1)

def groupNamed (name : String) : Reader Nat := do
  match (← get).names.find? fun entry => entry.1 == name with
  | some entry => return entry.2
  | none => refuse (.unknownGroupName name) (name.length + 1)

def namedReference : Reader Node := do
  let name ← nameUntil ')' "group name"
  checkName name
  let group ← groupNamed name
  if !(← isClosed group) then refuse .openGroup (name.length + 1)
  checkLookbehind group
  return .sameAs group

/-- The group that a condition asks about, by name or number. -/
def conditionGroup : Reader Nat := do
  let name ← nameUntil ')' "group name"
  let group ←
    if isName name.toList then groupNamed name
    else
      match freeInteger? name.toList with
      | some (.ofNat group) =>
        if group = 0 then refuse .zeroGroup (name.length + 1)
        if 1073741823 ≤ group then refuse (.unknownGroup group) (name.length + 1)
        let here := (← position) - name.length - 1
        modify fun s =>
          if s.conditions.any fun entry => entry.1 == group then s
          else { s with conditions := s.conditions ++ [(group, here)] }
        pure group
      | _ => refuse (.badGroupName name) (name.length + 1)
  checkLookbehind group
  return group

def closeParenthesis (start : Nat) : Reader Unit := do
  if !(← accept ')') then refuseAt .unterminatedGroup start

/-- What follows an opening parenthesis. -/
inductive Opening
  | capture (name : Option String)
  | plain
  | atomic
  | switched (on off : Flags)
  | look (behind negated : Bool)
  | condition (group : Nat)
  | reference (node : Node)
  | comment
  | global

/-- Reads the letters after `(?P`. -/
def extendedOpening : Reader Opening := do
  if ← accept '<' then
    let name ← nameUntil '>' "group name"
    checkName name
    return .capture (some name)
  else if ← accept '=' then
    return .reference (← namedReference)
  else
    match ← take with
    | none => refuse .unexpectedEnd 0
    | some token =>
      refuse (.unknownExtension (String.ofList ('P' :: token))) (token.length + 2)

/-- Reads what tells the kinds of groups apart. -/
def opening (start : Nat) : Reader Opening := do
  if !(← accept '?') then return .capture none
  match ← take with
  | none => refuse .unexpectedEnd 0
  | some [c] =>
    if c = 'P' then extendedOpening
    else if c = ':' then return .plain
    else if c = '>' then return .atomic
    else if c = '=' then return .look false false
    else if c = '!' then return .look false true
    else if c = '(' then return .condition (← conditionGroup)
    else if c = '#' then
      skipComment start ((← get).text.size + 1)
      return .comment
    else if c = '<' then
      match ← take with
      | none => refuse .unexpectedEnd 0
      | some token =>
        if token = ['='] then return .look true false
        else if token = ['!'] then return .look true true
        else refuse (.unknownExtension (String.ofList ('<' :: token))) (token.length + 2)
    else if isFlagLetter c || c = '-' then
      match ← switches c with
      | none => return .global
      | some (on, off) => return .switched on off
    else refuse (.unknownExtension (String.ofList [c])) 2
  | some token => refuse (.unknownExtension (String.ofList token)) (token.length + 1)

mutual

/-- Alternatives. `outermost` holds for the alternatives of the whole pattern. -/
def alternatives (verbose outermost : Bool) (earlier : List Node) : (fuel : Nat) → Reader Node
  | 0 => refuse .tooDeep 0
  | fuel + 1 => do
    let items ← sequence verbose (outermost && earlier.isEmpty) [] fuel
    let branches := earlier ++ [Node.ofList items]
    if ← accept '|' then
      let s ← get
      let verbose := if outermost then s.flags.verbose else verbose
      alternatives verbose outermost branches fuel
    else
      return Node.oneOfNodes branches

/-- Items up to a bar, a closing parenthesis or the end; `items` holds those read, last first. -/
def sequence (verbose first : Bool) (items : List Node) : (fuel : Nat) → Reader (List Node)
  | 0 => refuse .tooDeep 0
  | fuel + 1 => do
    match ← peek with
    | none => return items.reverse
    | some this =>
      if this = ['|'] ∨ this = [')'] then return items.reverse
      advance
      match this with
      | c :: d :: _ =>
        if c = '\\' then sequence verbose first ((← escape d) :: items) fuel
        else sequence verbose first items fuel
      | [c] =>
        if verbose && isAsciiBlank c then sequence verbose first items fuel
        else if verbose && c = '#' then
          skipLine ((← get).text.size + 1)
          sequence verbose first items fuel
        else if c = '[' then sequence verbose first ((← characterSet) :: items) fuel
        else if c = '*' ∨ c = '+' ∨ c = '?' ∨ c = '\x7b' then
          let here ← position
          match ← bounds? c with
          | none => sequence verbose first (.literal false c.toNat :: items) fuel
          | some (least, most) =>
            let node ← repeatItem here least most items.head?
            sequence verbose first (node :: items.tail) fuel
        else if c = '.' then sequence verbose first (.any :: items) fuel
        else if c = '^' then sequence verbose first (.anchor .lineStart :: items) fuel
        else if c = '$' then sequence verbose first (.anchor .lineEnd :: items) fuel
        else if c = '(' then
          let start := (← position) - 1
          match ← opening start with
          | .global =>
            if !first || !items.isEmpty then refuseAt .lateFlags start
            let s ← get
            sequence s.flags.verbose first items fuel
          | .comment => sequence verbose first items fuel
          | .reference node => sequence verbose first (node :: items) fuel
          | kind => sequence verbose first ((← groupBody verbose start kind fuel) :: items) fuel
        else sequence verbose first (.literal false c.toNat :: items) fuel
      | [] => sequence verbose first items fuel

/-- The rest of a group, up to and with its closing parenthesis. -/
def groupBody (verbose : Bool) (start : Nat) (kind : Opening) : (fuel : Nat) → Reader Node
  | 0 => refuse .tooDeep 0
  | fuel + 1 => do
    match kind with
    | .capture name =>
      let index ← openGroup name
      let body ← alternatives verbose false [] fuel
      closeParenthesis start
      closeGroup index body
      return .group index body
    | .plain =>
      let body ← alternatives verbose false [] fuel
      closeParenthesis start
      return .switched {} {} body
    | .atomic =>
      let body ← alternatives verbose false [] fuel
      closeParenthesis start
      return .atomic body
    | .switched on off =>
      let body ← alternatives ((verbose || on.verbose) && !off.verbose) false [] fuel
      closeParenthesis start
      return .switched on off body
    | .look behind negated =>
      let outer := (← get).lookbehind
      if behind && outer.isNone then
        let count ← groupCount
        modify fun s => { s with lookbehind := some count }
      let body ← alternatives verbose false [] fuel
      if behind && outer.isNone then modify fun s => { s with lookbehind := none }
      closeParenthesis start
      if behind then
        let s ← get
        let (least, most) := body.width (groupWidths s)
        return .behind negated least most body
      else return .ahead negated body
    | .condition group =>
      let yes ← sequence verbose false [] fuel
      let no ←
        if ← accept '|' then
          let no ← sequence verbose false [] fuel
          if (← peek) = some ['|'] then refuse .surplusBranch 0
          pure (Node.ofList no)
        else pure .empty
      closeParenthesis start
      return .ifGroup group (Node.ofList yes) no
    | .reference node => return node
    | .comment => return .empty
    | .global => return .empty

end

def wholePattern (flags : Flags) : Reader Node := do
  advance
  let root ← alternatives flags.verbose true [] (4 * (← get).text.size + 8)
  let s ← get
  if s.flags.ascii && s.flags.unicode then throw .repertoires
  if s.ahead.isSome then refuse .unbalanced 0
  match s.conditions.find? fun entry => s.widths.size ≤ entry.1 with
  | some (group, position) => refuseAt (.unknownGroup group) position
  | none => return root

end Reader

def Appetite.name : Appetite → String
  | greedy => "MAX_REPEAT"
  | lazy => "MIN_REPEAT"
  | possessive => "POSSESSIVE_REPEAT"

/-- What the parts of a readable pattern still forbid, the first in reading order. -/
def Node.objection? (template : Bool) : Node → Option Cause
  | .seq a b => (a.objection? template).or (b.objection? template)
  | .alt a b => (a.objection? template).or (b.objection? template)
  | .group _ body => body.objection? template
  | .switched _ _ body => body.objection? template
  | .atomic body => body.objection? template
  | .ahead _ body => body.objection? template
  | .behind _ least most body =>
    if lookbehindLimit < least then some .wideLookbehind
    else if least ≠ most then some .variableLookbehind
    else body.objection? template
  | .ifGroup _ yes no => (yes.objection? template).or (no.objection? template)
  | .repeated appetite _ _ body =>
    if template then some (.templateRepeat appetite.name) else body.objection? template
  | _ => none



end MailTriage.Pattern

namespace MailTriage

def Pattern.read (text : String) (ignoreCase : Bool) : Except Pattern.Refusal Pattern :=
  let flags : Pattern.Flags := { ignoreCase := ignoreCase }
  let start : Pattern.Progress := { text := text.toList.toArray, flags := flags }
  match (Pattern.Reader.wholePattern flags).run start with
  | .error refusal => .error refusal
  | .ok (root, s) =>
    match root.objection? s.flags.template with
    | some cause => .error (.malformed ⟨cause, none⟩)
    | none =>
      let flags := if s.flags.ascii then s.flags else { s.flags with unicode := true }
      .ok { root := root, flags := flags, groups := s.widths.size - 1 }

end MailTriage
