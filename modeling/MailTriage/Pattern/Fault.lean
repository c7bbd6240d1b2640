import MailTriage.Text.Quoted

/-!
# Faults of patterns

Why the text of a pattern is refused. A malformed pattern has a cause and, for most causes, the
position of the offending part; two further refusals concern numbers and switches and have none.
-/

namespace MailTriage.Pattern

open MailTriage.Text

/-- What is wrong with a pattern. -/
inductive Cause
  | danglingBackslash
  | missingName (what : String)
  | unterminatedName (terminator : Char)
  | badGroupName (name : String)
  | incompleteEscape (escape : String)
  | badEscape (escape : String)
  | missingBrace
  | unknownCharacterName (name : String)
  | octalTooLarge (escape : String)
  | openGroup
  | lookbehindGroup
  | unknownGroup (group : Nat)
  | unterminatedSet
  | badRange (first last : String)
  | reversedRepeat
  | nothingToRepeat
  | repeatedTwice
  | unexpectedEnd
  | unknownGroupName (name : String)
  | redefinedGroup (name : String) (group former : Nat)
  | unknownExtension (text : String)
  | unterminatedComment
  | unterminatedGroup
  | zeroGroup
  | surplusBranch
  | lateFlags
  | localeFlag
  | conflictingFlags
  | unfinishedFlags
  | unknownFlag
  | missingFlag
  | missingColon
  | repertoireOff
  | globalFlagOn
  | globalFlagOff
  | flagOnAndOff
  | unbalanced
  | variableLookbehind
  | wideLookbehind
  | templateRepeat (name : String)
  | tooDeep
  deriving DecidableEq

def Cause.message : Cause → String
  | danglingBackslash => "bad escape (end of pattern)"
  | missingName what => "missing " ++ what
  | unterminatedName terminator => s!"missing {terminator}, unterminated name"
  | badGroupName name => "bad character in group name " ++ quoted name
  | incompleteEscape escape => "incomplete escape " ++ escape
  | badEscape escape => "bad escape " ++ escape
  | missingBrace => "missing \x7b"
  | unknownCharacterName name => "undefined character name " ++ quoted name
  | octalTooLarge escape => s!"octal escape value {escape} outside of range 0-0o377"
  | openGroup => "cannot refer to an open group"
  | lookbehindGroup => "cannot refer to group defined in the same lookbehind subpattern"
  | unknownGroup group => s!"invalid group reference {group}"
  | unterminatedSet => "unterminated character set"
  | badRange first last => s!"bad character range {first}-{last}"
  | reversedRepeat => "min repeat greater than max repeat"
  | nothingToRepeat => "nothing to repeat"
  | repeatedTwice => "multiple repeat"
  | unexpectedEnd => "unexpected end of pattern"
  | unknownGroupName name => "unknown group name " ++ quoted name
  | redefinedGroup name group former =>
    s!"redefinition of group name {quoted name} as group {group}; was group {former}"
  | unknownExtension text => "unknown extension ?" ++ text
  | unterminatedComment => "missing ), unterminated comment"
  | unterminatedGroup => "missing ), unterminated subpattern"
  | zeroGroup => "bad group number"
  | surplusBranch => "conditional backref with more than two branches"
  | lateFlags => "global flags not at the start of the expression"
  | localeFlag => "bad inline flags: cannot use 'L' flag with a str pattern"
  | conflictingFlags => "bad inline flags: flags 'a', 'u' and 'L' are incompatible"
  | unfinishedFlags => "missing -, : or )"
  | unknownFlag => "unknown flag"
  | missingFlag => "missing flag"
  | missingColon => "missing :"
  | repertoireOff => "bad inline flags: cannot turn off flags 'a', 'u' and 'L'"
  | globalFlagOn => "bad inline flags: cannot turn on global flag"
  | globalFlagOff => "bad inline flags: cannot turn off global flag"
  | flagOnAndOff => "bad inline flags: flag turned on and off"
  | unbalanced => "unbalanced parenthesis"
  | variableLookbehind => "look-behind requires fixed-width pattern"
  | wideLookbehind => "looks too much behind"
  | templateRepeat name => "internal: unsupported template operator " ++ name
  | tooDeep => "pattern too deep"

/-- A cause, and where in the pattern it lies. -/
structure Fault where
  cause : Cause
  position : Option Nat
  deriving DecidableEq

/-- Why a pattern cannot be used. -/
inductive Refusal
  | malformed (fault : Fault)
  /-- A repetition count past the greatest one. -/
  | countTooLarge
  /-- A code point written with eight digits that does not fit a machine integer. -/
  | codeTooLarge
  /-- Both character repertoires asked for. -/
  | repertoires
  deriving DecidableEq

/-- The wording of a fault; a pattern of several lines adds line and column. -/
def Fault.message (pattern : String) (fault : Fault) : String :=
  match fault.position with
  | none => fault.cause.message
  | some position =>
    let placed := s!"{fault.cause.message} at position {position}"
    let cs := pattern.toList
    if cs.contains '\n' then
      let before := cs.take position
      let line := before.count '\n' + 1
      let column := (before.reverse.takeWhile (· ≠ '\n')).length + 1
      s!"{placed} (line {line}, column {column})"
    else placed

def Refusal.message (pattern : String) : Refusal → String
  | malformed fault => fault.message pattern
  | countTooLarge => "the repetition number is too large"
  | codeTooLarge => "Python int too large to convert to C int"
  | repertoires => "ASCII and UNICODE flags are incompatible"

end MailTriage.Pattern
