import MailTriage.Pattern.Node
import MailTriage.Text.Part
import MailTriage.Text.Case
import MailTriage.Text.Class

/-!
# Matching patterns

A node is a step: from a spot in the text it offers the spots where it can end, best first, to what
comes after it, and takes the first that leads to a match. Steps are defined by recursion on the
tree. A repetition runs at most as often as its bounds demand and as the text has places, because a
run that takes nothing is not repeated.
-/

namespace MailTriage.Pattern

open MailTriage.Text

/-- A position in the text and the ends of the groups: entry `2 i` holds where group `i + 1` began,
the entry after it where it ended. -/
structure Spot where
  place : Nat
  marks : Array (Option Nat)
  deriving Inhabited

abbrev Rest := Spot → Option Spot

abbrev Step := Spot → Rest → Option Spot

namespace Flags

def lowered (flags : Flags) (n : Nat) : Nat :=
  if flags.unicode then lowerCode n else asciiLowerCode n

def isCased (flags : Flags) (n : Nat) : Bool :=
  if flags.unicode then isCasedCode n else isAsciiCasedCode n

def meetsCased (flags : Flags) (lo hi : Nat) : Bool :=
  if flags.unicode then Text.meetsCased lo hi else meetsAsciiCased lo hi

def kin (flags : Flags) (n : Nat) : List Nat :=
  if flags.unicode then caseKin n else asciiCaseKin n

/-- Whether a code point is of a named class. -/
def belongs (flags : Flags) (family : Family) (n : Nat) : Bool :=
  let c := Char.ofNat n
  match family with
  | .digit => if flags.unicode then isDecimalDigit c else c.isDigit
  | .space => if flags.unicode then isBlank c else isAsciiBlank c
  | .word => if flags.unicode then isWordChar c else isAsciiWordChar c

def literalTakes (flags : Flags) (code n : Nat) : Bool :=
  if flags.ignoreCase && flags.isCased code then
    let low := flags.lowered code
    let x := flags.lowered n
    x == low || (flags.unicode && (upperCaseMates low).contains x)
  else n == code

/-- Whether a member of a set, as it is written, takes a code point. -/
def itemHolds (flags : Flags) (n : Nat) : Item → Bool
  | .single code => n == code
  | .span first last => first ≤ n && n ≤ last
  | .family family negated => flags.belongs family n != negated

/-- Whether a member of a set makes the set regard case. -/
def itemCased (flags : Flags) : Item → Bool
  | .single code => flags.isCased code || 0xffff < flags.lowered code
  | .span first last => flags.meetsCased first last || 0xffff < last
  | .family .. => false

/-- Whether a member of a set takes a lowered code point when case is ignored. Beyond the basic
plane a single member stands for itself only, and a span for what it holds in either case. -/
def itemTakes (flags : Flags) (x : Nat) : Item → Bool
  | .single code =>
    if 0xffff < flags.lowered code then x == code
    else x ≤ 0xffff && (flags.kin x).contains code
  | .span first last =>
    (x ≤ 0xffff && (flags.kin x).any fun n => first ≤ n && n ≤ last && n ≤ 0xffff) ||
      (0xffff < last && ((first ≤ x && x ≤ last) ||
        (raisedCodes x).any fun n => first ≤ n && n ≤ last))
  | .family family negated => flags.belongs family x != negated

def setTakes (flags : Flags) (items : List Item) (n : Nat) : Bool :=
  if flags.ignoreCase && items.any flags.itemCased then
    items.any (flags.itemTakes (flags.lowered n))
  else items.any (flags.itemHolds n)

/-- Whether two code points are the same to a reference. -/
def same (flags : Flags) (m n : Nat) : Bool :=
  if flags.ignoreCase then flags.lowered m == flags.lowered n else m == n

end Flags

namespace Anchor

def wordAt (text : Array Char) (flags : Flags) (index : Nat) : Bool :=
  match text[index]? with
  | some c => flags.belongs .word c.toNat
  | none => false

def isEdge (text : Array Char) (flags : Flags) (place : Nat) : Bool :=
  (0 < place && wordAt text flags (place - 1)) != wordAt text flags place

def holds (text : Array Char) (flags : Flags) (place : Nat) : Anchor → Bool
  | lineStart => place == 0 || (flags.multiLine && text[place - 1]? == some '\n')
  | lineEnd =>
    place == text.size || (text[place]? == some '\n' && (flags.multiLine || place + 1 == text.size))
  | textStart => place == 0
  | textEnd => place == text.size
  | wordEdge => !text.isEmpty && isEdge text flags place
  | wordInside => !text.isEmpty && !isEdge text flags place

end Anchor

/-- Takes one character that satisfies `p`. -/
def takeOne (text : Array Char) (p : Nat → Bool) : Step := fun spot rest =>
  match text[spot.place]? with
  | some c => if p c.toNat then rest { spot with place := spot.place + 1 } else none
  | none => none

/-- Repeats a step as often as possible, then one time less, and so on. `last` is the place where
the run before the present one began, once the least count is reached. -/
def runGreedy (step : Step) (least : Nat) (most : Option Nat) :
    (budget : Nat) → (count : Nat) → (last : Option Nat) → Step
  | 0, _, _, _, _ => none
  | budget + 1, count, last, spot, rest =>
    if count < least then
      step spot fun next => runGreedy step least most budget (count + 1) last next rest
    else if most.all (count < ·) && last != some spot.place then
      match step spot fun next =>
        runGreedy step least most budget (count + 1) (some spot.place) next rest with
      | some found => some found
      | none => rest spot
    else rest spot

/-- Repeats a step as seldom as possible, then one time more, and so on. -/
def runLazy (step : Step) (least : Nat) (most : Option Nat) :
    (budget : Nat) → (count : Nat) → (last : Option Nat) → Step
  | 0, _, _, _, _ => none
  | budget + 1, count, last, spot, rest =>
    if count < least then
      step spot fun next => runLazy step least most budget (count + 1) last next rest
    else
      match rest spot with
      | some found => some found
      | none =>
        if most.all (count < ·) && last != some spot.place then
          step spot fun next =>
            runLazy step least most budget (count + 1) (some spot.place) next rest
        else none

/-- Repeats a step as often as possible and never goes back; each run is the best one. -/
def runPossessive (step : Step) (least : Nat) (most : Option Nat) :
    (budget : Nat) → (count : Nat) → (last : Option Nat) → Spot → Option Spot
  | 0, _, _, _ => none
  | budget + 1, count, last, spot =>
    if count < least then
      match step spot some with
      | some next => runPossessive step least most budget (count + 1) last next
      | none => none
    else if most.all (count < ·) && last != some spot.place then
      match step spot some with
      | some next => runPossessive step least most budget (count + 1) (some spot.place) next
      | none => some spot
    else some spot

def runRepeated (text : Array Char) (appetite : Appetite) (least : Nat) (most : Option Nat)
    (step : Step) : Step := fun spot rest =>
  let budget := least + (text.size - spot.place) + 3
  match appetite with
  | .greedy => runGreedy step least most budget 0 none spot rest
  | .lazy => runLazy step least most budget 0 none spot rest
  | .possessive => (runPossessive step least most budget 0 none spot).bind rest

/-- The part of the text that a group holds, as its ends. -/
def Spot.group? (spot : Spot) (index : Nat) : Option (Nat × Nat) :=
  match spot.marks[2 * (index - 1)]?, spot.marks[2 * (index - 1) + 1]? with
  | some (some first), some (some last) => if first ≤ last then some (first, last) else none
  | _, _ => none

/-- Whether the text from `place` on repeats the characters from `first` up to `last`. -/
def repeats (text : Array Char) (flags : Flags) (first last place : Nat) : Bool :=
  (List.range (last - first)).all fun i =>
    match text[first + i]?, text[place + i]? with
    | some a, some b => flags.same a.toNat b.toNat
    | _, _ => false

def Node.run (text : Array Char) : Node → Flags → Step
  | .empty, _, spot, rest => rest spot
  | .literal negated code, flags, spot, rest =>
    takeOne text (fun n => flags.literalTakes code n != negated) spot rest
  | .any, flags, spot, rest => takeOne text (fun n => flags.dotAll || n != 10) spot rest
  | .oneOf negated items, flags, spot, rest =>
    takeOne text (fun n => flags.setTakes items n != negated) spot rest
  | .anchor condition, flags, spot, rest =>
    if condition.holds text flags spot.place then rest spot else none
  | .seq a b, flags, spot, rest => a.run text flags spot fun next => b.run text flags next rest
  | .alt a b, flags, spot, rest =>
    match a.run text flags spot rest with
    | some found => some found
    | none => b.run text flags spot rest
  | .group index body, flags, spot, rest =>
    let opened :=
      { spot with marks := spot.marks.setIfInBounds (2 * (index - 1)) (some spot.place) }
    body.run text flags opened fun next =>
      rest { next with marks := next.marks.setIfInBounds (2 * (index - 1) + 1) (some next.place) }
  | .switched on off body, flags, spot, rest => body.run text (flags.inside on off) spot rest
  | .atomic body, flags, spot, rest => (body.run text flags spot some).bind rest
  | .ahead negated body, flags, spot, rest =>
    match body.run text flags spot some with
    | some found => if negated then none else rest { found with place := spot.place }
    | none => if negated then rest spot else none
  | .behind negated width _ body, flags, spot, rest =>
    if spot.place < width then if negated then rest spot else none
    else
      match body.run text flags { spot with place := spot.place - width } some with
      | some found => if negated then none else rest { found with place := spot.place }
      | none => if negated then rest spot else none
  | .sameAs index, flags, spot, rest =>
    match spot.group? index with
    | some (first, last) =>
      if repeats text flags first last spot.place then
        rest { spot with place := spot.place + (last - first) }
      else none
    | none => none
  | .ifGroup index yes no, flags, spot, rest =>
    match spot.group? index with
    | some _ => yes.run text flags spot rest
    | none => no.run text flags spot rest
  | .repeated appetite least most body, flags, spot, rest =>
    runRepeated text appetite least most (body.run text flags) spot rest

/-- Where a match begins and ends, with its groups. -/
structure Match where
  first : Nat
  last : Nat
  spot : Spot

def matchAt? (pattern : Pattern) (text : Array Char) (place : Nat) : Option Match :=
  let start : Spot := ⟨place, Array.replicate (2 * pattern.groups) none⟩
  match pattern.root.run text pattern.flags start some with
  | some spot => some ⟨place, spot.place, spot⟩
  | none => none

/-- The first match that begins at `place` or at one of the `tries` places after it. -/
def searchFrom? (pattern : Pattern) (text : Array Char) (place : Nat) : (tries : Nat) → Option Match
  | 0 => pattern.matchAt? text place
  | tries + 1 =>
    match pattern.matchAt? text place with
    | some found => some found
    | none => searchFrom? pattern text (place + 1) tries

def search? (pattern : Pattern) (text : Array Char) : Option Match :=
  pattern.searchFrom? text 0 text.size

/-- The matches from left to right, each beginning where the one before it ended or later. -/
def matchesFrom (pattern : Pattern) (text : Array Char) (place : Nat) : (fuel : Nat) → List Match
  | 0 => []
  | fuel + 1 =>
    if text.size < place then []
    else
      match pattern.searchFrom? text place (text.size - place) with
      | none => []
      | some found =>
        found :: matchesFrom pattern text (max found.last (place + 1)) fuel

def allMatches (pattern : Pattern) (text : Array Char) : List Match :=
  pattern.matchesFrom text 0 (text.size + 1)

def occursIn (pattern : Pattern) (text : String) : Bool :=
  (pattern.search? text.toList.toArray).isSome

def slice (text : Array Char) (first last : Nat) : List Char :=
  (text.extract first last).toList

def Match.group? (found : Match) (text : Array Char) (index : Nat) : Option String :=
  if index = 0 then some (String.ofList (slice text found.first found.last))
  else
    match found.spot.group? index with
    | some (first, last) => some (String.ofList (slice text first last))
    | none => none

end MailTriage.Pattern
