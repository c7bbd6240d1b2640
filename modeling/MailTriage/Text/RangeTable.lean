import MailTriage.Text.Part

/-!
# Tables over code points

A character property of the Unicode standard is a sorted list of ranges, and a case mapping is a
sorted list of runs that share one offset. Long lists are written as words in hexadecimal. All are
looked up by binary search.
-/

namespace MailTriage.Text

/-- The value of a hexadecimal digit; anything else counts as zero. -/
def hexDigit (c : Char) : Nat :=
  if '0' ≤ c ∧ c ≤ '9' then c.toNat - 48
  else if 'a' ≤ c ∧ c ≤ 'f' then c.toNat - 87
  else if 'A' ≤ c ∧ c ≤ 'F' then c.toNat - 55
  else 0

def hexNumber (digits : List Char) : Nat :=
  digits.foldl (fun n c => 16 * n + hexDigit c) 0

/-- The words of several lines; single spaces part the words of a line. -/
def wordsOf (lines : List String) : List (List Char) :=
  lines.flatMap fun text => splitAll ' ' text.toList

/-- The index of the last entry whose key is at most `n`, when there is one; keys ascend. -/
def lastAtMost (keys : Array Nat) (n : Nat) : Option Nat :=
  let rec go (lo hi : Nat) : Nat → Option Nat
    | 0 => if lo = 0 then none else some (lo - 1)
    | fuel + 1 =>
      if lo < hi then
        let middle := (lo + hi) / 2
        if (keys[middle]?.getD 0) ≤ n then go (middle + 1) hi fuel else go lo middle fuel
      else if lo = 0 then none else some (lo - 1)
  go 0 keys.size (keys.size + 1)

/-- A set of code points as ascending, disjoint ranges. -/
structure RangeTable where
  firsts : Array Nat
  lasts : Array Nat

namespace RangeTable

/-- Reads words such as `c0-d6` or `aa`. -/
def ofWords (lines : List String) : RangeTable :=
  let bounds := (wordsOf lines).map fun word =>
    match cutAt '-' word with
    | (first, some last) => (hexNumber first, hexNumber last)
    | (only, none) => (hexNumber only, hexNumber only)
  ⟨(bounds.map Prod.fst).toArray, (bounds.map Prod.snd).toArray⟩

def contains (table : RangeTable) (n : Nat) : Bool :=
  match lastAtMost table.firsts n with
  | some i => n ≤ table.lasts[i]?.getD 0
  | none => false

/-- Whether some code point from `lo` to `hi` is in the table. -/
def meets (table : RangeTable) (lo hi : Nat) : Bool :=
  match lastAtMost table.firsts hi with
  | some i => decide (lo ≤ hi) && decide (lo ≤ table.lasts[i]?.getD 0)
  | none => false

end RangeTable

/-- A run of code points, every `step`-th from `first` to `last`, moved by one offset. -/
structure Shift where
  first : Nat
  last : Nat
  step : Nat
  offset : Int

/-- A mapping of code points as ascending, disjoint runs. -/
structure ShiftTable where
  firsts : Array Nat
  runs : Array Shift

namespace ShiftTable

/-- Reads a word such as `100-12e/2+1`: from 100 to 12e in steps of two, one up. -/
def readRun (word : List Char) : Shift :=
  let (span, up) := cutAt '+' word
  let (span, down) := cutAt '~' span
  let offset : Int := match up, down with
    | some digits, _ => hexNumber digits
    | none, some digits => -(hexNumber digits : Int)
    | none, none => 0
  let (span, step) := cutAt '/' span
  let (first, last) := cutAt '-' span
  { first := hexNumber first
    last := hexNumber (last.getD first)
    step := if step.isSome then 2 else 1
    offset := offset }

def ofRuns (runs : List Shift) : ShiftTable :=
  ⟨(runs.map Shift.first).toArray, runs.toArray⟩

def ofWords (lines : List String) : ShiftTable :=
  ofRuns ((wordsOf lines).map readRun)

/-- The image of a code point, when the table moves it. -/
def image? (table : ShiftTable) (n : Nat) : Option Nat :=
  match lastAtMost table.firsts n with
  | none => none
  | some i =>
    match table.runs[i]? with
    | none => none
    | some run =>
      if n ≤ run.last ∧ (n - run.first) % run.step = 0 then some ((n : Int) + run.offset).toNat
      else none

/-- Every pair of a moved code point and its image. -/
def pairs (table : ShiftTable) : List (Nat × Nat) :=
  table.runs.toList.flatMap fun run =>
    (List.range ((run.last - run.first) / run.step + 1)).map fun i =>
      let n := run.first + i * run.step
      (n, ((n : Int) + run.offset).toNat)

end ShiftTable

end MailTriage.Text
