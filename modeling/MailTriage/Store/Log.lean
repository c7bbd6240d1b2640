import MailTriage.Store.Database

/-!
# The stored log

The log forgets the entries from before a cutoff whenever it gets a new one. It is listed with the
newest entry first, and of entries of one time the one that came last.
-/

namespace MailTriage

namespace Store

open Session (apply look)

/-- The log without the entries from before a time, and how many these are. -/
def purged (before : Int) (log : Journal) : Nat × Journal :=
  let left := log.filter fun entry => before ≤ entry.timestamp
  (log.length - left.length, left)

/-- Forgets the entries that are past their time and tells how many they are; the change is not
saved yet. -/
def purgeLog (now retentionDays : Int) : StoreOp Nat :=
  apply fun data =>
    let before := cutoff now retentionDays
    if fitsWord before then
      let (removed, log) := purged before data.log
      .keep removed { data with log := log }
    else .refuse .tooLarge

def saveAll : StoreOp Unit := apply fun data => .save () data

/-- Takes an entry, and forgets those entries that are there already and past their time. -/
def appendLog (now retentionDays : Int) (entry : LogEntry) : StoreOp Unit := fun session =>
  let session := { session with unsaved := session.unsaved ++ [entry] }
  match purgeLog now retentionDays session with
  | (.error trouble, session) => (.error trouble, session)
  | (.ok _, session) => saveAll session

/-- Whether an entry is listed before another, or may be. -/
def newer (a b : LogEntry) : Bool := b.timestamp ≤ a.timestamp

def newestFirst (log : Journal) : List LogEntry :=
  log.reverse.mergeSort newer

/-- The first entries of the log, or all of them when no positive number is given. -/
def listLog (limit : Option Int) : StoreOp (List LogEntry) :=
  apply fun data =>
    let entries := newestFirst data.log
    match limit with
    | none => .keep entries data
    | some n =>
      if !fitsWord n then .refuse .tooLarge
      else .keep (if 0 < n then entries.take n.toNat else entries) data

/-- Forgets all entries and tells how many they were. -/
def clearLog : StoreOp Nat :=
  apply fun data => .save data.log.length { data with log := [] }

end Store

end MailTriage
