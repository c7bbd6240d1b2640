import MailTriage.Store.Database
import MailTriage.Text.Case

/-!
# Scores, markers and summaries

What actions leave behind. The score of a sender belongs to the address without regard to case, and
is the sum of all points in the order in which they were given. An email carries a marker or it does
not.
-/

namespace MailTriage

namespace Store

open Session (apply look)

def getScore (address : String) : StoreOp (Option Binary64) := fun session =>
  if address.isEmpty then (.ok none, session)
  else look (fun data => data.scores.find? (Text.lower address)) session

/-- The score that points are added to. A score of nothing, whatever its sign, is like none. -/
def scoreBefore (score : Option Binary64) : Binary64 :=
  (score.filter fun x => !x.eq Binary64.zero).getD Binary64.zero

/-- Adds points to the score of an address and tells the new score. -/
def adjustScore (address : String) (points : Binary64) : StoreOp Binary64 := fun session =>
  if address.isEmpty then
    (.error { kind := "ValueError", message := "sender email is required to adjust a score" },
      session)
  else
    apply (fun data =>
      let key := Text.lower address
      let total := (scoreBefore (data.scores.find? key)).add points
      if total.isNaN then .abort .violation
      else .save total { data with scores := data.scores.put key total }) session

/-- Marks an email and tells whether it did not carry the marker before. -/
def addMarker (emailId marker : String) : StoreOp Bool :=
  apply fun data =>
    if data.markers.contains (marker, emailId) then .keep false data
    else .save true { data with markers := data.markers ++ [(marker, emailId)] }

def markedEmails (marker : String) : StoreOp (List String) :=
  look fun data => (data.markers.filter fun entry => entry.1 = marker).map Prod.snd

def saveSummary (emailId : String) (summary : Summary) : StoreOp Unit :=
  apply fun data => .save () { data with summaries := data.summaries.put emailId summary }

def getSummary (emailId : String) : StoreOp (Option Summary) :=
  look fun data => data.summaries.find? emailId

def isProcessed (emailId : String) : StoreOp Bool :=
  look fun data => (data.processed.find? emailId).isSome

/-- Records that an email is done with, and how many rules fired. -/
def markProcessed (emailId : String) (rulesFired : Int) : StoreOp Unit :=
  apply fun data =>
    if fitsWord rulesFired then
      .save () { data with processed := data.processed.put emailId rulesFired }
    else .abort .tooLarge

end Store

end MailTriage
