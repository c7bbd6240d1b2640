import MailTriage.Form.Record

/-!
# Example rules

Rules that new users can start from. They are disabled, and each asking for them gives rules with
identifiers of their own.
-/

namespace MailTriage.Example

def sender : String := "$\x7bsenderInfo.name || senderInfo.email\x7d"

def subject : String := "$\x7bemail.subject\x7d"

def score : String := "$\x7bsenderScore\x7d"

/-- A rule of one condition, which logs a message and may do one thing more. -/
structure Sketch where
  name : String
  description : String
  kind : String
  operator : String
  value : Value
  message : String
  purpose : String
  more : Option (String × Fields × String) := none

def Sketch.toValue (sketch : Sketch) : Value :=
  .object
    [("enabled", .bool false),
     ("logicOperator", .text "AND"),
     ("name", .text sketch.name),
     ("description", .text sketch.description),
     ("conditions", .list [.object
       [("type", .text sketch.kind), ("operator", .text sketch.operator),
         ("value", sketch.value)]]),
     ("actions", .list (.object
       [("type", .text "log_message"), ("parameters", .object [("message", .text sketch.message)]),
        ("description", .text sketch.purpose)] ::
       (sketch.more.map fun (kind, parameters, purpose) => Value.object
         [("type", .text kind), ("parameters", .object parameters),
           ("description", .text purpose)]).toList))]

def sketches : List Sketch :=
  [{ name := "High Scorer Auto-Summary", description := "Log emails from high-scoring senders"
     kind := "sender_score", operator := "greater_than", value := .int 50
     message := "High-scoring sender detected: " ++ sender ++ " (Score: " ++ score ++ ")"
     purpose := "Log high-scoring sender" },
   { name := "Newsletter Link Detector"
     description := "Detects newsletters with unsubscribe links and tags them"
     kind := "url_contains", operator := "contains", value := .text "unsubscribe"
     message := "Newsletter detected from " ++ sender ++ ": " ++ subject
     purpose := "Log newsletter detection"
     more := some ("mark_email", [("marker", .text "newsletter")], "Mark as newsletter") },
   { name := "Auto-delete Low Quality Emails"
     description := "Automatically delete emails from very low-scoring senders"
     kind := "sender_score", operator := "less_than", value := .int (-10)
     message := "Auto-deleting low quality email from " ++ sender ++ ": " ++ subject
     purpose := "Log deletion action"
     more := some ("delete_email", [], "Delete the email") },
   { name := "Auto-mark Newsletters as Read"
     description := "Automatically mark newsletter emails as read"
     kind := "url_contains", operator := "contains", value := .text "unsubscribe"
     message := "Auto-marking newsletter as read from " ++ sender ++ ": " ++ subject
     purpose := "Log mark as read action"
     more := some ("mark_as_read", [], "Mark email as read") },
   { name := "Auto-summarize Important Emails"
     description := "Automatically request summary for high-scoring senders"
     kind := "sender_score", operator := "greater_than", value := .int 75
     message := "Auto-summarizing important email from " ++ sender ++ ": " ++ subject
     purpose := "Log summary request action"
     more := some ("request_summary", [], "Request email summary or save for later") },
   { name := "Skip Low Quality Emails"
     description := "Automatically navigate to next email for very low-scoring senders"
     kind := "sender_score", operator := "less_than", value := .int (-20)
     message := "Skipping very low quality email from " ++ sender ++ ": " ++ subject
     purpose := "Log skip action"
     more := some ("goto_next_email", [], "Navigate to next email") },
   { name := "Review VIP Emails", description := "Summarize emails from very high-scoring senders"
     kind := "sender_score", operator := "greater_than", value := .int 95
     message := "VIP email detected from " ++ sender ++ ": " ++ subject ++ " - Score: " ++ score
     purpose := "Log VIP detection"
     more := some ("request_summary", [], "Generate summary for VIP email") }]

def rules : Form.Gather (List Rule) :=
  Form.readItems Rule.read 0 (sketches.map Sketch.toValue)

end MailTriage.Example
