import MailTriage.Backup
import MailTriage.Office.Round

/-!
# Complaints

Every fault that ends an undertaking can be told in one of two ways: as a trouble with a kind and a
message, or as the problems of a form.
-/

namespace MailTriage

/-- What is told about a fault. -/
inductive Complaint
  | trouble (trouble : Trouble)
  | form (problems : List Form.Problem)

def Complaint.of (kind message : String) : Complaint :=
  .trouble { kind := kind, message := message }

def Pattern.Refusal.complaint (pattern : String) (refusal : Pattern.Refusal) : Complaint :=
  .of (match refusal with
    | repertoires => "ValueError"
    | _ => "OverflowError") (refusal.message pattern)

def ComparisonFailure.complaint (pattern : String) : ComparisonFailure → Complaint
  | unusablePattern refusal => refusal.complaint pattern
  | numberTooLarge => .of "OverflowError" (ComparisonFailure.message pattern .numberTooLarge)
  | numberTooLong => .of "ValueError" (ComparisonFailure.message pattern .numberTooLong)

def ConditionFailure.complaint (failure : ConditionFailure) : Complaint :=
  failure.failure.complaint failure.pattern

def LinkFault.complaint (fault : LinkFault) : Complaint := .of "ValueError" fault.message

def CollectionFault.complaint : CollectionFault → Complaint
  | shape fault => .of fault.kind fault.message
  | form problems => .form problems

def UpdateFault.complaint : UpdateFault → Complaint
  | store trouble => .trouble trouble
  | form problems => .form problems

def BackupFault.complaint (fault : BackupFault) : Complaint :=
  .of (if fault.isOverlong then "ValueError" else "RulesImportError") fault.message

def PassFault.complaint : PassFault → Complaint
  | links fault => fault.complaint
  | rules trouble => .trouble trouble

def ResourceFault.complaint : ResourceFault → Complaint
  | form problems => .form problems
  | fault => .trouble fault.trouble

def RoundFault.complaint : RoundFault → Complaint
  | store trouble => .trouble trouble
  | resource fault => fault.complaint
  | pass fault => fault.complaint

end MailTriage
