import MailTriage.Address
import MailTriage.Keyed
import MailTriage.Link.Extraction
import MailTriage.Triage.Pass

/-!
# The desk

Emails come to the desk one by one. When a rule tests the body of an email and only its headers have
been fetched, the pass is put off: the context waits at the desk, under the identifier of the email,
until the body arrives or the wait is given up.
-/

namespace MailTriage

/-- A context before a pass: the sender and the links of an email are worked out, unless the links
are given. -/
def Context.prepare (email : Email) (score : Option Binary64) (links : Option (List Link))
    (bindings : Fields) : Except LinkFault Context := do
  let links ← match links with
    | some links => pure links
    | none => Link.ofBodies (email.body.getD "") (email.htmlBody.getD "")
  return { email := email, sender := Sender.ofHeader email.fromHeader, links := links,
           score := score
           bindings := bindings }

/-- The contexts that wait for a body, each under the identifier of its email. -/
abbrev Waiting := Keyed Context

/-- Why no pass could be begun. -/
inductive PassFault
  | links (fault : LinkFault)
  | rules (trouble : Trouble)

/-- The desk: what waits there, the clock, and the outside. -/
structure Desk (σ : Type) where
  waiting : Waiting := []
  supply : Supply
  outer : σ

/-- Whether some rule tests the body of the email. -/
def readsContent (rules : List Rule) : Bool :=
  rules.any fun rule => rule.conditions.any Condition.readsContent

def PassOutcome.putOff : PassOutcome := { report := { deferred := true } }

variable {σ : Type}

namespace Desk

def run (world : World σ) (rules : List Rule) (context : Context) (desk : Desk σ) :
    PassEnd × Desk σ :=
  let (passEnd, supply, outer) := world.pass rules context desk.supply desk.outer
  (passEnd, { desk with supply := supply, outer := outer })

def process (world : World σ) (context : Context) (desk : Desk σ) :
    Except PassFault PassEnd × Desk σ :=
  match world.enabledRules desk.outer with
  | (.error trouble, outer) => (.error (.rules trouble), { desk with outer := outer })
  | (.ok rules, outer) =>
    let (passEnd, desk) := run world rules context { desk with outer := outer }
    (.ok passEnd, desk)

/-- Runs a pass on an email, or puts it off until the body of the email arrives. -/
def processEmail (world : World σ) (email : Email) (score : Option Binary64)
    (links : Option (List Link)) (desk : Desk σ) : Except PassFault PassOutcome × Desk σ :=
  match Context.prepare email score links [] with
  | .error fault => (.error (.links fault), desk)
  | .ok context =>
    match world.enabledRules desk.outer with
    | (.error trouble, outer) => (.error (.rules trouble), { desk with outer := outer })
    | (.ok rules, outer) =>
      if !email.contentLoaded && readsContent rules then
        (.ok .putOff, { desk with waiting := desk.waiting.put email.id context, outer := outer })
      else
        let (passEnd, desk) := run world rules context { desk with outer := outer }
        (.ok passEnd.outcome, desk)

end Desk

def Email.load (email : Email) (body : String) (htmlBody : Option String) : Email :=
  let html := match htmlBody with
    | some html => if html.isEmpty then email.htmlBody else some html
    | none => email.htmlBody
  { email with body := some body, htmlBody := html, contentLoaded := true }

/-- A context whose email has got its body. Links are looked for when none are known. -/
def Context.load (context : Context) (body : String) (htmlBody : Option String) :
    Except LinkFault Context := do
  let email := context.email.load body htmlBody
  let links ← if context.links.isEmpty then
      Link.ofBodies (email.body.getD "") (email.htmlBody.getD "")
    else pure context.links
  return { context with email := email, links := links }

namespace Desk

def processLoaded (world : World σ) (emailId body : String) (htmlBody : Option String)
    (desk : Desk σ) :
    Except PassFault (Option PassOutcome) × Desk σ :=
  match desk.waiting.find? emailId with
  | none => (.ok none, desk)
  | some context =>
    let desk := { desk with waiting := desk.waiting.drop emailId }
    match context.load body htmlBody with
    | .error fault => (.error (.links fault), desk)
    | .ok context =>
      match process world context desk with
      | (.error fault, desk) => (.error fault, desk)
      | (.ok passEnd, desk) => (.ok (some passEnd.outcome), desk)

def clear (emailId : String) (desk : Desk σ) : Desk σ :=
  { desk with waiting := desk.waiting.drop emailId }

end Desk

end MailTriage
