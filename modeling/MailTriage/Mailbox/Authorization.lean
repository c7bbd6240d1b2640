import MailTriage.Disk
import MailTriage.Settings
import MailTriage.Text.Part

/-!
# Access to the mailbox

The program acts for a user with credentials. Those of an earlier run are kept in a token file: as
long as they are valid they are used as they are, when they have expired they are refreshed, and
otherwise the user logs in anew. Whatever is not used as it was is written to the token file.
-/

namespace MailTriage

namespace Authorization

/-- What the program asks permission for: to read, label and throw away messages, and to make
labels. -/
def scopes : List String :=
  ["https://www.googleapis.com/auth/gmail.modify", "https://www.googleapis.com/auth/gmail.labels"]

/-- How the program introduces itself when a user logs in. -/
def clientForm (environment : Environment) : Value :=
  let given (name : String) : Value := .ofText? (environment.find? name)
  let orElse (name fallback : String) : Value := .text ((environment.find? name).getD fallback)
  .object
    [("installed", .object
      [("client_id", given "GMAIL_CLIENT_ID"),
       ("project_id", given "GMAIL_PROJECT_ID"),
       ("auth_uri", orElse "GMAIL_AUTH_URI" "https://accounts.google.com/o/oauth2/auth"),
       ("token_uri", orElse "GMAIL_TOKEN_URI" "https://oauth2.googleapis.com/token"),
       ("auth_provider_x509_cert_url", given "GMAIL_AUTH_PROVIDER_CERT_URL"),
       ("client_secret", given "GMAIL_CLIENT_SECRET"),
       ("redirect_uris", .list [.text "http://localhost"])])]

/-- Credentials of a user. -/
structure Credentials where
  valid : Bool := false
  expired : Bool := false
  refreshToken : String := ""
  /-- What is written to a token file. -/
  token : String
  deriving DecidableEq, Inhabited

namespace Credentials

/-- Whether expired credentials can be made valid again. -/
def canRefresh (credentials : Credentials) : Bool :=
  credentials.expired && !credentials.refreshToken.isEmpty

end Credentials

/-- What is done to get credentials. -/
inductive Step
  | load (path : String)
  | refresh
  | introduce (clientId : Option String)
  | logIn (listenAt : Nat)
  deriving DecidableEq

/-- Where credentials come from. -/
inductive Origin
  | stored
  | new
  deriving DecidableEq

/-- Credentials, and how they were got. -/
structure Access where
  origin : Origin
  credentials : Credentials
  steps : List Step

def tokenPath (environment : Environment) (given : Option String) : String :=
  match given with
  | some path =>
    if path.isEmpty then (environment.find? "GMAIL_TOKEN_FILE").getD ".secrets/token.json" else path
  | none => (environment.find? "GMAIL_TOKEN_FILE").getD ".secrets/token.json"

def directoryOf (path : String) : Place :=
  Place.ofPath (String.ofList (Text.beforeLast '/' path.toList))

/-- The credentials to use: those that are kept, refreshed if need be, or those of a user who logs
in. The flag says whether they have to be written. -/
def choose (environment : Environment) (kept : Option Credentials) (login : Credentials) :
    Access × Bool :=
  let loggedIn : Access :=
    ⟨.new, login, [.introduce (environment.find? "GMAIL_CLIENT_ID"), .logIn 0]⟩
  match kept with
  | none => (loggedIn, true)
  | some credentials =>
    if credentials.valid then (⟨.stored, credentials, []⟩, false)
    else if credentials.canRefresh then (⟨.stored, credentials, [.refresh]⟩, true)
    else (loggedIn, true)

/-- Gets credentials. What a token file yields, and what a login yields, is given. -/
def connect (environment : Environment) (tokenFile : Option String) (stored : Option Credentials)
    (login : Credentials) (disk : Disk) : Except Trouble (Access × Disk) := do
  let path := tokenPath environment tokenFile
  let disk ← disk.makeDirectories (directoryOf path)
  let kept := disk.has path
  let (access, write) := choose environment (if kept then stored else none) login
  let access := if kept then { access with steps := .load path :: access.steps } else access
  if write then return (access, ← disk.write path access.credentials.token)
  else return (access, disk)

end Authorization

end MailTriage
