import CivicForum.Config.Basic
import CivicForum.Config.Database
import CivicForum.Config.Environment
import CivicForum.Forum.Options
import CivicForum.Forum.Session

/-! # Starting the service

* `Machine`: what the machine grants to the program.
* `Startup.Failure`: the step at which a start fails; `Startup.Failure.message` is its wording.
* `Startup.Report`: what a start leaves behind.
* `Startup.run`: settings are loaded, then the receiver of counters is set up, then the database is
  opened and gets its system user, then the address is bound.
-/

set_option autoImplicit false

namespace CivicForum

/-- What the machine grants. -/
structure Machine where
  /-- The directory of a database file exists; the empty text is the current directory. -/
  hasDirectory : String → Bool
  /-- The address is free and belongs to the machine. -/
  canBind : Address → Bool

namespace Startup

/-- The step at which a start fails. -/
inductive Failure where
  | arguments (f : Options.Fault)
  | configuration
  | exporter
  | database
  | binding
  deriving Repr, DecidableEq

/-- The first line of what a user is told. -/
def Failure.message : Failure → String
  | .arguments f => f.message
  | .configuration => "failed to load configuration"
  | .exporter => "failed to set up metrics exporter"
  | .database => "failed to establish database connection pool"
  | .binding => "failed to bind address"

/-- The exit code of a program that stops here. -/
def Failure.exitCode : Failure → Nat
  | .arguments f => f.exitCode
  | _ => 1

/-- What a start leaves behind: the database with its content, and the failure that ended it, if
any did. -/
structure Report where
  failure : Option Failure
  opened : Option (Database × Session)

/-- Where the service listens when the settings do not say. -/
def standardAddress : Address := .v4 [127, 0, 0, 1] 8000

/-- The settings of a file with those of the environment laid over them. -/
def load? (file : Option Json) (vars : List (String × String)) : Option Config :=
  file.bind fun v => Config.ofJson? (Environment.overlay v (Environment.settings vars))

/-- Counters can be pushed to a host; a URL without one is taken only if it is a name alone. -/
def canPush (u : Url) : Bool :=
  let isNameChar (c : Char) : Bool :=
    c.isAlphanum || c ∈ ['-', '.', '_', '~', '!', '$', '&', '\'', '(', ')', '*', '+', ',', ';', '=']
  match u.rest with
  | .hierarchical _ host _ _ => host ≠ []
  | .rooted _ => false
  | .opaquePath path => u.query.isNone && u.fragment.isNone && path.all isNameChar

/-- A database that is only read cannot be new. -/
def canOpen (m : Machine) : Database → Bool
  | .memory => true
  | .file path readOnly => !readOnly && m.hasDirectory (Database.directory path)

/-- A start with these settings. -/
def runWith (m : Machine) (c : Config) (now : Instant) : Report :=
  if c.metricsUrl.any (!canPush ·) then ⟨some .exporter, none⟩
  else
    match (Database.parse? c.db).filter (canOpen m) with
    | none => ⟨some .database, none⟩
    | some d =>
      let id := c.moderation.systemId
      let f : Session := ⟨Session.storeWith id (Timestamp.writePlain now), now, id⟩
      if m.canBind (c.listenAddress.getD standardAddress) then ⟨none, some (d, f)⟩
      else ⟨some .binding, some (d, f)⟩

/-- A start of the program. `file` holds the settings of the file that the arguments name, and is
nothing when the file cannot be understood. -/
def run (m : Machine) (args : List String) (file : Option Json)
    (vars : List (String × String)) (now : Instant) : Report :=
  match Options.read args with
  | .error f => ⟨some (.arguments f), none⟩
  | .ok _ =>
    match load? file vars with
    | none => ⟨some .configuration, none⟩
    | some c => runWith m c now

end Startup

end CivicForum
