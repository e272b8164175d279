import CloudDesk.Config
import CloudDesk.Connection
import CloudDesk.Desk.Basic

namespace CloudDesk.Startup

/-- Why the service does not start, and what lies behind it, the nearest cause first. -/
structure Failure where
  message : String
  causes : List String
  deriving DecidableEq

def numbered (i : Nat) : List String → String
  | [] => ""
  | c :: rest => s!"\n    {i}: {c}" ++ numbered (i + 1) rest

def writeCauses : List String → String
  | [] => ""
  | [c] => "\n\nCaused by:\n    " ++ c
  | cs => "\n\nCaused by:" ++ numbered 0 cs

def Failure.write (f : Failure) : String := "Error: " ++ f.message ++ writeCauses f.causes

def Failure.ofMessages : List String → Failure
  | [] => ⟨"", []⟩
  | message :: causes => ⟨message, causes⟩

inductive LogEntry
  | policiesInMemory
  | policiesInDatabase
  | ceilingApplied (ceiling : Float)
  | listening (provider : Provider)
  deriving DecidableEq

def LogEntry.message : LogEntry → String
  | .policiesInMemory => "DATABASE_URL not set, budget policies kept in memory"
  | .policiesInDatabase => "budget policies persisted in postgres"
  | .ceilingApplied _ => "platform budget ceiling applied"
  | .listening _ => "Listening for incoming connections"

def LogEntry.toJson (e : LogEntry) : Json :=
  let more := match e with
    | .ceilingApplied ceiling => [("ceiling", .ofFloat ceiling)]
    | .listening provider => [("provider", Wire.encode provider)]
    | .policiesInMemory | .policiesInDatabase => []
  .object (("message", .string e.message) :: more)

def resolve (c : Config) : Except Failure Bundle :=
  match Provider.parse c.provider with
  | .error e => .error ⟨e.message, []⟩
  | .ok provider =>
    match c.settings with
    | .error e => .error ⟨"invalid BILLING_ENDPOINT", [e.message]⟩
    | .ok settings =>
      match (Registry.bootstrap settings).resolve provider with
      | .error e => .error ⟨e.message, []⟩
      | .ok bundle => .ok bundle

abbrev Connect := Url → Except Failure Database

def noDatabase : Connect := fun _ =>
  .error ⟨"pool timed out while waiting for an open connection", []⟩

def openStore (connect : Connect) (c : Config) : Except Failure (LogEntry × Store) :=
  match c.databaseUrl with
  | none => .ok (.policiesInMemory, .memory Table.empty)
  | some text =>
    match Connection.parse text with
    | .error f => .error (.ofMessages f.messages)
    | .ok url => (connect url).map fun d => (.policiesInDatabase, .database d)

def applyCeiling (c : Config) (store : Store) : Except Failure (List LogEntry × Store) :=
  match c.platformCeiling with
  | none => .ok ([], store)
  | some ceiling =>
    match BudgetStore.setCeiling store platformOwner ceiling with
    | (.error e, _) => .error ⟨e.message, []⟩
    | (.ok _, store) => .ok ([.ceilingApplied ceiling], store)

def deskOf (c : Config) (bundle : Bundle) (store : Store) : Desk where
  bundle
  books := ⟨store, Snapshot.empty bundle.settings.currency none⟩
  keys := Table.empty
  defaultCeiling := c.defaultCeiling
  schedule := some (Schedule.start (c.syncInterval * 1000) 0)

def invalidAddress : Failure :=
  ⟨"invalid BIND_ADDRESS/BIND_PORT", ["invalid socket address syntax"]⟩

/-- What was logged, and the desk of a service that listens, or why there is none. -/
def openDesk (connect : Connect) (c : Config) : List LogEntry × Except Failure Desk :=
  match resolve c with
  | .error f => ([], .error f)
  | .ok bundle =>
    match openStore connect c with
    | .error f => ([], .error f)
    | .ok (entry, store) =>
      match applyCeiling c store with
      | .error f => ([entry], .error f)
      | .ok (entries, store) =>
        if Url.isSocketAddress c.bindAddress then
          (entry :: entries ++ [.listening bundle.provider], .ok (deskOf c bundle store))
        else (entry :: entries, .error invalidAddress)

/-- Nothing is opened before the categories are known to be consistent. -/
def run (connect : Connect) (c : Config) : List LogEntry × Except Failure Desk :=
  match Taxonomy.table.inconsistency? with
  | some e => ([], .error ⟨"resource taxonomy is inconsistent", [e.message]⟩)
  | none => openDesk connect c

end CloudDesk.Startup
