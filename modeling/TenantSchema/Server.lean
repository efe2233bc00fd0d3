import TenantSchema.Note

/-!
# Database servers

A server is known by how it answers calls.  Its answer may depend on everything that was
called before, so a server is a function from the history of a run to the fault, if any, of
the next call.  A connection belongs to a catalog; the administrative one belongs to none.
-/

namespace TenantSchema

/-- A call to a server. -/
inductive Call where
  | connect (catalog : Option Text)
  | execute (catalog : Option Text) (statement : Text)
  | commit (catalog : Option Text)
  | rollback (catalog : Option Text)
  | close (catalog : Option Text)
  deriving Repr, DecidableEq

/-- How a call fails. -/
inductive Fault where
  /-- The driver reports an error, with its message. -/
  | driver (message : String)
  /-- Something else goes wrong that a run does not handle. -/
  | unhandled (message : String)
  deriving Repr, DecidableEq

/-- The message of a fault. -/
def Fault.message : Fault → String
  | .driver message | .unhandled message =>
      message

/-- A call that was made, and whether it succeeded. -/
structure Event where
  call : Call
  succeeded : Bool
  deriving Repr, DecidableEq

/-- The calls made so far, in order. -/
abbrev History := List Event

/-- How a server answers a call after a history: with a fault, or by doing it. -/
abbrev Server := History → Call → Option Fault

namespace Server

/-- The server that does whatever it is asked. -/
def faultless : Server :=
  fun _ _ => none

/-- Make a call: its fault, if any, and the longer history. -/
def perform (server : Server) (history : History) (call : Call) : Option Fault × History :=
  match server history call with
  | none =>
      (none, history ++ [{ call := call, succeeded := true }])
  | some fault =>
      (some fault, history ++ [{ call := call, succeeded := false }])

/--
Close a connection.  The connection is closed in any case; after that the server may still
report a fault of closing.
-/
def leave (server : Server) (history : History) (catalog : Option Text) :
    Option Fault × History :=
  let closed := history ++ [{ call := .close catalog, succeeded := true }]
  match server closed (.close catalog) with
  | none =>
      (none, closed)
  | some fault =>
      (some fault, closed ++ [{ call := .close catalog, succeeded := false }])

end Server

/-- How an activity over a connection ends. -/
inductive Ending (Value : Type) where
  | finished (value : Value)
  /-- A fault ended it; what it had obtained by then is kept. -/
  | broken (fault : Fault) (obtained : Option Value)

namespace Ending

variable {Value : Type}

/-- What an activity had obtained when it ended. -/
def obtained : Ending Value → Option Value
  | .finished value =>
      some value
  | .broken _ obtained =>
      obtained

/--
The ending of an activity after its connection was closed: a fault of closing takes the place
of whatever ended the activity.
-/
def afterClosing (ending : Ending Value) : Option Fault → Ending Value
  | none =>
      ending
  | some fault =>
      .broken fault ending.obtained

end Ending

/-- An activity over a server: how it ended, and the history after it. -/
structure Activity (Value : Type) where
  ending : Ending Value
  history : History
  notes : List Note

/--
Where connections come from.  Closing a connection that a fault is leaving is answered apart
from all other calls.
-/
structure ConnectionFactory where
  server : Server
  /-- The answers to closing a connection while a fault is passed on. -/
  release : Server

namespace ConnectionFactory

/-- Connections to a server that closes them without more ado while a fault is passed on. -/
def ofServer (server : Server) : ConnectionFactory :=
  { server := server, release := .faultless }

/-- What answers the closing of a connection after an activity that ended so. -/
def closer {Value : Type} (factory : ConnectionFactory) : Ending Value → Server
  | .finished _ =>
      factory.server
  | .broken _ _ =>
      factory.release

/--
Open a connection, do something over it and close it again, whether or not a fault ended what
was done.
-/
def within
    {Value : Type}
    (factory : ConnectionFactory)
    (catalog : Option Text)
    (history : History)
    (body : History → Activity Value) :
    Activity Value :=
  let (fault, connected) := factory.server.perform history (.connect catalog)
  match fault with
  | some fault =>
      { ending := .broken fault none, history := connected, notes := [] }
  | none =>
      let activity := body connected
      let (fault, closed) :=
        (factory.closer activity.ending).leave activity.history catalog
      {
        ending := activity.ending.afterClosing fault
        history := closed
        notes := activity.notes
      }

end ConnectionFactory

end TenantSchema
