import Workbench.Bridge.Message
import Workbench.Log.Event

/-!
What the shell does to the rest of the world while it acts: it notes events in the log, starts and stops
tasks, and asks the file host. A request waits for the reply, which may fail to come.
-/

namespace Workbench

inductive Signal where
  | log (event : LogEvent)
  | startRun (id : Nat) (code : List Char)
  | stopRun (id : Nat)
  | listFunctions
deriving DecidableEq, Repr

inductive Interaction (α : Type) where
  | done (a : α)
  | signal (s : Signal) (next : Interaction α)
  | request (r : HostRequest) (next : Option HostResponse → Interaction α)

namespace Interaction

def signals {α : Type} (ss : List Signal) (next : Interaction α) : Interaction α :=
  ss.foldr signal next

def run {α σ : Type} (onSignal : Signal → StateM σ Unit)
    (onRequest : HostRequest → StateM σ (Option HostResponse)) : Interaction α → StateM σ α
  | done a => pure a
  | signal s next => do
    onSignal s
    next.run onSignal onRequest
  | request r next => do
    let reply ← onRequest r
    (next reply).run onSignal onRequest

end Interaction

end Workbench
