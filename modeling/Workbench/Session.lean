import Workbench.Bridge.Host
import Workbench.Input.Handle
import Workbench.Screen.Frame

/-!
A shell among its collaborators: the file host, the service, and the tasks that wait for the service. The
answers of the pickers and of the service are given beforehand, and a task gets its turn only when the
session says so, so that every order of events can be played.
-/

namespace Workbench

inductive OutsideCall where
  | pickOpen (filters : List FileFilter)
  | pickSave (defaultName : String) (filters : List FileFilter)
  | envelope (e : Envelope)
deriving DecidableEq, Repr

/-- Pickers whose answers are known, and what they were asked. Without an answer left they are canceled. -/
structure ScriptedPickers where
  opens : List PickResult := []
  saves : List PickResult := []
  asked : List OutsideCall := []

namespace ScriptedPickers

def dialogs : Dialogs ScriptedPickers where
  pickOpen filters := modifyGet fun p =>
    (p.opens.headD (.ok none),
      { p with opens := p.opens.tail, asked := p.asked ++ [.pickOpen filters] })
  pickSave defaultName filters := modifyGet fun p =>
    (p.saves.headD (.ok none),
      { p with saves := p.saves.tail, asked := p.asked ++ [.pickSave defaultName filters] })

end ScriptedPickers

inductive HostLine where
  | serving
  /-- Replies that are known, some of which get lost. Without a reply left the line is closed. -/
  | scripted (replies : List (Option HostResponse))

inductive ServiceReply where
  | result (r : RunResult)
  | hang

inductive ServiceTask where
  | run (id : Nat) (code : List Char)
  | listFunctions

structure Session where
  shell : Shell
  desk : Desk ScriptedPickers FileStore
  line : HostLine := .serving
  replies : List ServiceReply := []
  directory : ListResult := .ok []
  tasks : List ServiceTask := []
  events : List ShellEvent := []
  ran : List (List Char) := []

namespace Session

def onSignal : Signal → StateM Session Unit
  | .log e => modify fun s => { s with desk := { s.desk with log := s.desk.log ++ [e] } }
  | .startRun id code => modify fun s => { s with tasks := s.tasks ++ [.run id code] }
  | .stopRun id => modify fun s =>
    { s with tasks := s.tasks.filter fun
        | .run other _ => other ≠ id
        | .listFunctions => true }
  | .listFunctions => modify fun s => { s with tasks := s.tasks ++ [.listFunctions] }

def runTask (s : Session) : ServiceTask → Session
  | .listFunctions => { s with events := s.events ++ [.functionsLoaded s.directory] }
  | .run id code =>
    let events := match s.replies.headD (.result (.ok "")) with
      | .hang => s.events
      | .result r => s.events ++ [.runFinished id r]
    { s with ran := s.ran ++ [code], replies := s.replies.tail, events }

def runTasks (s : Session) : Session :=
  s.tasks.foldl runTask { s with tasks := [] }

/-- Sends a request over the line. While the reply is on its way, the tasks get their turn. -/
def onRequest (request : HostRequest) : StateM Session (Option HostResponse) := do
  match (← get).line with
  | .serving =>
    modify runTasks
    modifyGet fun s =>
      let (response, desk) := (Host.handle ScriptedPickers.dialogs (.of request)).run s.desk
      (some response, { s with desk })
  -- The line is closed, so nothing waits and no task gets its turn.
  | .scripted [] => return none
  | .scripted (reply :: replies) =>
    modify runTasks
    modify fun s =>
      let pickers :=
        { s.desk.pickers with asked := s.desk.pickers.asked ++ [.envelope (.of request)] }
      { s with line := .scripted replies, desk := { s.desk with pickers } }
    return reply

def act (f : Shell → Interaction Shell) : StateM Session Unit := do
  let shell ← (f (← get).shell).run onSignal onRequest
  modify ({ · with shell })

def perform (action : ShellAction) : StateM Session Unit :=
  act (·.perform action)

def settle (f : Shell → Shell × List Signal) : StateM Session Unit :=
  act fun s => Shell.settle (f s)

def edit (f : Editor → Editor) : StateM Session Unit :=
  act fun s => .done { s with editor := f s.editor }

def deliver : StateM Session Unit := do
  match (← get).events with
  | [] => return
  | event :: events =>
    modify ({ · with events })
    settle (·.handleEvent event)

def pump : StateM Session Unit := do
  modify runTasks
  let events := (← get).events
  modify ({ · with events := [] })
  for event in events do
    settle (·.handleEvent event)

end Session

end Workbench
