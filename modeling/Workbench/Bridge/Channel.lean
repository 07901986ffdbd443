import Workbench.Bridge.Host

/-!
The channel between the callers and the file host. A call waits until the channel has room for it, then for
the host, which takes the calls in their order and answers one after the other, and then for its caller to
take the reply. Callers may go away at any time, and so may the host.
-/

namespace Workbench

structure HostCall where
  envelope : Envelope
  caller : Nat
deriving DecidableEq, Repr

inductive CallStage where
  /-- There was no room in the channel yet. -/
  | sending
  /-- The channel has accepted it. -/
  | waiting
  | replied (response : HostResponse)
  | returned (reply? : Option HostResponse)
  | abandoned
deriving DecidableEq, Repr

def CallStage.reply (response : HostResponse) : CallStage → CallStage
  | waiting => replied response
  | stage => stage

structure HostChannel (σ φ : Type) where
  desk : Desk σ φ
  capacity : Nat := 16
  serving : Bool := true
  queue : List HostCall := []
  current? : Option HostCall := none
  calls : List (HostRequest × CallStage) := []

inductive ChannelEvent where
  | issue (request : HostRequest)
  | accept (caller : Nat)
  | take
  | answer (caller : Nat) (response : HostResponse)
  | receive (caller : Nat) (reply? : Option HostResponse)
  | abandon (caller : Nat)
  | stop
deriving DecidableEq, Repr

def Host.serve {σ φ : Type} [FileSystem φ] (dialogs : Dialogs σ) (calls : List Envelope) :
    StateM (Desk σ φ) (List HostResponse) :=
  calls.mapM (Host.handle dialogs)

namespace HostChannel

variable {σ φ : Type}

def request? (c : HostChannel σ φ) (caller : Nat) : Option HostRequest :=
  (c.calls[caller]?).map (·.1)

def stage? (c : HostChannel σ φ) (caller : Nat) : Option CallStage :=
  (c.calls[caller]?).map (·.2)

def line (c : HostChannel σ φ) : List HostCall :=
  c.current?.toList ++ c.queue

def move (c : HostChannel σ φ) (caller : Nat) (f : CallStage → CallStage) : HostChannel σ φ :=
  { c with calls := c.calls.modify caller fun call => (call.1, f call.2) }

/--
One thing happens. A call that is not accepted is refused once the host has ended, and a call that is not
answered has lost its reply when it is no longer before the host.
-/
inductive Step [FileSystem φ] (dialogs : Dialogs σ) :
    HostChannel σ φ → ChannelEvent → HostChannel σ φ → Prop where
  | issue (c : HostChannel σ φ) (request : HostRequest) :
    Step dialogs c (.issue request) { c with calls := c.calls ++ [(request, .sending)] }
  | accept {c : HostChannel σ φ} {caller : Nat} {request : HostRequest} :
    c.serving = true → c.queue.length < c.capacity → c.request? caller = some request →
    c.stage? caller = some .sending →
    Step dialogs c (.accept caller)
      { c.move caller fun _ => .waiting with queue := c.queue ++ [⟨.of request, caller⟩] }
  | take {c : HostChannel σ φ} {call : HostCall} {rest : List HostCall} :
    c.serving = true → c.current? = none → c.queue = call :: rest →
    Step dialogs c .take { c with current? := some call, queue := rest }
  | answer {c : HostChannel σ φ} {call : HostCall} :
    c.serving = true → c.current? = some call →
    Step dialogs c (.answer call.caller ((Host.handle dialogs call.envelope).run c.desk).1)
      { c.move call.caller (.reply ((Host.handle dialogs call.envelope).run c.desk).1) with
        current? := none, desk := ((Host.handle dialogs call.envelope).run c.desk).2 }
  | receive {c : HostChannel σ φ} {caller : Nat} {response : HostResponse} :
    c.stage? caller = some (.replied response) →
    Step dialogs c (.receive caller (some response))
      (c.move caller fun _ => .returned (some response))
  | refused {c : HostChannel σ φ} {caller : Nat} :
    c.serving = false → c.stage? caller = some .sending →
    Step dialogs c (.receive caller none) (c.move caller fun _ => .returned none)
  | dropped {c : HostChannel σ φ} {caller : Nat} :
    caller ∉ c.line.map (·.caller) → c.stage? caller = some .waiting →
    Step dialogs c (.receive caller none) (c.move caller fun _ => .returned none)
  | abandon {c : HostChannel σ φ} {caller : Nat} {stage : CallStage} :
    c.stage? caller = some stage → (∀ reply?, stage ≠ .returned reply?) →
    Step dialogs c (.abandon caller) (c.move caller fun _ => .abandoned)
  | stop {c : HostChannel σ φ} {desk : Desk σ φ} : (c.current? = none → desk = c.desk) →
    Step dialogs c .stop { c with serving := false, queue := [], current? := none, desk }

end HostChannel

end Workbench
