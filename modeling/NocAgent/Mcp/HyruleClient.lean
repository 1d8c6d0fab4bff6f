import NocAgent.Lib.Channel
import NocAgent.Lib.Lts
import NocAgent.Mcp.Owner
import Mathlib.Logic.Function.Basic

/-!
# The client and its callers

Any number of callers send commands to one owner task, over a channel of a hundred, and wait for
their replies under a deadline.  This is one owner task from `connect` on.

* `OwnerPhase`, `HyruleClient` — the owner, its session, the channel and the callers.
* `call`, `leave`, `collect` — what a caller does.
* `ownerNext`, `interrupt`, `forceDisconnect` — what the owner does, and what is done to it.
* `clientStep` — any of these, in any order.
-/

set_option autoImplicit false

namespace NocAgent.Mcp

open Lts Streams

/-- Where the owner task is. -/
inductive OwnerPhase where
  | receiving
  | handling (c : Command) (p : Progress)
  | draining
  | refusing (c : Command)
  | ended
  /-- cancelled, or left by what is no `Exception`; and with which command in hand -/
  | interrupted (during : Option Command)

namespace OwnerPhase

/-- The command in hand. -/
def hand : OwnerPhase → Option Command
  | handling c _ | refusing c => some c
  | _ => none

/-- The command that was in hand when the owner was interrupted. -/
def cut : OwnerPhase → Option Command
  | interrupted during => during
  | _ => none

/-- The receiving end of the channel is closed. -/
def isOver : OwnerPhase → Bool
  | ended | interrupted _ => true
  | _ => false

end OwnerPhase

/-- One act of the owner on a command. -/
structure Entry where
  command : Command
  act : OwnerAct

/-- The client with its callers, its queue and its owner task. -/
structure HyruleClient where
  /-- every command of a caller; its place is its id -/
  calls : List Command := []
  caller : Nat → CallerPhase := fun _ => .absent
  channel : Channel Command 100 := .empty
  /-- `_command_send` is not `None` -/
  accepting : Bool := true
  sendClosed : Bool := false
  link : OwnerSession := {}
  owner : OwnerPhase := .receiving
  /-- by the loop of the owner, in order -/
  received : List Command := []
  /-- by `_drain_pending`, in order -/
  refused : List Command := []
  log : List Entry := []
  replies : List (Command × CommandResult) := []

/-- `connect` has made the channel and the owner task. -/
def HyruleClient.opened : HyruleClient := {}

namespace HyruleClient

variable (s : HyruleClient)

/-! ## The callers -/

/-- The exception of a call whose command is not taken. -/
def refusal (inTime : Bool) : Option CallerPhase :=
  if s.accepting = false then some (.raised (.named "RuntimeError" "Not connected to MCP server"))
  else if inTime = false then some (.left true false)
  else if s.sendClosed then some (.raised closedResourceError)
  else if s.owner.isOver then some (.raised (.named "BrokenResourceError" ""))
  else none

/-- `_send_command`; the deadline may be over before it begins.  `disconnect` closes the sending
end when its `SHUTDOWN` has returned or raised. -/
def call (type : CommandType) (name : Option String) (arguments : Option JsonDict)
    (inTime : Bool) : HyruleClient :=
  let c : Command := ⟨s.calls.length, type, name, arguments⟩
  match s.refusal inTime with
  | some phase => { s with
      calls := s.calls ++ [c]
      caller := Function.update s.caller s.calls.length phase
      sendClosed := s.sendClosed || type = .shutdown }
  | none => { s with
      calls := s.calls ++ [c]
      caller := Function.update s.caller s.calls.length .awaiting
      channel := s.channel.send c }

/-- The caller is a `disconnect`. -/
def closesSend (id : Nat) : Bool :=
  match s.calls[id]? with
  | some c => c.type = .shutdown
  | none => false

/-- A caller times out, is cancelled, or finds its stream closed. -/
def leave (id : Nat) (timedOut : Bool) : Option HyruleClient :=
  match s.caller id with
  | .awaiting | .replied _ => some { s with
      caller := Function.update s.caller id
        (.left timedOut (s.channel.waiting.all fun c => !(c.id == id)))
      channel := s.channel.withdraw fun c => c.id == id
      sendClosed := s.sendClosed || s.closesSend id }
  | _ => none

/-- A caller takes its reply. -/
def collect (id : Nat) : Option HyruleClient :=
  match s.caller id with
  | .replied r => some { s with
      caller := Function.update s.caller id (.returned r)
      sendClosed := s.sendClosed || s.closesSend id }
  | _ => none

/-! ## The owner -/

/-- `_reply`; the reply of a caller that is gone is dropped. -/
def put (c : Command) (r : CommandResult) : HyruleClient :=
  match s.caller c.id with
  | .awaiting => { s with
      caller := Function.update s.caller c.id (.replied r)
      replies := s.replies ++ [(c, r)] }
  | _ => s

/-- The loop takes a command; after a `SHUTDOWN` there are no more. -/
def take (c : Command) (channel : Channel Command 100) : HyruleClient :=
  let s := { s with channel := channel, received := s.received ++ [c] }
  if c.type = .shutdown then { s with
    accepting := false
    link := { s.link with degraded := false }
    owner := .handling c (.done (.ok .null)) }
  else { s with owner := .handling c .taken }

/-- The `finally` of the owner loop. -/
def stop (owner : OwnerPhase) : HyruleClient := { s with link := {}, owner := owner }

def takeTurn (c : Command) (turn : Turn) : HyruleClient :=
  { s with
    link := turn.link
    owner := .handling c turn.progress
    log := s.log ++ turn.acts.map (Entry.mk c) }

/-- `_owner_loop`, up to where it waits again. -/
def ownerNext (py : Python) (e : OwnerEvent) : Option HyruleClient :=
  match s.owner with
  | .receiving =>
    match e with
    | .listen =>
      if h : s.channel.queue = [] then some { s with channel := s.channel.listen h } else none
    | .receive => s.channel.receive.map fun taken => s.take taken.1 taken.2
    | .endOfStream =>
      if s.channel.queue = [] ∧ s.sendClosed = true then some (s.stop .ended) else none
    | _ => none
  | .handling c p =>
    match p, e with
    | .done r, .reply => some { s.put c r with
        owner := if c.type = .shutdown then .draining else .receiving }
    | p, e => (handle py c (s.caller c.id) s.link p e).map (s.takeTurn c)
  | .draining =>
    match e with
    | .receive =>
      match s.channel.receive with
      | none => some (s.stop .ended)
      | some (c, channel) => some { s with
          channel := channel
          refused := s.refused ++ [c]
          owner := .refusing c }
    | _ => none
  | .refusing c =>
    match e with
    | .reply => some { s.put c (.error closedResourceError) with owner := .draining }
    | _ => none
  | _ => none

/-- The owner task is cancelled, by a `disconnect` whose `SHUTDOWN` timed out or by
`force_disconnect`, or what it waits for raises what is no `Exception`. -/
def interrupt : Option HyruleClient :=
  if s.owner.isOver then none else some (s.stop (.interrupted s.owner.hand))

/-- What `force_disconnect`, and the end of `disconnect`, do to the client. -/
def forceDisconnect : HyruleClient :=
  { s with accepting := false, sendClosed := true, link := {} }

end HyruleClient

/-! ## Runs -/

inductive ClientLabel where
  | call (type : CommandType) (name : Option String) (arguments : Option JsonDict) (inTime : Bool)
  | leave (id : Nat) (timedOut : Bool)
  | collect (id : Nat)
  | owner (e : OwnerEvent)
  | interrupt
  | forceDisconnect

/-- A command without arguments, in time. -/
def ClientLabel.plain (type : CommandType) : ClientLabel := .call type none none true

/-- A tool call in time. -/
def ClientLabel.tool (name : String) : ClientLabel := .call .callTool (some name) none true

def HyruleClient.next (py : Python) (s : HyruleClient) : ClientLabel → Option HyruleClient
  | .call type name arguments inTime => some (s.call type name arguments inTime)
  | .leave id timedOut => s.leave id timedOut
  | .collect id => s.collect id
  | .owner e => s.ownerNext py e
  | .interrupt => s.interrupt
  | .forceDisconnect => some s.forceDisconnect

def clientStep (py : Python) (s : HyruleClient) (l : ClientLabel) (t : HyruleClient) : Prop :=
  s.next py l = some t

end NocAgent.Mcp
