import NocAgent.Python.Value

/-!
# How the owner task handles a command

The owner of an MCP session handles one command after the other.  Between two points where it waits
for the server it takes a turn, which is computed here.

* `Command`, `CommandResult`, `toolValue` — what is asked and what comes back.
* `OwnerSession`, `Progress` — the session, and where the handling of a command is.
* `handle` — the next turn.
* `Turn.Sound`, `handle_sound` — a turn leaves the command going, or ends it with its last act, with
  the result of the act before.
-/

set_option autoImplicit false

namespace NocAgent.Mcp

/-! ## Commands and results -/

/-- `MCPCommandType`. -/
inductive CommandType where
  | connect
  | listTools
  | callTool
  | health
  | reconnect
  | shutdown
  deriving DecidableEq

/-- `MCPCommand`; `id` stands for its reply stream. -/
structure Command where
  id : Nat
  type : CommandType
  name : Option String := none
  arguments : Option JsonDict := none

/-- `CommandResult`. -/
abbrev CommandResult := Except PyExc Json

/-- A block of the result of a tool. -/
structure ContentBlock where
  structuredContent : Json := .null
  structured_content : Json := .null
  text : Option String := none

/-- The result of a tool. -/
structure CallToolResult where
  structuredContent : Json := .null
  structured_content : Json := .null
  content : List ContentBlock := []

/-- The loop over the content blocks, with the text so far. -/
def blocksValue : List ContentBlock → String → Json
  | [], out => .str (if out = "" then "Executed successfully." else strip out)
  | block :: rest, out =>
    let structured := block.structuredContent.or block.structured_content
    if structured.notNone then structured
    else
      match block.text with
      | some text => blocksValue rest (out ++ text ++ "\n")
      | none => blocksValue rest out

/-- What `_call_tool_once` makes of the answer. -/
def toolValue (result : CallToolResult) : Json :=
  let structured := result.structuredContent.or result.structured_content
  if structured.notNone then structured else blocksValue result.content ""

/-- What the server answers: its tools to `list_tools`, a result to `call_tool`. -/
structure Response where
  tools : List Json := []
  result : CallToolResult := {}

/-- The value of a command whose request was answered. -/
def Response.value (response : Response) : CommandType → Json
  | .listTools => .list response.tools
  | .health => .int response.tools.length
  | _ => toolValue response.result

inductive Request where
  | listTools
  | callTool (name : String) (arguments : JsonDict)

/-- What the session is asked for a command. -/
def Command.request (c : Command) : Request :=
  match c.type with
  | .callTool => .callTool (c.name.getD "") (c.arguments.getD [])
  | _ => .listTools

def closedResourceError : PyExc := .named "ClosedResourceError" ""

/-- What `_raise_if_backoff_active` raises. -/
def degradedError (remaining : String) : PyExc :=
  .named "MCPClientDegradedError"
    ("MCP client degraded; reconnect backoff active for " ++ remaining ++ "s")

/-- `_looks_like_stale_session`. -/
def looksLikeStaleSession (py : Python) : PyExc → Bool
  | .named name text =>
    ["BrokenResourceError", "ClosedResourceError", "EndOfStream"].contains name ||
      ["session terminated", "not connected to mcp server"].any fun marker =>
        hasText marker (py.lower text)
  | _ => false

/-! ## Turns -/

/-- What the caller of a command does. -/
inductive CallerPhase where
  | absent
  /-- in `send`, or in `receive` on its reply stream -/
  | awaiting
  | replied (r : CommandResult)
  | returned (r : CommandResult)
  /-- its command was not taken -/
  | raised (e : PyExc)
  /-- it gave up, timed out or not; `reached` if its command was past the senders that wait -/
  | left (timedOut reached : Bool)

/-- Still waiting for a reply. -/
def CallerPhase.waits : CallerPhase → Bool
  | .awaiting => true
  | _ => false

/-- The session, and whether the snapshot is degraded, which starts a backoff. -/
structure OwnerSession where
  session : Bool := false
  degraded : Bool := false

/-- What a reconnect is for. -/
inductive ConnectReason where
  | command
  /-- an attempt at the operation that found no session -/
  | operation (again : Bool)
  /-- between the two attempts -/
  | stale

/-- Where the handling of a command is. -/
inductive Progress where
  | taken
  | connecting (reason : ConnectReason)
  | requesting (again : Bool)
  | done (result : CommandResult)

def Progress.isDone : Progress → Bool
  | .done _ => true
  | _ => false

/-- What is recorded of the handling. -/
inductive OwnerAct where
  | began
  | connecting
  | connected (outcome : Except PyExc Unit)
  /-- a request starts, while the caller is where it is -/
  | requested (request : Request) (caller : CallerPhase)
  | answered (outcome : Except PyExc Response)
  | backingOff (remaining : String)
  | ended (result : CommandResult)

def OwnerAct.ends : OwnerAct → Bool
  | .ended _ => true
  | _ => false

/-- The result that an act has for a command. -/
def OwnerAct.result (type : CommandType) : OwnerAct → Option CommandResult
  | .began => if type = .shutdown then some (.error closedResourceError) else none
  | .connected (.ok _) => if type = .connect ∨ type = .reconnect then some (.ok .null) else none
  | .connected (.error e) => some (.error e)
  | .answered (.ok response) => some (.ok (response.value type))
  | .answered (.error e) => some (.error e)
  | .backingOff remaining => some (.error (degradedError remaining))
  | _ => none

/-- How `_owner_connect` ends. -/
inductive OwnerConnect where
  | connected
  | failed (e : PyExc)
  /-- closing the session before raises -/
  | closeRaised (e : PyExc)

/-- What the owner waits for comes about; `backoff` is the time that remains of a backoff, if it is
not over. -/
inductive OwnerEvent where
  | listen
  | receive
  | endOfStream
  | start (backoff : Option String)
  | connected (outcome : OwnerConnect) (backoff : Option String)
  | answered (outcome : Except PyExc Response) (backoff : Option String)
  | reply

/-- What the owner does in a turn, and where it leaves it. -/
structure Turn where
  link : OwnerSession
  acts : List OwnerAct
  progress : Progress

/-- `_raise_if_backoff_active`, which reads the clock only if the snapshot is degraded. -/
def OwnerSession.backingOff (link : OwnerSession) (backoff : Option String) : Option String :=
  if link.degraded then backoff else none

/-- The command ends after `act`. -/
def finish (link : OwnerSession) (acts : List OwnerAct) (act : OwnerAct) (result : CommandResult) :
    Turn :=
  ⟨link, acts ++ [act, .ended result], .done result⟩

/-- `_owner_connect`, until it waits. -/
def startConnect (acts : List OwnerAct) (reason : ConnectReason) : Turn :=
  ⟨{}, acts ++ [.connecting], .connecting reason⟩

section Handling

variable (py : Python) (c : Command) (caller : CallerPhase) (backoff : Option String)

/-- The operation raises with `act`: a stale session is renewed once. -/
def operationRaised (link : OwnerSession) (again : Bool) (acts : List OwnerAct) (act : OwnerAct)
    (e : PyExc) : Turn :=
  if again = false ∧ looksLikeStaleSession py e = true then
    match link.backingOff backoff with
    | some remaining =>
      finish link (acts ++ [act]) (.backingOff remaining) (.error (degradedError remaining))
    | none => startConnect (acts ++ [act]) .stale
  else finish link acts act (.error e)

/-- The session is asked. -/
def startRequest (link : OwnerSession) (again : Bool) (acts : List OwnerAct) : Turn :=
  ⟨link, acts ++ [.requested c.request caller], .requesting again⟩

/-- An attempt at the operation. -/
def operate (link : OwnerSession) (again : Bool) (acts : List OwnerAct) : Turn :=
  if link.session then startRequest c caller link again acts
  else
    match link.backingOff backoff with
    | some remaining =>
      operationRaised py backoff link again acts (.backingOff remaining) (degradedError remaining)
    | none => startConnect acts (.operation again)

/-- `_handle_owner_command`, until it waits. -/
def handleStart (link : OwnerSession) : Turn :=
  match c.type with
  | .connect | .reconnect => startConnect [.began] .command
  | .shutdown => finish link [] .began (.error closedResourceError)
  | .listTools | .callTool | .health =>
    match link.backingOff backoff with
    | some remaining =>
      finish link [.began] (.backingOff remaining) (.error (degradedError remaining))
    | none => operate py c caller backoff link false [.began]

/-- After `_owner_connect`. -/
def handleConnected (reason : ConnectReason) : OwnerConnect → Turn
  | .connected =>
    let link : OwnerSession := { session := true }
    match reason with
    | .command => finish link [] (.connected (.ok ())) (.ok .null)
    | .operation again => startRequest c caller link again [.connected (.ok ())]
    | .stale => operate py c caller backoff link true [.connected (.ok ())]
  | .failed e => connectRaised { degraded := true } e
  | .closeRaised e => connectRaised {} e
where
  connectRaised (link : OwnerSession) (e : PyExc) : Turn :=
    match reason with
    | .operation again => operationRaised py backoff link again [] (.connected (.error e)) e
    | _ => finish link [] (.connected (.error e)) (.error e)

/-- After the request. -/
def handleAnswered (link : OwnerSession) (again : Bool) : Except PyExc Response → Turn
  | .ok response =>
    finish { link with degraded := link.degraded && c.type = .callTool }
      [] (.answered (.ok response)) (.ok (response.value c.type))
  | .error e => operationRaised py backoff link again [] (.answered (.error e)) e

end Handling

/-- The next turn of a command that is not done. -/
def handle (py : Python) (c : Command) (caller : CallerPhase) (link : OwnerSession) :
    Progress → OwnerEvent → Option Turn
  | .taken, .start backoff => some (handleStart py c caller backoff link)
  | .connecting reason, .connected outcome backoff =>
    some (handleConnected py c caller backoff reason outcome)
  | .requesting again, .answered outcome backoff =>
    some (handleAnswered py c backoff link again outcome)
  | _, _ => none

/-! ## What a turn can be -/

/-- Only a `CONNECT` or a `RECONNECT` ends when the session is connected. -/
def Progress.Fits (type : CommandType) : Progress → Prop
  | .connecting .command => type = .connect ∨ type = .reconnect
  | _ => True

/-- The acts of a turn that goes on: none ends the command, and a request is the command's. -/
structure Going (c : Command) (caller : CallerPhase) (acts : List OwnerAct) : Prop where
  working : ∀ act ∈ acts, act.ends = false
  requested : ∀ request phase, .requested request phase ∈ acts →
    request = c.request ∧ phase = caller

/-- **A turn leaves the command going, or ends it with the result of its last act but one.** -/
def Turn.Sound (c : Command) (caller : CallerPhase) (turn : Turn) : Prop :=
  (Going c caller turn.acts ∧ turn.progress.isDone = false ∧ turn.progress.Fits c.type) ∨
    ∃ before act result, Going c caller (before ++ [act]) ∧ act.result c.type = some result ∧
      turn.acts = before ++ [act] ++ [.ended result] ∧ turn.progress = .done result

section Sound

variable {py : Python} {c : Command} {caller : CallerPhase} {backoff : Option String}
variable {link : OwnerSession} {again : Bool} {acts : List OwnerAct} {act : OwnerAct}

theorem Going.nil : Going c caller [] where
  working _ h := by cases h
  requested _ _ h := by cases h

theorem Going.snoc (h : Going c caller acts) (hends : act.ends = false)
    (hreq : ∀ request phase, act = .requested request phase →
      request = c.request ∧ phase = caller) : Going c caller (acts ++ [act]) where
  working a ha := by
    rcases List.mem_append.1 ha with hold | hnew
    · exact h.working a hold
    · rw [List.mem_singleton.1 hnew]
      exact hends
  requested request phase ha := by
    rcases List.mem_append.1 ha with hold | hnew
    · exact h.requested request phase hold
    · exact hreq request phase (List.mem_singleton.1 hnew).symm

/-- An act with a result neither ends the command nor asks for anything. -/
theorem Going.of_result {result : CommandResult} (h : Going c caller acts)
    (hresult : act.result c.type = some result) : Going c caller (acts ++ [act]) := by
  refine h.snoc ?_ ?_
  · cases act with
    | ended r => cases hresult
    | _ => rfl
  · rintro request phase rfl
    cases hresult

theorem finish_sound {result : CommandResult} (h : Going c caller acts)
    (hresult : act.result c.type = some result) : (finish link acts act result).Sound c caller :=
  Or.inr ⟨acts, act, result, h.of_result hresult, hresult, by simp [finish], rfl⟩

theorem startConnect_sound {reason : ConnectReason} (h : Going c caller acts)
    (hfits : (Progress.connecting reason).Fits c.type) :
    (startConnect acts reason).Sound c caller := by
  refine Or.inl ⟨h.snoc rfl ?_, rfl, hfits⟩
  intro request phase heq
  cases heq

theorem operationRaised_sound {e : PyExc} (h : Going c caller acts)
    (hresult : act.result c.type = some (.error e)) :
    (operationRaised py backoff link again acts act e).Sound c caller := by
  have hact := h.of_result hresult
  unfold operationRaised
  split
  · split
    · exact finish_sound hact rfl
    · exact startConnect_sound hact trivial
  · exact finish_sound h hresult

theorem startRequest_sound (h : Going c caller acts) :
    (startRequest c caller link again acts).Sound c caller := by
  refine Or.inl ⟨h.snoc rfl ?_, rfl, trivial⟩
  intro request phase heq
  cases heq
  exact ⟨rfl, rfl⟩

theorem operate_sound (h : Going c caller acts) :
    (operate py c caller backoff link again acts).Sound c caller := by
  unfold operate
  split
  · exact startRequest_sound h
  · split
    · exact operationRaised_sound h rfl
    · exact startConnect_sound h trivial

theorem handleStart_sound : (handleStart py c caller backoff link).Sound c caller := by
  have hbegan : Going c caller [.began] := by
    refine Going.snoc Going.nil rfl ?_
    intro request phase heq
    cases heq
  unfold handleStart
  split
  · rename_i htype
    exact startConnect_sound hbegan (Or.inl htype)
  · rename_i htype
    exact startConnect_sound hbegan (Or.inr htype)
  · rename_i htype
    exact finish_sound Going.nil (by simp [OwnerAct.result, htype])
  all_goals
    split
    · exact finish_sound hbegan rfl
    · exact operate_sound hbegan

theorem connectRaised_sound {reason : ConnectReason} {e : PyExc} :
    (handleConnected.connectRaised py backoff reason link e).Sound c caller := by
  unfold handleConnected.connectRaised
  split
  · exact operationRaised_sound Going.nil rfl
  · exact finish_sound Going.nil rfl

theorem handleConnected_sound {reason : ConnectReason} {outcome : OwnerConnect}
    (hfits : (Progress.connecting reason).Fits c.type) :
    (handleConnected py c caller backoff reason outcome).Sound c caller := by
  unfold handleConnected
  cases outcome with
  | failed e => exact connectRaised_sound
  | closeRaised e => exact connectRaised_sound
  | connected =>
    have hconnected : Going c caller [.connected (.ok ())] := by
      refine Going.snoc Going.nil rfl ?_
      intro request phase heq
      cases heq
    cases reason with
    | command => exact finish_sound Going.nil (if_pos hfits)
    | operation again => exact startRequest_sound hconnected
    | stale => exact operate_sound hconnected

theorem handleAnswered_sound {outcome : Except PyExc Response} :
    (handleAnswered py c backoff link again outcome).Sound c caller := by
  unfold handleAnswered
  cases outcome with
  | ok response => exact finish_sound Going.nil rfl
  | error e => exact operationRaised_sound Going.nil rfl

/-- **Every turn is sound.** -/
theorem handle_sound {p : Progress} {e : OwnerEvent} {turn : Turn} (hfits : p.Fits c.type)
    (h : handle py c caller link p e = some turn) : turn.Sound c caller := by
  unfold handle at h
  split at h
  · cases h
    exact handleStart_sound
  · cases h
    exact handleConnected_sound hfits
  · cases h
    exact handleAnswered_sound
  · cases h

end Sound

/-! ## What follows from a sound turn -/

namespace Turn.Sound

variable {c : Command} {caller : CallerPhase} {turn : Turn}

theorem fits (h : turn.Sound c caller) : turn.progress.Fits c.type := by
  rcases h with ⟨_, _, hfits⟩ | ⟨_, _, _, _, _, _, hprogress⟩
  · exact hfits
  · rw [hprogress]
    trivial

/-- Only the last act can end the command. -/
theorem pairwise (h : turn.Sound c caller) : turn.acts.Pairwise fun a _ => a.ends = false := by
  rcases h with ⟨hgoing, _, _⟩ | ⟨before, act, result, hgoing, _, hacts, _⟩
  · exact List.pairwise_of_forall_mem_list fun a ha _ _ => hgoing.working a ha
  · rw [hacts, List.pairwise_append]
    refine ⟨List.pairwise_of_forall_mem_list fun a ha _ _ => hgoing.working a ha,
      List.pairwise_singleton _ _, fun a ha _ _ => hgoing.working a ha⟩

theorem working (h : turn.Sound c caller) (hdone : turn.progress.isDone = false) :
    ∀ a ∈ turn.acts, a.ends = false := by
  rcases h with ⟨hgoing, _, _⟩ | ⟨_, _, _, _, _, _, hprogress⟩
  · exact hgoing.working
  · rw [hprogress] at hdone
    cases hdone

theorem ended (h : turn.Sound c caller) {result : CommandResult}
    (hdone : turn.progress = .done result) : .ended result ∈ turn.acts := by
  rcases h with ⟨_, hgoing, _⟩ | ⟨before, act, r, _, _, hacts, hprogress⟩
  · rw [hdone] at hgoing
    cases hgoing
  · rw [hprogress] at hdone
    cases hdone
    simp [hacts]

/-- A result is that of an act. -/
theorem backed (h : turn.Sound c caller) {result : CommandResult}
    (hended : .ended result ∈ turn.acts) : ∃ a ∈ turn.acts, a.result c.type = some result := by
  rcases h with ⟨hgoing, _, _⟩ | ⟨before, act, r, hgoing, hresult, hacts, _⟩
  · cases hgoing.working _ hended
  · have hr : result = r := by
      rw [hacts] at hended
      rcases List.mem_append.1 hended with hbefore | hlast
      · cases hgoing.working _ hbefore
      · cases List.mem_singleton.1 hlast
        rfl
    refine ⟨act, by simp [hacts], ?_⟩
    rw [hr]
    exact hresult

theorem requested (h : turn.Sound c caller) {request : Request} {phase : CallerPhase}
    (hreq : .requested request phase ∈ turn.acts) : request = c.request ∧ phase = caller := by
  rcases h with ⟨hgoing, _, _⟩ | ⟨before, act, r, hgoing, _, hacts, _⟩
  · exact hgoing.requested request phase hreq
  · rw [hacts] at hreq
    rcases List.mem_append.1 hreq with hbefore | hlast
    · exact hgoing.requested request phase hbefore
    · cases List.mem_singleton.1 hlast

end Turn.Sound

end NocAgent.Mcp
