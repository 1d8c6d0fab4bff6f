import NocAgent.Mcp.HyruleClient

/-!
# What the owner and its callers have to do with each other

Of the client this keeps what commands were sent, taken, worked on and answered.

* `Dealings`, `Move` — the view, and what a step can do to it.
* `move_of_step` — every step of the client is a move of its view.
-/

set_option autoImplicit false

namespace NocAgent.Mcp

open Lts Streams

/-- The callers, the queue and the owner, as far as replies go. -/
structure Dealings where
  calls : Nat
  caller : Nat → CallerPhase
  queue : List Command
  owner : OwnerPhase
  received : List Command
  refused : List Command
  log : List Entry
  replies : List (Command × CommandResult)

def HyruleClient.dealings (s : HyruleClient) : Dealings where
  calls := s.calls.length
  caller := s.caller
  queue := s.channel.queue
  owner := s.owner
  received := s.received
  refused := s.refused
  log := s.log
  replies := s.replies

namespace Dealings

variable (d : Dealings)

/-- What the owner has taken from the channel. -/
def taken : List Command := d.received ++ d.refused

/-- What is or was in the channel, apart from what was withdrawn. -/
def seen : List Command := d.taken ++ d.queue

/-- A reply, which a caller gets only while it waits. -/
def put (c : Command) (r : CommandResult) : Dealings :=
  match d.caller c.id with
  | .awaiting => { d with
      caller := Function.update d.caller c.id (.replied r)
      replies := d.replies ++ [(c, r)] }
  | _ => d

/-- A reply that a command can get: the result it ended with, `None` for a `SHUTDOWN`, or the refusal
of what was left when the owner stopped. -/
def Outcome (c : Command) (r : CommandResult) : Prop :=
  (c ∈ d.received ∧ (c.type = .shutdown ∧ r = .ok .null ∨ ⟨c, .ended r⟩ ∈ d.log)) ∨
    (c ∈ d.refused ∧ r = .error closedResourceError)

/-- The command is answered, or its caller has left. -/
def Settled (c : Command) : Prop :=
  (∃ r, (c, r) ∈ d.replies) ∨ ∃ timedOut reached, d.caller c.id = .left timedOut reached

end Dealings

/-- The loop still runs. -/
def OwnerPhase.serving : OwnerPhase → Bool
  | .receiving | .handling _ _ => true
  | _ => false

/-- The command is not taken, or its deadline is over before. -/
def CallerPhase.Declined : CallerPhase → Prop
  | raised _ | left _ false => True
  | _ => False

/-- What a step can do. -/
inductive Move (d : Dealings) : Dealings → Prop where
  | quiet : Move d d
  | declined (phase : CallerPhase) (hphase : phase.Declined) :
      Move d { d with
        calls := d.calls + 1
        caller := Function.update d.caller d.calls phase }
  | sent (c : Command) (hid : c.id = d.calls) (hover : d.owner.isOver = false) :
      Move d { d with
        calls := d.calls + 1
        caller := Function.update d.caller c.id .awaiting
        queue := d.queue ++ [c] }
  | left (id : Nat) (timedOut reached : Bool) (queue : List Command)
      (hcaller : d.caller id ≠ .absent) (hqueue : queue.Sublist d.queue)
      (hkept : ∀ c ∈ d.queue, c.id ≠ id → c ∈ queue)
      (hgone : reached = false → (d.queue.map Command.id).Nodup →
        (∃ c ∈ d.queue, c.id = id) ∧ ∀ c ∈ queue, c.id ≠ id) :
      Move d { d with
        caller := Function.update d.caller id (.left timedOut reached)
        queue := queue }
  | collected (id : Nat) (r : CommandResult) (hcaller : d.caller id = .replied r) :
      Move d { d with caller := Function.update d.caller id (.returned r) }
  | taken (c : Command) (queue : List Command) (p : Progress) (howner : d.owner = .receiving)
      (hqueue : d.queue = c :: queue)
      (hp : c.type ≠ .shutdown ∧ p = .taken ∨ c.type = .shutdown ∧ p = .done (.ok .null)) :
      Move d { d with
        queue := queue
        received := d.received ++ [c]
        owner := .handling c p }
  | turned (c : Command) (p : Progress) (turn : Turn) (howner : d.owner = .handling c p)
      (hgoing : p.isDone = false) (hsound : turn.Sound c (d.caller c.id)) :
      Move d { d with
        owner := .handling c turn.progress
        log := d.log ++ turn.acts.map (Entry.mk c) }
  | replied (c : Command) (r : CommandResult) (howner : d.owner = .handling c (.done r)) :
      Move d { d.put c r with
        owner := if c.type = .shutdown then .draining else .receiving }
  | refusing (c : Command) (queue : List Command) (howner : d.owner = .draining)
      (hqueue : d.queue = c :: queue) :
      Move d { d with
        queue := queue
        refused := d.refused ++ [c]
        owner := .refusing c }
  | refused (c : Command) (howner : d.owner = .refusing c) :
      Move d { d.put c (.error closedResourceError) with owner := .draining }
  | stopped (howner : d.owner = .receiving ∨ d.owner = .draining) (hqueue : d.queue = []) :
      Move d { d with owner := .ended }
  | interrupted (hover : d.owner.isOver = false) :
      Move d { d with owner := .interrupted d.owner.hand }

section Put

variable {d : Dealings} {c : Command} {r : CommandResult}

/-- Either the caller waits and gets the reply, or nothing happens. -/
theorem Dealings.put_cases (d : Dealings) (c : Command) (r : CommandResult) :
    (d.caller c.id = .awaiting ∧ d.put c r = { d with
      caller := Function.update d.caller c.id (.replied r)
      replies := d.replies ++ [(c, r)] }) ∨ (d.caller c.id ≠ .awaiting ∧ d.put c r = d) := by
  unfold Dealings.put
  cases hcaller : d.caller c.id with
  | awaiting => exact Or.inl ⟨rfl, rfl⟩
  | _ => exact Or.inr ⟨by simp, rfl⟩

@[simp] theorem Dealings.put_calls : (d.put c r).calls = d.calls := by
  unfold Dealings.put
  split <;> rfl

@[simp] theorem Dealings.put_queue : (d.put c r).queue = d.queue := by
  unfold Dealings.put
  split <;> rfl

@[simp] theorem Dealings.put_received : (d.put c r).received = d.received := by
  unfold Dealings.put
  split <;> rfl

@[simp] theorem Dealings.put_refused : (d.put c r).refused = d.refused := by
  unfold Dealings.put
  split <;> rfl

@[simp] theorem Dealings.put_log : (d.put c r).log = d.log := by
  unfold Dealings.put
  split <;> rfl

end Put

/-! ## Steps are moves -/

section Steps

variable {py : Python} {s t : HyruleClient}

theorem dealings_put (s : HyruleClient) (c : Command) (r : CommandResult) :
    (s.put c r).dealings = s.dealings.put c r := by
  unfold HyruleClient.put Dealings.put
  cases hcaller : s.caller c.id with
  | awaiting =>
    have h : s.dealings.caller c.id = .awaiting := hcaller
    rw [h]
    rfl
  | _ =>
    have h : s.dealings.caller c.id = s.caller c.id := rfl
    rw [h, hcaller]

theorem call_move (type : CommandType) (name : Option String) (arguments : Option JsonDict)
    (inTime : Bool) : Move s.dealings (s.call type name arguments inTime).dealings := by
  unfold HyruleClient.call
  cases hrefusal : s.refusal inTime with
  | some phase =>
    have hphase : phase.Declined := by
      unfold HyruleClient.refusal at hrefusal
      split_ifs at hrefusal <;> cases hrefusal <;> trivial
    have hmove := Move.declined (d := s.dealings) phase hphase
    simpa [HyruleClient.dealings] using hmove
  | none =>
    have hover : s.owner.isOver = false := by
      unfold HyruleClient.refusal at hrefusal
      split_ifs at hrefusal with _ _ _ hnot
      exact Bool.eq_false_iff.2 hnot
    have hmove := Move.sent (d := s.dealings) ⟨s.calls.length, type, name, arguments⟩ rfl hover
    simpa [HyruleClient.dealings] using hmove

theorem leave_move {id : Nat} {timedOut : Bool} (h : s.leave id timedOut = some t) :
    Move s.dealings t.dealings := by
  have hmove : s.caller id ≠ .absent → Move s.dealings { s.dealings with
      caller := Function.update s.caller id
        (.left timedOut (s.channel.waiting.all fun c => !(c.id == id)))
      queue := (s.channel.withdraw fun c => c.id == id).queue } := by
    intro hcaller
    refine Move.left id timedOut _ _ hcaller (s.channel.sublist_withdraw _) ?_ ?_
    · intro c hc hne
      rcases List.mem_append.1 hc with hbefore | hwaiting
      · exact List.mem_append_left _ hbefore
      · exact List.mem_append_right _ (List.mem_filter.2 ⟨hwaiting, by simpa using hne⟩)
    · intro hreached hnodup
      obtain ⟨c, hwaiting, hid⟩ : ∃ c ∈ s.channel.waiting, c.id = id := by
        simpa using List.all_eq_false.1 hreached
      subst hid
      exact ⟨⟨c, List.mem_append_right _ hwaiting, rfl⟩,
        fun y hy => Channel.not_mem_withdraw hnodup hwaiting hy⟩
  unfold HyruleClient.leave at h
  split at h
  · rename_i hcaller
    cases h
    exact hmove (by simp [hcaller])
  · rename_i r hcaller
    cases h
    exact hmove (by simp [hcaller])
  · cases h

theorem collect_move {id : Nat} (h : s.collect id = some t) : Move s.dealings t.dealings := by
  unfold HyruleClient.collect at h
  split at h
  · rename_i r hcaller
    cases h
    exact Move.collected id r hcaller
  · cases h

theorem take_move {c : Command} {channel : Channel Command 100} (howner : s.owner = .receiving)
    (h : s.channel.receive = some (c, channel)) : Move s.dealings (s.take c channel).dealings := by
  have hqueue := Channel.queue_receive h
  unfold HyruleClient.take
  by_cases htype : c.type = .shutdown
  · have hmove := Move.taken (d := s.dealings) c channel.queue (.done (.ok .null)) howner hqueue
      (Or.inr ⟨htype, rfl⟩)
    simpa [HyruleClient.dealings, htype] using hmove
  · have hmove := Move.taken (d := s.dealings) c channel.queue .taken howner hqueue
      (Or.inl ⟨htype, rfl⟩)
    simpa [HyruleClient.dealings, htype] using hmove

theorem handle_move {c : Command} {p : Progress} {e : OwnerEvent}
    (howner : s.owner = .handling c p) (hfits : p.Fits c.type)
    (h : (handle py c (s.caller c.id) s.link p e).map (s.takeTurn c) = some t) :
    Move s.dealings t.dealings := by
  obtain ⟨turn, hturn, rfl⟩ := Option.map_eq_some_iff.1 h
  have hgoing : p.isDone = false := by
    cases p with
    | done r => cases hturn
    | _ => rfl
  exact Move.turned c p turn howner hgoing (handle_sound hfits hturn)

theorem owner_move {e : OwnerEvent}
    (hfits : ∀ c p, s.owner = .handling c p → p.Fits c.type) (h : s.ownerNext py e = some t) :
    Move s.dealings t.dealings := by
  unfold HyruleClient.ownerNext at h
  split at h
  · rename_i howner
    split at h
    · split at h
      · cases h
        exact Move.quiet
      · cases h
    · obtain ⟨⟨c, channel⟩, hreceive, rfl⟩ := Option.map_eq_some_iff.1 h
      exact take_move howner hreceive
    · split at h
      · rename_i hend
        cases h
        exact Move.stopped (Or.inl howner) hend.1
      · cases h
    · cases h
  · rename_i c p howner
    split at h
    · rename_i r
      cases h
      have hmove := Move.replied (d := s.dealings) c r howner
      rw [← dealings_put] at hmove
      exact hmove
    · exact handle_move howner (hfits c _ howner) h
  · rename_i howner
    split at h
    · split at h
      · rename_i hreceive
        cases h
        exact Move.stopped (Or.inr howner) (Channel.receive_eq_none_iff.1 hreceive)
      · rename_i c channel hreceive
        cases h
        exact Move.refusing c channel.queue howner (Channel.queue_receive hreceive)
    · cases h
  · rename_i c howner
    split at h
    · cases h
      have hmove := Move.refused (d := s.dealings) c howner
      rw [← dealings_put] at hmove
      exact hmove
    · cases h
  · cases h

theorem interrupt_move (h : s.interrupt = some t) : Move s.dealings t.dealings := by
  unfold HyruleClient.interrupt at h
  split at h
  · cases h
  · rename_i hover
    cases h
    exact Move.interrupted (Bool.eq_false_iff.2 hover)

/-- **Every step of the client is a move of its view.** -/
theorem move_of_step {l : ClientLabel}
    (hfits : ∀ c p, s.owner = .handling c p → p.Fits c.type) (h : clientStep py s l t) :
    Move s.dealings t.dealings := by
  cases l with
  | call type name arguments inTime =>
    cases h
    exact call_move type name arguments inTime
  | leave id timedOut => exact leave_move h
  | collect id => exact collect_move h
  | owner e => exact owner_move hfits h
  | interrupt => exact interrupt_move h
  | forceDisconnect =>
    cases h
    exact Move.quiet

end Steps

end NocAgent.Mcp
