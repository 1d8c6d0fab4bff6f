import NocAgent.Mcp.Orderly

/-!
# The replies of the owner loop

* `Served` — every command that the owner has done with is answered once, by its own result; what
  is left at a `SHUTDOWN` is refused; commands are worked on one after the other.
* `Cut` — the command in hand when the owner task is interrupted, and what is queued then.
* `served_run` — all but these are served throughout every run.
* `not_served_shutdownTimeout` — the command in hand is not answered, though its caller waits.
-/

set_option autoImplicit false

namespace NocAgent.Mcp

open Lts

/-- What an interruption of the owner task leaves without an answer. -/
def HyruleClient.Cut (s : HyruleClient) (c : Command) : Prop :=
  s.owner.cut = some c ∨ (∃ during, s.owner = .interrupted during) ∧ c ∈ s.channel.queue

/-- **Every command has been dealt with as it should**, apart from `excused`. -/
structure Served (s : HyruleClient) (excused : Command → Prop) : Prop where
  /-- at most one reply -/
  once : (s.replies.map fun e => e.1.id).Nodup
  /-- what a caller gets is a reply to its own command -/
  delivered : ∀ id r, s.caller id = .replied r ∨ s.caller id = .returned r →
    ∃ c, c.id = id ∧ (c, r) ∈ s.replies
  /-- a command of the loop is answered with the value or the exception it ended with -/
  own : ∀ c ∈ s.received, c.type ≠ .shutdown → ∀ r, (c, r) ∈ s.replies →
    ⟨c, .ended r⟩ ∈ s.log ∧ ∃ act, ⟨c, act⟩ ∈ s.log ∧ act.result c.type = some r
  /-- it has its reply unless its caller has left -/
  answered : ∀ c ∈ s.received, s.owner.hand ≠ some c → ¬ excused c → s.dealings.Settled c
  /-- what is drained is refused and not executed -/
  refused : ∀ c ∈ s.refused, (∀ act, ⟨c, act⟩ ∉ s.log) ∧
    (∀ r, (c, r) ∈ s.replies → r = .error closedResourceError) ∧
      (s.owner.hand ≠ some c → ¬ excused c → s.dealings.Settled c)
  /-- after a `SHUTDOWN` nothing else is done but to refuse -/
  shutdown : ∀ sd ∈ s.received, sd.type = .shutdown → ∀ c r, sd.id < c.id → (c, r) ∈ s.replies →
    c ∈ s.refused
  /-- what is behind it is not executed; it is still queued until it is refused, and it is refused
  before the owner is over -/
  behind : ∀ sd ∈ s.received, sd.type = .shutdown → ∀ c ∈ s.dealings.seen, sd.id < c.id →
    (∀ act, ⟨c, act⟩ ∉ s.log) ∧ (c ∈ s.refused ∨ c ∈ s.channel.queue) ∧
      (s.owner.isOver = true → ¬ excused c → c ∈ s.refused)
  /-- an owner that ends by itself leaves nobody waiting -/
  drained : s.owner = .ended → s.channel.queue = [] ∧ ∀ id, s.caller id ≠ .awaiting
  /-- commands are taken in the order in which they were sent -/
  fifo : (s.received.map Command.id).Pairwise (· < ·)
  /-- and worked on in that order, one at a time -/
  worked : ∀ e ∈ s.log, e.command ∈ s.received
  ordered : s.log.Pairwise Precedes

section Served

variable {py : Python} {s t : HyruleClient} {ls : List ClientLabel}

/-- A command is taken by the loop or drained, not both. -/
theorem Orderly.not_refused (h : Orderly s.dealings) {c : Command} (hreceived : c ∈ s.received) :
    c ∉ s.refused := by
  intro hrefused
  have hnodup := h.queued.nodup
  unfold Dealings.seen Dealings.taken at hnodup
  rw [List.map_append, List.map_append, List.nodup_append, List.nodup_append] at hnodup
  exact hnodup.1.2.2 c.id (List.mem_map_of_mem hreceived) c.id (List.mem_map_of_mem hrefused) rfl

/-- What comes after a `SHUTDOWN` is not taken by the loop. -/
theorem Orderly.not_received (h : Orderly s.dealings) {sd c : Command} (hsd : sd ∈ s.received)
    (htype : sd.type = .shutdown) (hlt : sd.id < c.id) : c ∉ s.received := by
  intro hreceived
  obtain ⟨before, hsplit⟩ := List.getLast?_eq_some_iff.1 (h.owned.shutdown sd hsd htype).1
  rcases h.queued.le_last hsplit hreceived with hle | hle
  · exact absurd hle (Nat.lt_asymm hlt)
  · exact absurd hle (Nat.ne_of_gt hlt)

/-- It is refused, or queued. -/
theorem Orderly.behind (h : Orderly s.dealings) {sd c : Command} (hsd : sd ∈ s.received)
    (htype : sd.type = .shutdown) (hc : c ∈ s.dealings.seen) (hlt : sd.id < c.id) :
    c ∈ s.refused ∨ c ∈ s.channel.queue := by
  rcases List.mem_append.1 hc with htaken | hqueue
  · exact Or.inl ((List.mem_append.1 htaken).resolve_left (h.not_received hsd htype hlt))
  · exact Or.inr hqueue

/-- An owner that is over and was not interrupted while the command was queued has refused it. -/
theorem Orderly.refused_of_over (h : Orderly s.dealings) (hover : s.owner.isOver = true) {c : Command}
    (hcut : ¬ s.Cut c) (hwhere : c ∈ s.refused ∨ c ∈ s.channel.queue) : c ∈ s.refused := by
  refine hwhere.resolve_right fun hqueue => ?_
  cases howner : s.owner with
  | ended =>
    have hnil : s.channel.queue = [] := h.queued.ended howner
    rw [hnil] at hqueue
    cases hqueue
  | interrupted during => exact hcut (Or.inr ⟨⟨during, howner⟩, hqueue⟩)
  | _ =>
    rw [howner] at hover
    cases hover

theorem Orderly.not_awaiting (h : Orderly s.dealings) (hended : s.owner = .ended) (id : Nat) :
    s.caller id ≠ .awaiting := by
  intro hawaiting
  obtain ⟨c, hc, rfl⟩ := h.answered.waiting id hawaiting
  have howner : s.dealings.owner = .ended := hended
  have htaken : c ∈ s.dealings.taken := by
    unfold Dealings.seen at hc
    rwa [h.queued.ended hended, List.append_nil] at hc
  have hsettled := h.answered.settled c htaken (by rw [howner]; simp [OwnerPhase.hand])
    (by rw [howner]; simp [OwnerPhase.cut])
  rcases hsettled with ⟨r, hr⟩ | ⟨_, _, hleft⟩
  · exact (h.answered.replied (c, r) hr).2 hawaiting
  · have hcaller : s.dealings.caller c.id = .awaiting := hawaiting
    rw [hcaller] at hleft
    cases hleft

/-- Where the dealings are orderly, all is as it should be but for an interrupted command. -/
theorem Orderly.served (h : Orderly s.dealings) : Served s s.Cut where
  once := h.answered.once
  delivered := h.answered.delivered
  own c hc htype r hr := by
    rcases h.answered.own c r hr with ⟨_, hshutdown | hended⟩ | ⟨hrefused, _⟩
    · exact absurd hshutdown.1 htype
    · exact ⟨hended, h.worked.backed c r hended⟩
    · exact absurd hrefused (h.not_refused hc)
  answered c hc hhand hcut :=
    h.answered.settled c (List.mem_append_left _ hc) hhand fun heq => hcut (Or.inl heq)
  refused c hc := by
    refine ⟨?_, ?_, fun hhand hcut => h.answered.settled c (List.mem_append_right _ hc) hhand
      fun heq => hcut (Or.inl heq)⟩
    · intro act hact
      exact h.not_refused (h.worked.logged ⟨c, act⟩ hact) hc
    · intro r hr
      rcases h.answered.own c r hr with ⟨hreceived, _⟩ | ⟨_, hr⟩
      · exact absurd hc (h.not_refused hreceived)
      · exact hr
  shutdown sd hsd htype c r hlt hr := by
    rcases h.answered.own c r hr with ⟨hreceived, _⟩ | ⟨hrefused, _⟩
    · exact absurd hreceived (h.not_received hsd htype hlt)
    · exact hrefused
  behind sd hsd htype c hc hlt := by
    have hwhere := h.behind hsd htype hc hlt
    refine ⟨fun act hact => ?_, hwhere, fun hover hcut => h.refused_of_over hover hcut hwhere⟩
    exact h.not_received hsd htype hlt (h.worked.logged ⟨c, act⟩ hact)
  drained hended := ⟨h.queued.ended hended, h.not_awaiting hended⟩
  fifo := h.queued.received_sorted
  worked := h.worked.logged
  ordered := h.worked.ordered

/-- **In every state of a run every command is served, apart from what is in hand and what is queued
when the owner task is interrupted.** -/
theorem served_run (h : Run (clientStep py) HyruleClient.opened ls t) : Served t t.Cut :=
  (orderly_run h).served

end Served

/-! ## Two ways to shut down -/

/-- Connect, and start a tool call that takes its time. -/
def slowCall : List ClientLabel :=
  [.plain .connect, .owner .receive, .owner (.start none), .owner (.connected .connected none),
    .owner .reply, .collect 0, .tool "slow", .owner .receive,
    .owner (.start none)]

/-- A `disconnect` and three health checks come while the call runs. -/
def patientShutdown : List ClientLabel :=
  slowCall ++ [.plain .shutdown, .plain .health, .plain .health, .plain .health,
    .owner (.answered (.ok {}) none), .owner .reply, .owner .receive, .owner .reply,
    .owner .receive, .owner .reply, .owner .receive, .owner .reply, .owner .receive,
    .owner .reply, .owner .receive]

/-- The `disconnect` times out, and cancels the owner task. -/
def shutdownTimeout : List ClientLabel := slowCall ++ [.plain .shutdown, .leave 2 true, .interrupt]

def clientAfter (ls : List ClientLabel) : Option HyruleClient :=
  ls.foldlM (HyruleClient.next asciiPython) HyruleClient.opened

theorem served_run_patientShutdown : ∃ t, clientAfter patientShutdown = some t ∧
    t.refused.map Command.id = [3, 4, 5] ∧ t.replies.map (fun e => e.1.id) = [0, 1, 2, 3, 4, 5] ∧
      Served t t.Cut := by
  have hrun : (clientAfter patientShutdown).map (fun t =>
      (t.refused.map Command.id, t.replies.map fun e => e.1.id)) =
        some ([3, 4, 5], [0, 1, 2, 3, 4, 5]) := by decide
  obtain ⟨t, ht, hread⟩ := Option.map_eq_some_iff.1 hrun
  obtain ⟨hrefused, hreplies⟩ := Prod.mk.inj hread
  exact ⟨t, ht, hrefused, hreplies, served_run (Run.of_foldlM ht)⟩

/-- **The call that was running is not answered, and never will be, though its caller waits.** -/
theorem not_served_shutdownTimeout : ∃ t, Run (clientStep asciiPython) HyruleClient.opened
    shutdownTimeout t ∧ t.owner.isOver = true ∧ ¬ Served t fun _ => False := by
  have hrun : (clientAfter shutdownTimeout).map (fun t =>
      (t.received.map Command.id, t.replies.map (fun e => e.1.id), t.owner.isOver,
        t.owner.hand.isNone, (t.caller 1).waits)) =
          some ([0, 1], [0], true, true, true) := by decide
  obtain ⟨t, ht, hread⟩ := Option.map_eq_some_iff.1 hrun
  simp only [Prod.mk.injEq] at hread
  obtain ⟨hreceived, hreplies, hover, hhand, hcaller⟩ := hread
  refine ⟨t, Run.of_foldlM ht, hover, fun hserved => ?_⟩
  obtain ⟨c, hc, hid⟩ : ∃ c ∈ t.received, c.id = 1 := by
    have hmem : 1 ∈ t.received.map Command.id := by simp [hreceived]
    exact List.mem_map.1 hmem
  have hnone := Option.isNone_iff_eq_none.1 hhand
  rcases hserved.answered c hc (by simp [hnone]) id with ⟨r, hr⟩ | ⟨_, _, hleft⟩
  · have hmem := List.mem_map_of_mem (f := fun e => e.1.id) hr
    have hmem : c.id ∈ t.replies.map fun e => e.1.id := hmem
    rw [hreplies, hid] at hmem
    simp at hmem
  · have hleft : t.caller c.id = _ := hleft
    rw [hid] at hleft
    rw [hleft] at hcaller
    cases hcaller

end NocAgent.Mcp
