import NocAgent.Mcp.Orderly

/-!
# Calls whose caller has given up

* `NoneAbandoned` — no tool is called for a caller that has timed out.
* `not_noneAbandoned_queued` — a tool is: the command waits in the channel, where nobody looks for
  its caller.
* `ReachedOwner` — a tool is called for such a caller only if the command had got past the senders
  that wait for room before the caller gave up.
* `reachedOwner_run` — this holds throughout every run.
-/

set_option autoImplicit false

namespace NocAgent.Mcp

open Lts

/-- **No tool runs after its caller timed out.** -/
def NoneAbandoned (s : HyruleClient) : Prop :=
  ∀ c name arguments phase, ⟨c, .requested (.callTool name arguments) phase⟩ ∈ s.log →
    ∀ reached, phase ≠ .left true reached

/-- **A tool that runs after its caller timed out is that of a command which had reached the owner
or its buffer by then.** -/
def ReachedOwner (s : HyruleClient) : Prop :=
  ∀ c name arguments reached,
    ⟨c, .requested (.callTool name arguments) (.left true reached)⟩ ∈ s.log →
      c.request = .callTool name arguments ∧ reached = true

section Abandoned

variable {py : Python} {s t : HyruleClient} {d d' : Dealings} {l : ClientLabel}

/-- A request is that of its command, and not of one that was withdrawn. -/
def Requested (d : Dealings) : Prop :=
  ∀ c request phase, ⟨c, .requested request phase⟩ ∈ d.log →
    request = c.request ∧ ∀ timedOut, phase ≠ .left timedOut false

/-- What is in hand has not been withdrawn. -/
theorem Orderly.hand_not_withdrawn (h : Orderly d) {c : Command} {p : Progress}
    (howner : d.owner = .handling c p) (timedOut : Bool) :
    d.caller c.id ≠ .left timedOut false := by
  intro hleft
  obtain ⟨before, hreceived⟩ := h.owned.last c p howner
  have hseen : c ∈ d.seen := by simp [Dealings.seen, Dealings.taken, hreceived]
  exact h.answered.withdrawn c.id timedOut hleft c hseen rfl

theorem Requested.move (h : Requested d) (horderly : Orderly d) (m : Move d d') :
    Requested d' := by
  cases m with
  | turned c p turn howner hgoing hsound =>
    intro c' request phase hmem
    rcases List.mem_append.1 hmem with hold | hnew
    · exact h c' request phase hold
    · obtain ⟨act, hact, heq⟩ := List.mem_map.1 hnew
      cases heq
      obtain ⟨hrequest, hphase⟩ := hsound.requested hact
      refine ⟨hrequest, fun timedOut => ?_⟩
      rw [hphase]
      exact horderly.hand_not_withdrawn howner timedOut
  | replied c r howner =>
    intro c' request phase hmem
    exact h c' request phase (by simpa using hmem)
  | refused c howner =>
    intro c' request phase hmem
    exact h c' request phase (by simpa using hmem)
  | _ => exact h

theorem requested_run {ls : List ClientLabel}
    (h : Run (clientStep py) HyruleClient.opened ls t) : Requested t.dealings := by
  refine (h.invariant (I := fun s => Orderly s.dealings ∧ Requested s.dealings) ?_ ?_).2
  · intro s l t hs hl
    exact ⟨hs.1.step hl, hs.2.move hs.1 (move_of_step hs.1.owned.fits hl)⟩
  · exact ⟨orderly_opened, fun _ _ _ hmem => nomatch hmem⟩

/-- **In every run a tool is called for a caller that timed out only if the command had got past the
senders that wait by then.** -/
theorem reachedOwner_run {ls : List ClientLabel}
    (h : Run (clientStep py) HyruleClient.opened ls t) : ReachedOwner t := by
  intro c name arguments reached hmem
  obtain ⟨hrequest, hphase⟩ := requested_run h c _ _ hmem
  refine ⟨hrequest.symm, ?_⟩
  cases reached with
  | true => rfl
  | false => exact absurd rfl (hphase true)

end Abandoned

/-! ## A call behind a slow one -/

/-- The caller of `ack` times out while `slow` runs; then the owner comes to `ack`. -/
def queuedCall : List ClientLabel :=
  [.plain .connect, .owner .receive, .owner (.start none), .owner (.connected .connected none),
    .owner .reply, .collect 0, .tool "slow", .owner .receive,
    .owner (.start none), .tool "ack", .leave 2 true,
    .owner (.answered (.ok {}) none), .owner .reply, .owner .receive, .owner (.start none)]

/-- The calls of tools that have started for callers that had timed out. -/
def abandonedStarts (s : HyruleClient) : List (Nat × String × Bool) :=
  s.log.filterMap fun e =>
    match e.act with
    | .requested (.callTool name _) (.left true reached) => some (e.command.id, name, reached)
    | _ => none

/-- **A tool runs after its caller timed out.** -/
theorem not_noneAbandoned_queued :
    ∃ t, Run (clientStep asciiPython) HyruleClient.opened queuedCall t ∧ ¬ NoneAbandoned t := by
  have hrun : (queuedCall.foldlM (HyruleClient.next asciiPython) HyruleClient.opened).map
      abandonedStarts = some [(2, "ack", true)] := by decide
  obtain ⟨t, ht, hstarts⟩ := Option.map_eq_some_iff.1 hrun
  refine ⟨t, Run.of_foldlM ht, fun hnone => ?_⟩
  have hmem : (2, "ack", true) ∈ abandonedStarts t := by simp [hstarts]
  obtain ⟨⟨c, act⟩, he, hact⟩ := List.mem_filterMap.1 hmem
  dsimp only at hact
  split at hact
  · rename_i name arguments reached
    exact hnone c name arguments _ he reached rfl
  · cases hact

theorem reachedOwner_run_queuedCall :
    ∃ t, abandonedStarts t = [(2, "ack", true)] ∧ ReachedOwner t := by
  have hrun : (queuedCall.foldlM (HyruleClient.next asciiPython) HyruleClient.opened).map
      abandonedStarts = some [(2, "ack", true)] := by decide
  obtain ⟨t, ht, hstarts⟩ := Option.map_eq_some_iff.1 hrun
  have hrun : Run (clientStep asciiPython) HyruleClient.opened queuedCall t := Run.of_foldlM ht
  exact ⟨t, hstarts, reachedOwner_run hrun⟩

end NocAgent.Mcp
