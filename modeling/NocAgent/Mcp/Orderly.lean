import NocAgent.Mcp.Dealings

/-!
# What every run of the client keeps

* `Queued` — commands are numbered as they are sent, and are taken in that order.
* `Owned` — the command in hand is the last that was taken.
* `Worked` — the log is of one command after the other, and each result is that of an act.
* `Answered` — a command that was taken and is not in hand is answered, once, or its caller has left.
* `Orderly`, `orderly_run` — all of it holds in every state of a run.
-/

set_option autoImplicit false

namespace NocAgent.Mcp

open Lts

/-! ## The queue -/

/-- Commands are seen in the order of their ids. -/
structure Queued (d : Dealings) : Prop where
  sorted : (d.seen.map Command.id).Pairwise (· < ·)
  known : ∀ c ∈ d.seen, c.id < d.calls
  fresh : ∀ id, d.calls ≤ id → d.caller id = .absent
  unrefused : d.owner.serving = true → d.refused = []
  ended : d.owner = .ended → d.queue = []

section Queue

variable {d d' : Dealings}

/-- What the queue depends on stays. -/
theorem Queued.keep (h : Queued d) (hseen : d'.seen = d.seen) (hcalls : d'.calls = d.calls)
    (hcaller : ∀ id, d.caller id = .absent → d'.caller id = .absent)
    (hrefused : d'.owner.serving = true → d'.refused = [])
    (hended : d'.owner = .ended → d'.queue = []) : Queued d' where
  sorted := by
    rw [hseen]
    exact h.sorted
  known := by
    rw [hseen, hcalls]
    exact h.known
  fresh id hid := by
    rw [hcalls] at hid
    exact hcaller id (h.fresh id hid)
  unrefused := hrefused
  ended := hended

/-- A caller that is there stays there. -/
theorem absent_update {id : Nat} {phase : CallerPhase} (hthere : d.caller id ≠ .absent) (i : Nat)
    (h : d.caller i = .absent) : Function.update d.caller id phase i = .absent := by
  have hne : i ≠ id := by
    rintro rfl
    exact hthere h
  rw [Function.update_of_ne hne]
  exact h

theorem absent_put {c : Command} {r : CommandResult} (i : Nat) (h : d.caller i = .absent) :
    (d.put c r).caller i = .absent := by
  rcases d.put_cases c r with ⟨hawaiting, hput⟩ | ⟨_, hput⟩
  · rw [hput]
    exact absent_update (by simp [hawaiting]) i h
  · rw [hput]
    exact h

theorem Queued.move (h : Queued d) (m : Move d d') : Queued d' := by
  cases m with
  | quiet => exact h
  | declined phase hphase =>
    refine ⟨h.sorted, fun c hc => Nat.lt_succ_of_lt (h.known c hc), fun id hid => ?_, h.unrefused,
      h.ended⟩
    have hne : id ≠ d.calls := Nat.ne_of_gt hid
    have hold : d.calls ≤ id := Nat.le_of_succ_le hid
    simpa [Function.update_of_ne hne] using h.fresh id hold
  | sent c hid hover =>
    have hseen : Dealings.seen { d with
        calls := d.calls + 1
        caller := Function.update d.caller c.id .awaiting
        queue := d.queue ++ [c] } = d.seen ++ [c] := (List.append_assoc _ _ _).symm
    refine ⟨?_, ?_, fun id hle => ?_, h.unrefused, fun hended => ?_⟩
    · rw [hseen, List.map_append, List.pairwise_append]
      refine ⟨h.sorted, List.pairwise_singleton _ _, ?_⟩
      intro a ha b hb
      obtain ⟨x, hx, rfl⟩ := List.mem_map.1 ha
      have hb : b = d.calls := by simpa [hid] using hb
      rw [hb]
      exact h.known x hx
    · rw [hseen]
      intro x hx
      rcases List.mem_append.1 hx with hold | hnew
      · exact Nat.lt_succ_of_lt (h.known x hold)
      · rw [List.mem_singleton.1 hnew, hid]
        exact Nat.lt_succ_self _
    · have hne : id ≠ c.id := by
        rw [hid]
        exact Nat.ne_of_gt hle
      have hold : d.calls ≤ id := Nat.le_of_succ_le hle
      simpa [Function.update_of_ne hne] using h.fresh id hold
    · have hended : d.owner = .ended := hended
      rw [hended] at hover
      cases hover
  | left id timedOut reached queue hcaller hqueue hkept hgone =>
    have hsub := List.Sublist.append_left hqueue d.taken
    refine ⟨h.sorted.sublist (hsub.map _), fun c hc => h.known c (hsub.subset hc), fun i hi => ?_,
      h.unrefused, fun hended => ?_⟩
    · exact absent_update hcaller i (h.fresh i hi)
    · have hnil := h.ended hended
      rw [hnil] at hqueue
      exact List.sublist_nil.1 hqueue
  | collected id r hcaller =>
    exact h.keep rfl rfl (absent_update (by simp [hcaller])) h.unrefused h.ended
  | taken c queue p howner hqueue hp =>
    have hnone := h.unrefused (by rw [howner]; rfl)
    refine h.keep ?_ rfl (fun _ habsent => habsent) (fun _ => hnone) fun hended => nomatch hended
    simp [Dealings.seen, Dealings.taken, hqueue, hnone]
  | turned c p turn howner hgoing hsound =>
    exact h.keep rfl rfl (fun _ habsent => habsent) (fun _ => h.unrefused (by rw [howner]; rfl))
      fun hended => nomatch hended
  | replied c r howner =>
    refine h.keep (by simp [Dealings.seen, Dealings.taken]) (by simp) absent_put (fun _ => ?_) ?_
    · simpa using h.unrefused (by rw [howner]; rfl)
    · by_cases htype : c.type = .shutdown <;> simp [htype]
  | refusing c queue howner hqueue =>
    refine h.keep ?_ rfl (fun _ habsent => habsent) (fun hserving => nomatch hserving)
      fun hended => nomatch hended
    simp [Dealings.seen, Dealings.taken, hqueue]
  | refused c howner =>
    exact h.keep (by simp [Dealings.seen, Dealings.taken]) (by simp) absent_put
      (fun hserving => nomatch hserving) fun hended => nomatch hended
  | stopped howner hqueue =>
    exact h.keep rfl rfl (fun _ habsent => habsent) (fun hserving => nomatch hserving)
      fun _ => hqueue
  | interrupted hover =>
    exact h.keep rfl rfl (fun _ habsent => habsent) (fun hserving => nomatch hserving)
      fun hended => nomatch hended

/-- No two commands have one id. -/
theorem Queued.nodup (h : Queued d) : (d.seen.map Command.id).Nodup :=
  h.sorted.imp Nat.ne_of_lt

end Queue

/-! ## The owner -/

/-- What the owner has in hand was received, and is in a phase of its type. -/
structure Owned (d : Dealings) : Prop where
  last : ∀ c p, d.owner = .handling c p → ∃ before, d.received = before ++ [c]
  refusing : ∀ c, d.owner = .refusing c → c ∈ d.refused
  fits : ∀ c p, d.owner = .handling c p → p.Fits c.type
  shutdown : ∀ c ∈ d.received, c.type = .shutdown →
    d.received.getLast? = some c ∧ d.owner ≠ .receiving

section Owner

variable {d d' : Dealings}

/-- Nothing is taken, and the owner has nothing in hand. -/
theorem Owned.keep (h : Owned d) (hreceived : d'.received = d.received)
    (hhand : d'.owner.hand = none)
    (howner : d'.owner = .receiving → ∀ c ∈ d.received, c.type ≠ .shutdown) : Owned d' where
  last c p hc := by
    rw [hc] at hhand
    cases hhand
  refusing c hc := by
    rw [hc] at hhand
    cases hhand
  fits c p hc := by
    rw [hc] at hhand
    cases hhand
  shutdown c hc htype := by
    rw [hreceived] at hc ⊢
    exact ⟨(h.shutdown c hc htype).1, fun hreceiving => howner hreceiving c hc htype⟩

theorem Owned.move (h : Owned d) (m : Move d d') : Owned d' := by
  cases m with
  | quiet => exact h
  | declined phase hphase => exact ⟨h.last, h.refusing, h.fits, h.shutdown⟩
  | sent c hid hover => exact ⟨h.last, h.refusing, h.fits, h.shutdown⟩
  | left id timedOut reached queue hcaller hqueue hkept hgone =>
    exact ⟨h.last, h.refusing, h.fits, h.shutdown⟩
  | collected id r hcaller => exact ⟨h.last, h.refusing, h.fits, h.shutdown⟩
  | taken c queue p howner hqueue hp =>
    refine ⟨?_, ?_, ?_, ?_⟩
    · intro c' p' heq
      cases heq
      exact ⟨d.received, rfl⟩
    · intro c' heq
      cases heq
    · intro c' p' heq
      cases heq
      rcases hp with ⟨_, rfl⟩ | ⟨_, rfl⟩
      · trivial
      · trivial
    · intro sd hsd htype
      rcases List.mem_append.1 hsd with hold | hnew
      · exact absurd howner (h.shutdown sd hold htype).2
      · rw [List.mem_singleton.1 hnew]
        exact ⟨by simp, fun heq => nomatch heq⟩
  | turned c p turn howner hgoing hsound =>
    refine ⟨?_, ?_, ?_, ?_⟩
    · intro c' p' heq
      cases heq
      exact h.last c p howner
    · intro c' heq
      cases heq
    · intro c' p' heq
      cases heq
      exact hsound.fits
    · intro sd hsd htype
      exact ⟨(h.shutdown sd hsd htype).1, fun heq => nomatch heq⟩
  | replied c r howner =>
    by_cases htype : c.type = .shutdown
    · exact h.keep (by simp) (by simp [htype, OwnerPhase.hand]) (by simp [htype])
    · refine h.keep (by simp) (by simp [htype, OwnerPhase.hand]) fun _ sd hsd hsdtype => ?_
      obtain ⟨before, hreceived⟩ := h.last c _ howner
      have hlast := (h.shutdown sd hsd hsdtype).1
      rw [hreceived, List.getLast?_concat] at hlast
      cases hlast
      exact htype hsdtype
  | refusing c queue howner hqueue =>
    refine ⟨?_, ?_, ?_, ?_⟩
    · intro c' p' heq
      cases heq
    · intro c' heq
      cases heq
      simp
    · intro c' p' heq
      cases heq
    · intro sd hsd htype
      exact ⟨(h.shutdown sd hsd htype).1, fun heq => nomatch heq⟩
  | refused c howner => exact h.keep (by simp) rfl fun heq => nomatch heq
  | stopped howner hqueue => exact h.keep rfl rfl fun heq => nomatch heq
  | interrupted hover => exact h.keep rfl rfl fun heq => nomatch heq

end Owner

/-! ## Its work -/

/-- An entry comes before another: its command was taken earlier, or it does not end their
command. -/
def Precedes (a b : Entry) : Prop :=
  a.command.id < b.command.id ∨ a.command.id = b.command.id ∧ a.act.ends = false

/-- What the owner did, it did for commands that it received. -/
structure Worked (d : Dealings) : Prop where
  logged : ∀ e ∈ d.log, e.command ∈ d.received
  going : ∀ c p, d.owner = .handling c p → p.isDone = false →
    ∀ e ∈ d.log, e.command.id = c.id → e.act.ends = false
  ordered : d.log.Pairwise Precedes
  backed : ∀ c r, ⟨c, .ended r⟩ ∈ d.log → ∃ act, ⟨c, act⟩ ∈ d.log ∧ act.result c.type = some r
  done : ∀ c r, d.owner = .handling c (.done r) →
    c.type = .shutdown ∧ r = .ok .null ∨ ⟨c, .ended r⟩ ∈ d.log

section Work

variable {d d' : Dealings}

/-- What was taken has smaller ids than what is queued. -/
theorem Queued.lt_queue (h : Queued d) {x y : Command} (hx : x ∈ d.taken) (hy : y ∈ d.queue) :
    x.id < y.id := by
  have hsorted := h.sorted
  unfold Dealings.seen at hsorted
  rw [List.map_append, List.pairwise_append] at hsorted
  exact hsorted.2.2 _ (List.mem_map_of_mem hx) _ (List.mem_map_of_mem hy)

theorem Queued.received_sorted (h : Queued d) : (d.received.map Command.id).Pairwise (· < ·) := by
  refine h.sorted.sublist (List.Sublist.map _ ?_)
  exact (List.sublist_append_left _ _).trans (List.sublist_append_left _ _)

/-- The command in hand has the greatest id. -/
theorem Queued.le_last (h : Queued d) {before : List Command} {c x : Command}
    (hreceived : d.received = before ++ [c]) (hx : x ∈ d.received) : x.id < c.id ∨ x.id = c.id := by
  have hsorted := h.received_sorted
  rw [hreceived] at hx hsorted
  rcases List.mem_append.1 hx with hbefore | hlast
  · rw [List.map_append, List.pairwise_append] at hsorted
    exact Or.inl (hsorted.2.2 _ (List.mem_map_of_mem hbefore) _ (by simp))
  · rw [List.mem_singleton.1 hlast]
    exact Or.inr rfl

/-- Nothing is worked on. -/
theorem Worked.keep (h : Worked d) (hreceived : d'.received = d.received) (hlog : d'.log = d.log)
    (howner : d'.owner = d.owner ∨ ∀ c p, d'.owner ≠ .handling c p) : Worked d' := by
  have hhandling : ∀ c p, d'.owner = .handling c p → d.owner = .handling c p := by
    intro c p hc
    rcases howner with heq | hnone
    · rw [← heq]
      exact hc
    · exact absurd hc (hnone c p)
  refine ⟨?_, ?_, ?_, ?_, ?_⟩
  · rw [hlog, hreceived]
    exact h.logged
  · rw [hlog]
    exact fun c p hc => h.going c p (hhandling c p hc)
  · rw [hlog]
    exact h.ordered
  · rw [hlog]
    exact h.backed
  · rw [hlog]
    exact fun c r hc => h.done c r (hhandling c _ hc)

theorem Worked.taken (h : Worked d) (hqueued : Queued d) {c : Command} {queue : List Command}
    {p : Progress} (hqueue : d.queue = c :: queue)
    (hp : c.type ≠ .shutdown ∧ p = .taken ∨ c.type = .shutdown ∧ p = .done (.ok .null)) :
    Worked { d with
      queue := queue
      received := d.received ++ [c]
      owner := .handling c p } where
  logged e he := List.mem_append_left _ (h.logged e he)
  going c' p' heq _ e he hid := by
    cases heq
    have hlt := hqueued.lt_queue (List.mem_append_left d.refused (h.logged e he))
      (y := c) (by simp [hqueue])
    exact absurd hid (Nat.ne_of_lt hlt)
  ordered := h.ordered
  backed := h.backed
  done c' r heq := by
    cases heq
    rcases hp with ⟨_, heq⟩ | ⟨htype, heq⟩
    · cases heq
    · cases heq
      exact Or.inl ⟨htype, rfl⟩

/-- **The work of a turn comes after all the work before, and only its last act ends the
command.** -/
theorem Worked.turned (h : Worked d) (hqueued : Queued d) (howned : Owned d) {c : Command}
    {p : Progress} {turn : Turn} (howner : d.owner = .handling c p) (hgoing : p.isDone = false)
    (hsound : turn.Sound c (d.caller c.id)) :
    Worked { d with
      owner := .handling c turn.progress
      log := d.log ++ turn.acts.map (Entry.mk c) } := by
  obtain ⟨before, hreceived⟩ := howned.last c p howner
  have hc : c ∈ d.received := by simp [hreceived]
  refine ⟨?_, ?_, ?_, ?_, ?_⟩
  · intro e he
    rcases List.mem_append.1 he with hold | hnew
    · exact h.logged e hold
    · obtain ⟨act, _, rfl⟩ := List.mem_map.1 hnew
      exact hc
  · intro c' p' heq hdone e he hid
    cases heq
    rcases List.mem_append.1 he with hold | hnew
    · exact h.going c p howner hgoing e hold hid
    · obtain ⟨act, hact, rfl⟩ := List.mem_map.1 hnew
      exact hsound.working hdone act hact
  · rw [List.pairwise_append]
    refine ⟨h.ordered, ?_, ?_⟩
    · rw [List.pairwise_map]
      exact hsound.pairwise.imp fun ha => Or.inr ⟨rfl, ha⟩
    · intro a ha b hb
      obtain ⟨act, _, rfl⟩ := List.mem_map.1 hb
      rcases hqueued.le_last hreceived (h.logged a ha) with hlt | heq
      · exact Or.inl hlt
      · exact Or.inr ⟨heq, h.going c p howner hgoing a ha heq⟩
  · intro c' r hended
    rcases List.mem_append.1 hended with hold | hnew
    · obtain ⟨act, hact, hresult⟩ := h.backed c' r hold
      exact ⟨act, List.mem_append_left _ hact, hresult⟩
    · obtain ⟨act, hact, heq⟩ := List.mem_map.1 hnew
      cases heq
      obtain ⟨act, hact, hresult⟩ := hsound.backed hact
      exact ⟨act, List.mem_append_right _ (List.mem_map_of_mem hact), hresult⟩
  · intro c' r heq
    injection heq with hcommand hprogress
    subst hcommand
    exact Or.inr (List.mem_append_right _ (List.mem_map_of_mem (hsound.ended hprogress)))

theorem Worked.move (h : Worked d) (hqueued : Queued d) (howned : Owned d) (m : Move d d') :
    Worked d' := by
  cases m with
  | quiet => exact h
  | declined phase hphase => exact h.keep rfl rfl (Or.inl rfl)
  | sent c hid hover => exact h.keep rfl rfl (Or.inl rfl)
  | left id timedOut reached queue hcaller hqueue hkept hgone => exact h.keep rfl rfl (Or.inl rfl)
  | collected id r hcaller => exact h.keep rfl rfl (Or.inl rfl)
  | taken c queue p howner hqueue hp => exact h.taken hqueued hqueue hp
  | turned c p turn howner hgoing hsound => exact h.turned hqueued howned howner hgoing hsound
  | replied c r howner =>
    refine h.keep (by simp) (by simp) (Or.inr fun c' p' heq => ?_)
    by_cases htype : c.type = .shutdown <;> simp [htype] at heq
  | refusing c queue howner hqueue =>
    exact h.keep rfl rfl (Or.inr fun c' p' heq => nomatch heq)
  | refused c howner => exact h.keep (by simp) (by simp) (Or.inr fun c' p' heq => nomatch heq)
  | stopped howner hqueue => exact h.keep rfl rfl (Or.inr fun c' p' heq => nomatch heq)
  | interrupted hover => exact h.keep rfl rfl (Or.inr fun c' p' heq => nomatch heq)

end Work

/-! ## The callers -/

/-- A caller waits for a command that was seen, and is answered with its own. -/
structure Answered (d : Dealings) : Prop where
  waiting : ∀ id, d.caller id = .awaiting → ∃ c ∈ d.seen, c.id = id
  /-- what was withdrawn is gone -/
  withdrawn : ∀ id timedOut, d.caller id = .left timedOut false → ∀ c ∈ d.seen, c.id ≠ id
  pending : ∀ c ∈ d.seen, d.caller c.id = .awaiting ∨ d.Settled c
  replied : ∀ e ∈ d.replies, e.1.id < d.calls ∧ d.caller e.1.id ≠ .awaiting
  once : (d.replies.map fun e => e.1.id).Nodup
  /-- a caller gets the reply to its own command -/
  delivered : ∀ id r, d.caller id = .replied r ∨ d.caller id = .returned r →
    ∃ c, c.id = id ∧ (c, r) ∈ d.replies
  own : ∀ c r, (c, r) ∈ d.replies → d.Outcome c r
  settled : ∀ c ∈ d.taken, d.owner.hand ≠ some c → d.owner.cut ≠ some c → d.Settled c

section Callers

variable {d d' : Dealings} {c x : Command} {r : CommandResult}

theorem Dealings.Settled.mono (h : d.Settled c) (hreplies : d.replies ⊆ d'.replies)
    (hleft : ∀ timedOut reached, d.caller c.id = .left timedOut reached →
      ∃ timedOut reached, d'.caller c.id = .left timedOut reached) : d'.Settled c := by
  rcases h with ⟨r, hr⟩ | ⟨timedOut, reached, hcaller⟩
  · exact Or.inl ⟨r, hreplies hr⟩
  · exact Or.inr (hleft timedOut reached hcaller)

theorem Dealings.Outcome.mono (h : d.Outcome c r) (hreceived : d.received ⊆ d'.received)
    (hrefused : d.refused ⊆ d'.refused) (hlog : d.log ⊆ d'.log) : d'.Outcome c r := by
  rcases h with ⟨hc, hshutdown | hended⟩ | ⟨hc, hr⟩
  · exact Or.inl ⟨hreceived hc, Or.inl hshutdown⟩
  · exact Or.inl ⟨hreceived hc, Or.inr (hlog hended)⟩
  · exact Or.inr ⟨hrefused hc, hr⟩

/-- Callers and replies stay as they are. -/
theorem Answered.keep (h : Answered d) (hcalls : d'.calls = d.calls)
    (hcaller : d'.caller = d.caller) (hseen : d'.seen = d.seen) (hreplies : d'.replies = d.replies)
    (hown : ∀ c r, d.Outcome c r → d'.Outcome c r)
    (hsettled : ∀ c ∈ d'.taken, d'.owner.hand ≠ some c → d'.owner.cut ≠ some c → d.Settled c) :
    Answered d' := by
  have hmono : ∀ c, d.Settled c → d'.Settled c := by
    intro c hc
    refine hc.mono (by rw [hreplies]; exact fun _ he => he) fun timedOut reached hleft => ?_
    rw [hcaller]
    exact ⟨timedOut, reached, hleft⟩
  refine ⟨?_, ?_, ?_, ?_, ?_, ?_, ?_, ?_⟩
  · rw [hcaller, hseen]
    exact h.waiting
  · rw [hcaller, hseen]
    exact h.withdrawn
  · rw [hcaller, hseen]
    exact fun c hc => (h.pending c hc).imp_right (hmono c)
  · rw [hcaller, hreplies, hcalls]
    exact h.replied
  · rw [hreplies]
    exact h.once
  · rw [hcaller, hreplies]
    exact h.delivered
  · rw [hreplies]
    exact fun c r hr => hown c r (h.own c r hr)
  · exact fun c hc hhand hcut => hmono c (hsettled c hc hhand hcut)

/-- One caller is somewhere else, and nothing is answered. -/
structure Changed (d d' : Dealings) (id : Nat) (phase : CallerPhase) : Prop where
  self : d'.caller id = phase
  other : ∀ i, i ≠ id → d'.caller i = d.caller i
  calls : d.calls ≤ d'.calls
  replies : d'.replies = d.replies
  owner : d'.owner = d.owner
  received : d'.received = d.received
  refused : d'.refused = d.refused
  log : d'.log = d.log
  seen : ∀ c, c.id ≠ id → (c ∈ d'.seen ↔ c ∈ d.seen)
  waiting : phase = .awaiting → ∃ c ∈ d'.seen, c.id = id
  withdrawn : ∀ timedOut, phase = .left timedOut false → ∀ c ∈ d'.seen, c.id ≠ id
  pending : ∀ c ∈ d'.seen, c.id = id → phase = .awaiting ∨ d'.Settled c
  replied : ∀ e ∈ d.replies, e.1.id = id → phase ≠ .awaiting
  delivered : ∀ r, phase = .replied r ∨ phase = .returned r → d.caller id = .replied r
  left : ∀ timedOut reached, d.caller id = .left timedOut reached →
    ∃ timedOut reached, phase = .left timedOut reached

theorem Answered.change {id : Nat} {phase : CallerPhase} (h : Answered d)
    (hc : Changed d d' id phase) : Answered d' := by
  have hmono : ∀ y, d.Settled y → d'.Settled y := by
    intro y hy
    refine hy.mono (by rw [hc.replies]; exact fun _ he => he) fun timedOut reached hleft => ?_
    by_cases heq : y.id = id
    · rw [heq, hc.self]
      rw [heq] at hleft
      exact hc.left timedOut reached hleft
    · rw [hc.other y.id heq]
      exact ⟨timedOut, reached, hleft⟩
  refine ⟨?_, ?_, ?_, ?_, ?_, ?_, ?_, ?_⟩
  · intro i hi
    by_cases heq : i = id
    · rw [heq, hc.self] at hi
      rw [heq]
      exact hc.waiting hi
    · rw [hc.other i heq] at hi
      obtain ⟨y, hy, rfl⟩ := h.waiting i hi
      exact ⟨y, (hc.seen y heq).2 hy, rfl⟩
  · intro i timedOut hi y hy
    by_cases heq : i = id
    · rw [heq, hc.self] at hi
      rw [heq]
      exact hc.withdrawn timedOut hi y hy
    · rw [hc.other i heq] at hi
      by_cases hyid : y.id = id
      · rw [hyid]
        exact Ne.symm heq
      · exact h.withdrawn i timedOut hi y ((hc.seen y hyid).1 hy)
  · intro y hy
    by_cases heq : y.id = id
    · rw [heq, hc.self]
      exact hc.pending y hy heq
    · rw [hc.other y.id heq]
      exact (h.pending y ((hc.seen y heq).1 hy)).imp_right (hmono y)
  · intro e he
    rw [hc.replies] at he
    obtain ⟨hlt, hcaller⟩ := h.replied e he
    refine ⟨Nat.lt_of_lt_of_le hlt hc.calls, ?_⟩
    by_cases heq : e.1.id = id
    · rw [heq, hc.self]
      exact hc.replied e he heq
    · rw [hc.other e.1.id heq]
      exact hcaller
  · rw [hc.replies]
    exact h.once
  · intro i r hi
    rw [hc.replies]
    by_cases heq : i = id
    · rw [heq, hc.self] at hi
      rw [heq]
      exact h.delivered id r (Or.inl (hc.delivered r hi))
    · rw [hc.other i heq] at hi
      exact h.delivered i r hi
  · intro y r hr
    rw [hc.replies] at hr
    refine (h.own y r hr).mono ?_ ?_ ?_
    · rw [hc.received]
      exact fun _ hx => hx
    · rw [hc.refused]
      exact fun _ hx => hx
    · rw [hc.log]
      exact fun _ hx => hx
  · intro y hy hhand hcut
    have htaken : d'.taken = d.taken := by
      unfold Dealings.taken
      rw [hc.received, hc.refused]
    rw [htaken] at hy
    rw [hc.owner] at hhand hcut
    exact hmono y (h.settled y hy hhand hcut)

/-- A caller comes that the owner does not hear of. -/
theorem Answered.declined (h : Answered d) (hqueued : Queued d) {phase : CallerPhase}
    (hphase : phase.Declined) :
    Answered { d with
      calls := d.calls + 1
      caller := Function.update d.caller d.calls phase } := by
  have hfresh := hqueued.fresh d.calls (Nat.le_refl _)
  have hawaiting : phase ≠ .awaiting := by
    rintro rfl
    exact hphase
  refine Answered.change h (show Changed d _ d.calls phase from {
    self := Function.update_self _ _ _
    other := fun i hi => Function.update_of_ne hi _ _
    calls := Nat.le_succ _
    replies := rfl
    owner := rfl
    received := rfl
    refused := rfl
    log := rfl
    seen := fun _ _ => Iff.rfl
    waiting := fun heq => absurd heq hawaiting
    withdrawn := fun _ _ c hc => Nat.ne_of_lt (hqueued.known c hc)
    pending := fun c hc heq => absurd heq (Nat.ne_of_lt (hqueued.known c hc))
    replied := fun _ _ _ => hawaiting
    delivered := ?_
    left := ?_ })
  · rintro r (rfl | rfl)
    · exact absurd hphase id
    · exact absurd hphase id
  · intro timedOut reached hleft
    rw [hfresh] at hleft
    cases hleft

theorem Answered.sent (h : Answered d) (hqueued : Queued d) (hid : c.id = d.calls) :
    Answered { d with
      calls := d.calls + 1
      caller := Function.update d.caller c.id .awaiting
      queue := d.queue ++ [c] } := by
  have hfresh := hqueued.fresh c.id (Nat.le_of_eq hid.symm)
  refine Answered.change h (show Changed d _ c.id .awaiting from {
    self := Function.update_self _ _ _
    other := fun i hi => Function.update_of_ne hi _ _
    calls := Nat.le_succ _
    replies := rfl
    owner := rfl
    received := rfl
    refused := rfl
    log := rfl
    seen := ?_
    waiting := fun _ => ⟨c, by simp [Dealings.seen], rfl⟩
    withdrawn := fun _ heq => nomatch heq
    pending := fun _ _ _ => Or.inl rfl
    replied := ?_
    delivered := fun _ heq => by simp at heq
    left := ?_ })
  · intro y hy
    have hne : y ≠ c := by
      rintro rfl
      exact hy rfl
    simp [Dealings.seen, Dealings.taken, hne]
  · intro e he heq
    rw [hid] at heq
    exact absurd heq (Nat.ne_of_lt (h.replied e he).1)
  · intro timedOut reached hleft
    rw [hfresh] at hleft
    cases hleft

theorem Answered.left (h : Answered d) (hqueued : Queued d) {id : Nat} {timedOut reached : Bool}
    {queue : List Command} (hqueue : queue.Sublist d.queue)
    (hkept : ∀ c ∈ d.queue, c.id ≠ id → c ∈ queue)
    (hgone : reached = false → (d.queue.map Command.id).Nodup →
      (∃ c ∈ d.queue, c.id = id) ∧ ∀ c ∈ queue, c.id ≠ id) :
    Answered { d with
      caller := Function.update d.caller id (.left timedOut reached)
      queue := queue } := by
  refine Answered.change h (show Changed d _ id (.left timedOut reached) from {
    self := Function.update_self _ _ _
    other := fun i hi => Function.update_of_ne hi _ _
    calls := Nat.le_refl _
    replies := rfl
    owner := rfl
    received := rfl
    refused := rfl
    log := rfl
    seen := ?_
    waiting := fun heq => nomatch heq
    withdrawn := ?_
    pending := ?_
    replied := fun _ _ _ heq => nomatch heq
    delivered := fun _ heq => by simp at heq
    left := fun _ _ _ => ⟨timedOut, reached, rfl⟩ })
  · intro y hy
    refine ⟨fun hmem => (List.Sublist.append_left hqueue d.taken).subset hmem, fun hmem => ?_⟩
    rcases List.mem_append.1 hmem with htaken | hq
    · exact List.mem_append_left _ htaken
    · exact List.mem_append_right _ (hkept y hq hy)
  · intro _ heq y hy
    injection heq with _ hreached
    have hnodup := hqueued.nodup
    unfold Dealings.seen at hnodup
    rw [List.map_append, List.nodup_append] at hnodup
    obtain ⟨⟨x, hx, hxid⟩, hfree⟩ := hgone hreached hnodup.2.1
    rcases List.mem_append.1 hy with htaken | hq
    · rw [← hxid]
      exact Nat.ne_of_lt (hqueued.lt_queue htaken hx)
    · exact hfree y hq
  · intro y _ hy
    exact Or.inr (Or.inr ⟨timedOut, reached, by simp [hy]⟩)

theorem Answered.collected (h : Answered d) {id : Nat} (hcaller : d.caller id = .replied r) :
    Answered { d with caller := Function.update d.caller id (.returned r) } := by
  refine Answered.change h (show Changed d _ id (.returned r) from {
    self := Function.update_self _ _ _
    other := fun i hi => Function.update_of_ne hi _ _
    calls := Nat.le_refl _
    replies := rfl
    owner := rfl
    received := rfl
    refused := rfl
    log := rfl
    seen := fun _ _ => Iff.rfl
    waiting := fun heq => nomatch heq
    withdrawn := fun _ heq => nomatch heq
    pending := ?_
    replied := fun _ _ _ heq => nomatch heq
    delivered := ?_
    left := ?_ })
  · intro y hy heq
    have hpending := h.pending y hy
    rw [heq, hcaller] at hpending
    rcases hpending with hawaiting | ⟨r', hr'⟩ | ⟨_, _, hleft⟩
    · cases hawaiting
    · exact Or.inr (Or.inl ⟨r', hr'⟩)
    · rw [heq, hcaller] at hleft
      cases hleft
  · rintro r' (heq | heq)
    · cases heq
    · cases heq
      exact hcaller
  · intro timedOut reached hleft
    rw [hcaller] at hleft
    cases hleft

theorem Queued.unique (h : Queued d) {y : Command} (hx : x ∈ d.seen) (hy : y ∈ d.seen)
    (hid : x.id = y.id) : x = y :=
  List.inj_on_of_nodup_map h.nodup hx hy hid

/-- **The command in hand is answered**, whatever the owner does next. -/
theorem Answered.put (h : Answered d) (hqueued : Queued d) {owner : OwnerPhase}
    (hhand : d.owner.hand = some c) (hcut : d.owner.cut = none) (hc : c ∈ d.taken)
    (hown : d.Outcome c r) : Answered { d.put c r with owner := owner } := by
  have hseen : c ∈ d.seen := List.mem_append_left _ hc
  have hothers : ∀ y ∈ d.taken, y ≠ c → d.Settled y := by
    intro y hy hne
    refine h.settled y hy ?_ (by simp [hcut])
    rw [hhand]
    intro heq
    cases heq
    exact hne rfl
  rcases d.put_cases c r with ⟨hawaiting, hput⟩ | ⟨hnot, hput⟩
  · rw [hput]
    have hself : Function.update d.caller c.id (.replied r) c.id = .replied r :=
      Function.update_self _ _ _
    have hother : ∀ i, i ≠ c.id → Function.update d.caller c.id (.replied r) i = d.caller i :=
      fun i hi => Function.update_of_ne hi _ _
    have hmono : ∀ y, d.Settled y → Dealings.Settled { d with
        caller := Function.update d.caller c.id (.replied r)
        replies := d.replies ++ [(c, r)]
        owner := owner } y := by
      intro y hy
      refine hy.mono (List.subset_append_left _ _) fun timedOut reached hleft => ?_
      have hne : y.id ≠ c.id := by
        intro heq
        rw [heq, hawaiting] at hleft
        cases hleft
      exact ⟨timedOut, reached, (hother y.id hne).trans hleft⟩
    have hanswered : Dealings.Settled { d with
        caller := Function.update d.caller c.id (.replied r)
        replies := d.replies ++ [(c, r)]
        owner := owner } c := Or.inl ⟨r, by simp⟩
    refine ⟨?_, ?_, ?_, ?_, ?_, ?_, ?_, ?_⟩
    · intro i hi
      by_cases heq : i = c.id
      · cases hself.symm.trans (heq ▸ hi)
      · exact h.waiting i ((hother i heq).symm.trans hi)
    · intro i timedOut hi
      by_cases heq : i = c.id
      · cases hself.symm.trans (heq ▸ hi)
      · exact h.withdrawn i timedOut ((hother i heq).symm.trans hi)
    · intro y hy
      by_cases heq : y.id = c.id
      · cases hqueued.unique hy hseen heq
        exact Or.inr hanswered
      · exact ((h.pending y hy).imp (hother y.id heq).trans (hmono y))
    · intro e he
      rcases List.mem_append.1 he with hold | hnew
      · obtain ⟨hlt, hcaller⟩ := h.replied e hold
        have hne : e.1.id ≠ c.id := by
          intro heq
          rw [heq] at hcaller
          exact hcaller hawaiting
        exact ⟨hlt, fun hi => hcaller ((hother e.1.id hne).symm.trans hi)⟩
      · rw [List.mem_singleton.1 hnew]
        exact ⟨hqueued.known c hseen, fun hi => nomatch hself.symm.trans hi⟩
    · rw [List.map_append, List.nodup_append]
      refine ⟨h.once, List.nodup_singleton _, ?_⟩
      intro i hi j hj heq
      obtain ⟨e, he, rfl⟩ := List.mem_map.1 hi
      have hj : j = c.id := by simpa using hj
      rw [hj] at heq
      exact (h.replied e he).2 (heq ▸ hawaiting)
    · intro i r' hi
      by_cases heq : i = c.id
      · subst heq
        refine ⟨c, rfl, ?_⟩
        rcases hi with hi | hi
        · cases hself.symm.trans hi
          simp
        · cases hself.symm.trans hi
      · obtain ⟨y, hy, hr'⟩ := h.delivered i r' (hi.imp (hother i heq).symm.trans
          (hother i heq).symm.trans)
        exact ⟨y, hy, List.mem_append_left _ hr'⟩
    · intro y r' hr'
      rcases List.mem_append.1 hr' with hold | hnew
      · exact h.own y r' hold
      · cases List.mem_singleton.1 hnew
        exact hown
    · intro y hy _ _
      by_cases heq : y = c
      · rw [heq]
        exact hanswered
      · exact hmono y (hothers y hy heq)
  · rw [hput]
    refine h.keep rfl rfl rfl rfl (fun _ _ ho => ho) fun y hy _ _ => ?_
    by_cases heq : y = c
    · rw [heq]
      exact (h.pending c hseen).resolve_left hnot
    · exact hothers y hy heq

/-- **Every move leaves the callers answered.** -/
theorem Answered.move (h : Answered d) (hqueued : Queued d) (howned : Owned d) (hworked : Worked d)
    (m : Move d d') : Answered d' := by
  cases m with
  | quiet => exact h
  | declined phase hphase => exact h.declined hqueued hphase
  | sent c hid hover => exact h.sent hqueued hid
  | left id timedOut reached queue hcaller hqueue hkept hgone =>
    exact h.left hqueued hqueue hkept hgone
  | collected id r hcaller => exact h.collected hcaller
  | taken c queue p howner hqueue hp =>
    have hnone := hqueued.unrefused (by rw [howner]; rfl)
    refine h.keep rfl rfl ?_ rfl ?_ ?_
    · simp [Dealings.seen, Dealings.taken, hqueue, hnone]
    · intro y r hr
      exact hr.mono (List.subset_append_left _ _) (fun _ hx => hx) (fun _ hx => hx)
    · intro y hy hhand hcut
      have hold : y ∈ d.taken := by
        have hne : y ≠ c := by
          rintro rfl
          exact hhand rfl
        simpa [Dealings.taken, hnone, hne] using hy
      exact h.settled y hold (by simp [howner, OwnerPhase.hand]) (by simp [howner, OwnerPhase.cut])
  | turned c p turn howner hgoing hsound =>
    refine h.keep rfl rfl rfl rfl ?_ ?_
    · intro y r hr
      exact hr.mono (fun _ hx => hx) (fun _ hx => hx) (List.subset_append_left _ _)
    · intro y hy hhand _
      exact h.settled y hy (by rw [howner]; exact hhand) (by simp [howner, OwnerPhase.cut])
  | replied c r howner =>
    obtain ⟨before, hreceived⟩ := howned.last c _ howner
    have hc : c ∈ d.received := by simp [hreceived]
    exact h.put hqueued (by rw [howner]; rfl) (by rw [howner]; rfl) (List.mem_append_left _ hc)
      (Or.inl ⟨hc, hworked.done c r howner⟩)
  | refusing c queue howner hqueue =>
    refine h.keep rfl rfl ?_ rfl ?_ ?_
    · simp [Dealings.seen, Dealings.taken, hqueue]
    · intro y r hr
      exact hr.mono (fun _ hx => hx) (List.subset_append_left _ _) (fun _ hx => hx)
    · intro y hy hhand hcut
      have hold : y ∈ d.taken := by
        have hne : y ≠ c := by
          rintro rfl
          exact hhand rfl
        simpa [Dealings.taken, hne] using hy
      exact h.settled y hold (by simp [howner, OwnerPhase.hand]) (by simp [howner, OwnerPhase.cut])
  | refused c howner =>
    have hc := howned.refusing c howner
    exact h.put hqueued (by rw [howner]; rfl) (by rw [howner]; rfl) (List.mem_append_right _ hc)
      (Or.inr ⟨hc, rfl⟩)
  | stopped howner hqueue =>
    refine h.keep rfl rfl rfl rfl (fun _ _ ho => ho) fun y hy _ _ => ?_
    rcases howner with hreceiving | hdraining
    · exact h.settled y hy (by simp [hreceiving, OwnerPhase.hand])
        (by simp [hreceiving, OwnerPhase.cut])
    · exact h.settled y hy (by simp [hdraining, OwnerPhase.hand])
        (by simp [hdraining, OwnerPhase.cut])
  | interrupted hover =>
    refine h.keep rfl rfl rfl rfl (fun _ _ ho => ho) fun y hy _ hcut => ?_
    refine h.settled y hy hcut ?_
    cases howner : d.owner with
    | interrupted during =>
      rw [howner] at hover
      cases hover
    | _ => simp [OwnerPhase.cut]

end Callers

/-! ## Runs -/

/-- The invariant of the dealings. -/
structure Orderly (d : Dealings) : Prop where
  queued : Queued d
  owned : Owned d
  worked : Worked d
  answered : Answered d

theorem Orderly.move {d d' : Dealings} (h : Orderly d) (m : Move d d') : Orderly d' where
  queued := h.queued.move m
  owned := h.owned.move m
  worked := h.worked.move h.queued h.owned m
  answered := h.answered.move h.queued h.owned h.worked m

theorem orderly_opened : Orderly HyruleClient.opened.dealings where
  queued := by
    constructor <;>
      simp [HyruleClient.opened, HyruleClient.dealings, Dealings.seen, Dealings.taken]
  owned := by constructor <;> simp [HyruleClient.opened, HyruleClient.dealings]
  worked := by constructor <;> simp [HyruleClient.opened, HyruleClient.dealings]
  answered := by
    constructor <;>
      simp [HyruleClient.opened, HyruleClient.dealings, Dealings.seen, Dealings.taken]

theorem Orderly.step {py : Python} {s t : HyruleClient} {l : ClientLabel}
    (h : Orderly s.dealings) (hl : clientStep py s l t) : Orderly t.dealings :=
  h.move (move_of_step h.owned.fits hl)

/-- **In every state of a run the dealings are orderly.** -/
theorem orderly_run {py : Python} {t : HyruleClient} {ls : List ClientLabel}
    (h : Run (clientStep py) HyruleClient.opened ls t) : Orderly t.dealings :=
  h.invariant (I := fun s => Orderly s.dealings) (fun _ _ _ hs hl => hs.step hl) orderly_opened

end NocAgent.Mcp
