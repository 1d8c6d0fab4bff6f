import NocAgent.Cases.HandoffStatus

/-!
# Who owns a verification objective

A row of the objective table is found by case and objective key, whichever handoff it was
stored for.

* `Store.objectiveSlot` — the row an objective is written to.
* `KeepsConditions` — every other active handoff has the objectives it had, with their required
  flags and pass counts.
* `TakesOver` — a new handoff brings an objective whose row another active handoff owns.
* `keepsConditions_iff` — for every store and every call that creates a handoff: the call keeps
  the conditions of the others exactly when it takes no row over.
-/

set_option autoImplicit false

namespace NocAgent.Cases

open Effects Effects.Action Keyed

/-- The arguments of `create_handoff_with_objectives`. -/
structure HandoffRequest where
  handoff : CaseHandoff
  objectives : List VerificationObjective := []
  caseStatus : Option CaseStatus := none
  event : Option CaseEvent := none
  outboxIntent : Option OutboxIntent := none

/-- The store after the call, whether it returned or raised. -/
def HandoffRequest.run (call : HandoffRequest) (s : Store) : Store :=
  (createHandoffWithObjectives call.handoff call.objectives call.caseStatus call.event
    call.outboxIntent s).2

/-- The call stores its handoff as a new one.  It can still raise at an objective. -/
structure HandoffRequest.Creates (call : HandoffRequest) (s : Store) : Prop where
  bounded : call.objectives.length ≤ MAX_VERIFICATION_OBJECTIVES_PER_HANDOFF
  atomic : (s.atomicCase? call.handoff.caseId).isSome
  unseen : (existingHandoff call.handoff s).1 = .ok none

/-- The objectives of a handoff, with their required flags and pass counts. -/
def Store.conditions (s : Store) (handoffId : String) : Set (String × Bool × Nat) :=
  {c | ∃ row ∈ s.verificationObjectives.rows, row.handoffId = handoffId ∧
    (row.objectiveId, row.required, row.consecutivePassCount) = c}

/-- **Every other active handoff keeps its conditions.** -/
def KeepsConditions (s t : Store) (created : CaseHandoff) : Prop :=
  ∀ h ∈ s.handoffs.rows, h.handoffId ≠ created.handoffId → handoffActive h.status = true →
    t.conditions h.handoffId = s.conditions h.handoffId

/-- The id of the row an objective is written to: the row of its case and key, or its own. -/
def Store.objectiveSlot (s : Store) (objective : VerificationObjective) : String :=
  (truthyId (s.verificationObjectiveIndex (objective.caseId, objective.objectiveKey))).getD
    objective.objectiveId

/-- Two objectives with one entry in the index. -/
def VerificationObjective.SameKey (a b : VerificationObjective) : Prop :=
  a.caseId = b.caseId ∧ a.objectiveKey = b.objectiveKey

/-- Storing the objectives in turn writes the row `id`: some objective goes there, and none
before it has already put another row under its key. -/
def Store.Writes (s : Store) (objectives : List VerificationObjective) (id : String) : Prop :=
  ∃ before objective after, objectives = before ++ objective :: after ∧
    s.objectiveSlot objective = id ∧
      ∀ earlier ∈ before, earlier.SameKey objective → s.objectiveSlot earlier = ""

/-- A row of another active handoff is among those the call writes before it ends. -/
def HandoffRequest.TakesOver (call : HandoffRequest) (s : Store) : Prop :=
  ∃ row ∈ s.verificationObjectives.rows, ∃ owner ∈ s.handoffs.get? row.handoffId,
    owner.handoffId ≠ call.handoff.handoffId ∧ handoffActive owner.status = true ∧
      s.Writes (call.objectives.takeWhile fun o => o.BelongsTo call.handoff) row.objectiveId

/-! ## One objective -/

/-- The objective is stored in its row, under its key. -/
def Store.putObjective (s : Store) (objective : VerificationObjective) : Store :=
  { s with
    verificationObjectives := s.verificationObjectives.put
      { objective with objectiveId := s.objectiveSlot objective }
    verificationObjectiveIndex := s.verificationObjectiveIndex.set
      (objective.caseId, objective.objectiveKey) (s.objectiveSlot objective) }

section Slots

variable (s : Store)

theorem storeObjective_put {handoff : CaseHandoff} {objective : VerificationObjective}
    (h : objective.BelongsTo handoff) :
    (storeObjective handoff objective s).2 =
      s.putObjective { objective with handoffId := handoff.handoffId } := by
  have hown : ¬ (objective.handoffId ≠ "" ∧ objective.handoffId ≠ handoff.handoffId) := by
    rintro ⟨hne, hother⟩
    exact h.2.elim hne hother
  unfold storeObjective
  simp only [raiseIf_bind_run]
  rw [if_neg (not_not.2 h.1), if_neg hown]
  rfl

theorem truthyId_some {id : String} (h : id ≠ "") : truthyId (some id) = some id := by
  simp [truthyId, h]

theorem truthyId_ne {entry : Option String} {id : String} (h : truthyId entry = some id) :
    id ≠ "" := by
  simpa using (Option.filter_eq_some_iff.1 h).2

variable {s}

/-- The key of a stored objective leads to its row, if the row has an id. -/
theorem objectiveSlot_put_same {stored objective : VerificationObjective}
    (hkey : stored.SameKey objective) (hslot : s.objectiveSlot stored ≠ "") :
    (s.putObjective stored).objectiveSlot objective = s.objectiveSlot stored := by
  have hread : (s.putObjective stored).verificationObjectiveIndex
      (objective.caseId, objective.objectiveKey) = some (s.objectiveSlot stored) := by
    rw [← hkey.1, ← hkey.2]
    exact Index.set_self _ _ _
  change (truthyId ((s.putObjective stored).verificationObjectiveIndex _)).getD _ = _
  rw [hread, truthyId_some hslot]
  rfl

/-- No other row moves: an empty id leads nowhere, whether it was there before or not. -/
theorem objectiveSlot_put_other {stored objective : VerificationObjective}
    (h : stored.SameKey objective → s.objectiveSlot stored = "") :
    (s.putObjective stored).objectiveSlot objective = s.objectiveSlot objective := by
  by_cases hkey : stored.SameKey objective
  · have hread : (s.putObjective stored).verificationObjectiveIndex
        (objective.caseId, objective.objectiveKey) = some "" := by
      rw [← hkey.1, ← hkey.2, ← h hkey]
      exact Index.set_self _ _ _
    have hnone : truthyId (s.verificationObjectiveIndex
        (objective.caseId, objective.objectiveKey)) = none := by
      rw [← hkey.1, ← hkey.2, Option.eq_none_iff_forall_ne_some]
      intro id hid
      refine truthyId_ne hid ?_
      have hslot := h hkey
      unfold Store.objectiveSlot at hslot
      rw [hid] at hslot
      exact hslot
    unfold Store.objectiveSlot
    rw [hread, hnone]
    rfl
  · have hread : (s.putObjective stored).verificationObjectiveIndex
        (objective.caseId, objective.objectiveKey) =
          s.verificationObjectiveIndex (objective.caseId, objective.objectiveKey) := by
      refine (Index.set_apply ..).trans (if_neg fun e => hkey ?_)
      exact ⟨(congrArg Prod.fst e).symm, (congrArg Prod.snd e).symm⟩
    unfold Store.objectiveSlot
    rw [hread]

/-- The rows a list writes are the row of its first objective and the rows of the rest, written
to the store that has the first. -/
theorem writes_cons (objective : VerificationObjective) (handoffId : String)
    (rest : List VerificationObjective) (id : String) :
    s.Writes (objective :: rest) id ↔ s.objectiveSlot objective = id ∨
      (s.putObjective { objective with handoffId := handoffId }).Writes rest id := by
  generalize hstored : { objective with handoffId := handoffId } = stored
  have hsame : ∀ o, stored.SameKey o ↔ objective.SameKey o := fun o => by rw [← hstored]; rfl
  have hslot : s.objectiveSlot stored = s.objectiveSlot objective := by rw [← hstored]; rfl
  constructor
  · rintro ⟨before, o, after, heq, hid, hearlier⟩
    cases before with
    | nil =>
      cases heq
      exact Or.inl hid
    | cons first before =>
      cases heq
      have hfirst : stored.SameKey o → s.objectiveSlot stored = "" := fun h =>
        hslot.trans (hearlier _ List.mem_cons_self ((hsame o).1 h))
      refine Or.inr ⟨before, o, after, rfl, (objectiveSlot_put_other hfirst).trans hid, ?_⟩
      intro earlier hmem hkey
      refine (objectiveSlot_put_other fun h => hfirst ?_).trans
        (hearlier earlier (List.mem_cons_of_mem _ hmem) hkey)
      exact ⟨h.1.trans hkey.1, h.2.trans hkey.2⟩
  · rintro (hid | ⟨before, o, after, rfl, hid, hearlier⟩)
    · exact ⟨[], objective, rest, rfl, hid, fun _ h => nomatch h⟩
    · by_cases hfirst : stored.SameKey o ∧ s.objectiveSlot stored ≠ ""
      · -- the row of `o` is the row of the first
        rw [objectiveSlot_put_same hfirst.1 hfirst.2, hslot] at hid
        exact ⟨[], objective, _, rfl, hid, fun _ h => nomatch h⟩
      · have hempty : stored.SameKey o → s.objectiveSlot stored = "" := by
          intro hkey
          by_contra hne
          exact hfirst ⟨hkey, hne⟩
        rw [objectiveSlot_put_other hempty] at hid
        refine ⟨objective :: before, o, after, rfl, hid, ?_⟩
        rw [List.forall_mem_cons]
        refine ⟨fun hkey => hslot ▸ hempty ((hsame o).2 hkey), ?_⟩
        intro earlier hmem hkey
        have hafter := hearlier earlier hmem hkey
        rwa [objectiveSlot_put_other fun h => hempty ⟨h.1.trans hkey.1, h.2.trans hkey.2⟩]
          at hafter

theorem not_writes_nil (id : String) : ¬ s.Writes [] id := by
  rintro ⟨before, o, after, heq, -⟩
  simp at heq

end Slots

/-! ## The objectives of one call -/

section Rows

/-- **A row of another handoff is there after the loop exactly when the loop did not write it.** -/
theorem forEach_storeObjective_rows (handoff : CaseHandoff) {row : VerificationObjective}
    (hother : row.handoffId ≠ handoff.handoffId) :
    ∀ (objectives : List VerificationObjective) (s : Store),
      row ∈ (forEach (storeObjective handoff) objectives s).2.verificationObjectives.rows ↔
        row ∈ s.verificationObjectives.rows ∧
          ¬ s.Writes (objectives.takeWhile fun o => o.BelongsTo handoff) row.objectiveId
  | [], s => by
    change row ∈ s.verificationObjectives.rows ↔ _
    simp [not_writes_nil]
  | objective :: rest, s => by
    rcases storeObjective_run handoff objective s with ⟨⟨stored, t, hrun⟩, hbelongs⟩ | ⟨hrun, hnot⟩
    · have ht : t = s.putObjective { objective with handoffId := handoff.handoffId } := by
        rw [← storeObjective_put s hbelongs, hrun]
      have hstate : (forEach (storeObjective handoff) (objective :: rest) s).2 =
          (forEach (storeObjective handoff) rest t).2 := by
        refine (congrArg Prod.snd (bind_ok hrun)).trans ?_
        exact bind_pure_state _ _ _
      rw [hstate, forEach_storeObjective_rows handoff hother rest t,
        List.takeWhile_cons_of_pos (by simpa using hbelongs),
        writes_cons objective handoff.handoffId, ← ht, not_or, ← and_assoc]
      refine and_congr_left fun _ => ?_
      rw [ht]
      refine Table.mem_put.trans ⟨?_, ?_⟩
      · rintro (rfl | ⟨hmem, hne⟩)
        · exact absurd rfl hother
        · exact ⟨hmem, fun h => hne h.symm⟩
      · rintro ⟨hmem, hne⟩
        exact Or.inr ⟨hmem, fun h => hne h.symm⟩
    · have hstate : (forEach (storeObjective handoff) (objective :: rest) s).2 = s :=
        congrArg Prod.snd (bind_error hrun)
      rw [hstate, List.takeWhile_cons_of_neg (by simpa using hnot)]
      simp [not_writes_nil]

/-- What the rows of a store without the new handoff are written by is the same with it. -/
theorem writes_congr {s u : Store}
    (h : u.verificationObjectiveIndex = s.verificationObjectiveIndex)
    (objectives : List VerificationObjective) (id : String) :
    u.Writes objectives id ↔ s.Writes objectives id := by
  have hslot : u.objectiveSlot = s.objectiveSlot := by
    funext objective
    unfold Store.objectiveSlot
    rw [h]
  unfold Store.Writes
  rw [hslot]

/-- A call that creates its handoff leaves the objectives as the loop over its own leaves them. -/
theorem HandoffRequest.Creates.row_iff {call : HandoffRequest} {s : Store} (h : call.Creates s)
    {row : VerificationObjective} (hother : row.handoffId ≠ call.handoff.handoffId) :
    row ∈ (call.run s).verificationObjectives.rows ↔
      row ∈ s.verificationObjectives.rows ∧
        ¬ s.Writes (call.objectives.takeWhile fun o => o.BelongsTo call.handoff)
          row.objectiveId := by
  obtain ⟨case, hcase⟩ := Option.isSome_iff_exists.1 h.atomic
  have hnone : existingHandoff call.handoff s = (.ok none, s) := by
    rcases existingHandoff_cases call.handoff s with ⟨r, hr, hne⟩ | ⟨hnone, -⟩
    · have hunseen := h.unseen
      rw [hr] at hunseen
      exact absurd hunseen hne
    · exact hnone
  generalize hu : ({ s with
    handoffs := s.handoffs.put call.handoff
    handoffIdempotencyIndex := s.handoffIdempotencyIndex.set call.handoff.idempotencyKey
      call.handoff.handoffId } : Store).indexIfActive call.handoff = u
  have hrows : u.verificationObjectives = s.verificationObjectives := by
    rw [← hu]
    unfold Store.indexIfActive
    split <;> rfl
  have hindex : u.verificationObjectiveIndex = s.verificationObjectiveIndex := by
    rw [← hu]
    unfold Store.indexIfActive
    split <;> rfl
  have hrun : (call.run s).verificationObjectives =
      (forEach (storeObjective call.handoff) call.objectives u).2.verificationObjectives := by
    unfold HandoffRequest.run createHandoffWithObjectives
    simp only [raiseIf_bind_run, requireAtomicCase_bind_run]
    rw [if_neg (Nat.not_lt.2 h.bounded), hcase]
    simp only
    rw [bind_ok hnone]
    simp only [alter_bind_run]
    rw [hu]
    exact Fixes.after (fun stored => Fixes.bind (putCase_fixes (fun _ _ => rfl) _) fun _ =>
      Fixes.bind (storeEvent?_fixes (fun _ _ _ => rfl) call.event) fun _ =>
      Fixes.bind (enqueueOutbox?_fixes (fun _ _ _ => rfl) call.outboxIntent) fun _ =>
      Fixes.pure _) _ _
  rw [hrun, forEach_storeObjective_rows call.handoff hother, hrows, writes_congr hindex]

end Rows

/-- **Creating a handoff leaves every other active handoff its conditions exactly when no
objective of the new one is written to a row of theirs.** -/
theorem keepsConditions_iff (s : Store) (call : HandoffRequest) (h : call.Creates s) :
    KeepsConditions s (call.run s) call.handoff ↔ ¬ call.TakesOver s := by
  constructor
  · rintro hkeeps ⟨row, hrow, owner, howner, hne, hactive, hwrites⟩
    have hid : owner.handoffId = row.handoffId := Table.key_of_get? howner
    have hsame := hkeeps owner (Table.mem_of_get? howner) hne hactive
    have hmem : (row.objectiveId, row.required, row.consecutivePassCount) ∈
        (call.run s).conditions owner.handoffId := by
      rw [hsame]
      exact ⟨row, hrow, hid.symm, rfl⟩
    obtain ⟨after, hafter, hafterOwner, heq⟩ := hmem
    -- the row the others see under this id is the old one, which the call wrote over
    have hkept := (h.row_iff (by rw [hafterOwner]; exact hne)).1 hafter
    have hafterId : after.objectiveId = row.objectiveId := congrArg Prod.fst heq
    rw [hafterId] at hkept
    exact hkept.2 hwrites
  · intro hnot owner howner hne hactive
    ext condition
    constructor
    · rintro ⟨row, hrow, hrowOwner, heq⟩
      have hkept := (h.row_iff (by rw [hrowOwner]; exact hne)).1 hrow
      exact ⟨row, hkept.1, hrowOwner, heq⟩
    · rintro ⟨row, hrow, hrowOwner, heq⟩
      refine ⟨row, (h.row_iff (by rw [hrowOwner]; exact hne)).2 ⟨hrow, fun hwrites => ?_⟩,
        hrowOwner, heq⟩
      refine hnot ⟨row, hrow, owner, ?_, hne, hactive, hwrites⟩
      rw [hrowOwner]
      exact Table.mem_rows_iff.1 howner

/-! ## Two handoffs with one objective key -/

/-- A request for a handoff of `case_1` with one objective. -/
def dnsRequest (handoffId objectiveKey condition : String) : HandoffRequest where
  handoff := {
    handoffId := handoffId
    caseId := "case_1"
    targetLoop := .engineering
    objective := "restore DNS"
    objectiveKey := objectiveKey
    idempotencyKey := "key:" ++ handoffId
    correlationId := "corr_1"
    createdAt := "2026-01-01T00:05:00+00:00"
    updatedAt := "2026-01-01T00:05:00+00:00" }
  objectives := [{
    objectiveId := "vo_" ++ handoffId
    caseId := "case_1"
    handoffId := handoffId
    objectiveKey := condition
    objectiveType := "health_endpoint"
    name := condition
    createdAt := "2026-01-01T00:05:00+00:00"
    updatedAt := "2026-01-01T00:05:00+00:00" }]

/-- `case_1` with the first handoff, which is done when DNS answers. -/
def dnsStore : Store :=
  (dnsRequest "handoff_1" "restore_dns" "dns_answers").run (upsertCase (.atomic {
    caseId := "case_1"
    openedAt := "2026-01-01T00:00:00+00:00"
    updatedAt := "2026-01-01T00:00:00+00:00" }) {}).2

theorem creates_move (condition : String) :
    (dnsRequest "handoff_2" "move_dns" condition).Creates dnsStore where
  bounded := show 1 ≤ 20 by omega
  atomic := rfl
  unseen := rfl

/-- A second handoff that is done when DNS has moved takes no row over. -/
theorem keepsConditions_own :
    KeepsConditions dnsStore ((dnsRequest "handoff_2" "move_dns" "dns_moved").run dnsStore)
      (dnsRequest "handoff_2" "move_dns" "dns_moved").handoff := by
  refine (keepsConditions_iff dnsStore _ (creates_move "dns_moved")).2 ?_
  rintro ⟨row, hrow, owner, -, -, -, hwrites⟩
  have hid : ∀ row ∈ dnsStore.verificationObjectives.rows, row.objectiveId = "vo_handoff_1" := by
    decide +kernel
  rw [hid row hrow] at hwrites
  rcases (writes_cons _ "handoff_2" _ _).1 hwrites with hslot | hnil
  · revert hslot
    decide +kernel
  · exact not_writes_nil _ hnil

/-- The second handoff is also done when DNS answers: the first is left without a condition. -/
theorem not_keepsConditions_shared :
    (dnsRequest "handoff_2" "move_dns" "dns_answers").Creates dnsStore ∧
    ¬ KeepsConditions dnsStore ((dnsRequest "handoff_2" "move_dns" "dns_answers").run dnsStore)
      (dnsRequest "handoff_2" "move_dns" "dns_answers").handoff := by
  refine ⟨creates_move _, fun h => ?_⟩
  have hstored : (dnsRequest "handoff_1" "restore_dns" "dns_answers").handoff ∈
      dnsStore.handoffs.rows := List.mem_cons_self
  have hsame := h _ hstored (by decide) (by decide)
  have hbefore : ("vo_handoff_1", true, 0) ∈ dnsStore.conditions "handoff_1" :=
    ⟨_, List.mem_cons_self, rfl, rfl⟩
  have hafter : ∀ row ∈ ((dnsRequest "handoff_2" "move_dns" "dns_answers").run
      dnsStore).verificationObjectives.rows, row.handoffId ≠ "handoff_1" := by
    decide +kernel
  obtain ⟨row, hrow, howner, -⟩ := hsame.ge hbefore
  exact hafter row hrow howner

end NocAgent.Cases
