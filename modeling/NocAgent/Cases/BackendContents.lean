import NocAgent.Cases.HandoffIndex
import NocAgent.Cases.PostgresStore

/-!
# What the two case stores hold

* `Content` — handoffs, updates, objectives and outcomes with their cases and events, however a
  store keeps them; `Store.content` and `Database.content`.
* `SameContent` — the two hold the same, table by table and index by index; `content_eq_iff`.
* `SameContent.putCase` and its siblings — a row that both write.
* `live_replace_iff`, `listed_addEvent_iff` — where the in-memory indexes and the columns part.
-/

set_option autoImplicit false

namespace NocAgent.Cases

open Effects Effects.Action Keyed Latest

/-- What a store holds of handoffs and outcomes. -/
structure Content where
  cases : String → Option CaseProjection
  events : String → Option CaseEvent
  /-- How often the history of a case lists an event. -/
  listed : String → String → Nat
  handoffs : String → Option CaseHandoff
  /-- The handoff of an idempotency key. -/
  keyed : String → String → Prop
  /-- The handoff that is alive under a key. -/
  live : HandoffKey → String → Prop
  updates : String → Option HandoffUpdate
  received : LoopName × String → String → Prop
  objectives : String → Option VerificationObjective
  objectiveIds : String × String → String → Prop
  outcomes : String → Option OutcomeRecord

def Store.content (s : Store) : Content where
  cases := s.cases.get?
  events := s.events.get?
  listed caseId eventId := ((s.caseEvents caseId).getD []).count eventId
  handoffs := s.handoffs.get?
  keyed key handoffId := truthyId (s.handoffIdempotencyIndex key) = some handoffId
  live key handoffId := truthyId (s.activeHandoffIndex key) = some handoffId
  updates := s.handoffUpdates.get?
  received key updateId := truthyId (s.handoffUpdateExternalIndex key) = some updateId
  objectives := s.verificationObjectives.get?
  objectiveIds key objectiveId := truthyId (s.verificationObjectiveIndex key) = some objectiveId
  outcomes := s.outcomes.get?

/-- How often `WHERE case_id = $1 OR meta_case_id = $1` finds the event. -/
def listedOnce (row : Option CaseEvent) (caseId : String) : Nat :=
  if (row.any fun event => decide (caseId ∈ event.concerned)) = true then 1 else 0

def Database.content (d : Database) : Content where
  cases := d.cases.get?
  events := d.caseEvents.get?
  listed caseId eventId := listedOnce (d.caseEvents.get? eventId) caseId
  handoffs := d.caseHandoffs.get?
  keyed key handoffId := ∃ row, d.caseHandoffs.get? handoffId = some row ∧
    some row.idempotencyKey = some key
  live key handoffId := ∃ row, d.caseHandoffs.get? handoffId = some row ∧ liveKey row = some key
  updates := d.handoffUpdates.get?
  received key updateId := ∃ row, d.handoffUpdates.get? updateId = some row ∧
    some row.externalKey = some key
  objectives := d.verificationObjectives.get?
  objectiveIds key objectiveId := ∃ row, d.verificationObjectives.get? objectiveId = some row ∧
    some row.caseKey = some key
  outcomes := d.outcomeRecords.get?

/-- An index without its blank entries, which are read as none. -/
def truthyIndex {κ : Type} (ix : Index κ String) : Index κ String := fun key => truthyId (ix key)

/-- The two stores hold the same. -/
structure SameContent (s : Store) (d : Database) : Prop where
  cases : s.cases.get? = d.cases.get?
  events : s.events.get? = d.caseEvents.get?
  listed : ∀ caseId eventId, ((s.caseEvents caseId).getD []).count eventId =
    listedOnce (d.caseEvents.get? eventId) caseId
  handoffs : s.handoffs.get? = d.caseHandoffs.get?
  keyed : Mirrors (fun row => some row.idempotencyKey) d.caseHandoffs
    (truthyIndex s.handoffIdempotencyIndex)
  live : Mirrors liveKey d.caseHandoffs (truthyIndex s.activeHandoffIndex)
  updates : s.handoffUpdates.get? = d.handoffUpdates.get?
  received : Mirrors (fun row => some row.externalKey) d.handoffUpdates
    (truthyIndex s.handoffUpdateExternalIndex)
  objectives : s.verificationObjectives.get? = d.verificationObjectives.get?
  objectiveIds : Mirrors (fun row => some row.caseKey) d.verificationObjectives
    (truthyIndex s.verificationObjectiveIndex)
  outcomes : s.outcomes.get? = d.outcomeRecords.get?

/-- **One content is the same tables and indexes.** -/
theorem content_eq_iff {s : Store} {d : Database} : s.content = d.content ↔ SameContent s d := by
  constructor
  · intro h
    have hindex : ∀ {κ : Type} {f : Content → κ → String → Prop} (key : κ) (id : String),
        f s.content key id ↔ f d.content key id := fun {κ f} key id => by rw [h]
    exact {
      cases := congrArg Content.cases h
      events := congrArg Content.events h
      listed := fun caseId eventId => congrFun (congrFun (congrArg Content.listed h) caseId) eventId
      handoffs := congrArg Content.handoffs h
      keyed := hindex (f := Content.keyed)
      live := hindex (f := Content.live)
      updates := congrArg Content.updates h
      received := hindex (f := Content.received)
      objectives := congrArg Content.objectives h
      objectiveIds := hindex (f := Content.objectiveIds)
      outcomes := congrArg Content.outcomes h }
  · intro h
    have hprop : ∀ {κ : Type} {p q : κ → String → Prop}, (∀ key id, p key id ↔ q key id) → p = q :=
      fun hpq => funext fun key => funext fun id => propext (hpq key id)
    unfold Store.content Database.content
    congr 1
    · exact h.cases
    · exact h.events
    · exact funext fun caseId => funext fun eventId => h.listed caseId eventId
    · exact h.handoffs
    · exact hprop h.keyed
    · exact hprop h.live
    · exact h.updates
    · exact hprop h.received
    · exact h.objectives
    · exact hprop h.objectiveIds
    · exact h.outcomes

/-! ## Rows that both write -/

theorem truthyIndex_set {κ : Type} [DecidableEq κ] {id : String} (hne : id ≠ "")
    (ix : Index κ String) (key : κ) :
    truthyIndex (ix.set key id) = (truthyIndex ix).set key id := by
  funext k
  unfold truthyIndex
  rw [Index.set_apply, Index.set_apply]
  split
  · simp [truthyId, hne]
  · rfl

theorem truthyIndex_pop {κ : Type} [DecidableEq κ] (ix : Index κ String) (key : κ) :
    truthyIndex (ix.pop key) = (truthyIndex ix).pop key := by
  funext k
  unfold truthyIndex
  rw [Index.pop_apply, Index.pop_apply]
  split <;> rfl

section Writes

variable {s : Store} {d : Database} (h : SameContent s d)

include h

theorem SameContent.atomicCase? (caseId : String) :
    d.atomicCase? caseId = s.atomicCase? caseId := by
  unfold Database.atomicCase? Store.atomicCase?
  rw [h.cases]

theorem SameContent.putCase (case : AtomicCaseProjection) :
    SameContent { s with cases := s.cases.put (.atomic case) } (d.putCase case) :=
  { h with cases := Table.get?_put_congr h.cases _ }

theorem SameContent.putUpdate {update : HandoffUpdate}
    (hfresh : d.handoffUpdates.get? update.updateId = none) (hne : update.updateId ≠ "")
    (hfree : truthyId (s.handoffUpdateExternalIndex update.externalKey) = none) :
    SameContent { s with
      handoffUpdates := s.handoffUpdates.put update
      handoffUpdateExternalIndex := s.handoffUpdateExternalIndex.set update.externalKey update.updateId }
      (d.putUpdate update) := by
  refine { h with
    updates := Table.get?_put_congr h.updates _
    received := ?_ }
  rw [truthyIndex_set hne]
  exact h.received.put_new hfresh rfl hfree

/-- An objective under a key that has one takes its id. -/
theorem SameContent.putObjective_again {objective existing : VerificationObjective}
    (hid : truthyId (s.verificationObjectiveIndex objective.caseKey) = some objective.objectiveId)
    (hexisting : d.verificationObjectives.get? objective.objectiveId = some existing)
    (hkey : existing.caseKey = objective.caseKey) (hne : objective.objectiveId ≠ "") :
    SameContent { s with
      verificationObjectives := s.verificationObjectives.put objective
      verificationObjectiveIndex :=
        s.verificationObjectiveIndex.set objective.caseKey objective.objectiveId }
      (d.putObjective objective) := by
  have hsame : (truthyIndex s.verificationObjectiveIndex).set objective.caseKey
      objective.objectiveId = truthyIndex s.verificationObjectiveIndex := by
    funext key
    rw [Index.set_apply]
    split
    · rename_i heq
      rw [heq]
      exact hid.symm
    · rfl
  refine { h with
    objectives := Table.get?_put_congr h.objectives _
    objectiveIds := ?_ }
  rw [truthyIndex_set hne, hsame]
  exact h.objectiveIds.put_same hexisting (congrArg some hkey.symm)

theorem SameContent.putObjective_new {objective : VerificationObjective}
    (hfresh : d.verificationObjectives.get? objective.objectiveId = none)
    (hne : objective.objectiveId ≠ "")
    (hfree : truthyId (s.verificationObjectiveIndex objective.caseKey) = none) :
    SameContent { s with
      verificationObjectives := s.verificationObjectives.put objective
      verificationObjectiveIndex :=
        s.verificationObjectiveIndex.set objective.caseKey objective.objectiveId }
      (d.putObjective objective) := by
  refine { h with
    objectives := Table.get?_put_congr h.objectives _
    objectiveIds := ?_ }
  rw [truthyIndex_set hne]
  exact h.objectiveIds.put_new hfresh rfl hfree

theorem SameContent.putOutcome (outcome : OutcomeRecord) :
    SameContent { s with outcomes := s.outcomes.put outcome } (d.putOutcome outcome) :=
  { h with outcomes := Table.get?_put_congr h.outcomes _ }

end Writes

/-! ## Where the in-memory indexes part from the columns -/

section Parting

variable {s : Store} {d : Database}

theorem activeHandoffIndex_replaceHandoff (s : Store) (old new : CaseHandoff) :
    (s.replaceHandoff old new).activeHandoffIndex =
      if handoffActive new.status then
        (s.activeHandoffIndex.pop (handoffKey old)).set (handoffKey new) new.handoffId
      else s.activeHandoffIndex.pop (handoffKey old) := by
  unfold Store.replaceHandoff Store.indexIfActive
  split <;> rfl

/-- **The index entry that a finished handoff takes away must not be another's.** -/
theorem live_replace_iff (hlive : Mirrors liveKey d.caseHandoffs (truthyIndex s.activeHandoffIndex))
    {old new : CaseHandoff} (hold : d.caseHandoffs.get? new.handoffId = some old)
    (hkey : handoffKey new = handoffKey old) (hne : new.handoffId ≠ "")
    (hended : handoffActive old.status = false → handoffActive new.status = false) :
    Mirrors liveKey (d.caseHandoffs.put new)
      (truthyIndex (s.replaceHandoff old new).activeHandoffIndex) ↔
      (handoffActive old.status = false →
        truthyId (s.activeHandoffIndex (handoffKey old)) = none) := by
  have hpop : ∀ a, (truthyIndex s.activeHandoffIndex).pop a = truthyIndex s.activeHandoffIndex ↔
      truthyId (s.activeHandoffIndex a) = none := by
    intro a
    constructor
    · intro heq
      have hentry := congrFun heq a
      rw [Index.pop_self] at hentry
      exact hentry.symm
    · intro hnone
      funext k
      rw [Index.pop_apply]
      split
      · rename_i heq
        rw [heq]
        exact hnone.symm
      · rfl
  rw [activeHandoffIndex_replaceHandoff]
  cases hold' : handoffActive old.status with
  | false =>
    have hnew := hended hold'
    have hf : liveKey new = liveKey old := by simp [liveKey, hnew, hold']
    rw [if_neg (by simp [hnew]), truthyIndex_pop]
    have hsame := hlive.put_same hold hf
    constructor
    · intro hmirror _
      exact (hpop _).1 (hmirror.eq hsame)
    · intro hnone
      rw [(hpop _).2 (hnone rfl)]
      exact hsame
  | true =>
    refine iff_of_true ?_ nofun
    have hold'' : liveKey old = some (handoffKey old) := by simp [liveKey, hold']
    cases hnew : handoffActive new.status with
    | false =>
      rw [if_neg Bool.false_ne_true, truthyIndex_pop]
      exact hlive.retire hold hold'' (by simp [liveKey, hnew])
    | true =>
      have hentry := (hlive (handoffKey old) new.handoffId).2 ⟨old, hold, hold''⟩
      have hindex : ((truthyIndex s.activeHandoffIndex).pop (handoffKey old)).set (handoffKey new)
          new.handoffId = truthyIndex s.activeHandoffIndex := by
        funext k
        rw [Index.set_apply, Index.pop_apply, hkey]
        split
        · rename_i heq
          rw [heq, hentry]
        · rfl
      rw [if_pos rfl, truthyIndex_set hne, truthyIndex_pop, hindex]
      exact hlive.put_same hold (by simp [liveKey, hnew, hold', hkey])

theorem SameContent.replaceHandoff (h : SameContent s d) {old new : CaseHandoff}
    (hold : d.caseHandoffs.get? new.handoffId = some old) (hkey : handoffKey new = handoffKey old)
    (hidempotency : new.idempotencyKey = old.idempotencyKey) (hne : new.handoffId ≠ "")
    (hended : handoffActive old.status = false → handoffActive new.status = false)
    (hstale : handoffActive old.status = false →
      truthyId (s.activeHandoffIndex (handoffKey old)) = none) :
    SameContent (s.replaceHandoff old new) (d.putHandoff new) := by
  have hlive := (live_replace_iff h.live hold hkey hne hended).2 hstale
  have hkeyed := h.keyed.put_same hold (congrArg some hidempotency)
  unfold Store.replaceHandoff Store.indexIfActive at hlive ⊢
  split at hlive
  · rename_i hactive
    rw [if_pos hactive]
    exact { h with
      handoffs := Table.get?_put_congr h.handoffs _
      keyed := hkeyed
      live := hlive }
  · rename_i hactive
    rw [if_neg hactive]
    exact { h with
      handoffs := Table.get?_put_congr h.handoffs _
      keyed := hkeyed
      live := hlive }

end Parting

/-! ## Events -/

def Store.storedEvent (s : Store) (event : CaseEvent) : CaseEvent :=
  (s.events.get? event.eventId).getD event

def Store.addEvent (s : Store) (event : CaseEvent) : Store :=
  if (s.events.get? event.eventId).isSome then s
  else { s with
    events := s.events.put event
    caseEvents := listEvent (listEvent s.caseEvents event.eventId event.caseId) event.eventId
      event.metaCaseId }

theorem storeEvent?_eq (event : Option CaseEvent) (s : Store) :
    storeEvent? event s = (.ok (event.map s.storedEvent), event.elim s s.addEvent) := by
  cases event with
  | none => rfl
  | some event =>
    have hrun : storeEvent event s = (.ok (s.storedEvent event), s.addEvent event) := by
      unfold storeEvent Store.storedEvent Store.addEvent
      rw [peek_bind_run]
      cases s.events.get? event.eventId <;> rfl
    exact (bind_ok hrun).trans rfl

/-- The event names each of its cases once, and none that is blank. -/
def CaseEvent.ListedOnce (event : CaseEvent) : Prop :=
  event.concerned.Nodup ∧ "" ∉ event.concerned

theorem count_listEvent (ix : Index String (List String)) (eventId id caseId : String)
    (target : Option String) : ((listEvent ix eventId target caseId).getD []).count id =
      ((ix caseId).getD []).count id +
        if id = eventId then (target.toList.filter fun c => c ≠ "").count caseId else 0 := by
  cases target with
  | none => simp [listEvent]
  | some target =>
    unfold listEvent
    dsimp only
    by_cases hblank : target = ""
    · simp [hblank]
    · rw [if_neg hblank, Index.set_apply]
      by_cases hcase : caseId = target
      · rw [if_pos hcase, Option.getD_some, List.count_append, hcase]
        by_cases hid : id = eventId
        · simp [hid, hblank]
        · have hid' : ¬ eventId = id := fun heq => hid heq.symm
          simp [hid, hid']
      · have hcase' : ¬ target = caseId := fun heq => hcase heq.symm
        simp [hcase, hcase', hblank]

/-- Counting the names that are not blank finds each name once. -/
theorem count_filter_iff (names : List String) :
    (∀ name, (names.filter fun c => c ≠ "").count name = if name ∈ names then 1 else 0) ↔
      names.Nodup ∧ "" ∉ names := by
  have hkept : "" ∉ names → (names.filter fun c => c ≠ "") = names := by
    intro hblank
    refine List.filter_eq_self.2 fun c hc => decide_eq_true ?_
    rintro rfl
    exact hblank hc
  constructor
  · intro h
    have hblank : "" ∉ names := by
      intro hmem
      have hcount := h ""
      rw [if_pos hmem, List.count_eq_zero_of_not_mem] at hcount
      · cases hcount
      · simp
    rw [hkept hblank] at h
    exact ⟨List.nodup_iff_count_eq_one.2 fun c hc => (h c).trans (if_pos hc), hblank⟩
  · rintro ⟨hnodup, hblank⟩ name
    rw [hkept hblank]
    split
    · rename_i hmem
      exact List.nodup_iff_count_eq_one.1 hnodup name hmem
    · rename_i hmem
      exact List.count_eq_zero_of_not_mem hmem

section Events

variable {s : Store} {d : Database}

/-- **The histories agree on a new event exactly when it names each of its cases once.** -/
theorem listed_addEvent_iff (hevents : s.events.get? = d.caseEvents.get?)
    (hlisted : ∀ caseId eventId, ((s.caseEvents caseId).getD []).count eventId =
      listedOnce (d.caseEvents.get? eventId) caseId)
    {event : CaseEvent} (hnew : s.events.get? event.eventId = none) :
    (∀ caseId eventId, (((s.addEvent event).caseEvents caseId).getD []).count eventId =
      listedOnce ((Postgres.addEvent d event).caseEvents.get? eventId) caseId) ↔
      event.ListedOnce := by
  have hnew' : d.caseEvents.get? event.eventId = none := hevents ▸ hnew
  have hindex : (s.addEvent event).caseEvents =
      listEvent (listEvent s.caseEvents event.eventId event.caseId) event.eventId
        event.metaCaseId := by
    unfold Store.addEvent
    rw [hnew]
    rfl
  have hrows : (Postgres.addEvent d event).caseEvents = d.caseEvents.put event := by
    unfold Postgres.addEvent
    rw [hnew']
    rfl
  have hbefore : ∀ caseId, ((s.caseEvents caseId).getD []).count event.eventId = 0 := by
    intro caseId
    rw [hlisted, hnew']
    rfl
  unfold CaseEvent.ListedOnce
  rw [← count_filter_iff, hindex, hrows]
  refine forall_congr' fun caseId => ?_
  simp only [count_listEvent, Table.get?_put]
  constructor
  · intro h
    have hevent := h event.eventId
    rw [if_pos rfl, if_pos rfl, if_pos rfl, hbefore, Nat.zero_add] at hevent
    unfold CaseEvent.concerned
    rw [List.filter_append, List.count_append, hevent]
    simp [listedOnce, CaseEvent.concerned]
  · intro h eventId
    by_cases heq : event.eventId = eventId
    · subst heq
      rw [if_pos rfl, if_pos rfl, if_pos rfl, hbefore, Nat.zero_add, ← List.count_append,
        ← List.filter_append]
      refine (h.trans ?_)
      simp [listedOnce]
    · have hne : ¬ eventId = event.eventId := fun h => heq h.symm
      rw [if_neg heq, if_neg hne, if_neg hne, hlisted]
      rfl

theorem SameContent.addEvent (h : SameContent s d) {event : CaseEvent}
    (hlisted : s.events.get? event.eventId = none → event.ListedOnce) :
    SameContent (s.addEvent event) (Postgres.addEvent d event) := by
  cases hnew : s.events.get? event.eventId with
  | some existing =>
    have hnew' : d.caseEvents.get? event.eventId = some existing := h.events ▸ hnew
    unfold Store.addEvent Postgres.addEvent
    rw [hnew, hnew']
    exact h
  | none =>
    have hnew' : d.caseEvents.get? event.eventId = none := h.events ▸ hnew
    have hcount := (listed_addEvent_iff h.events h.listed hnew).2 (hlisted hnew)
    unfold Store.addEvent Postgres.addEvent at hcount ⊢
    rw [hnew, hnew'] at hcount ⊢
    exact { h with
      events := Table.get?_put_congr h.events _
      listed := hcount }

end Events

end NocAgent.Cases
