import NocAgent.Cases.Observe

/-!
# What a call of `observe` does

* `CaseTables` — the tables a case is found by and written to.
* `Store.stored`, `Store.resolved?`, `Store.covered`, `Store.adopted` — what the call reads.
* `Observes` — the ways a call can end, with the case it found and the tables it leaves.
* `observe_observes` — every call ends in one of them.
-/

set_option autoImplicit false

namespace NocAgent.Cases

open Effects Effects.Action Keyed

/-- The tables a case is found by and written to. -/
structure CaseTables where
  cases : Table CaseProjection.caseId
  acknowledgementScopes : Index String (String × Severity)
  aliases : Table CaseIdentityAlias.aliasId
  aliasIndex : Index (AliasType × String) String

def Store.caseTables (s : Store) : CaseTables :=
  ⟨s.cases, s.acknowledgementScopes, s.aliases, s.aliasIndex⟩

theorem cases_of_caseTables {s : Store} {tables : CaseTables} (h : s.caseTables = tables) :
    s.cases = tables.cases := congrArg CaseTables.cases h

theorem atomicCase?_of_caseTables {s t : Store} (h : t.caseTables = s.caseTables)
    (caseId : String) : t.atomicCase? caseId = s.atomicCase? caseId := by
  have hcases : t.cases = s.cases := congrArg CaseTables.cases h
  unfold Store.atomicCase?
  rw [hcases]

/-- Writing a case keeps every case there. -/
theorem isSome_atomicCase?_put {s t : Store} {case : AtomicCaseProjection} {caseId : String}
    (h : t.cases = s.cases.put (.atomic case)) (hcase : (s.atomicCase? caseId).isSome) :
    (t.atomicCase? caseId).isSome := by
  rw [atomicCase?_put h]
  split
  · rfl
  · exact hcase

@[simp] theorem unhealthyCase_caseId (policy : CasePolicy) (case : AtomicCaseProjection)
    (observation : ObservationRecord) (covered : Severity) (now : String) :
    (unhealthyCase policy case observation covered now).caseId = case.caseId := rfl

@[simp] theorem cleanCase_caseId (policy : CasePolicy) (case : AtomicCaseProjection)
    (observation : ObservationRecord) (now : String) :
    (cleanCase policy case observation now).caseId = case.caseId := rfl

@[simp] theorem newCase_caseId (py : Python) (policy : CasePolicy) (observation : ObservationRecord)
    (aliasValue : String) (draws : ObserveDraws) :
    (newCase py policy observation aliasValue draws).caseId = draws.caseId := rfl

/-! ## What the call reads -/

/-- The observation as the store has it: an id seen before keeps its record. -/
def Store.stored (s : Store) (observation : ObservationRecord) : ObservationRecord :=
  (s.observations.get? observation.observationId).getD observation

/-- The row the alias index has for a key. -/
def Store.aliasRow? (s : Store) (aliasType : AliasType) (aliasValue : String) :
    Option CaseIdentityAlias :=
  (truthyId (s.aliasIndex (aliasKey aliasType aliasValue))).bind fun aliasId =>
    s.aliases.get? aliasId

/-- The case id an alias resolves to. -/
def Store.resolves? (s : Store) (aliasType : AliasType) (aliasValue : String) : Option String :=
  (s.aliasRow? aliasType aliasValue).bind fun found =>
    if found.retiredAt = none then some found.caseId else none

/-- The atomic case an alias resolves to. -/
def Store.resolved? (s : Store) (aliasType : AliasType) (aliasValue : String) :
    Option AtomicCaseProjection :=
  (truthyId (s.resolves? aliasType aliasValue)).bind s.atomicCase?

/-- A case is acknowledged by a time or by an operator. -/
def AtomicCaseProjection.Acknowledged (case : AtomicCaseProjection) : Prop :=
  case.acknowledgedAt ≠ "" ∨ case.acknowledgedBy ≠ ""

instance (case : AtomicCaseProjection) : Decidable case.Acknowledged := by
  unfold AtomicCaseProjection.Acknowledged; infer_instance

/-- The scope recorded for the acknowledgement a case has. -/
def Store.scope? (s : Store) (case : AtomicCaseProjection) : Option Severity :=
  (s.acknowledgementScopes case.caseId).bind fun scope =>
    if scope.1 = case.acknowledgedAt then some scope.2 else none

/-- The severity an acknowledgement covers. -/
def Store.covered (s : Store) (case : AtomicCaseProjection) : Severity :=
  if case.Acknowledged then (s.scope? case).getD case.severity else case.severity

/-- The scopes after an acknowledgement without one was adopted. -/
def Store.adopted (s : Store) (case : AtomicCaseProjection) : Index String (String × Severity) :=
  if case.Acknowledged ∧ s.scope? case = none then
    s.acknowledgementScopes.set case.caseId (case.acknowledgedAt, case.severity)
  else s.acknowledgementScopes

/-- One call of `observe`. -/
structure ObserveCall where
  observation : ObservationRecord
  draws : ObserveDraws

/-! ## The store calls -/

theorem putObservation_stored (observation : ObservationRecord) (s : Store) :
    ∃ rows, putObservation observation s =
      (.ok (s.stored observation), { s with observations := rows }) := by
  unfold putObservation Store.stored
  simp only [peek_bind_run]
  cases s.observations.get? observation.observationId with
  | some existing => exact ⟨s.observations, rfl⟩
  | none => exact ⟨s.observations.put observation, rfl⟩

theorem resolveAlias_run (aliasType : AliasType) (aliasValue : String) (s : Store) :
    resolveAlias aliasType aliasValue s = (.ok (s.resolves? aliasType aliasValue), s) := by
  unfold resolveAlias Store.resolves? Store.aliasRow?
  rw [peek_run, Option.bind_assoc]
  rfl

/-- What looking aliases up returns. -/
def Store.aliased (s : Store) (aliases : List CaseIdentityAlias) :
    Except PyExc (Option AtomicCaseProjection) := (aliasedCase aliases s).1

theorem aliasedCase_run (aliases : List CaseIdentityAlias) (s : Store) :
    aliasedCase aliases s = (s.aliased aliases, s) :=
  Prod.ext rfl (aliasedCase_fixes (f := id) aliases s)

theorem coveredSeverity_run {s : Store} {case stored : AtomicCaseProjection}
    (hstored : s.atomicCase? case.caseId = some stored) :
    coveredSeverity case s =
      (.ok (s.covered case), { s with acknowledgementScopes := s.adopted case }) := by
  unfold coveredSeverity Store.covered Store.adopted
  by_cases hack : case.Acknowledged
  · have hack' : case.acknowledgedAt ≠ "" ∨ case.acknowledgedBy ≠ "" := hack
    have hscope : acknowledgementScope case.caseId case.acknowledgedAt s = (.ok (s.scope? case), s) :=
      rfl
    rw [if_pos hack', if_pos hack, bind_ok hscope]
    cases hs : s.scope? case with
    | some scope =>
      rw [if_neg (by simp)]
      rfl
    | none =>
      rw [if_pos ⟨hack, rfl⟩]
      simp only [recordAcknowledgementScope, bind_bind_run, requireAtomicCase_bind_run, hstored,
        alter_bind_run]
      rfl
  · have hack' : ¬ (case.acknowledgedAt ≠ "" ∨ case.acknowledgedBy ≠ "") := hack
    rw [if_neg hack', if_neg hack, if_neg fun h => hack h.1]
    rfl

/-- Under the guard a case that nobody wrote meanwhile is the case that was looked up. -/
theorem guardedCaseWrite_stored {α : Type} {s : Store} {case : AtomicCaseProjection}
    (hstored : s.atomicCase? case.caseId = some case) (method : AtomicCaseProjection → StoreM α) :
    guardedCaseWrite case method s = method case s := by
  unfold guardedCaseWrite
  split
  · rfl
  · simp only [requireAtomicCase_bind_run, hstored]

section Calls

variable (py : Python) (policy : CasePolicy)

theorem updateUnhealthy_run {s : Store} {case stored : AtomicCaseProjection}
    (hstored : s.atomicCase? case.caseId = some stored) (observation : ObservationRecord)
    (draws : ObserveDraws) :
    ∃ event ev ix, updateUnhealthy policy observation draws case s = (.ok {
        action := .updated
        observation := observation
        case := some (unhealthyCase policy case observation (s.covered case) draws.updatedAt)
        events := [event] },
      { s with
        cases := s.cases.put (.atomic (unhealthyCase policy case observation (s.covered case)
          draws.updatedAt))
        acknowledgementScopes := s.adopted case
        events := ev
        caseEvents := ix }) := by
  unfold updateUnhealthy putCase
  rw [bind_ok (coveredSeverity_run hstored)]
  simp only [alter_bind_run]
  obtain ⟨event, ev, ix, hrun⟩ := storeEvent_run (unhealthyEvent policy (unhealthyCase policy case
    observation (s.covered case) draws.updatedAt) case.signalSignature observation draws.update)
    { s with
      acknowledgementScopes := s.adopted case
      cases := s.cases.put (.atomic (unhealthyCase policy case observation (s.covered case)
        draws.updatedAt)) }
  exact ⟨event, ev, ix, (bind_ok hrun).trans rfl⟩

theorem recordClean_run (s : Store) (case : AtomicCaseProjection) (observation : ObservationRecord)
    (draws : ObserveDraws) :
    ∃ event ev ix, recordClean policy observation draws case s = (.ok {
        action :=
          if resolvesPositiveClean policy observation then .resolvedPositiveClean else .updated
        observation := observation
        case := some (cleanCase policy case observation draws.updatedAt)
        events := [event] },
      { s with
        cases := s.cases.put (.atomic (cleanCase policy case observation draws.updatedAt))
        events := ev
        caseEvents := ix }) := by
  unfold recordClean putCase
  simp only [alter_bind_run]
  obtain ⟨event, ev, ix, hrun⟩ := storeEvent_run _ { s with
    cases := s.cases.put (.atomic (cleanCase policy case observation draws.updatedAt)) }
  exact ⟨event, ev, ix, (bind_ok hrun).trans rfl⟩

/-- The alias table after a list of aliases was stored, in order. -/
def storeAliases (aliases : List CaseIdentityAlias) (rows : Table CaseIdentityAlias.aliasId) :
    Table CaseIdentityAlias.aliasId :=
  aliases.foldl (fun rows entry => rows.put entry) rows

/-- The alias index after a list of aliases was stored, in order. -/
def indexAliases (aliases : List CaseIdentityAlias) (ix : Index (AliasType × String) String) :
    Index (AliasType × String) String :=
  aliases.foldl (fun ix entry => ix.set (aliasKey entry.aliasType entry.aliasValue) entry.aliasId) ix

theorem forEach_storeAlias_run : ∀ (aliases : List CaseIdentityAlias) (s : Store),
    ∃ units, forEach storeAlias aliases s = (.ok units, { s with
      aliases := storeAliases aliases s.aliases
      aliasIndex := indexAliases aliases s.aliasIndex })
  | [], s => ⟨[], rfl⟩
  | entry :: rest, s => by
    obtain ⟨units, hrun⟩ := forEach_storeAlias_run rest { s with
      aliases := s.aliases.put entry
      aliasIndex := s.aliasIndex.set (aliasKey entry.aliasType entry.aliasValue) entry.aliasId }
    refine ⟨() :: units, ?_⟩
    simp only [forEach, storeAlias, alter_bind_run]
    exact (bind_ok hrun).trans rfl

theorem forEach_storeEvent_run : ∀ (events : List CaseEvent) (s : Store),
    ∃ stored ev ix, forEach storeEvent events s = (.ok stored, { s with
      events := ev
      caseEvents := ix })
  | [], s => ⟨[], s.events, s.caseEvents, rfl⟩
  | event :: rest, s => by
    obtain ⟨stored, ev, ix, hrun⟩ := storeEvent_run event s
    obtain ⟨more, ev', ix', hrest⟩ := forEach_storeEvent_run rest { s with
      events := ev
      caseEvents := ix }
    exact ⟨stored :: more, ev', ix', (bind_ok hrun).trans ((bind_ok hrest).trans rfl)⟩

/-- Creating a case whose aliases and whose fingerprint nobody has. -/
theorem createAtomicCase_created {s : Store} (case : AtomicCaseProjection)
    {aliases : List CaseIdentityAlias} (hfree : s.aliased aliases = .ok none)
    (hsame : s.sameFingerprint case.fingerprint = none) (events : List CaseEvent) :
    ∃ stored ev ix, createAtomicCase case aliases events s = (.ok (case, stored, true), { s with
      cases := s.cases.put (.atomic case)
      aliases := storeAliases aliases s.aliases
      aliasIndex := indexAliases aliases s.aliasIndex
      events := ev
      caseEvents := ix }) := by
  have hrun := aliasedCase_run aliases s
  rw [hfree] at hrun
  unfold createAtomicCase putCase
  rw [bind_ok hrun]
  simp only [peek_bind_run, hsame, alter_bind_run]
  obtain ⟨units, haliases⟩ := forEach_storeAlias_run aliases { s with
    cases := s.cases.put (.atomic case) }
  obtain ⟨stored, ev, ix, hevents⟩ := forEach_storeEvent_run events { s with
    cases := s.cases.put (.atomic case)
    aliases := storeAliases aliases s.aliases
    aliasIndex := indexAliases aliases s.aliasIndex }
  exact ⟨stored, ev, ix, (bind_ok haliases).trans ((bind_ok hevents).trans rfl)⟩

/-! ## Cases that were found are stored -/

theorem resolved?_stored {s : Store} {aliasType : AliasType} {aliasValue : String}
    {case : AtomicCaseProjection} (h : s.resolved? aliasType aliasValue = some case) :
    s.atomicCase? case.caseId = some case := by
  obtain ⟨caseId, -, hget⟩ := Option.bind_eq_some_iff.1 h
  rw [caseId_of_atomicCase? hget]
  exact hget

theorem aliased_observations (s : Store) (rows : Table ObservationRecord.observationId) :
    ∀ aliases : List CaseIdentityAlias,
      ({ s with observations := rows } : Store).aliased aliases = s.aliased aliases
  | [] => rfl
  | entry :: rest => by
    have ih := aliased_observations s rows rest
    unfold Store.aliased at ih ⊢
    simp only [aliasedCase, raiseIf_bind_run, peek_bind_run]
    split
    · rfl
    · cases truthyId (s.aliasIndex (aliasKey entry.aliasType entry.aliasValue)) with
      | none => exact ih
      | some id =>
        simp only [peek_bind_run, orRaise_bind_run]
        cases s.aliases.get? id with
        | none => rfl
        | some row =>
          simp only [Store.atomicCase?]
          cases (s.cases.get? row.caseId).bind CaseProjection.atomic? <;> rfl

/-- The alias that decides is the first that the index has. -/
theorem aliased_some {s : Store} {case : AtomicCaseProjection} :
    ∀ {aliases : List CaseIdentityAlias}, s.aliased aliases = .ok (some case) →
      ∃ entry ∈ aliases, ∃ row, s.aliasRow? entry.aliasType entry.aliasValue = some row ∧
        s.atomicCase? row.caseId = some case
  | [], h => by cases h
  | entry :: rest, h => by
    unfold Store.aliased at h
    simp only [aliasedCase, raiseIf_bind_run, peek_bind_run] at h
    split at h
    · cases h
    · cases hid : truthyId (s.aliasIndex (aliasKey entry.aliasType entry.aliasValue)) with
      | none =>
        rw [hid] at h
        obtain ⟨later, hmem, hrow⟩ := aliased_some h
        exact ⟨later, List.mem_cons_of_mem _ hmem, hrow⟩
      | some id =>
        rw [hid] at h
        simp only [peek_bind_run, orRaise_bind_run] at h
        cases hrow : s.aliases.get? id with
        | none => rw [hrow] at h; cases h
        | some row =>
          rw [hrow] at h
          simp only [] at h
          cases hcase : s.atomicCase? row.caseId with
          | none => rw [hcase] at h; cases h
          | some found =>
            rw [hcase] at h
            cases h
            refine ⟨entry, List.mem_cons_self, row, ?_, hcase⟩
            unfold Store.aliasRow?
            rw [hid]
            exact hrow

/-- The first alias is taken: its case decides, if it is an atomic one. -/
theorem aliased_taken {s : Store} (entry : CaseIdentityAlias) {row : CaseIdentityAlias}
    (hrow : s.aliasRow? entry.aliasType entry.aliasValue = some row)
    (rest : List CaseIdentityAlias) :
    (s.aliased (entry :: rest) = .error .valueError ∧
      (entry.aliasValue = "" ∨ s.atomicCase? row.caseId = none)) ∨
    ∃ case, s.aliased (entry :: rest) = .ok (some case) ∧ s.atomicCase? row.caseId = some case := by
  obtain ⟨id, hid, hget⟩ := Option.bind_eq_some_iff.1 hrow
  unfold Store.aliased
  simp only [aliasedCase, raiseIf_bind_run, peek_bind_run, hid]
  split
  · exact Or.inl ⟨rfl, Or.inl (by assumption)⟩
  · simp only [peek_bind_run, orRaise_bind_run, hget]
    cases s.atomicCase? row.caseId with
    | none => exact Or.inl ⟨rfl, Or.inr rfl⟩
    | some case => exact Or.inr ⟨case, rfl, rfl⟩

/-- An alias without a value is refused. -/
theorem aliased_blank {s : Store} {entry : CaseIdentityAlias} (hvalue : entry.aliasValue = "")
    (rest : List CaseIdentityAlias) : s.aliased (entry :: rest) = .error .valueError := by
  unfold Store.aliased
  simp only [aliasedCase, raiseIf_bind_run, if_pos hvalue]

/-- The first alias has a value and is free: the others decide. -/
theorem aliased_free {s : Store} (entry : CaseIdentityAlias) (hvalue : entry.aliasValue ≠ "")
    (hfree : truthyId (s.aliasIndex (aliasKey entry.aliasType entry.aliasValue)) = none)
    (rest : List CaseIdentityAlias) : s.aliased (entry :: rest) = s.aliased rest := by
  unfold Store.aliased
  simp only [aliasedCase, raiseIf_bind_run, if_neg hvalue, peek_bind_run, hfree]

/-- No alias is taken, and each has a value. -/
theorem aliased_none {s : Store} : ∀ {aliases : List CaseIdentityAlias},
    s.aliased aliases = .ok none ↔ ∀ entry ∈ aliases, entry.aliasValue ≠ "" ∧
      truthyId (s.aliasIndex (aliasKey entry.aliasType entry.aliasValue)) = none
  | [] => ⟨fun _ _ h => (by cases h), fun _ => rfl⟩
  | entry :: rest => by
    rw [List.forall_mem_cons, ← aliased_none (s := s)]
    unfold Store.aliased
    simp only [aliasedCase, raiseIf_bind_run, peek_bind_run]
    by_cases hvalue : entry.aliasValue = ""
    · rw [if_pos hvalue]
      exact ⟨fun h => (by cases h), fun h => absurd hvalue h.1.1⟩
    · rw [if_neg hvalue]
      cases hid : truthyId (s.aliasIndex (aliasKey entry.aliasType entry.aliasValue)) with
      | none => exact ⟨fun h => ⟨⟨hvalue, rfl⟩, h⟩, fun h => h.2⟩
      | some id =>
        refine ⟨fun h => ?_, fun h => (by cases h.1.2)⟩
        simp only [peek_bind_run, orRaise_bind_run] at h
        split at h
        · split at h <;> cases h
        · cases h

theorem sameFingerprint_some {s : Store} {fingerprint : String} {case : AtomicCaseProjection}
    (h : s.sameFingerprint fingerprint = some case) :
    s.atomicCase? case.caseId = some case ∧ case.fingerprint ≠ "" ∧
      case.fingerprint = fingerprint ∧ case.status ∉ TERMINAL_CASE_STATUSES := by
  have hmem := List.mem_of_find?_eq_some h
  have hprop := List.find?_some h
  obtain ⟨row, hrow, hatomic⟩ := List.mem_filterMap.1 hmem
  rw [CaseProjection.atomic?_eq_some.1 hatomic] at hrow
  refine ⟨atomicCase?_eq_some.2 (Table.mem_rows_iff.1 hrow), ?_⟩
  simpa using hprop

theorem sameFingerprint_none {s : Store} {fingerprint : String} (h0 : fingerprint ≠ "") :
    s.sameFingerprint fingerprint = none ↔ ∀ caseId case, s.atomicCase? caseId = some case →
      case.fingerprint = fingerprint → case.status ∈ TERMINAL_CASE_STATUSES := by
  unfold Store.sameFingerprint
  rw [List.find?_eq_none]
  constructor
  · intro h caseId case hget hfp
    by_contra hopen
    have hrow := Table.mem_of_get? (atomicCase?_eq_some.1 hget)
    have hmem : case ∈ s.cases.rows.filterMap CaseProjection.atomic? :=
      List.mem_filterMap.2 ⟨.atomic case, hrow, rfl⟩
    refine h case hmem ?_
    simp only [decide_eq_true_eq]
    exact ⟨hfp ▸ h0, hfp, hopen⟩
  · intro h case hmem hprop
    obtain ⟨row, hrow, hatomic⟩ := List.mem_filterMap.1 hmem
    rw [CaseProjection.atomic?_eq_some.1 hatomic] at hrow
    simp only [decide_eq_true_eq] at hprop
    exact hprop.2.2 (h case.caseId case (atomicCase?_eq_some.2 (Table.mem_rows_iff.1 hrow)) hprop.2.1)

/-! ## The ways a call can end -/

/-- How a firing observation finds the case it is applied to. -/
inductive Found (s : Store) (observation : ObservationRecord) (draws : ObserveDraws)
    (case : AtomicCaseProjection) : Prop where
  | byAlias (h : s.resolved? (observationAlias py observation).1
      (observationAlias py observation).2 = some case)
  | byNewAlias
      (hnone : s.resolved? (observationAlias py observation).1
        (observationAlias py observation).2 = none)
      (h : s.aliased (newAliases observation (observationAlias py observation).1
        (observationAlias py observation).2 draws) = .ok (some case))
  | byFingerprint
      (hnone : s.resolved? (observationAlias py observation).1
        (observationAlias py observation).2 = none)
      (hfree : s.aliased (newAliases observation (observationAlias py observation).1
        (observationAlias py observation).2 draws) = .ok none)
      (h : s.sameFingerprint (observationAlias py observation).2 = some case)

/-- A firing observation makes a case: no alias of its own and no fingerprint leads to one. -/
structure Creates (s : Store) (observation : ObservationRecord) (draws : ObserveDraws) : Prop where
  firing : observation.status = .firing
  unresolved : s.resolved? (observationAlias py observation).1
    (observationAlias py observation).2 = none
  free : s.aliased (newAliases observation (observationAlias py observation).1
    (observationAlias py observation).2 draws) = .ok none
  alone : s.sameFingerprint (observationAlias py observation).2 = none

/-- **The ways a call of `observe` can end**, for the observation as the store has it. -/
inductive Observes (s : Store) (observation : ObservationRecord) (draws : ObserveDraws) :
    Except PyExc ObserveResult → Store → Prop where
  | raised {e : PyExc} {t : Store} (hfound : ∀ case, ¬ Found py s observation draws case)
      (hcreates : ¬ Creates py s observation draws) (htables : t.caseTables = s.caseTables) :
      Observes s observation draws (.error e) t
  | noted {result : ObserveResult} {t : Store} (hstatus : observation.status ≠ .firing)
      (haction : result.action = .cleanWithoutCase ∨ result.action = .ignoredUnknownStatus)
      (hcase : observation.status = .unknown ∨ result.case = none ∧
        s.resolved? (observationAlias py observation).1
          (observationAlias py observation).2 = none)
      (hobservation : result.observation = observation) (htables : t.caseTables = s.caseTables) :
      Observes s observation draws (.ok result) t
  | unhealthy {case : AtomicCaseProjection} {events : List CaseEvent} {t : Store}
      (hfiring : observation.status = .firing) (hfound : Found py s observation draws case)
      (hstored : s.atomicCase? case.caseId = some case)
      (htables : t.caseTables = { s.caseTables with
        cases := s.cases.put (.atomic (unhealthyCase policy case observation (s.covered case)
          draws.updatedAt))
        acknowledgementScopes := s.adopted case }) :
      Observes s observation draws (.ok {
        action := .updated
        observation := observation
        case := some (unhealthyCase policy case observation (s.covered case) draws.updatedAt)
        events := events }) t
  | clean {case : AtomicCaseProjection} {events : List CaseEvent} {t : Store}
      (hclean : observation.status = .clean ∨ observation.status = .resolved)
      (hresolved : s.resolved? (observationAlias py observation).1
        (observationAlias py observation).2 = some case)
      (hstored : s.atomicCase? case.caseId = some case)
      (htables : t.caseTables = { s.caseTables with
        cases := s.cases.put (.atomic (cleanCase policy case observation draws.updatedAt)) }) :
      Observes s observation draws (.ok {
        action :=
          if resolvesPositiveClean policy observation then .resolvedPositiveClean else .updated
        observation := observation
        case := some (cleanCase policy case observation draws.updatedAt)
        events := events }) t
  | created {events : List CaseEvent} {t : Store} (hfiring : observation.status = .firing)
      (hnone : s.resolved? (observationAlias py observation).1
        (observationAlias py observation).2 = none)
      (hfree : s.aliased (newAliases observation (observationAlias py observation).1
        (observationAlias py observation).2 draws) = .ok none)
      (hsame : s.sameFingerprint (observationAlias py observation).2 = none)
      (htables : t.caseTables = { s.caseTables with
        cases := s.cases.put (.atomic (newCase py policy observation
          (observationAlias py observation).2 draws))
        aliases := storeAliases (newAliases observation (observationAlias py observation).1
          (observationAlias py observation).2 draws) s.aliases
        aliasIndex := indexAliases (newAliases observation (observationAlias py observation).1
          (observationAlias py observation).2 draws) s.aliasIndex }) :
      Observes s observation draws (.ok {
        action := .created
        observation := observation
        case := some (newCase py policy observation (observationAlias py observation).2 draws)
        events := events }) t

section Ends

variable {py policy}

theorem Found.unique {s : Store} {observation : ObservationRecord} {draws : ObserveDraws}
    {case other : AtomicCaseProjection} (h : Found py s observation draws case)
    (h' : Found py s observation draws other) : case = other := by
  cases h with
  | byAlias h =>
    cases h' with
    | byAlias h' => exact Option.some.inj (h.symm.trans h')
    | byNewAlias hnone | byFingerprint hnone => cases h.symm.trans hnone
  | byNewAlias hnone h =>
    cases h' with
    | byAlias h' => cases hnone.symm.trans h'
    | byNewAlias _ h' => cases h.symm.trans h'; rfl
    | byFingerprint _ hfree => cases h.symm.trans hfree
  | byFingerprint hnone hfree h =>
    cases h' with
    | byAlias h' => cases hnone.symm.trans h'
    | byNewAlias _ h' => cases hfree.symm.trans h'
    | byFingerprint _ _ h' => exact Option.some.inj (h.symm.trans h')

theorem Found.not_creates {s : Store} {observation : ObservationRecord} {draws : ObserveDraws}
    {case : AtomicCaseProjection} (h : Found py s observation draws case) :
    ¬ Creates py s observation draws := by
  intro hcreates
  cases h with
  | byAlias h => cases hcreates.unresolved.symm.trans h
  | byNewAlias _ h => cases hcreates.free.symm.trans h
  | byFingerprint _ _ h => cases hcreates.alone.symm.trans h

/-- An alias of a meta case is refused when a case is to be made. -/
theorem aliased_of_storm {s : Store} {observation : ObservationRecord} {caseId : String}
    (hresolves : s.resolves? (observationAlias py observation).1
      (observationAlias py observation).2 = some caseId) (hstorm : s.atomicCase? caseId = none)
    (draws : ObserveDraws) :
    s.aliased (newAliases observation (observationAlias py observation).1
      (observationAlias py observation).2 draws) = .error .valueError := by
  obtain ⟨row, hrow, hactive⟩ := Option.bind_eq_some_iff.1 hresolves
  have hcaseId : row.caseId = caseId := by
    split at hactive
    · exact Option.some.inj hactive
    · cases hactive
  have hkey : s.aliasRow? (observationAlias py observation).1
      (strip (observationAlias py observation).2) = some row := by
    unfold Store.aliasRow? aliasKey at hrow ⊢
    rw [strip_strip]
    exact hrow
  rcases aliased_taken (s := s) {
      aliasId := draws.aliasId 0
      caseId := draws.caseId
      aliasType := (observationAlias py observation).1
      aliasValue := strip (observationAlias py observation).2 } hkey _ with
    ⟨herror, -⟩ | ⟨other, -, hget⟩
  · exact herror
  · rw [hcaseId, hstorm] at hget
    cases hget

/-- An alias of a meta case finds nothing. -/
theorem not_found_of_storm {s : Store} {observation : ObservationRecord} {draws : ObserveDraws}
    {caseId : String} (hresolves : s.resolves? (observationAlias py observation).1
      (observationAlias py observation).2 = some caseId)
    (hstorm : s.atomicCase? caseId = none) (case : AtomicCaseProjection) :
    ¬ Found py s observation draws case := by
  have herror := aliased_of_storm hresolves hstorm draws
  intro hfound
  cases hfound with
  | byAlias h =>
    obtain ⟨id, htruthy, hget⟩ := Option.bind_eq_some_iff.1 h
    obtain ⟨hsome, -⟩ := Option.filter_eq_some_iff.1 htruthy
    rw [hresolves] at hsome
    cases hsome
    rw [hstorm] at hget
    cases hget
  | byNewAlias _ h => cases herror.symm.trans h
  | byFingerprint _ h => cases herror.symm.trans h

theorem Found.stored {s : Store} {observation : ObservationRecord} {draws : ObserveDraws}
    {case : AtomicCaseProjection} (h : Found py s observation draws case) :
    s.atomicCase? case.caseId = some case := by
  cases h with
  | byAlias h => exact resolved?_stored h
  | byNewAlias _ h =>
    obtain ⟨-, -, row, -, hget⟩ := aliased_some h
    rw [caseId_of_atomicCase? hget]
    exact hget
  | byFingerprint _ _ h => exact (sameFingerprint_some h).1

/-- Loading the case of an alias: an alias of a meta case is refused. -/
theorem caseOfAlias_resolved (aliasType : AliasType) (aliasValue : String) (s : Store) :
    caseOfAlias (s.resolves? aliasType aliasValue) s = (.ok (s.resolved? aliasType aliasValue), s) ∨
      ∃ e caseId, caseOfAlias (s.resolves? aliasType aliasValue) s = (.error e, s) ∧
        s.resolves? aliasType aliasValue = some caseId ∧ s.atomicCase? caseId = none := by
  unfold caseOfAlias Store.resolved?
  simp only [peek_bind_run]
  cases htruthy : truthyId (s.resolves? aliasType aliasValue) with
  | none => exact Or.inl rfl
  | some caseId =>
    obtain ⟨hsome, -⟩ := Option.filter_eq_some_iff.1 htruthy
    simp only [Option.bind_some, Store.atomicCase?]
    rcases hget : s.cases.get? caseId with _ | (case | case)
    · exact Or.inl rfl
    · exact Or.inl rfl
    · exact Or.inr ⟨_, caseId, rfl, hsome, by rw [hget]; rfl⟩

/-- A firing observation of a case that was found. -/
theorem Observes.of_found {s : Store} {observation : ObservationRecord} {draws : ObserveDraws}
    {case : AtomicCaseProjection} (hfiring : observation.status = .firing)
    (hfound : Found py s observation draws case) :
    Observes py policy s observation draws
      (guardedCaseWrite case (updateUnhealthy policy observation draws) s).1
      (guardedCaseWrite case (updateUnhealthy policy observation draws) s).2 := by
  have hstored := hfound.stored
  obtain ⟨event, ev, ix, hrun⟩ := updateUnhealthy_run policy hstored observation draws
  rw [guardedCaseWrite_stored hstored, hrun]
  exact .unhealthy hfiring hfound hstored rfl

/-- A firing observation whose alias resolves to no case. -/
theorem Observes.of_new {s : Store} {observation : ObservationRecord} {draws : ObserveDraws}
    (hfiring : observation.status = .firing)
    (hnone : s.resolved? (observationAlias py observation).1
      (observationAlias py observation).2 = none) :
    Observes py policy s observation draws
      (createFromUnhealthy py policy observation (observationAlias py observation).1
        (observationAlias py observation).2 draws s).1
      (createFromUnhealthy py policy observation (observationAlias py observation).1
        (observationAlias py observation).2 draws s).2 := by
  have haliased := aliasedCase_run (newAliases observation (observationAlias py observation).1
    (observationAlias py observation).2 draws) s
  unfold createFromUnhealthy
  rcases h : s.aliased (newAliases observation (observationAlias py observation).1
    (observationAlias py observation).2 draws) with e | _ | case
  · rw [h] at haliased
    have hrun : createAtomicCase (newCase py policy observation
        (observationAlias py observation).2 draws) (newAliases observation
        (observationAlias py observation).1 (observationAlias py observation).2 draws)
        (createdEvents policy observation (observationAlias py observation).1 draws) s =
        (.error e, s) := by
      unfold createAtomicCase
      rw [bind_error haliased]
    rw [bind_error hrun]
    have hnotFound : ∀ case, ¬ Found py s observation draws case := by
      intro case hfound
      cases hfound with
      | byAlias h' => cases hnone.symm.trans h'
      | byNewAlias _ h' | byFingerprint _ h' => cases h.symm.trans h'
    have hnotCreates : ¬ Creates py s observation draws := by
      intro hcreates
      cases h.symm.trans hcreates.free
    exact .raised hnotFound hnotCreates rfl
  · rw [h] at haliased
    cases hsame : s.sameFingerprint (observationAlias py observation).2 with
    | none =>
      obtain ⟨stored, ev, ix, hrun⟩ := createAtomicCase_created (newCase py policy observation
        (observationAlias py observation).2 draws) h hsame
        (createdEvents policy observation (observationAlias py observation).1 draws)
      rw [bind_ok hrun]
      exact .created hfiring hnone h hsame rfl
    | some case =>
      have hrun : createAtomicCase (newCase py policy observation
          (observationAlias py observation).2 draws) (newAliases observation
          (observationAlias py observation).1 (observationAlias py observation).2 draws)
          (createdEvents policy observation (observationAlias py observation).1 draws) s =
          (.ok (case, [], false), s) := by
        unfold createAtomicCase
        rw [bind_ok haliased]
        have hsame' : s.sameFingerprint (newCase py policy observation
            (observationAlias py observation).2 draws).fingerprint = some case := hsame
        simp only [peek_bind_run, hsame', pure_run]
      rw [bind_ok hrun]
      exact .of_found hfiring (.byFingerprint hnone h hsame)
  · rw [h] at haliased
    have hrun : createAtomicCase (newCase py policy observation
        (observationAlias py observation).2 draws) (newAliases observation
        (observationAlias py observation).1 (observationAlias py observation).2 draws)
        (createdEvents policy observation (observationAlias py observation).1 draws) s =
        (.ok (case, [], false), s) := by
      unfold createAtomicCase
      rw [bind_ok haliased]
      rfl
    rw [bind_ok hrun]
    exact .of_found hfiring (.byNewAlias hnone h)

/-- An event about an observation, and nothing else. -/
theorem Observes.of_event {s : Store} {observation : ObservationRecord} {draws : ObserveDraws}
    (hstatus : observation.status ≠ .firing)
    (event : CaseEvent) (f : CaseEvent → ObserveResult)
    (hcase : ∀ event, observation.status = .unknown ∨ (f event).case = none ∧
      s.resolved? (observationAlias py observation).1 (observationAlias py observation).2 = none)
    (haction : ∀ event, ((f event).action = .cleanWithoutCase ∨
      (f event).action = .ignoredUnknownStatus) ∧ (f event).observation = observation) :
    Observes py policy s observation draws
      ((do let event ← storeEvent event; pure (f event) : StoreM ObserveResult) s).1
      ((do let event ← storeEvent event; pure (f event) : StoreM ObserveResult) s).2 := by
  obtain ⟨stored, ev, ix, hrun⟩ := storeEvent_run event s
  rw [bind_ok hrun]
  exact .noted hstatus (haction stored).1 (hcase stored) (haction stored).2 rfl

/-- The branch an observation takes. -/
theorem observeCase_observes (s : Store) (observation : ObservationRecord) (draws : ObserveDraws) :
    let case := s.resolved? (observationAlias py observation).1 (observationAlias py observation).2
    Observes py policy s observation draws (observeCase py policy observation draws case s).1
      (observeCase py policy observation draws case s).2 := by
  intro case
  cases hcase : case with
  | none =>
    unfold observeCase
    cases hst : observation.status with
    | firing => exact .of_new hst hcase
    | clean | resolved =>
      exact .of_event (by simp [hst]) _ _ (fun _ => Or.inr ⟨rfl, hcase⟩) fun _ => ⟨Or.inl rfl, rfl⟩
    | unknown => exact .of_event (by simp [hst]) _ _ (fun _ => Or.inl hst) fun _ => ⟨Or.inr rfl, rfl⟩
  | some found =>
    have hstored := resolved?_stored hcase
    unfold observeCase
    cases hst : observation.status with
    | firing => exact .of_found hst (.byAlias hcase)
    | clean | resolved =>
      obtain ⟨event, ev, ix, hrun⟩ := recordClean_run policy s found observation draws
      simp only [guardedCaseWrite_stored hstored, hrun]
      exact .clean (by simp [hst]) hcase hstored rfl
    | unknown => exact .of_event (by simp [hst]) _ _ (fun _ => Or.inl hst) fun _ => ⟨Or.inr rfl, rfl⟩

/-- The record of an observation is not among the tables a case is found by. -/
theorem Observes.of_observations {s : Store} {rows : Table ObservationRecord.observationId}
    {observation : ObservationRecord} {draws : ObserveDraws} {r : Except PyExc ObserveResult}
    {t : Store} (h : Observes py policy { s with observations := rows } observation draws r t) :
    Observes py policy s observation draws r t := by
  have haliased := aliased_observations s rows
  have hfound : ∀ case, Found py { s with observations := rows } observation draws case ↔
      Found py s observation draws case := by
    intro case
    constructor
    · intro h
      cases h with
      | byAlias h => exact .byAlias h
      | byNewAlias hnone h => exact .byNewAlias hnone ((haliased _).symm.trans h)
      | byFingerprint hnone hfree h => exact .byFingerprint hnone ((haliased _).symm.trans hfree) h
    · intro h
      cases h with
      | byAlias h => exact .byAlias h
      | byNewAlias hnone h => exact .byNewAlias hnone ((haliased _).trans h)
      | byFingerprint hnone hfree h => exact .byFingerprint hnone ((haliased _).trans hfree) h
  cases h with
  | raised hf hcreates htables =>
    refine .raised (fun case h => hf case ((hfound case).2 h)) (fun h => hcreates ?_) htables
    exact {
      firing := h.firing
      unresolved := h.unresolved
      free := (haliased _).trans h.free
      alone := h.alone }
  | noted hstatus haction hcase hobs htables => exact .noted hstatus haction hcase hobs htables
  | unhealthy hfiring hf hstored htables =>
    exact .unhealthy hfiring ((hfound _).1 hf) hstored htables
  | clean hclean hresolved hstored htables => exact .clean hclean hresolved hstored htables
  | created hfiring hnone hfree hsame htables =>
    exact .created hfiring hnone ((haliased _).symm.trans hfree) hsame htables

end Ends

/-- The observation is stored and its alias resolved, whatever happens then. -/
theorem observe_run (s : Store) (observation : ObservationRecord) (draws : ObserveDraws) :
    ∃ rows, observe py policy observation draws s =
      (caseOfAlias (s.resolves? (observationAlias py (s.stored observation)).1
          (observationAlias py (s.stored observation)).2) >>=
        observeCase py policy (s.stored observation) draws) { s with observations := rows } := by
  obtain ⟨rows, hput⟩ := putObservation_stored observation s
  exact ⟨rows, (bind_ok hput).trans (bind_ok (resolveAlias_run _ _ _))⟩

/-- **Every call of `observe` ends in one of these ways.** -/
theorem observe_observes (s : Store) (observation : ObservationRecord) (draws : ObserveDraws) :
    Observes py policy s (s.stored observation) draws (observe py policy observation draws s).1
      (observe py policy observation draws s).2 := by
  obtain ⟨rows, hrun⟩ := observe_run py policy s observation draws
  rcases caseOfAlias_resolved (observationAlias py (s.stored observation)).1
    (observationAlias py (s.stored observation)).2 { s with observations := rows } with
    h | ⟨e, caseId, h, hresolves, hstorm⟩
  · rw [hrun.trans (bind_ok h)]
    exact .of_observations (observeCase_observes _ _ _)
  · rw [hrun.trans (bind_error h)]
    have hnot : ¬ Creates py { s with observations := rows } (s.stored observation) draws := by
      intro hcreates
      have hfree := hcreates.free
      rw [aliased_of_storm hresolves hstorm draws] at hfree
      cases hfree
    exact Observes.of_observations (.raised (not_found_of_storm hresolves hstorm) hnot rfl)

end Calls

end NocAgent.Cases
