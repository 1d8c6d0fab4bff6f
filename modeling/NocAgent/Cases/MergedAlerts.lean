import Mathlib.Data.List.Sort
import NocAgent.Cases.ActiveFingerprint
import NocAgent.Cases.AliasTable
import NocAgent.Cases.Notifications

/-!
# Alerts and the cases they are recorded on

* `AlertSystem` — the store, and beside it the case and the fingerprint of every firing
  observation.
* `Unmerged` — no case has firing observations with different fingerprints.
* `Merges` — an alert is found by its fingerprint in a case of another one, or by its event id.
* `AlertsIndexed` — every case is found by the fingerprint it was opened with.
* `unmerged_run_iff` — over every run from the empty store: the alerts of every state are
  unmerged exactly when no observation merges.
-/

set_option autoImplicit false

namespace NocAgent.Cases

open Effects Effects.Action Keyed Lts

/-- The store, and what its firing observations were recorded under. -/
structure AlertSystem where
  store : Store
  /-- the case and the source fingerprint of each firing observation -/
  recorded : List (String × String)

/-- Nothing was observed yet. -/
def AlertSystem.fresh : AlertSystem := ⟨{}, []⟩

/-- What a call of `observe` records. -/
def recordedBy : Except PyExc ObserveResult → List (String × String)
  | .ok result =>
    if result.observation.status = .firing then
      (result.case.map fun case => (case.caseId, result.observation.sourceFingerprint)).toList
    else []
  | .error _ => []

/-- **No case has firing observations with different fingerprints.** -/
def Unmerged (sys : AlertSystem) : Prop :=
  ∀ entry ∈ sys.recorded, ∀ other ∈ sys.recorded, entry.1 = other.1 → entry.2 = other.2

/-- The ids a call draws are new. -/
structure ObserveCall.Fresh (s : Store) (call : ObserveCall) : Prop where
  observation : s.observations.get? call.observation.observationId = none
  named : call.draws.caseId ≠ ""
  case : s.cases.get? call.draws.caseId = none
  aliases : ∀ n < 3, s.FreshAlias (call.draws.aliasId n)
  different : call.draws.aliasId 2 ≠ call.draws.aliasId 0

/-- The firing observation leads to a case that was opened with another fingerprint: by its own
fingerprint, or, when that is new and not blank, by its event id. -/
def Merges (s : Store) (observation : ObservationRecord) : Prop :=
  observation.status = .firing ∧
    ((∃ case ∈ s.resolved? .sourceFp observation.sourceFingerprint,
        case.fingerprint ≠ observation.sourceFingerprint) ∨
      s.resolved? .sourceFp observation.sourceFingerprint = none ∧
        strip observation.sourceFingerprint ≠ "" ∧
        (s.resolved? .sourceEventId observation.sourceEventId).isSome)

section Steps

variable (py : Python) (policy : CasePolicy)

def AlertSystem.after (sys : AlertSystem) (call : ObserveCall) : AlertSystem :=
  let r := observe py policy call.observation call.draws sys.store
  { store := r.2
    recorded := recordedBy r.1 ++ sys.recorded }

/-- An observation of an Alertmanager payload is observed. -/
def alertStep (sys : AlertSystem) (call : ObserveCall) (t : AlertSystem) : Prop :=
  FromAlertmanager py call.observation ∧ call.Fresh sys.store ∧ t = sys.after py policy call

end Steps

/-- A firing observation is recorded on its case. -/
theorem recordedBy_firing {result : ObserveResult} {case : AtomicCaseProjection}
    (hfiring : result.observation.status = .firing) (hcase : result.case = some case) :
    recordedBy (.ok result) = [(case.caseId, result.observation.sourceFingerprint)] := by
  unfold recordedBy
  simp only [hfiring, if_true, hcase]
  rfl

theorem recordedBy_other {result : ObserveResult} (hstatus : result.observation.status ≠ .firing) :
    recordedBy (.ok result) = [] := if_neg hstatus

theorem unmerged_cons_iff {s t : Store} {recorded : List (String × String)}
    {entry : String × String} (h : Unmerged ⟨s, recorded⟩) :
    Unmerged ⟨t, entry :: recorded⟩ ↔
      ∀ other ∈ recorded, other.1 = entry.1 → other.2 = entry.2 := by
  constructor
  · intro hall other hother hid
    exact hall other (List.mem_cons_of_mem _ hother) entry List.mem_cons_self hid
  · intro hsame first hfirst second hsecond hid
    rcases List.mem_cons.1 hfirst with rfl | hold
    · rcases List.mem_cons.1 hsecond with rfl | hold'
      · rfl
      · exact (hsame second hold' hid.symm).symm
    · rcases List.mem_cons.1 hsecond with rfl | hold'
      · exact hsame first hold hid
      · exact h first hold second hold' hid

/-! ## What holds in every state -/

/-- Aliases lead to cases, and every case is found by the fingerprint it was opened with, which
was recorded on it. -/
structure AlertsIndexed (sys : AlertSystem) : Prop where
  mirrors : Mirrors activeKey sys.store.aliases sys.store.aliasIndex
  named : AliasesNamed sys.store
  rows : ∀ row ∈ sys.store.aliases.rows, row.retiredAt = none ∧ row.key.2 ≠ "" ∧
    row.caseId ≠ "" ∧ (sys.store.atomicCase? row.caseId).isSome
  found : ∀ caseId case, sys.store.atomicCase? caseId = some case →
    sys.store.resolves? .sourceFp case.fingerprint = some caseId
  recorded : ∀ entry ∈ sys.recorded, (sys.store.atomicCase? entry.1).isSome
  opened : ∀ caseId case, sys.store.atomicCase? caseId = some case →
    (caseId, case.fingerprint) ∈ sys.recorded

section Lookups

variable {sys : AlertSystem} (h : AlertsIndexed sys)

include h

/-- An alias row leads to its case. -/
theorem AlertsIndexed.resolved_of_row {aliasType : AliasType} {aliasValue : String}
    {row : CaseIdentityAlias} (hrow : sys.store.aliasRow? aliasType aliasValue = some row) :
    sys.store.resolved? aliasType aliasValue = sys.store.atomicCase? row.caseId := by
  obtain ⟨aliasId, -, hget⟩ := Option.bind_eq_some_iff.1 hrow
  obtain ⟨hopen, -, hid, -⟩ := h.rows row (Table.mem_of_get? hget)
  have hresolves : sys.store.resolves? aliasType aliasValue = some row.caseId := by
    unfold Store.resolves?
    rw [hrow, Option.bind_some, if_pos hopen]
  have htruthy : truthyId (some row.caseId) = some row.caseId :=
    Option.filter_eq_some_iff.2 ⟨rfl, by simpa using hid⟩
  unfold Store.resolved?
  rw [hresolves, htruthy, Option.bind_some]

/-- An alias that leads to no case is free. -/
theorem AlertsIndexed.free {aliasType : AliasType} {aliasValue : String}
    (hnone : sys.store.resolved? aliasType aliasValue = none) :
    truthyId (sys.store.aliasIndex (aliasKey aliasType aliasValue)) = none := by
  cases hid : truthyId (sys.store.aliasIndex (aliasKey aliasType aliasValue)) with
  | none => rfl
  | some aliasId =>
    obtain ⟨hindex, -⟩ := Option.filter_eq_some_iff.1 hid
    obtain ⟨row, hget, -⟩ := (h.mirrors _ _).1 hindex
    have hrow : sys.store.aliasRow? aliasType aliasValue = some row :=
      Option.bind_eq_some_iff.2 ⟨aliasId, hid, hget⟩
    rw [h.resolved_of_row hrow] at hnone
    have hsome := (h.rows row (Table.mem_of_get? hget)).2.2.2
    rw [hnone] at hsome
    cases hsome

/-- A case is found by its fingerprint. -/
theorem AlertsIndexed.resolved_of_case {caseId : String} {case : AtomicCaseProjection}
    (hcase : sys.store.atomicCase? caseId = some case) :
    sys.store.resolved? .sourceFp case.fingerprint = some case := by
  have hresolves := h.found caseId case hcase
  obtain ⟨row, hrow, -⟩ := Option.bind_eq_some_iff.1 hresolves
  have hid : row.caseId = caseId := by
    obtain ⟨_, -, hget⟩ := Option.bind_eq_some_iff.1 hrow
    unfold Store.resolves? at hresolves
    rw [hrow, Option.bind_some, if_pos (h.rows row (Table.mem_of_get? hget)).1] at hresolves
    exact Option.some.inj hresolves
  rw [h.resolved_of_row hrow, hid, hcase]

/-- A blank value leads to no case. -/
theorem AlertsIndexed.value_ne {aliasType : AliasType} {aliasValue : String}
    (hsome : (sys.store.resolved? aliasType aliasValue).isSome) : strip aliasValue ≠ "" := by
  obtain ⟨case, hcase⟩ := Option.isSome_iff_exists.1 hsome
  obtain ⟨caseId, htruthy, -⟩ := Option.bind_eq_some_iff.1 hcase
  obtain ⟨hresolves, -⟩ := Option.filter_eq_some_iff.1 htruthy
  obtain ⟨row, hmem, -, hkey, -⟩ :=
    (resolves_of_mirrors h.mirrors h.named aliasType aliasValue caseId).1 hresolves
  have hvalue := (h.rows row hmem).2.1
  rw [hkey] at hvalue
  exact hvalue

end Lookups

/-! ## Merging is finding a case of another alert -/

section Finding

variable {py : Python} {sys : AlertSystem} (h : AlertsIndexed sys)
  {observation : ObservationRecord} (hfp : observation.sourceFingerprint ≠ "")

theorem observationAlias_sourceFp (py : Python) {observation : ObservationRecord}
    (hfp : observation.sourceFingerprint ≠ "") :
    observationAlias py observation = (.sourceFp, observation.sourceFingerprint) :=
  if_pos hfp

include h hfp

/-- An alert with a new fingerprint is found by its event id. -/
theorem AlertsIndexed.aliased_eventId (draws : ObserveDraws)
    (hnone : sys.store.resolved? .sourceFp observation.sourceFingerprint = none)
    (hvalue : strip observation.sourceFingerprint ≠ "") {case : AtomicCaseProjection}
    (hevent : sys.store.resolved? .sourceEventId observation.sourceEventId = some case) :
    sys.store.aliased (newAliases observation (observationAlias py observation).1
      (observationAlias py observation).2 draws) = .ok (some case) := by
  have hblank := h.value_ne (Option.isSome_iff_exists.2 ⟨case, hevent⟩)
  have hseparate : SeparateEventId py observation := by
    refine ⟨?_, ?_⟩
    · intro hempty
      rw [hempty] at hblank
      exact hblank rfl
    · rw [observationAlias_sourceFp py hfp]
      simp
  have hfree := h.free hnone
  rw [newAliases_eq, if_pos hseparate, observationAlias_sourceFp py hfp]
  rw [aliased_free (newAlias draws 0 .sourceFp observation.sourceFingerprint) hvalue
    (by rw [← newAlias_key draws 0] at hfree; exact hfree)]
  obtain ⟨row, hrow⟩ : ∃ row, sys.store.aliasRow? .sourceEventId observation.sourceEventId =
      some row := by
    obtain ⟨caseId, htruthy, -⟩ := Option.bind_eq_some_iff.1 hevent
    obtain ⟨hresolves, -⟩ := Option.filter_eq_some_iff.1 htruthy
    obtain ⟨row, hrow, -⟩ := Option.bind_eq_some_iff.1 hresolves
    exact ⟨row, hrow⟩
  have hkey : sys.store.aliasRow? .sourceEventId (strip observation.sourceEventId) = some row := by
    unfold Store.aliasRow? aliasKey at hrow ⊢
    rw [strip_strip]
    exact hrow
  have hcase : sys.store.atomicCase? row.caseId = some case := by
    rw [← h.resolved_of_row hrow, hevent]
  rcases aliased_taken (newAlias draws 2 .sourceEventId observation.sourceEventId) hkey [] with
    ⟨-, hempty | hstorm⟩ | ⟨other, haliased, hother⟩
  · exact absurd hempty hblank
  · cases hcase.symm.trans hstorm
  · cases hcase.symm.trans hother
    exact haliased

/-- **An observation merges exactly when it is applied to a case that was opened with another
fingerprint.** -/
theorem AlertsIndexed.merges_iff (hfiring : observation.status = .firing) (draws : ObserveDraws) :
    Merges sys.store observation ↔ ∃ case, Found py sys.store observation draws case ∧
      case.fingerprint ≠ observation.sourceFingerprint := by
  have halias := observationAlias_sourceFp py hfp
  constructor
  · rintro ⟨-, ⟨case, hcase, hne⟩ | ⟨hnone, hvalue, hsome⟩⟩
    · refine ⟨case, .byAlias ?_, hne⟩
      rw [halias]
      exact hcase
    · obtain ⟨case, hevent⟩ := Option.isSome_iff_exists.1 hsome
      refine ⟨case, .byNewAlias ?_ (h.aliased_eventId hfp draws hnone hvalue hevent), ?_⟩
      · rw [halias]
        exact hnone
      · intro heq
        have hself := h.resolved_of_case (resolved?_stored hevent)
        rw [heq, hnone] at hself
        cases hself
  · rintro ⟨case, hfound, hne⟩
    refine ⟨hfiring, ?_⟩
    cases hfound with
    | byAlias hcase =>
      rw [halias] at hcase
      exact Or.inl ⟨case, hcase, hne⟩
    | byNewAlias hnone haliased =>
      rw [newAliases_eq] at haliased
      rw [halias] at hnone haliased
      have hfree := h.free hnone
      have hvalue : strip observation.sourceFingerprint ≠ "" := by
        intro hempty
        rw [aliased_blank hempty] at haliased
        cases haliased
      rw [aliased_free _ hvalue (by rw [← newAlias_key draws 0] at hfree; exact hfree)] at haliased
      obtain ⟨entry, hentry, row, hrow, hcase⟩ := aliased_some haliased
      split at hentry
      · rw [List.mem_singleton] at hentry
        subst hentry
        have hkey : sys.store.aliasRow? .sourceEventId observation.sourceEventId = some row := by
          unfold Store.aliasRow? aliasKey newAlias at hrow
          rw [strip_strip] at hrow
          exact hrow
        refine Or.inr ⟨hnone, hvalue, ?_⟩
        rw [h.resolved_of_row hkey, hcase]
        rfl
      · cases hentry
    | byFingerprint hnone _ hsame =>
      rw [halias] at hnone hsame
      obtain ⟨hstored, -, heq, -⟩ := sameFingerprint_some hsame
      exact absurd heq hne

end Finding

/-! ## One observation -/

section Writes

variable {py : Python} {policy : CasePolicy} {sys : AlertSystem} (h : AlertsIndexed sys)

include h

/-- Nothing that a case is found by changes. -/
theorem AlertsIndexed.keep {t : Store} {new : List (String × String)}
    (haliases : t.aliases = sys.store.aliases) (hindex : t.aliasIndex = sys.store.aliasIndex)
    (hcases : ∀ caseId, (t.atomicCase? caseId).map (·.fingerprint) =
      (sys.store.atomicCase? caseId).map (·.fingerprint))
    (hnew : ∀ entry ∈ new, (sys.store.atomicCase? entry.1).isSome) :
    AlertsIndexed ⟨t, new ++ sys.recorded⟩ := by
  have hsome : ∀ caseId, (sys.store.atomicCase? caseId).isSome → (t.atomicCase? caseId).isSome := by
    intro caseId hcase
    rw [← Option.isSome_map (f := (·.fingerprint)), hcases, Option.isSome_map]
    exact hcase
  have hstored : ∀ caseId case, t.atomicCase? caseId = some case →
      ∃ old, sys.store.atomicCase? caseId = some old ∧ old.fingerprint = case.fingerprint := by
    intro caseId case hcase
    have hmap := hcases caseId
    rw [hcase] at hmap
    exact Option.map_eq_some_iff.1 hmap.symm
  have hresolves : ∀ aliasType aliasValue,
      t.resolves? aliasType aliasValue = sys.store.resolves? aliasType aliasValue := by
    intro aliasType aliasValue
    unfold Store.resolves? Store.aliasRow?
    rw [haliases, hindex]
  refine ⟨?_, ?_, ?_, ?_, ?_, ?_⟩
  · change Mirrors activeKey t.aliases t.aliasIndex
    rw [haliases, hindex]
    exact h.mirrors
  · change ∀ row ∈ t.aliases.rows, row.aliasId ≠ ""
    rw [haliases]
    exact h.named
  · intro row hrow
    change row ∈ t.aliases.rows at hrow
    rw [haliases] at hrow
    obtain ⟨hopen, hvalue, hid, hcase⟩ := h.rows row hrow
    exact ⟨hopen, hvalue, hid, hsome _ hcase⟩
  · intro caseId case hcase
    obtain ⟨old, hold, hfp⟩ := hstored caseId case hcase
    change t.resolves? _ _ = _
    rw [hresolves, ← hfp]
    exact h.found caseId old hold
  · intro entry hentry
    rcases List.mem_append.1 hentry with hentry | hentry
    · exact hsome _ (hnew entry hentry)
    · exact hsome _ (h.recorded entry hentry)
  · intro caseId case hcase
    obtain ⟨old, hold, hfp⟩ := hstored caseId case hcase
    rw [← hfp]
    exact List.mem_append_right _ (h.opened caseId old hold)

end Writes

/-- A case is written with the id and the fingerprint it has. -/
theorem fingerprint?_put {s t : Store} {case written : AtomicCaseProjection}
    (hcases : t.cases = s.cases.put (.atomic written))
    (hstored : s.atomicCase? case.caseId = some case)
    (hid : written.caseId = case.caseId) (hfp : written.fingerprint = case.fingerprint)
    (caseId : String) : (t.atomicCase? caseId).map (·.fingerprint) =
      (s.atomicCase? caseId).map (·.fingerprint) := by
  rw [atomicCase?_put hcases]
  split
  · rename_i hcaseId
    rw [← hcaseId, hid, hstored, Option.map_some, Option.map_some, hfp]
  · rfl

/-- An alias of a new case leads to it, and a free one has a value. -/
theorem newAliases_case {py : Python} {s : Store} {observation : ObservationRecord}
    {draws : ObserveDraws} (hfree : s.aliased (newAliases observation
      (observationAlias py observation).1 (observationAlias py observation).2 draws) = .ok none)
    {entry : CaseIdentityAlias} (hentry : entry ∈ newAliases observation
      (observationAlias py observation).1 (observationAlias py observation).2 draws) :
    entry.caseId = draws.caseId ∧ entry.key.2 ≠ "" := by
  have hvalue := (aliased_none.1 hfree entry hentry).1
  rw [newAliases_eq] at hentry
  have hnew : ∃ n aliasType aliasValue, entry = newAlias draws n aliasType aliasValue := by
    rcases List.mem_cons.1 hentry with rfl | hentry
    · exact ⟨_, _, _, rfl⟩
    · split at hentry
      · cases List.mem_singleton.1 hentry
        exact ⟨_, _, _, rfl⟩
      · cases hentry
  obtain ⟨n, aliasType, aliasValue, rfl⟩ := hnew
  refine ⟨rfl, ?_⟩
  rw [newAlias_key]
  exact hvalue

section Steps

variable {py : Python} {policy : CasePolicy} {sys : AlertSystem} (h : AlertsIndexed sys)
  {call : ObserveCall} (hfp : call.observation.sourceFingerprint ≠ "")
  (hfresh : call.Fresh sys.store)

include h hfp hfresh

/-- A case is made: it is found by its fingerprint, and every other case as before. -/
theorem AlertsIndexed.create {t : Store} (hmirrors : Mirrors activeKey t.aliases t.aliasIndex)
    (hnamed : AliasesNamed t) (hfree : sys.store.aliased (newAliases call.observation
      (observationAlias py call.observation).1 (observationAlias py call.observation).2
      call.draws) = .ok none)
    (hcases : t.cases = sys.store.cases.put (.atomic (newCase py policy call.observation
      (observationAlias py call.observation).2 call.draws)))
    (haliases : t.aliases = storeAliases (newAliases call.observation
      (observationAlias py call.observation).1 (observationAlias py call.observation).2
      call.draws) sys.store.aliases) :
    AlertsIndexed ⟨t, (call.draws.caseId, call.observation.sourceFingerprint) :: sys.recorded⟩ := by
  have hids : ((newAliases call.observation (observationAlias py call.observation).1
      (observationAlias py call.observation).2 call.draws).map CaseIdentityAlias.aliasId).Nodup :=
    newAliases_ids call.observation hfresh.different
  have hcase : ∀ caseId, t.atomicCase? caseId = if call.draws.caseId = caseId then
      some (newCase py policy call.observation (observationAlias py call.observation).2 call.draws)
      else sys.store.atomicCase? caseId := atomicCase?_put hcases
  have hsome : ∀ caseId, (sys.store.atomicCase? caseId).isSome → (t.atomicCase? caseId).isSome :=
    fun caseId => isSome_atomicCase?_put hcases
  have hself : (t.atomicCase? call.draws.caseId).isSome := by
    rw [hcase, if_pos rfl]
    rfl
  have hnewFp : (newCase py policy call.observation (observationAlias py call.observation).2
      call.draws).fingerprint = call.observation.sourceFingerprint := by
    rw [observationAlias_sourceFp py hfp]
    rfl
  have hkept : ∀ row ∈ sys.store.aliases.rows, row ∈ t.aliases.rows := by
    intro row hrow
    have hget := Table.mem_rows_iff.1 hrow
    rw [haliases]
    refine Table.mem_of_get? ((Table.get?_foldl_put_of_not_mem fun hmem => ?_).trans hget)
    obtain ⟨entry, hentry, hid⟩ := List.mem_map.1 hmem
    obtain ⟨⟨n, hn, hdrawn⟩, -⟩ := mem_newAliases hentry
    have hnone := (hfresh.aliases n hn).2.1
    rw [← hdrawn, hid, hget] at hnone
    cases hnone
  refine ⟨hmirrors, hnamed, ?_, ?_, ?_, ?_⟩
  · intro row hrow
    change row ∈ t.aliases.rows at hrow
    rw [haliases] at hrow
    rcases Table.mem_foldl_put hrow with hnew | hold
    · obtain ⟨hid, hvalue⟩ := newAliases_case hfree hnew
      refine ⟨(mem_newAliases hnew).2, hvalue, ?_, ?_⟩
      · rw [hid]
        exact hfresh.named
      · rw [hid]
        exact hself
    · obtain ⟨hopen, hvalue, hid, hold⟩ := h.rows row hold
      exact ⟨hopen, hvalue, hid, hsome _ hold⟩
  · intro caseId case hget
    refine (resolves_of_mirrors hmirrors hnamed _ _ _).2 ?_
    change t.atomicCase? caseId = some case at hget
    rw [hcase] at hget
    split at hget
    · rename_i hid
      cases hget
      rw [hnewFp]
      refine ⟨newAlias call.draws 0 .sourceFp call.observation.sourceFingerprint, ?_, rfl,
        newAlias_key _ _ _ _, hid⟩
      have hmem : newAlias call.draws 0 .sourceFp call.observation.sourceFingerprint ∈
          newAliases call.observation (observationAlias py call.observation).1
            (observationAlias py call.observation).2 call.draws := by
        rw [newAliases_eq, observationAlias_sourceFp py hfp]
        exact List.mem_cons_self
      change _ ∈ t.aliases.rows
      rw [haliases]
      exact Table.mem_of_get? (Table.get?_foldl_put hids _ hmem)
    · obtain ⟨row, hrow, hfound⟩ :=
        (resolves_of_mirrors h.mirrors h.named _ _ _).1 (h.found caseId case hget)
      exact ⟨row, hkept row hrow, hfound⟩
  · intro entry hentry
    rcases List.mem_cons.1 hentry with rfl | hentry
    · exact hself
    · exact hsome _ (h.recorded entry hentry)
  · intro caseId case hget
    change t.atomicCase? caseId = some case at hget
    rw [hcase] at hget
    split at hget
    · rename_i hid
      cases hget
      rw [hnewFp, ← hid]
      exact List.mem_cons_self
    · exact List.mem_cons_of_mem _ (h.opened caseId case hget)

/-- **Every observation keeps the cases found by their fingerprints.** -/
theorem AlertsIndexed.observes {r : Except PyExc ObserveResult} {t : Store}
    (hends : Observes py policy sys.store call.observation call.draws r t) :
    AlertsIndexed ⟨t, recordedBy r ++ sys.recorded⟩ := by
  have hnot : ¬ Doubles py sys.store call.observation call.draws := fun hd => hfp hd.2.1
  have hmirrors := (hends.mirrors h.mirrors h.named hfresh.aliases hfresh.different).2 hnot
  have hnamed := hends.named h.named hfresh.aliases
  cases hends with
  | raised _ _ htables =>
    exact h.keep (congrArg CaseTables.aliases htables) (congrArg CaseTables.aliasIndex htables)
      (fun caseId => by rw [atomicCase?_of_caseTables htables]) fun _ hentry => nomatch hentry
  | @noted result _ hstatus _ _ hobservation htables =>
    rw [recordedBy_other (by rw [hobservation]; exact hstatus)]
    exact h.keep (congrArg CaseTables.aliases htables) (congrArg CaseTables.aliasIndex htables)
      (fun caseId => by rw [atomicCase?_of_caseTables htables]) fun _ hentry => nomatch hentry
  | @unhealthy case _ _ hfiring _ hstored htables =>
    rw [recordedBy_firing hfiring rfl]
    refine h.keep (congrArg CaseTables.aliases htables) (congrArg CaseTables.aliasIndex htables)
      (fingerprint?_put (congrArg CaseTables.cases htables) hstored rfl rfl) ?_
    intro entry hentry
    rw [List.mem_singleton.1 hentry, unhealthyCase_caseId, hstored]
    rfl
  | clean hclean _ hstored htables =>
    have hnotFiring : call.observation.status ≠ .firing := by
      rcases hclean with hst | hst <;> simp [hst]
    rw [recordedBy_other hnotFiring]
    exact h.keep (congrArg CaseTables.aliases htables) (congrArg CaseTables.aliasIndex htables)
      (fingerprint?_put (congrArg CaseTables.cases htables) hstored rfl rfl)
      fun _ hentry => nomatch hentry
  | created hfiring _ hfree _ htables =>
    rw [recordedBy_firing hfiring rfl]
    exact h.create hfp hfresh hmirrors hnamed hfree (congrArg CaseTables.cases htables)
      (congrArg CaseTables.aliases htables)

/-- **An observation leaves the alerts unmerged exactly when it does not merge.** -/
theorem AlertsIndexed.unmerged_iff (hunmerged : Unmerged sys) {r : Except PyExc ObserveResult}
    {t : Store} (hends : Observes py policy sys.store call.observation call.draws r t) :
    Unmerged ⟨t, recordedBy r ++ sys.recorded⟩ ↔ ¬ Merges sys.store call.observation := by
  have hfound : Merges sys.store call.observation → ∃ case,
      Found py sys.store call.observation call.draws case ∧
        case.fingerprint ≠ call.observation.sourceFingerprint :=
    fun hmerges => (h.merges_iff hfp hmerges.1 call.draws).1 hmerges
  cases hends with
  | raised hnone =>
    refine iff_of_true hunmerged fun hmerges => ?_
    obtain ⟨case, hcase, -⟩ := hfound hmerges
    exact hnone case hcase
  | noted hstatus _ _ hobservation =>
    rw [recordedBy_other (by rw [hobservation]; exact hstatus)]
    exact iff_of_true hunmerged fun hmerges => hstatus hmerges.1
  | @unhealthy case _ _ hfiring hcase hstored =>
    rw [recordedBy_firing hfiring rfl, unhealthyCase_caseId]
    refine (unmerged_cons_iff hunmerged).trans ?_
    rw [h.merges_iff hfp hfiring call.draws]
    have hopened := h.opened case.caseId case hstored
    constructor
    · rintro hsame ⟨other, hother, hne⟩
      cases hcase.unique hother
      exact hne (hsame _ hopened rfl)
    · intro hnot other hother hid
      have hfpCase : case.fingerprint = call.observation.sourceFingerprint :=
        Classical.not_not.1 fun hne => hnot ⟨case, hcase, hne⟩
      exact (hunmerged _ hother _ hopened hid).trans hfpCase
  | clean hclean =>
    have hstatus : call.observation.status ≠ .firing := by
      rcases hclean with hst | hst <;> simp [hst]
    rw [recordedBy_other hstatus]
    exact iff_of_true hunmerged fun hmerges => hstatus hmerges.1
  | created hfiring hnone hfree hsame =>
    rw [recordedBy_firing hfiring rfl, newCase_caseId]
    refine iff_of_true ((unmerged_cons_iff hunmerged).2 fun other hother hid => ?_) fun hmerges => ?_
    · -- the id of the new case was drawn, so nothing was recorded on it
      have hsome := h.recorded other hother
      have hid' : other.1 = call.draws.caseId := hid
      unfold Store.atomicCase? at hsome
      rw [hid', hfresh.case] at hsome
      cases hsome
    · obtain ⟨case, hcase, -⟩ := hfound hmerges
      exact hcase.not_creates ⟨hfiring, hnone, hfree, hsame⟩

end Steps

theorem alertsIndexed_fresh : AlertsIndexed .fresh where
  mirrors := by
    intro key aliasId
    refine iff_of_false (by simp [AlertSystem.fresh, Index.empty]) ?_
    rintro ⟨row, hget, -⟩
    cases hget
  named := fun _ hrow => nomatch hrow
  rows := fun _ hrow => nomatch hrow
  found := fun _ _ hget => nomatch hget
  recorded := fun _ hentry => nomatch hentry
  opened := fun _ _ hget => nomatch hget

/-- A new observation is observed as it is. -/
theorem ObserveCall.Fresh.observes {py : Python} {policy : CasePolicy} {s : Store}
    {call : ObserveCall} (hfresh : call.Fresh s) :
    Observes py policy s call.observation call.draws
      (observe py policy call.observation call.draws s).1
      (observe py policy call.observation call.draws s).2 := by
  have hends := observe_observes py policy s call.observation call.draws
  have hstored : s.stored call.observation = call.observation := by
    unfold Store.stored
    rw [hfresh.observation]
    rfl
  rw [hstored] at hends
  exact hends

/-- **Over every run of Alertmanager observations from the empty store: no observation merges
exactly when in every state no case has firing observations with different fingerprints.** -/
theorem unmerged_run_iff {py : Python} {policy : CasePolicy} (hsha : ∀ text, py.sha256 text ≠ "")
    {calls : List ObserveCall} {sys : AlertSystem} :
    Run (Guarded (alertStep py policy) fun sys call => ¬ Merges sys.store call.observation)
        .fresh calls sys ↔
      Run (Upheld (alertStep py policy) Unmerged) .fresh calls sys := by
  refine Run.guarded_iff_upheld (J := AlertsIndexed) ?_ ?_ alertsIndexed_fresh
    fun _ hentry => nomatch hentry
  · rintro sys call t h ⟨hfrom, hfresh, rfl⟩
    exact h.observes (hfrom.fingerprint_ne hsha) hfresh hfresh.observes
  · rintro sys call t h hunmerged ⟨hfrom, hfresh, rfl⟩
    exact h.unmerged_iff (hfrom.fingerprint_ne hsha) hfresh hunmerged hfresh.observes

/-! ## Two alerts at one place of a group -/

/-- `stable_json` of text without quotes and of dicts of it, to a depth. -/
def plainJson : Nat → Json → String
  | _, .str s => "\"" ++ s ++ "\""
  | depth + 1, .dict kvs =>
    let fields := kvs.map fun kv => "\"" ++ kv.1 ++ "\":" ++ plainJson depth kv.2
    "\x7b" ++ ",".intercalate (fields.insertionSort (· ≤ ·)) ++ "\x7d"
  | _, _ => ""

/-- The interpreter with a table of the digests there are. -/
def digestPython (digests : List (String × String)) : Python :=
  { tablePython [] with
    stableJson := plainJson 2
    sha256 := fun text =>
      (digests.lookup text).getD (String.ofList (List.replicate 64 '0')) }

def bgpDigests : List (String × String) := [
  ("\x7b\"detector\":\"BgpDown\",\"resource\":\"r1\",\"service\":\"BgpDown\"\x7d",
    "ef7908617b9439bd512ff9d94654b5d7dfdd837bd0faad205c0e5c33d41cca4d"),
  ("\x7b\"annotations\":\x7b\x7d,\"endsAt\":\"\",\"generatorURL\":\"\"," ++
    "\"groupKey\":\"site:fra1\",\"labels\":\x7b\"alertname\":\"BgpDown\",\"host\":\"r1\"\x7d," ++
    "\"startsAt\":\"2026-01-01T01:00:00+00:00\"\x7d",
    "e113c6a6e36a198f7a0929c9124916c6a33aab19ed3e0c66e655d573b16af19c")]

def diskDigests : List (String × String) := [
  ("\x7b\"detector\":\"DiskFull\",\"resource\":\"r1\",\"service\":\"DiskFull\"\x7d",
    "ee8240c8bb5ccea2364cf918e4768539b25ca18afe36d1f04ec32d8d6c26bd33"),
  ("\x7b\"annotations\":\x7b\x7d,\"endsAt\":\"\",\"generatorURL\":\"\"," ++
    "\"groupKey\":\"site:fra1\",\"labels\":\x7b\"alertname\":\"DiskFull\",\"host\":\"r1\"\x7d," ++
    "\"startsAt\":\"2026-01-01T02:00:00+00:00\"\x7d",
    "70d080f81f774fdf2b6ed5c88d5d0826dc9d7cdb64a0187d49bb525a3deb277c")]

def groupedPython : Python := digestPython (bgpDigests ++ diskDigests)

def groupedAlert (alertname startsAt : String) : JsonDict :=
  [("status", .str "firing"), ("startsAt", .str startsAt),
    ("labels", .dict [("alertname", .str alertname), ("host", .str "r1")])]

/-- A group with one alert, which has no fingerprint. -/
def groupedPayload (alertname startsAt : String) : JsonDict :=
  [("groupKey", .str "site:fra1"), ("alerts", .list [.dict (groupedAlert alertname startsAt)])]

def groupedCall (n : Nat) (alertname startsAt : String) : ObserveCall where
  observation := observationFromAlert groupedPython (groupedPayload alertname startsAt)
    ("obs_" ++ toString n) (groupedAlert alertname startsAt) 0
  draws := (alertCall (toString n) n .firing "" "" startsAt).draws

def groupedCalls : List ObserveCall :=
  [groupedCall 1 "BgpDown" "2026-01-01T01:00:00+00:00",
    groupedCall 2 "DiskFull" "2026-01-01T02:00:00+00:00"]

theorem groupedCall_fromAlertmanager (n : Nat) (alertname startsAt : String) :
    FromAlertmanager groupedPython (groupedCall n alertname startsAt).observation :=
  ⟨fun _ => "obs_" ++ toString n, groupedPayload alertname startsAt,
    mem_observationsFromAlertmanager.2 ⟨0, _, rfl, rfl⟩⟩

theorem groupedPython_sha256_ne (text : String) : groupedPython.sha256 text ≠ "" := by
  have hdigests : ∀ entry ∈ bgpDigests ++ diskDigests, entry.2 ≠ "" := by decide
  change ((bgpDigests ++ diskDigests).lookup text).getD _ ≠ ""
  cases hlookup : (bgpDigests ++ diskDigests).lookup text with
  | none => decide
  | some digest =>
    obtain ⟨before, later, hsplit, -⟩ := List.lookup_eq_some_iff.1 hlookup
    exact hdigests (text, digest) (by rw [hsplit]; simp)

def observedAlerts (calls : List ObserveCall) : AlertSystem :=
  calls.foldl (AlertSystem.after groupedPython {}) .fresh

/-- Ids that the tables do not have are fresh. -/
theorem AlertsIndexed.fresh {sys : AlertSystem} (h : AlertsIndexed sys) {call : ObserveCall}
    (hobservation : sys.store.observations.get? call.observation.observationId = none)
    (hnamed : call.draws.caseId ≠ "") (hcase : sys.store.cases.get? call.draws.caseId = none)
    (haliases : ∀ n < 3, call.draws.aliasId n ≠ "" ∧
      sys.store.aliases.get? (call.draws.aliasId n) = none)
    (hdifferent : call.draws.aliasId 2 ≠ call.draws.aliasId 0) : call.Fresh sys.store :=
  ⟨hobservation, hnamed, hcase,
    fun n hn => freshAlias_of_mirrors h.mirrors (haliases n hn).1 (haliases n hn).2, hdifferent⟩

theorem groupedCalls_run :
    Run (alertStep groupedPython {}) .fresh groupedCalls (observedAlerts groupedCalls) := by
  have hfirst : alertStep groupedPython {} .fresh
      (groupedCall 1 "BgpDown" "2026-01-01T01:00:00+00:00") (observedAlerts (groupedCalls.take 1)) :=
    ⟨groupedCall_fromAlertmanager _ _ _, alertsIndexed_fresh.fresh (by decide +kernel)
      (by decide +kernel) (by decide +kernel) (by decide +kernel) (by decide +kernel), rfl⟩
  have hindexed : AlertsIndexed (observedAlerts (groupedCalls.take 1)) :=
    alertsIndexed_fresh.observes (hfirst.1.fingerprint_ne groupedPython_sha256_ne) hfirst.2.1
      hfirst.2.1.observes
  exact Run.cons hfirst (Run.single ⟨groupedCall_fromAlertmanager _ _ _,
    hindexed.fresh (by decide +kernel) (by decide +kernel) (by decide +kernel) (by decide +kernel)
      (by decide +kernel), rfl⟩)

theorem observedAlerts_merged : ¬ Unmerged (observedAlerts groupedCalls) := by
  have hnot : ¬ ∀ entry ∈ (observedAlerts groupedCalls).recorded,
      ∀ other ∈ (observedAlerts groupedCalls).recorded,
        entry.1 = other.1 → entry.2 = other.2 := by decide +kernel
  exact hnot

/-- The second alert of the group is recorded on the case of the first. -/
theorem not_unmerged_grouped :
    Run (alertStep groupedPython {}) .fresh groupedCalls (observedAlerts groupedCalls) ∧
      ¬ Unmerged (observedAlerts groupedCalls) :=
  ⟨groupedCalls_run, observedAlerts_merged⟩

theorem unmerged_run_iff_grouped :
    ¬ Run (Guarded (alertStep groupedPython {}) fun sys call => ¬ Merges sys.store call.observation)
      .fresh groupedCalls (observedAlerts groupedCalls) := by
  intro hrun
  have hupheld := (unmerged_run_iff groupedPython_sha256_ne).1 hrun
  exact observedAlerts_merged
    (hupheld.invariant (fun _ _ _ _ hstep => hstep.2) fun _ hentry => nomatch hentry)

end NocAgent.Cases
