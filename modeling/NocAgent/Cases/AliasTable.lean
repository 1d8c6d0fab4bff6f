import NocAgent.Cases.Linking
import NocAgent.Lib.Lts

/-!
# The alias table

* `AliasesSound` — for every key at most one alias is not retired, the index has it exactly when
  there is one, and `resolveAlias` returns its case.
* `aliasesSound_iff` — the index mirrors the aliases that are not retired.
* `observe_mirrors`, `recordAlias_mirrors`, `link_mirrors` — the writers of the table.
* `aliasesSound_run_iff` — over every run of observations, new aliases and links: the table is
  sound in every state exactly when no new case has two aliases under one key.
-/

set_option autoImplicit false

namespace NocAgent.Cases

open Effects Effects.Action Keyed Lts

/-- **Every key has one alias that is not retired, or none, and resolves to its case.** -/
structure AliasesSound (s : Store) : Prop where
  unique : ∀ row ∈ s.aliases.rows, ∀ other ∈ s.aliases.rows, row.retiredAt = none →
    other.retiredAt = none → other.key = row.key → other.aliasId = row.aliasId
  indexed : ∀ key aliasId, s.aliasIndex key = some aliasId ↔
    ∃ row ∈ s.aliases.rows, row.aliasId = aliasId ∧ row.retiredAt = none ∧ row.key = key
  resolves : ∀ aliasType aliasValue caseId,
    (resolveAlias aliasType aliasValue s).1 = .ok (some caseId) ↔
      ∃ row ∈ s.aliases.rows, row.retiredAt = none ∧ row.key = aliasKey aliasType aliasValue ∧
        row.caseId = caseId

/-- The key of an alias that is not retired. -/
def activeKey (entry : CaseIdentityAlias) : Option (AliasType × String) :=
  if entry.retiredAt = none then some entry.key else none

/-- Every alias has an id. -/
def AliasesNamed (s : Store) : Prop := ∀ row ∈ s.aliases.rows, row.aliasId ≠ ""

inductive AliasOp where
  | observe (call : ObserveCall)
  | record (entry : CaseIdentityAlias)
  | link (call : LinkCall)

section Steps

variable (py : Python) (policy : CasePolicy)

def AliasOp.run (s : Store) : AliasOp → Store
  | .observe call => (Cases.observe py policy call.observation call.draws s).2
  | .record entry => (recordAlias entry s).2
  | .link call => (call.run s).2

/-- The alias ids drawn by a call are fresh and different. -/
def AliasOp.Fresh (s : Store) : AliasOp → Prop
  | .observe call => (∀ n < 3, s.FreshAlias (call.draws.aliasId n)) ∧
      ∀ m < 3, ∀ n < 3, call.draws.aliasId m = call.draws.aliasId n → m = n
  | .record entry => s.FreshAlias entry.aliasId
  | .link call => call.draws.Fresh s

def aliasStep (s : Store) (op : AliasOp) (t : Store) : Prop := op.Fresh s ∧ t = op.run py policy s

/-- A new case gets its deduplication key and its source's event id, which differ in surrounding
whitespace only, as two aliases. -/
def Doubles (s : Store) (observation : ObservationRecord) (draws : ObserveDraws) : Prop :=
  Creates py s observation draws ∧ observation.sourceFingerprint = "" ∧
    observation.dedupKey ≠ "" ∧ observation.sourceEventId ≠ "" ∧
    observation.sourceEventId ≠ observation.dedupKey ∧
    strip observation.sourceEventId = strip observation.dedupKey

def AliasOp.Doubles (s : Store) : AliasOp → Prop
  | .observe call => Cases.Doubles py s (s.stored call.observation) call.draws
  | .record _ | .link _ => False

end Steps

/-! ## The index mirrors the table -/

theorem activeKey_eq_some {entry : CaseIdentityAlias} {key : AliasType × String} :
    activeKey entry = some key ↔ entry.retiredAt = none ∧ entry.key = key := by
  unfold activeKey
  split
  · rename_i h
    simp [h]
  · rename_i h
    simp [h]

theorem activeKey_retired (entry : CaseIdentityAlias) (now : String) :
    activeKey (entry.retired now) = none := if_neg (by simp [CaseIdentityAlias.retired])

/-- An id in the index is the id of an alias, so it is not empty. -/
theorem free_of_truthyId {s : Store} (h : Mirrors activeKey s.aliases s.aliasIndex)
    (hnamed : AliasesNamed s) {key : AliasType × String}
    (huntaken : truthyId (s.aliasIndex key) = none) : s.aliasIndex key = none := by
  cases hix : s.aliasIndex key with
  | none => rfl
  | some id =>
    obtain ⟨row, hget, -⟩ := (h _ _).1 hix
    have hid : id ≠ "" := by
      rw [← Table.key_of_get? hget]
      exact hnamed row (Table.mem_of_get? hget)
    have htruthy : truthyId (s.aliasIndex key) = some id := by
      rw [hix]
      exact Option.filter_eq_some_iff.2 ⟨rfl, by simpa using hid⟩
    cases huntaken.symm.trans htruthy

/-- What an alias resolves to, when the index mirrors the table. -/
theorem resolves_of_mirrors {s : Store} (h : Mirrors activeKey s.aliases s.aliasIndex)
    (hnamed : AliasesNamed s) (aliasType : AliasType) (aliasValue caseId : String) :
    s.resolves? aliasType aliasValue = some caseId ↔
      ∃ row ∈ s.aliases.rows, row.retiredAt = none ∧ row.key = aliasKey aliasType aliasValue ∧
        row.caseId = caseId := by
  constructor
  · intro hresolves
    obtain ⟨row, hrow, hactive⟩ := Option.bind_eq_some_iff.1 hresolves
    obtain ⟨aliasId, hid, hget⟩ := Option.bind_eq_some_iff.1 hrow
    obtain ⟨hindex, -⟩ := Option.filter_eq_some_iff.1 hid
    obtain ⟨other, hother, hkey⟩ := (h _ _).1 hindex
    cases hget.symm.trans hother
    obtain ⟨hopen, hkey⟩ := activeKey_eq_some.1 hkey
    rw [if_pos hopen] at hactive
    exact ⟨row, Table.mem_of_get? hget, hopen, hkey, Option.some.inj hactive⟩
  · rintro ⟨row, hrow, hopen, hkey, rfl⟩
    have hget := Table.mem_rows_iff.1 hrow
    have hindex := (h _ _).2 ⟨row, hget, activeKey_eq_some.2 ⟨hopen, hkey⟩⟩
    have htruthy : truthyId (s.aliasIndex (aliasKey aliasType aliasValue)) = some row.aliasId := by
      rw [hindex]
      exact Option.filter_eq_some_iff.2 ⟨rfl, by simpa using hnamed row hrow⟩
    unfold Store.resolves? Store.aliasRow?
    rw [htruthy, Option.bind_some, hget, Option.bind_some, if_pos hopen]

/-- **The table is sound exactly when the index mirrors the aliases that are not retired.** -/
theorem aliasesSound_iff {s : Store} (hnamed : AliasesNamed s) :
    AliasesSound s ↔ Mirrors activeKey s.aliases s.aliasIndex := by
  have hrows : ∀ key aliasId,
      (∃ row ∈ s.aliases.rows, row.aliasId = aliasId ∧ row.retiredAt = none ∧ row.key = key) ↔
        ∃ row, s.aliases.get? aliasId = some row ∧ activeKey row = some key := by
    intro key aliasId
    constructor
    · rintro ⟨row, hrow, rfl, hactive⟩
      exact ⟨row, Table.mem_rows_iff.1 hrow, activeKey_eq_some.2 hactive⟩
    · rintro ⟨row, hget, hactive⟩
      exact ⟨row, Table.mem_of_get? hget, Table.key_of_get? hget, activeKey_eq_some.1 hactive⟩
  constructor
  · intro h key aliasId
    rw [h.indexed key aliasId]
    exact hrows key aliasId
  · intro h
    refine ⟨?_, ?_, ?_⟩
    · intro row hrow other hother hopen hopen' hkey
      have hrowKey := activeKey_eq_some.2 ⟨hopen, rfl⟩
      have hotherKey := activeKey_eq_some.2 ⟨hopen', hkey⟩
      exact h.uniqueBy row hrow other hother (by rw [hrowKey]; rfl) (hotherKey.trans hrowKey.symm)
    · intro key aliasId
      rw [h key aliasId]
      exact (hrows key aliasId).symm
    · intro aliasType aliasValue caseId
      rw [resolveAlias_run, ← resolves_of_mirrors h hnamed]
      simp

/-! ## Observations -/

/-- An alias of a new case. -/
def newAlias (draws : ObserveDraws) (n : Nat) (aliasType : AliasType) (aliasValue : String) :
    CaseIdentityAlias where
  aliasId := draws.aliasId n
  caseId := draws.caseId
  aliasType := aliasType
  aliasValue := strip aliasValue

theorem newAlias_key (draws : ObserveDraws) (n : Nat) (aliasType : AliasType)
    (aliasValue : String) : (newAlias draws n aliasType aliasValue).key =
      aliasKey aliasType aliasValue := by
  unfold CaseIdentityAlias.key newAlias aliasKey
  rw [strip_strip]

section Observations

variable {py : Python} {policy : CasePolicy} {s : Store}

/-- The source's event id is an alias of its own. -/
def SeparateEventId (py : Python) (observation : ObservationRecord) : Prop :=
  observation.sourceEventId ≠ "" ∧
    observationAlias py observation ≠ (.sourceEventId, observation.sourceEventId)

instance (observation : ObservationRecord) : Decidable (SeparateEventId py observation) := by
  unfold SeparateEventId; infer_instance

/-- A source fingerprint is the alias the observation resolves by, so only the event id adds
another. -/
theorem newAliases_eq (observation : ObservationRecord) (draws : ObserveDraws) :
    newAliases observation (observationAlias py observation).1
        (observationAlias py observation).2 draws =
      newAlias draws 0 (observationAlias py observation).1 (observationAlias py observation).2 ::
        if SeparateEventId py observation then
          [newAlias draws 2 .sourceEventId observation.sourceEventId]
        else [] := by
  have hfp : ¬ (observation.sourceFingerprint ≠ "" ∧
      ((observationAlias py observation).1, (observationAlias py observation).2) ≠
        (.sourceFp, observation.sourceFingerprint)) := by
    rintro ⟨hne, hdiffers⟩
    refine hdiffers ?_
    unfold observationAlias
    rw [if_pos hne]
  unfold newAliases
  simp only [if_neg hfp, List.nil_append]
  rfl

/-- The aliases of a new case have one key exactly when they differ in whitespace only. -/
theorem newAliases_keys (observation : ObservationRecord) (draws : ObserveDraws) :
    ((newAliases observation (observationAlias py observation).1
      (observationAlias py observation).2 draws).map CaseIdentityAlias.key).Nodup ↔
    ¬ (observation.sourceFingerprint = "" ∧ observation.dedupKey ≠ "" ∧
      observation.sourceEventId ≠ "" ∧ observation.sourceEventId ≠ observation.dedupKey ∧
      strip observation.sourceEventId = strip observation.dedupKey) := by
  rw [newAliases_eq]
  by_cases hseparate : SeparateEventId py observation
  · rw [if_pos hseparate]
    simp only [List.map_cons, List.map_nil, newAlias_key, List.nodup_cons, List.mem_singleton,
      List.not_mem_nil, not_false_eq_true, List.nodup_nil, and_true]
    by_cases hfp : observation.sourceFingerprint = ""
    · by_cases hdedup : observation.dedupKey = ""
      · have halias : observationAlias py observation =
            (.ruleEntity, observationIdentityFingerprint py observation) := by
          unfold observationAlias
          rw [if_neg (by simp [hfp]), if_neg (by simp [hdedup])]
        simp [halias, aliasKey, hdedup]
      · have halias : observationAlias py observation = (.sourceEventId, observation.dedupKey) := by
          unfold observationAlias
          rw [if_neg (by simp [hfp]), if_pos hdedup]
        have hne : observation.sourceEventId ≠ observation.dedupKey := by
          intro heq
          exact hseparate.2 (by rw [halias, heq])
        simp only [halias, aliasKey, hfp, Prod.mk.injEq, true_and, ne_eq, hdedup,
          hseparate.1, hne, not_false_eq_true]
        exact not_congr eq_comm
    · have halias : observationAlias py observation =
          (.sourceFp, observation.sourceFingerprint) := by
        unfold observationAlias
        rw [if_pos hfp]
      simp [halias, aliasKey, hfp]
  · rw [if_neg hseparate]
    refine iff_of_true (List.nodup_singleton _) ?_
    rintro ⟨hfp, hdedup, hid, hne, -⟩
    refine hseparate ⟨hid, ?_⟩
    unfold observationAlias
    rw [if_neg (by simp [hfp]), if_pos hdedup]
    intro heq
    exact hne (congrArg Prod.snd heq).symm

theorem newAliases_ids (observation : ObservationRecord) {draws : ObserveDraws}
    (hne : draws.aliasId 2 ≠ draws.aliasId 0) :
    ((newAliases observation (observationAlias py observation).1
      (observationAlias py observation).2 draws).map CaseIdentityAlias.aliasId).Nodup := by
  rw [newAliases_eq]
  split
  · simpa [newAlias] using hne.symm
  · simp

/-- The id of an alias of a new case was drawn for it. -/
theorem mem_newAliases {observation : ObservationRecord} {draws : ObserveDraws}
    {entry : CaseIdentityAlias} (h : entry ∈ newAliases observation
      (observationAlias py observation).1 (observationAlias py observation).2 draws) :
    (∃ n < 3, entry.aliasId = draws.aliasId n) ∧ entry.retiredAt = none := by
  rw [newAliases_eq] at h
  rcases List.mem_cons.1 h with rfl | h
  · exact ⟨⟨0, by omega, rfl⟩, rfl⟩
  · split at h
    · cases List.mem_singleton.1 h
      exact ⟨⟨2, by omega, rfl⟩, rfl⟩
    · cases h

/-- **An observation keeps the mirror unless it makes a case with a doubled alias.** -/
theorem Observes.mirrors (h : Mirrors activeKey s.aliases s.aliasIndex) (hnamed : AliasesNamed s)
    {observation : ObservationRecord} {draws : ObserveDraws} {r : Except PyExc ObserveResult}
    {t : Store} (hfresh : ∀ n < 3, s.FreshAlias (draws.aliasId n))
    (hne : draws.aliasId 2 ≠ draws.aliasId 0) (hends : Observes py policy s observation draws r t) :
    Mirrors activeKey t.aliases t.aliasIndex ↔ ¬ Doubles py s observation draws := by
  have hsame : t.aliases = s.aliases → t.aliasIndex = s.aliasIndex →
      ¬ Creates py s observation draws →
      (Mirrors activeKey t.aliases t.aliasIndex ↔ ¬ Doubles py s observation draws) := by
    intro haliases hindex hnot
    rw [haliases, hindex]
    exact iff_of_true h fun hd => hnot hd.1
  cases hends with
  | raised _ hcreates htables =>
    exact hsame (congrArg CaseTables.aliases htables) (congrArg CaseTables.aliasIndex htables)
      hcreates
  | noted hstatus _ _ _ htables =>
    exact hsame (congrArg CaseTables.aliases htables) (congrArg CaseTables.aliasIndex htables)
      fun hc => hstatus hc.firing
  | unhealthy _ hfound _ htables =>
    exact hsame (congrArg CaseTables.aliases htables) (congrArg CaseTables.aliasIndex htables)
      hfound.not_creates
  | clean hclean _ _ htables =>
    refine hsame (congrArg CaseTables.aliases htables) (congrArg CaseTables.aliasIndex htables)
      fun hc => ?_
    rcases hclean with hst | hst <;> cases hc.firing.symm.trans hst
  | created hfiring hnone hfree hlone htables =>
    have hcreates : Creates py s observation draws := ⟨hfiring, hnone, hfree, hlone⟩
    have haliases : t.aliases = _ := congrArg CaseTables.aliases htables
    have hindex : t.aliasIndex = _ := congrArg CaseTables.aliasIndex htables
    rw [haliases, hindex]
    refine (h.put_all_iff CaseIdentityAlias.key (newAliases_ids observation hne) ?_).trans ?_
    · intro entry hentry
      obtain ⟨⟨n, hn, hid⟩, hopen⟩ := mem_newAliases hentry
      refine ⟨?_, activeKey_eq_some.2 ⟨hopen, rfl⟩, ?_⟩
      · rw [hid]
        exact (hfresh n hn).2.1
      · exact free_of_truthyId h hnamed ((aliased_none.1 hfree) entry hentry).2
    · rw [newAliases_keys]
      exact not_congr ⟨fun hd => ⟨hcreates, hd⟩, fun hd => hd.2⟩

theorem Observes.named (hnamed : AliasesNamed s) {observation : ObservationRecord}
    {draws : ObserveDraws} {r : Except PyExc ObserveResult} {t : Store}
    (hfresh : ∀ n < 3, s.FreshAlias (draws.aliasId n))
    (hends : Observes py policy s observation draws r t) : AliasesNamed t := by
  have hsame : t.aliases = s.aliases → AliasesNamed t := by
    intro haliases
    unfold AliasesNamed
    rw [haliases]
    exact hnamed
  cases hends with
  | raised _ _ htables => exact hsame (congrArg CaseTables.aliases htables)
  | noted _ _ _ _ htables => exact hsame (congrArg CaseTables.aliases htables)
  | unhealthy _ _ _ htables => exact hsame (congrArg CaseTables.aliases htables)
  | clean _ _ _ htables => exact hsame (congrArg CaseTables.aliases htables)
  | created _ _ _ _ htables =>
    have haliases : t.aliases = _ := congrArg CaseTables.aliases htables
    intro row hrow
    rw [haliases] at hrow
    rcases Table.mem_foldl_put hrow with hnew | hold
    · obtain ⟨⟨n, hn, hid⟩, -⟩ := mem_newAliases hnew
      rw [hid]
      exact (hfresh n hn).1
    · exact hnamed row hold

end Observations

/-! ## New aliases and links -/

section Moves

variable {s : Store}

/-- A new alias is stored unless its key has an alias that is not retired. -/
theorem recordAlias_cases (entry : CaseIdentityAlias) (s : Store) :
    (recordAlias entry s).2 = s ∨
    ((∀ row, s.aliasRow? entry.aliasType entry.aliasValue = some row → row.retiredAt ≠ none) ∧
      (recordAlias entry s).2 = { s with
        aliases := s.aliases.put entry
        aliasIndex := if entry.retiredAt = none then s.aliasIndex.set entry.key entry.aliasId
          else s.aliasIndex }) := by
  have hkey : entry.key = aliasKey entry.aliasType entry.aliasValue := rfl
  unfold recordAlias Store.aliasRow?
  rw [← hkey]
  simp only [raiseIf_bind_run, peek_bind_run]
  split
  · exact Or.inl rfl
  · cases hid : truthyId (s.aliasIndex entry.key) with
    | none => exact Or.inr ⟨fun row h => (by cases h), rfl⟩
    | some id =>
      simp only [peek_bind_run, orRaise_bind_run, Option.bind_some]
      cases hrow : s.aliases.get? id with
      | none => exact Or.inl rfl
      | some row =>
        simp only [raiseIf_bind_run]
        split
        · exact Or.inl rfl
        · by_cases hopen : row.retiredAt = none
          · simp only [pure_bind_run, if_pos hopen]
            exact Or.inl rfl
          · simp only [pure_bind_run, if_neg hopen]
            refine Or.inr ⟨fun other h => ?_, rfl⟩
            cases h
            exact hopen

theorem recordAlias_mirrors (h : Mirrors activeKey s.aliases s.aliasIndex)
    (hnamed : AliasesNamed s) {entry : CaseIdentityAlias} (hfresh : s.FreshAlias entry.aliasId) :
    Mirrors activeKey (recordAlias entry s).2.aliases (recordAlias entry s).2.aliasIndex := by
  rcases recordAlias_cases entry s with hsame | ⟨hretired, hstored⟩
  · rw [hsame]
    exact h
  · rw [hstored]
    dsimp only
    split
    · rename_i hopen
      refine h.put_new hfresh.2.1 (activeKey_eq_some.2 ⟨hopen, rfl⟩) ?_
      refine free_of_truthyId h hnamed ?_
      cases hid : truthyId (s.aliasIndex entry.key) with
      | none => rfl
      | some id =>
        obtain ⟨hindex, -⟩ := Option.filter_eq_some_iff.1 hid
        obtain ⟨row, hget, hactive⟩ := (h _ _).1 hindex
        have hrow : s.aliasRow? entry.aliasType entry.aliasValue = some row :=
          Option.bind_eq_some_iff.2 ⟨id, hid, hget⟩
        exact absurd (activeKey_eq_some.1 hactive).1 (hretired row hrow)
    · rename_i hretired'
      exact h.put_unindexed hfresh.2.1 (if_neg hretired')

theorem recordAlias_named (hnamed : AliasesNamed s) {entry : CaseIdentityAlias}
    (hfresh : s.FreshAlias entry.aliasId) : AliasesNamed (recordAlias entry s).2 := by
  rcases recordAlias_cases entry s with hsame | ⟨-, hstored⟩
  · rw [hsame]
    exact hnamed
  · rw [hstored]
    intro row hrow
    rcases Table.mem_put.1 hrow with rfl | ⟨hrow, -⟩
    · exact hfresh.1
    · exact hnamed row hrow

def AliasTables.Mirrored (tables : AliasTables) : Prop :=
  Mirrors activeKey tables.aliases tables.aliasIndex

/-- An alias that is handed over leaves the mirror and its replacement takes its place. -/
theorem move_mirrors {tables : AliasTables} {entry : CaseIdentityAlias} (toCaseId now : String)
    {draws : LinkDraws} (h : tables.Mirrored)
    (hstored : tables.aliases.get? entry.aliasId = some entry) (hopen : entry.retiredAt = none)
    (hfresh : tables.aliases.get? (draws.aliasId entry.aliasId) = none) :
    (tables.move toCaseId now draws entry).Mirrored := by
  have hindex := (h _ _).2 ⟨entry, hstored, activeKey_eq_some.2 ⟨hopen, rfl⟩⟩
  have hmovable : tables.Movable entry := Or.inr hindex
  unfold AliasTables.move AliasTables.Mirrored
  rw [if_pos hmovable, ← Index.set_pop]
  have hretired : Mirrors activeKey (tables.aliases.put (entry.retired now))
      (tables.aliasIndex.pop entry.key) :=
    h.retire hstored (activeKey_eq_some.2 ⟨hopen, rfl⟩) (activeKey_retired entry now)
  have hne : entry.aliasId ≠ draws.aliasId entry.aliasId := by
    intro heq
    rw [← heq, hstored] at hfresh
    cases hfresh
  refine hretired.put_new ?_ (activeKey_eq_some.2 ⟨rfl, key_replacementAlias _ _ _⟩)
    (Index.pop_self _ _)
  exact (Table.get?_put_of_ne _ (by exact hne)).trans hfresh

theorem foldl_move_mirrors (toCaseId now : String) {fromCaseId : String} {draws : LinkDraws} :
    ∀ {entries : List CaseIdentityAlias} {tables : AliasTables}, tables.Mirrored →
      Handing fromCaseId draws entries tables →
      (entries.foldl (AliasTables.move toCaseId now draws) tables).Mirrored
  | [], _, h, _ => h
  | entry :: rest, tables, h, hhanding => by
    obtain ⟨hget, -, hopen⟩ := hhanding.stored entry List.mem_cons_self
    have hfresh := (hhanding.fresh entry List.mem_cons_self).2.1
    rw [List.foldl_cons]
    exact foldl_move_mirrors toCaseId now (move_mirrors toCaseId now h hget hopen hfresh)
      hhanding.tail

theorem link_mirrors (h : Mirrors activeKey s.aliases s.aliasIndex) {call : LinkCall}
    (hfresh : call.draws.Fresh s) :
    Mirrors activeKey (call.run s).2.aliases (call.run s).2.aliasIndex := by
  cases hlink : s.linkable? call with
  | none =>
    rw [linkCall_refused hlink]
    exact h
  | some pair =>
    obtain ⟨child, parent⟩ := pair
    obtain ⟨result, ev, ix, hrun⟩ := linkCall_linked hlink hfresh
    rw [hrun]
    exact foldl_move_mirrors parent.caseId call.now h (hfresh.handing child.caseId)

theorem foldl_move_named {toCaseId now : String} {draws : LinkDraws} :
    ∀ {entries : List CaseIdentityAlias} {tables : AliasTables},
      (∀ row ∈ tables.aliases.rows, row.aliasId ≠ "") →
      (∀ entry ∈ entries, entry.aliasId ≠ "" ∧ draws.aliasId entry.aliasId ≠ "") →
      ∀ row ∈ (entries.foldl (AliasTables.move toCaseId now draws) tables).aliases.rows,
        row.aliasId ≠ ""
  | [], _, h, _ => h
  | entry :: rest, tables, h, hentries => by
    rw [List.forall_mem_cons] at hentries
    rw [List.foldl_cons]
    refine foldl_move_named (fun row hrow => ?_) hentries.2
    unfold AliasTables.move at hrow
    have hput : ∀ row ∈ (tables.aliases.put (entry.retired now)).rows, row.aliasId ≠ "" := by
      intro row hrow
      rcases Table.mem_put.1 hrow with rfl | ⟨hrow, -⟩
      · exact hentries.1.1
      · exact h row hrow
    split at hrow
    · rcases Table.mem_put.1 hrow with rfl | ⟨hrow, -⟩
      · exact hentries.1.2
      · exact hput row hrow
    · exact hput row hrow

theorem link_named (hnamed : AliasesNamed s) {call : LinkCall} (hfresh : call.draws.Fresh s) :
    AliasesNamed (call.run s).2 := by
  cases hlink : s.linkable? call with
  | none =>
    rw [linkCall_refused hlink]
    exact hnamed
  | some pair =>
    obtain ⟨child, parent⟩ := pair
    obtain ⟨result, ev, ix, hrun⟩ := linkCall_linked hlink hfresh
    rw [hrun]
    refine foldl_move_named (by exact hnamed) fun entry hentry => ?_
    have hrow := Table.mem_of_get? (mem_activeAliases.1 hentry).1
    exact ⟨hnamed entry hrow, (hfresh entry hrow).1.1⟩

end Moves

/-! ## Runs -/

section Runs

variable {py : Python} {policy : CasePolicy} {s : Store}

theorem aliasOp_named (hnamed : AliasesNamed s) {op : AliasOp} (hfresh : op.Fresh s) :
    AliasesNamed (op.run py policy s) := by
  cases op with
  | observe call =>
    exact (observe_observes py policy s call.observation call.draws).named hnamed hfresh.1
  | record entry => exact recordAlias_named hnamed hfresh
  | link call => exact link_named hnamed hfresh

theorem aliasOp_mirrors (h : Mirrors activeKey s.aliases s.aliasIndex) (hnamed : AliasesNamed s)
    {op : AliasOp} (hfresh : op.Fresh s) :
    Mirrors activeKey (op.run py policy s).aliases (op.run py policy s).aliasIndex ↔
      ¬ op.Doubles py s := by
  cases op with
  | observe call =>
    have hends := observe_observes py policy s call.observation call.draws
    have hne : call.draws.aliasId 2 ≠ call.draws.aliasId 0 := by
      intro heq
      have hsame := hfresh.2 2 (by omega) 0 (by omega) heq
      omega
    exact hends.mirrors h hnamed hfresh.1 hne
  | record entry => exact iff_of_true (recordAlias_mirrors h hnamed hfresh) not_false
  | link call => exact iff_of_true (link_mirrors h hfresh) not_false

/-- An id that no alias has is fresh where the index mirrors the table. -/
theorem freshAlias_of_mirrors (h : Mirrors activeKey s.aliases s.aliasIndex) {aliasId : String}
    (htruthy : aliasId ≠ "") (hnone : s.aliases.get? aliasId = none) : s.FreshAlias aliasId := by
  refine ⟨htruthy, hnone, fun key hkey => ?_⟩
  obtain ⟨row, hget, -⟩ := (h key _).1 hkey
  cases hnone.symm.trans hget

/-- Ids that no alias has are fresh where the index mirrors the table. -/
theorem fresh_of_mirrors (h : Mirrors activeKey s.aliases s.aliasIndex) {draws : LinkDraws}
    (hrows : ∀ entry ∈ s.aliases.rows, draws.aliasId entry.aliasId ≠ "" ∧
      s.aliases.get? (draws.aliasId entry.aliasId) = none ∧
      ∀ other ∈ s.aliases.rows, draws.aliasId other.aliasId = draws.aliasId entry.aliasId →
        other.aliasId = entry.aliasId) : draws.Fresh s := by
  intro entry hentry
  obtain ⟨htruthy, hnone, hdiffer⟩ := hrows entry hentry
  exact ⟨freshAlias_of_mirrors h htruthy hnone, hdiffer⟩

theorem mirrors_empty : Mirrors activeKey ({} : Store).aliases ({} : Store).aliasIndex := by
  intro key aliasId
  refine iff_of_false (fun h => by cases h) ?_
  rintro ⟨row, hget, -⟩
  cases hget

/-- **Over every run from the empty store, the alias table is sound in every state exactly when no
new case gets two aliases under one key.** -/
theorem aliasesSound_run_iff {ops : List AliasOp} :
    Run (Guarded (aliasStep py policy) fun s op => ¬ op.Doubles py s) {} ops s ↔
      Run (Upheld (aliasStep py policy) AliasesSound) {} ops s := by
  have hnamed : AliasesNamed {} := fun row hrow => by cases hrow
  refine Run.guarded_iff_upheld (J := AliasesNamed) ?_ ?_ hnamed
    ((aliasesSound_iff hnamed).2 mirrors_empty)
  · rintro s op t hnamed ⟨hfresh, rfl⟩
    exact aliasOp_named hnamed hfresh
  · rintro s op t hnamed hsound ⟨hfresh, rfl⟩
    rw [aliasesSound_iff (aliasOp_named hnamed hfresh)]
    exact aliasOp_mirrors ((aliasesSound_iff hnamed).1 hsound) hnamed hfresh

end Runs

/-! ## A deduplication key and an event id that differ in whitespace -/

def paddedCall : ObserveCall where
  observation := {
    observationId := "obs_1"
    dedupKey := "a"
    sourceEventId := "a "
    status := .firing
    observedAt := "2026-01-01T01:00:00+00:00" }
  draws := {
    caseId := "case_1"
    aliasId := fun n => if n = 0 then "alias_0" else if n = 1 then "alias_1" else "alias_2"
    now := "2026-01-01T01:00:00+00:00"
    created := ⟨"evt_a", "2026-01-01T01:00:00+00:00"⟩
    unhealthy := ⟨"evt_b", "2026-01-01T01:00:00+00:00"⟩
    updatedAt := "2026-01-01T01:00:00+00:00"
    update := ⟨"evt_c", "2026-01-01T01:00:00+00:00"⟩ }

theorem not_aliasesSound_padded :
    let t := AliasOp.run (tablePython []) {} {} (.observe paddedCall)
    Run (aliasStep (tablePython []) {}) {} [.observe paddedCall] t ∧ ¬ AliasesSound t := by
  refine ⟨Run.single ⟨⟨fun n hn => ?_, by decide⟩, rfl⟩, fun h => ?_⟩
  · refine ⟨?_, rfl, fun key hkey => by cases hkey⟩
    revert n
    decide
  · have hbad : ¬ ∀ row ∈ (AliasOp.run (tablePython []) {} {} (.observe paddedCall)).aliases.rows,
        ∀ other ∈ (AliasOp.run (tablePython []) {} {} (.observe paddedCall)).aliases.rows,
        row.retiredAt = none → other.retiredAt = none → other.key = row.key →
          other.aliasId = row.aliasId := by decide +kernel
    exact hbad h.unique

end NocAgent.Cases
