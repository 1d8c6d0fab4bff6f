import NocAgent.Cases.ObserveSpec
import NocAgent.Lib.UniqueIndex

/-!
# Aliases that move from case to case

* `recordAlias` — a new name for a case.
* `linkChildCase` — a case becomes a child of another and hands its aliases over.
* `AliasTables.move` — what one alias does to the alias tables; `linkChildCase_run`.
-/

set_option autoImplicit false

namespace NocAgent.Cases

open Effects Effects.Action Keyed

/-- What `link_child_case` returns. -/
structure CaseLinkResult where
  childCase : AtomicCaseProjection
  parentCase : AtomicCaseProjection
  movedAliases : List CaseIdentityAlias
  events : List CaseEvent

/-- What linking draws: the ids of the events, and of the alias that replaces a given one. -/
structure LinkDraws where
  aliasId : String → String
  childEventId : String
  parentEventId : String

/-- `_alias_key(alias.alias_type, alias.alias_value)`. -/
def CaseIdentityAlias.key (entry : CaseIdentityAlias) : AliasType × String :=
  aliasKey entry.aliasType entry.aliasValue

def recordAlias (entry : CaseIdentityAlias) : StoreM CaseIdentityAlias := do
  raiseIf (entry.aliasValue = "") .valueError
  let key := entry.key
  let existingId ← peek fun s => truthyId (s.aliasIndex key)
  let existing ← match existingId with
    | none => pure none
    | some existingId => do
      let existing ← peek fun s => s.aliases.get? existingId
      let existing ← orRaise existing .keyError
      raiseIf (existing.retiredAt = none ∧ existing.caseId ≠ entry.caseId) .valueError
      pure (if existing.retiredAt = none then some existing else none)
  match existing with
  | some existing => pure existing
  | none =>
    alter fun s => { s with
      aliases := s.aliases.put entry
      aliasIndex :=
        if entry.retiredAt = none then s.aliasIndex.set key entry.aliasId else s.aliasIndex }
    pure entry

/-- The alias of the new case in place of a retired one. -/
def replacementAlias (toCaseId aliasId : String) (entry : CaseIdentityAlias) : CaseIdentityAlias where
  aliasId := aliasId
  caseId := toCaseId
  aliasType := entry.aliasType
  aliasValue := strip entry.aliasValue
  source := orText entry.source "case_link"
  confidence := entry.confidence

/-- One round of `_reassign_aliases_locked`. -/
def reassignAlias (toCaseId now : String) (draws : LinkDraws) (entry : CaseIdentityAlias) :
    StoreM (Option CaseIdentityAlias) := do
  let key := entry.key
  let indexedId ← peek fun s => s.aliasIndex key
  let indexed ← peek fun s => (truthyId indexedId).bind s.aliases.get?
  alter fun s =>
    if indexedId = some entry.aliasId then { s with aliasIndex := s.aliasIndex.pop key } else s
  alter fun s => { s with aliases := s.aliases.put { entry with retiredAt := some now } }
  let held ← peek fun s => (s.aliasIndex key).isSome
  -- another alias of the new case, or of any case, already has the key
  if (∃ row ∈ indexed, row.caseId = toCaseId ∧ row.retiredAt = none) ∨ held then pure none
  else do
    let replacement := replacementAlias toCaseId (draws.aliasId entry.aliasId) entry
    alter fun s => { s with
      aliases := s.aliases.put replacement
      aliasIndex := s.aliasIndex.set key replacement.aliasId }
    pure (some replacement)

def Store.activeAliases (s : Store) (caseId : String) : List CaseIdentityAlias :=
  s.aliases.rows.filter fun entry => entry.caseId = caseId ∧ entry.retiredAt = none

/-- `_reassign_aliases_locked`. -/
def reassignAliases (fromCaseId toCaseId now : String) (draws : LinkDraws) :
    StoreM (List CaseIdentityAlias) := do
  let active ← peek fun s => s.activeAliases fromCaseId
  let moved ← forEach (reassignAlias toCaseId now draws) active
  pure moved.reduceOption

/-- The child after it was linked. -/
def linkedChild (child parent : AtomicCaseProjection) (reason : String)
    (evidenceRefs : List String) (now : String) : AtomicCaseProjection :=
  { child with
    status := .linked
    resolutionReason := "linked_parent"
    resolvedAt := some now
    lastDiagnosis := dictPut (dictPut (dictPut child.lastDiagnosis
      "linked_parent_case" (.str parent.caseId)) "link_reason" (.str reason))
      "link_evidence_refs" (.list (evidenceRefs.map .str))
    updatedAt := now }

/-- The parent after a child was linked to it. -/
def linkedParent (parent : AtomicCaseProjection) (now : String) : AtomicCaseProjection :=
  { parent with updatedAt := now }

def linkEvents (child parent : AtomicCaseProjection) (reason : String)
    (evidenceRefs : List String) (now : String) (moved : Nat) (draws : LinkDraws) :
    List CaseEvent :=
  [{ eventId := draws.childEventId
     caseId := some child.caseId
     eventType := "case_linked_to_parent"
     actorType := .graph
     occurredAt := now
     payload := [("parent_case_id", .str parent.caseId), ("reason", .str reason),
       ("evidence_refs", .list (evidenceRefs.map .str)), ("moved_alias_count", .int moved)] },
    { eventId := draws.parentEventId
      caseId := some parent.caseId
      eventType := "linked_child_case"
      actorType := .graph
      occurredAt := now
      payload := [("child_case_id", .str child.caseId), ("resource_key", .str child.resourceId),
        ("summary", .str reason), ("evidence_refs", .list (evidenceRefs.map .str)),
        ("moved_alias_count", .int moved)] }]

def linkChildCase (childCaseId parentCaseId reason : String) (evidenceRefs : List String)
    (now : String) (draws : LinkDraws) : StoreM (Option CaseLinkResult) :=
  if childCaseId = parentCaseId then pure none
  else do
    let child ← peek fun s => s.atomicCase? childCaseId
    let parent ← peek fun s => s.atomicCase? parentCaseId
    match child, parent with
    | some child, some parent =>
      if child.status = .linked then
        if (child.lastDiagnosis.get "linked_parent_case").isStr parent.caseId then
          pure (some ⟨child, parent, [], []⟩)
        else pure none
      else do
        let child := linkedChild child parent reason evidenceRefs now
        let parent := linkedParent parent now
        putCase child
        putCase parent
        let moved ← reassignAliases child.caseId parent.caseId now draws
        let events ← forEach storeEvent
          (linkEvents child parent reason evidenceRefs now moved.length draws)
        pure (some ⟨child, parent, moved, events⟩)
    | _, _ => pure none

/-! ## What moving an alias does -/

/-- The tables an alias is resolved by. -/
structure AliasTables where
  aliases : Table CaseIdentityAlias.aliasId
  aliasIndex : Index (AliasType × String) String

def Store.aliasTables (s : Store) : AliasTables := ⟨s.aliases, s.aliasIndex⟩

def CaseIdentityAlias.retired (entry : CaseIdentityAlias) (now : String) : CaseIdentityAlias :=
  { entry with retiredAt := some now }

/-- The index has the alias under its key, or nothing. -/
def AliasTables.Movable (tables : AliasTables) (entry : CaseIdentityAlias) : Prop :=
  tables.aliasIndex entry.key = none ∨ tables.aliasIndex entry.key = some entry.aliasId

instance (tables : AliasTables) (entry : CaseIdentityAlias) : Decidable (tables.Movable entry) := by
  unfold AliasTables.Movable; infer_instance

/-- An alias of another case is retired, and replaced where the index lets it. -/
def AliasTables.move (toCaseId now : String) (draws : LinkDraws) (tables : AliasTables)
    (entry : CaseIdentityAlias) : AliasTables :=
  if tables.Movable entry then
    ⟨(tables.aliases.put (entry.retired now)).put
        (replacementAlias toCaseId (draws.aliasId entry.aliasId) entry),
      tables.aliasIndex.set entry.key (draws.aliasId entry.aliasId)⟩
  else ⟨tables.aliases.put (entry.retired now), tables.aliasIndex⟩

@[simp] theorem key_replacementAlias (toCaseId aliasId : String) (entry : CaseIdentityAlias) :
    (replacementAlias toCaseId aliasId entry).key = entry.key := by
  unfold CaseIdentityAlias.key replacementAlias aliasKey
  rw [strip_strip]

/-- Setting a key that was dropped is setting it. -/
theorem Index.set_pop {κ ν : Type} [DecidableEq κ] (ix : Index κ ν) (k : κ) (v : ν) :
    (ix.pop k).set k v = ix.set k v := by
  funext k'
  rw [Index.set_apply, Index.set_apply, Index.pop_apply]
  split <;> rfl

section Moves

variable {toCaseId now : String} {draws : LinkDraws}

/-- **The round moves the alias as the tables do, whatever else the index has under its key.** -/
theorem reassignAlias_run (now : String) (draws : LinkDraws) {s : Store} {entry : CaseIdentityAlias}
    (hstored : s.aliases.get? entry.aliasId = some entry) (hother : entry.caseId ≠ toCaseId) :
    ∃ moved, reassignAlias toCaseId now draws entry s = (.ok moved, { s with
      aliases := (s.aliasTables.move toCaseId now draws entry).aliases
      aliasIndex := (s.aliasTables.move toCaseId now draws entry).aliasIndex }) := by
  unfold reassignAlias AliasTables.move
  simp only [peek_bind_run, alter_bind_run]
  rcases hindex : s.aliasIndex entry.key with _ | indexedId
  · have hmovable : s.aliasTables.Movable entry := Or.inl hindex
    rw [if_pos hmovable]
    simp [hindex, truthyId, CaseIdentityAlias.retired, Store.aliasTables, replacementAlias]
  · by_cases hself : indexedId = entry.aliasId
    · subst hself
      have hmovable : s.aliasTables.Movable entry := Or.inr hindex
      rw [if_pos hmovable]
      have hfree : ¬ ∃ row ∈ (truthyId (some entry.aliasId)).bind s.aliases.get?,
          row.caseId = toCaseId ∧ row.retiredAt = none := by
        rintro ⟨row, hrow, hcase, -⟩
        obtain ⟨id, hid, hget⟩ := Option.bind_eq_some_iff.1 hrow
        obtain ⟨hsome, -⟩ := Option.filter_eq_some_iff.1 hid
        cases hsome
        cases hstored.symm.trans hget
        exact hother hcase
      rw [if_pos rfl, if_neg (not_or.2 ⟨hfree, by simp⟩)]
      simp [Index.set_pop, CaseIdentityAlias.retired, Store.aliasTables, replacementAlias]
    · have hmovable : ¬ s.aliasTables.Movable entry := by
        rintro (hnone | hsome)
        · cases hindex.symm.trans hnone
        · exact hself (Option.some.inj (hindex.symm.trans hsome))
      rw [if_neg hmovable]
      have hne : ¬ some indexedId = some entry.aliasId := fun h => hself (Option.some.inj h)
      rw [if_neg hne, if_pos (by simp [hindex])]
      exact ⟨none, rfl⟩

/-- Moving an alias touches its own row and the row of its replacement. -/
theorem move_get?_of_ne {tables : AliasTables} {entry : CaseIdentityAlias} {aliasId : String}
    (hne : entry.aliasId ≠ aliasId) (hfresh : draws.aliasId entry.aliasId ≠ aliasId) :
    (tables.move toCaseId now draws entry).aliases.get? aliasId = tables.aliases.get? aliasId := by
  unfold AliasTables.move
  split
  · have hreplaced : (replacementAlias toCaseId (draws.aliasId entry.aliasId) entry).aliasId ≠
        aliasId := hfresh
    rw [Table.get?_put_of_ne _ hreplaced, Table.get?_put_of_ne _ (by exact hne)]
  · exact Table.get?_put_of_ne _ (by exact hne)

/-- The index after a move. -/
theorem move_aliasIndex (tables : AliasTables) (entry : CaseIdentityAlias)
    (key : AliasType × String) : (tables.move toCaseId now draws entry).aliasIndex key =
      if tables.Movable entry ∧ key = entry.key then some (draws.aliasId entry.aliasId)
      else tables.aliasIndex key := by
  unfold AliasTables.move
  by_cases hmovable : tables.Movable entry
  · rw [if_pos hmovable]
    simp only [Index.set_apply, hmovable, true_and]
  · rw [if_neg hmovable, if_neg fun h => hmovable h.1]

/-- The aliases that one case hands over to another, one after the other. -/
structure Handing (fromCaseId : String) (draws : LinkDraws) (entries : List CaseIdentityAlias)
    (tables : AliasTables) : Prop where
  nodup : (entries.map CaseIdentityAlias.aliasId).Nodup
  stored : ∀ entry ∈ entries, tables.aliases.get? entry.aliasId = some entry ∧
    entry.caseId = fromCaseId ∧ entry.retiredAt = none
  fresh : ∀ entry ∈ entries, draws.aliasId entry.aliasId ≠ "" ∧
    tables.aliases.get? (draws.aliasId entry.aliasId) = none ∧
    ∀ key, tables.aliasIndex key ≠ some (draws.aliasId entry.aliasId)
  differ : ∀ entry ∈ entries, ∀ other ∈ entries,
    draws.aliasId other.aliasId = draws.aliasId entry.aliasId → other.aliasId = entry.aliasId

/-- No replacement takes the id of an alias that is handed over. -/
theorem Handing.fresh_ne {fromCaseId : String} {entries : List CaseIdentityAlias}
    {tables : AliasTables} (h : Handing fromCaseId draws entries tables)
    {entry other : CaseIdentityAlias} (hentry : entry ∈ entries) (hother : other ∈ entries) :
    draws.aliasId entry.aliasId ≠ other.aliasId := by
  intro heq
  have hnone := (h.fresh entry hentry).2.1
  rw [heq, (h.stored other hother).1] at hnone
  cases hnone

/-- **Moving the first alias leaves the others to be handed over.** -/
theorem Handing.tail {fromCaseId : String} {entry : CaseIdentityAlias}
    {rest : List CaseIdentityAlias} {tables : AliasTables}
    (h : Handing fromCaseId draws (entry :: rest) tables) :
    Handing fromCaseId draws rest (tables.move toCaseId now draws entry) := by
  have hnodup := h.nodup
  rw [List.map_cons, List.nodup_cons] at hnodup
  have hhead : entry ∈ entry :: rest := List.mem_cons_self
  have hne : ∀ other ∈ rest, entry.aliasId ≠ other.aliasId := by
    intro other hother heq
    exact hnodup.1 (heq ▸ List.mem_map_of_mem hother)
  have hdraws : ∀ other ∈ rest, draws.aliasId entry.aliasId ≠ draws.aliasId other.aliasId := by
    intro other hother heq
    exact hne other hother (h.differ other (List.mem_cons_of_mem _ hother) entry hhead heq)
  refine ⟨hnodup.2, fun other hother => ?_, fun other hother => ?_, fun e he o ho =>
    h.differ e (List.mem_cons_of_mem _ he) o (List.mem_cons_of_mem _ ho)⟩
  · have hmem := List.mem_cons_of_mem entry hother
    obtain ⟨hget, hrest⟩ := h.stored other hmem
    exact ⟨(move_get?_of_ne (hne other hother) (h.fresh_ne hhead hmem)).trans hget, hrest⟩
  · have hmem := List.mem_cons_of_mem entry hother
    obtain ⟨htruthy, hnone, hindex⟩ := h.fresh other hmem
    refine ⟨htruthy, ?_, fun key heq => ?_⟩
    · rw [move_get?_of_ne (h.fresh_ne hmem hhead).symm (hdraws other hother)]
      exact hnone
    · rw [move_aliasIndex] at heq
      split at heq
      · exact hdraws other hother (Option.some.inj heq)
      · exact hindex key heq

/-- The loop does to the tables what the moves do. -/
theorem forEach_reassignAlias_run (now : String) {fromCaseId : String}
    (hcases : fromCaseId ≠ toCaseId) :
    ∀ {entries : List CaseIdentityAlias} {s : Store},
      Handing fromCaseId draws entries s.aliasTables →
      ∃ moved, forEach (reassignAlias toCaseId now draws) entries s = (.ok moved, { s with
        aliases := (entries.foldl (AliasTables.move toCaseId now draws) s.aliasTables).aliases
        aliasIndex :=
          (entries.foldl (AliasTables.move toCaseId now draws) s.aliasTables).aliasIndex })
  | [], s, _ => ⟨[], rfl⟩
  | entry :: rest, s, h => by
    obtain ⟨hget, hcase, -⟩ := h.stored entry List.mem_cons_self
    obtain ⟨moved, hrun⟩ := reassignAlias_run now draws hget (hcase ▸ hcases)
    have htail : Handing fromCaseId draws rest (s.aliasTables.move toCaseId now draws entry) := h.tail
    obtain ⟨more, hmore⟩ := forEach_reassignAlias_run now hcases (s := { s with
      aliases := (s.aliasTables.move toCaseId now draws entry).aliases
      aliasIndex := (s.aliasTables.move toCaseId now draws entry).aliasIndex }) htail
    exact ⟨moved :: more, (bind_ok hrun).trans ((bind_ok hmore).trans rfl)⟩

end Moves

/-! ## What linking does -/

/-- An id that no alias has and that the index does not have. -/
def Store.FreshAlias (s : Store) (aliasId : String) : Prop :=
  aliasId ≠ "" ∧ s.aliases.get? aliasId = none ∧ ∀ key, s.aliasIndex key ≠ some aliasId

/-- The ids drawn for the replacements are fresh and different. -/
def LinkDraws.Fresh (draws : LinkDraws) (s : Store) : Prop :=
  ∀ entry ∈ s.aliases.rows, s.FreshAlias (draws.aliasId entry.aliasId) ∧
    ∀ other ∈ s.aliases.rows, draws.aliasId other.aliasId = draws.aliasId entry.aliasId →
      other.aliasId = entry.aliasId

/-- One call of `link_child_case`. -/
structure LinkCall where
  childCaseId : String
  parentCaseId : String
  reason : String
  evidenceRefs : List String
  now : String
  draws : LinkDraws

def LinkCall.run (call : LinkCall) : StoreM (Option CaseLinkResult) :=
  linkChildCase call.childCaseId call.parentCaseId call.reason call.evidenceRefs call.now call.draws

/-- The child and the parent of a call that links. -/
def Store.linkable? (s : Store) (call : LinkCall) :
    Option (AtomicCaseProjection × AtomicCaseProjection) :=
  if call.childCaseId = call.parentCaseId then none
  else
    (s.atomicCase? call.childCaseId).bind fun child =>
      (s.atomicCase? call.parentCaseId).bind fun parent =>
        if child.status = .linked then none else some (child, parent)

theorem linkable?_eq_some {s : Store} {call : LinkCall} {child parent : AtomicCaseProjection} :
    s.linkable? call = some (child, parent) ↔ call.childCaseId ≠ call.parentCaseId ∧
      s.atomicCase? call.childCaseId = some child ∧
      s.atomicCase? call.parentCaseId = some parent ∧ child.status ≠ .linked := by
  unfold Store.linkable?
  by_cases hids : call.childCaseId = call.parentCaseId
  · simp [hids]
  · rw [if_neg hids]
    constructor
    · intro h
      obtain ⟨child', hchild, h⟩ := Option.bind_eq_some_iff.1 h
      obtain ⟨parent', hparent, h⟩ := Option.bind_eq_some_iff.1 h
      split at h
      · cases h
      · rename_i hopen
        cases h
        exact ⟨hids, hchild, hparent, hopen⟩
    · rintro ⟨-, hchild, hparent, hopen⟩
      rw [hchild, Option.bind_some, hparent, Option.bind_some, if_neg hopen]

/-- The alias tables after the child has handed its aliases over. -/
def Store.handed (s : Store) (child parent : AtomicCaseProjection) (call : LinkCall) :
    AliasTables :=
  (s.activeAliases child.caseId).foldl (AliasTables.move parent.caseId call.now call.draws)
    s.aliasTables

theorem mem_activeAliases {s : Store} {caseId : String} {entry : CaseIdentityAlias} :
    entry ∈ s.activeAliases caseId ↔
      s.aliases.get? entry.aliasId = some entry ∧ entry.caseId = caseId ∧ entry.retiredAt = none := by
  unfold Store.activeAliases
  rw [List.mem_filter, Table.mem_rows_iff, decide_eq_true_eq]

theorem nodup_activeAliases (s : Store) (caseId : String) :
    ((s.activeAliases caseId).map CaseIdentityAlias.aliasId).Nodup :=
  s.aliases.nodup.sublist (List.filter_sublist.map _)

/-- The active aliases of a case are ready to be handed over. -/
theorem LinkDraws.Fresh.handing {s : Store} {draws : LinkDraws} (h : draws.Fresh s)
    (caseId : String) : Handing caseId draws (s.activeAliases caseId) s.aliasTables := by
  have hrow : ∀ {entry}, entry ∈ s.activeAliases caseId → entry ∈ s.aliases.rows :=
    fun hentry => Table.mem_of_get? (mem_activeAliases.1 hentry).1
  exact ⟨nodup_activeAliases s caseId, fun entry hentry => mem_activeAliases.1 hentry,
    fun entry hentry => (h entry (hrow hentry)).1,
    fun entry hentry other hother => (h entry (hrow hentry)).2 other (hrow hother)⟩

/-- A call that does not link leaves the store as it is. -/
theorem linkCall_refused {s : Store} {call : LinkCall} (h : s.linkable? call = none) :
    (call.run s).2 = s := by
  unfold LinkCall.run linkChildCase
  by_cases hids : call.childCaseId = call.parentCaseId
  · rw [if_pos hids]
    rfl
  · rw [if_neg hids]
    simp only [peek_bind_run]
    rcases hchild : s.atomicCase? call.childCaseId with _ | child
    · rfl
    · rcases hparent : s.atomicCase? call.parentCaseId with _ | parent
      · rfl
      · have hlinked : child.status = .linked := by
          by_contra hopen
          have hsome := linkable?_eq_some.2 ⟨hids, hchild, hparent, hopen⟩
          cases h.symm.trans hsome
        simp only [hlinked, if_true]
        split <;> rfl

theorem reassignAlias_fixes (toCaseId now : String) (draws : LinkDraws)
    (entry : CaseIdentityAlias) : Fixes Store.cases (reassignAlias toCaseId now draws entry) := by
  refine Fixes.bind (Fixes.peek _) fun indexedId => Fixes.bind (Fixes.peek _) fun indexed => ?_
  refine Fixes.bind (Fixes.alter fun s => ?_) fun _ => Fixes.bind (Fixes.alter fun _ => rfl)
    fun _ => Fixes.bind (Fixes.peek _) fun held => ?_
  · split <;> rfl
  · split
    · exact Fixes.pure _
    · exact Fixes.bind (Fixes.alter fun _ => rfl) fun _ => Fixes.pure _

/-- The cases after a call that links, whatever ids it draws. -/
theorem linkCall_cases {s : Store} {call : LinkCall} {child parent : AtomicCaseProjection}
    (h : s.linkable? call = some (child, parent)) :
    (call.run s).2.cases = (s.cases.put (.atomic (linkedChild child parent call.reason
      call.evidenceRefs call.now))).put (.atomic (linkedParent parent call.now)) := by
  obtain ⟨hids, hchild, hparent, hopen⟩ := linkable?_eq_some.1 h
  unfold LinkCall.run linkChildCase putCase
  rw [if_neg hids]
  simp only [peek_bind_run, hchild, hparent, if_neg hopen, alter_bind_run]
  refine Fixes.bind (f := Store.cases) ?_ (fun moved => Fixes.bind (Fixes.forEach (fun event =>
    storeEvent_fixes (fun _ _ _ => rfl) event) _) fun _ => Fixes.pure _) _
  exact Fixes.bind (Fixes.peek _) fun active =>
    Fixes.bind (Fixes.forEach (reassignAlias_fixes _ _ _) active) fun _ => Fixes.pure _

/-- **A call that links writes both cases and hands the aliases over.** -/
theorem linkCall_linked {s : Store} {call : LinkCall} {child parent : AtomicCaseProjection}
    (h : s.linkable? call = some (child, parent)) (hfresh : call.draws.Fresh s) :
    ∃ result ev ix, call.run s = (.ok (some result), { s with
      cases := (s.cases.put (.atomic (linkedChild child parent call.reason call.evidenceRefs
        call.now))).put (.atomic (linkedParent parent call.now))
      aliases := (s.handed child parent call).aliases
      aliasIndex := (s.handed child parent call).aliasIndex
      events := ev
      caseEvents := ix }) := by
  obtain ⟨hids, hchild, hparent, hopen⟩ := linkable?_eq_some.1 h
  have hcases : child.caseId ≠ parent.caseId := by
    rw [caseId_of_atomicCase? hchild, caseId_of_atomicCase? hparent]
    exact hids
  obtain ⟨moved, hmoved⟩ := forEach_reassignAlias_run call.now hcases (s := { s with
    cases := (s.cases.put (.atomic (linkedChild child parent call.reason call.evidenceRefs
      call.now))).put (.atomic (linkedParent parent call.now)) })
    (hfresh.handing child.caseId)
  obtain ⟨stored, ev, ix, hevents⟩ := forEach_storeEvent_run (linkEvents (linkedChild child parent
    call.reason call.evidenceRefs call.now) (linkedParent parent call.now) call.reason
    call.evidenceRefs call.now moved.reduceOption.length call.draws) { s with
      cases := (s.cases.put (.atomic (linkedChild child parent call.reason call.evidenceRefs
        call.now))).put (.atomic (linkedParent parent call.now))
      aliases := (s.handed child parent call).aliases
      aliasIndex := (s.handed child parent call).aliasIndex }
  refine ⟨⟨linkedChild child parent call.reason call.evidenceRefs call.now,
    linkedParent parent call.now, moved.reduceOption, stored⟩, ev, ix, ?_⟩
  unfold LinkCall.run linkChildCase putCase reassignAliases
  rw [if_neg hids]
  simp only [peek_bind_run, hchild, hparent, if_neg hopen, alter_bind_run, bind_bind_run]
  exact (bind_ok hmoved).trans ((bind_ok hevents).trans rfl)

end NocAgent.Cases
