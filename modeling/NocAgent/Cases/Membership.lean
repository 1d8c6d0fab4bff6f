import NocAgent.Cases.Correlation
import NocAgent.Lib.Grouping
import NocAgent.Lib.Lts

/-!
# Membership of meta cases

* `Store.grouping` — the relation between meta cases and children, as the store keeps it on both
  sides.
* `Correlated` — the invariant: both sides agree, every meta case is active, and a covered case is
  a child without a mark of its own.
* `attachChild_moved`, `detachChild_moved` — what a call that is not refused writes.
* `membership_run` — over every run of calls, failing ones included, membership is consistent.
-/

set_option autoImplicit false

namespace NocAgent.Cases

open Effects Effects.Action Keyed Lts

/-- What the store records of meta cases and their children. -/
def Store.grouping (s : Store) : Grouping String String where
  members := fun metaCaseId => {caseId | ∃ metaCase, s.metaCase? metaCaseId = some metaCase ∧
    caseId ∈ metaCase.childCaseIds}
  owner := fun caseId => (s.atomicCase? caseId).bind fun child => truthyId (some child.metaCaseId)

/-- **A meta case lists exactly the children that name it, a child is listed once, and a covered
child belongs to a meta case and needs no action of its own.** -/
structure MembershipConsistent (s : Store) : Prop where
  listed : ∀ metaCaseId metaCase caseId, s.metaCase? metaCaseId = some metaCase →
    (caseId ∈ metaCase.childCaseIds ↔
      ∃ child, s.atomicCase? caseId = some child ∧ child.metaCaseId = metaCaseId)
  single : ∀ first second metaCase other caseId, s.metaCase? first = some metaCase →
    s.metaCase? second = some other → caseId ∈ metaCase.childCaseIds →
      caseId ∈ other.childCaseIds → first = second
  covered : ∀ caseId child, s.atomicCase? caseId = some child → child.coveredByMetaCase = true →
    child.metaCaseId ≠ "" ∧ child.independentActionRequired = false

/-- The invariant of the calls. -/
structure Correlated (s : Store) : Prop where
  agrees : s.grouping.Agrees
  active : ∀ metaCaseId metaCase, s.metaCase? metaCaseId = some metaCase →
    metaCaseId ≠ "" ∧ metaCase.status ∉ RELEASING_STATUSES
  covered : ∀ caseId child, s.atomicCase? caseId = some child → child.coveredByMetaCase = true →
    child.metaCaseId ≠ "" ∧ child.independentActionRequired = false

/-! ## The two sides -/

section Sides

variable {s t : Store} {metaCaseId caseId : String} {metaCase : MetaCaseProjection}
  {child : AtomicCaseProjection}

theorem metaCase?_eq_some :
    s.metaCase? metaCaseId = some metaCase ↔ s.cases.get? metaCaseId = some (.storm metaCase) := by
  unfold Store.metaCase?
  rw [Option.bind_eq_some_iff]
  constructor
  · rintro ⟨stored, hs, hm⟩
    rw [hs, CaseProjection.storm?_eq_some.1 hm]
  · intro h
    exact ⟨_, h, rfl⟩

theorem caseId_of_metaCase? (h : s.metaCase? metaCaseId = some metaCase) :
    metaCase.caseId = metaCaseId := by
  have hkey := Table.key_of_get? (metaCase?_eq_some.1 h)
  exact hkey

theorem mem_grouping (h : s.metaCase? metaCaseId = some metaCase) :
    caseId ∈ s.grouping.members metaCaseId ↔ caseId ∈ metaCase.childCaseIds := by
  change (∃ stored, s.metaCase? metaCaseId = some stored ∧ _) ↔ _
  rw [h]
  simp

theorem owner_eq_some {owner : String} :
    s.grouping.owner caseId = some owner ↔
      ∃ child, s.atomicCase? caseId = some child ∧ child.metaCaseId = owner ∧ owner ≠ "" := by
  change (s.atomicCase? caseId).bind _ = some owner ↔ _
  rw [Option.bind_eq_some_iff]
  refine exists_congr fun child => and_congr_right fun _ => ?_
  unfold truthyId
  rw [Option.filter_eq_some_iff]
  constructor
  · rintro ⟨howner, hne⟩
    cases howner
    exact ⟨rfl, by simpa using hne⟩
  · rintro ⟨rfl, hne⟩
    exact ⟨rfl, by simpa using hne⟩

/-- The relation and the marks are all that membership reads. -/
theorem Correlated.consistent (h : Correlated s) : MembershipConsistent s where
  listed := by
    intro metaCaseId metaCase caseId hmeta
    rw [← mem_grouping hmeta, h.agrees, owner_eq_some]
    constructor
    · rintro ⟨child, hchild, hid, -⟩
      exact ⟨child, hchild, hid⟩
    · rintro ⟨child, hchild, hid⟩
      exact ⟨child, hchild, hid, (h.active metaCaseId metaCase hmeta).1⟩
  single := by
    intro first second metaCase other caseId hfirst hsecond hmem hother
    exact h.agrees.unique ((mem_grouping hfirst).2 hmem) ((mem_grouping hsecond).2 hother)
  covered := h.covered

end Sides

/-! ## Writing both sides -/

/-- A meta case and one of its children, or a case that may become one, written together. -/
structure Rewritten (s t : Store) (metaCase metaCase' : MetaCaseProjection)
    (child child' : AtomicCaseProjection) : Prop where
  stored : s.metaCase? metaCase.caseId = some metaCase
  known : s.atomicCase? child.caseId = some child
  metaCaseId : metaCase'.caseId = metaCase.caseId
  caseId : child'.caseId = child.caseId
  cases : t.cases = (s.cases.put (.storm metaCase')).put (.atomic child')

section Writing

variable {s t : Store} {metaCase metaCase' : MetaCaseProjection}
  {child child' : AtomicCaseProjection}

theorem Rewritten.metaCase? (h : Rewritten s t metaCase metaCase' child child') (key : String) :
    t.metaCase? key = if key = metaCase.caseId then some metaCase' else s.metaCase? key := by
  have hchild : s.cases.get? child.caseId = some (.atomic child) :=
    atomicCase?_eq_some.1 h.known
  have hstored : s.cases.get? metaCase.caseId = some (.storm metaCase) :=
    metaCase?_eq_some.1 h.stored
  have hne : child.caseId ≠ metaCase.caseId := by
    intro heq
    rw [heq, hstored] at hchild
    cases hchild
  unfold Store.metaCase?
  rw [h.cases, Table.get?_put, Table.get?_put]
  change ((if child'.caseId = key then some (CaseProjection.atomic child') else
    if metaCase'.caseId = key then some (.storm metaCase') else s.cases.get? key).bind
      CaseProjection.storm?) = _
  rw [h.caseId, h.metaCaseId]
  by_cases hkey : key = metaCase.caseId
  · subst hkey
    rw [if_neg hne, if_pos rfl, if_pos rfl]
    rfl
  · rw [if_neg (Ne.symm hkey), if_neg hkey]
    split
    · rename_i heq
      rw [← heq, hchild]
      rfl
    · rfl

theorem Rewritten.atomicCase? (h : Rewritten s t metaCase metaCase' child child') (key : String) :
    t.atomicCase? key = if key = child.caseId then some child' else s.atomicCase? key := by
  have hstored : s.cases.get? metaCase.caseId = some (.storm metaCase) :=
    metaCase?_eq_some.1 h.stored
  unfold Store.atomicCase?
  rw [h.cases, Table.get?_put, Table.get?_put]
  change ((if child'.caseId = key then some (CaseProjection.atomic child') else
    if metaCase'.caseId = key then some (.storm metaCase') else s.cases.get? key).bind
      CaseProjection.atomic?) = _
  rw [h.caseId, h.metaCaseId]
  by_cases hkey : key = child.caseId
  · subst hkey
    rw [if_pos rfl, if_pos rfl]
    rfl
  · rw [if_neg (Ne.symm hkey), if_neg hkey]
    split
    · rename_i heq
      rw [← heq, hstored]
      rfl
    · rfl

end Writing

/-! ## The calls -/

/-- The meta case and the case that `attach_child` would write. -/
def Store.attachable? (s : Store) (metaCaseId childCaseId : String) :
    Option (MetaCaseProjection × AtomicCaseProjection) :=
  match s.metaCase? metaCaseId, s.atomicCase? childCaseId with
  | some metaCase, some child =>
    if s.HeldElsewhere child metaCase.caseId then none else some (metaCase, child)
  | _, _ => none

section Calls

variable (policy : CasePolicy) {s : Store}

theorem attachable?_eq_some {metaCaseId childCaseId : String} {metaCase : MetaCaseProjection}
    {child : AtomicCaseProjection} :
    s.attachable? metaCaseId childCaseId = some (metaCase, child) ↔
      s.metaCase? metaCaseId = some metaCase ∧ s.atomicCase? childCaseId = some child ∧
        ¬ s.HeldElsewhere child metaCase.caseId := by
  unfold Store.attachable?
  cases hmeta : s.metaCase? metaCaseId with
  | none => simp
  | some stored =>
    cases hchild : s.atomicCase? childCaseId with
    | none => simp
    | some known =>
      simp only [Option.ite_none_left_eq_some, Option.some.injEq, Prod.mk.injEq]
      constructor
      · rintro ⟨hfree, rfl, rfl⟩
        exact ⟨rfl, rfl, hfree⟩
      · rintro ⟨rfl, rfl, hfree⟩
        exact ⟨hfree, rfl, rfl⟩

/-- Both guards are taken when both cases are stored. -/
theorem bothGuards_run {α : Type} {first second : String} (body : StoreM α)
    (hfirst : (s.cases.get? first).isSome) (hsecond : (s.cases.get? second).isSome) :
    caseWriteGuard (min first second) (caseWriteGuard (max first second) body) s = body s := by
  have hmin : (s.cases.get? (min first second)).isSome := by
    rcases min_choice first second with h | h <;> rwa [h]
  have hmax : (s.cases.get? (max first second)).isSome := by
    rcases max_choice first second with h | h <;> rwa [h]
  rw [caseWriteGuard_run, if_pos hmin, caseWriteGuard_run, if_pos hmax]

/-- A body that raises before it writes does so under the guards. -/
theorem bothGuards_refused {α : Type} (first second : String) {body : StoreM α}
    (h : ∃ e, body s = (.error e, s)) :
    ∃ e, caseWriteGuard (min first second) (caseWriteGuard (max first second) body) s =
      (.error e, s) := by
  rw [caseWriteGuard_run]
  split
  · rw [caseWriteGuard_run]
    split
    · exact h
    · exact ⟨_, rfl⟩
  · exact ⟨_, rfl⟩

section Attach

variable {metaCaseId childCaseId : String} (reason : String) (confidence : PyFloat)
  (actorId : String) (independentActionRequired : Bool) (draw : Draw)

/-- **An attachment that is not refused writes both sides.** -/
theorem attachChild_written {metaCase : MetaCaseProjection} {child : AtomicCaseProjection}
    (h : s.attachable? metaCaseId childCaseId = some (metaCase, child)) :
    ∃ result t, attachChild policy metaCaseId childCaseId reason confidence actorId
        independentActionRequired draw s = (.ok result, t) ∧
      Rewritten s t metaCase (withChild policy metaCase child draw.now)
        child (attachedTo policy child metaCase.caseId independentActionRequired draw.now) := by
  obtain ⟨hmeta, hchild, hfree⟩ := attachable?_eq_some.1 h
  obtain rfl := caseId_of_metaCase? hmeta
  obtain rfl := caseId_of_atomicCase? hchild
  unfold attachChild
  rw [bothGuards_run _ (by rw [metaCase?_eq_some.1 hmeta]; rfl)
    (by rw [atomicCase?_eq_some.1 hchild]; rfl)]
  simp only [requireMetaCase, bind_bind_run, peek_bind_run, hmeta, orRaise_bind_run,
    requireAtomicCase_bind_run, hchild, raiseIf_bind_run, hfree, decide_false, Bool.false_eq_true,
    if_false, upsertCase, alter_bind_run, pure_bind_run]
  obtain ⟨stored, ev, ix, hrun⟩ := storeEvent_run _ _
  exact ⟨_, _, bind_ok hrun, hmeta, hchild, rfl, rfl, rfl⟩

/-- A refused attachment writes nothing. -/
theorem attachChild_refused (h : s.attachable? metaCaseId childCaseId = none) :
    ∃ e, attachChild policy metaCaseId childCaseId reason confidence actorId
      independentActionRequired draw s = (.error e, s) := by
  unfold attachChild
  apply bothGuards_refused
  unfold Store.attachable? at h
  simp only [requireMetaCase, bind_bind_run, peek_bind_run, orRaise_bind_run]
  cases hmeta : s.metaCase? metaCaseId with
  | none => exact ⟨_, rfl⟩
  | some metaCase =>
    simp only [requireAtomicCase_bind_run, peek_bind_run]
    cases hchild : s.atomicCase? childCaseId with
    | none => exact ⟨_, rfl⟩
    | some child =>
      rw [hmeta, hchild] at h
      have hheld : s.HeldElsewhere child metaCase.caseId := by
        by_contra hfree
        simp [hfree] at h
      exact ⟨.valueError, by simp [hheld]⟩

end Attach

section Detach

variable {metaCaseId childCaseId : String} (reason actorId : String) (draw : Draw)

theorem detachChild_written {metaCase : MetaCaseProjection} {child : AtomicCaseProjection}
    (hmeta : s.metaCase? metaCaseId = some metaCase)
    (hchild : s.atomicCase? childCaseId = some child) :
    ∃ result t, detachChild policy metaCaseId childCaseId reason actorId draw s =
        (.ok result, t) ∧
      Rewritten s t metaCase (withoutChild policy metaCase child.caseId draw.now)
        child (detachedFrom policy child metaCase.caseId draw.now) := by
  obtain rfl := caseId_of_metaCase? hmeta
  obtain rfl := caseId_of_atomicCase? hchild
  unfold detachChild
  rw [bothGuards_run _ (by rw [metaCase?_eq_some.1 hmeta]; rfl)
    (by rw [atomicCase?_eq_some.1 hchild]; rfl)]
  simp only [requireMetaCase, bind_bind_run, peek_bind_run, hmeta, orRaise_bind_run,
    requireAtomicCase_bind_run, hchild, upsertCase, alter_bind_run, pure_bind_run]
  obtain ⟨stored, ev, ix, hrun⟩ := storeEvent_run _ _
  exact ⟨_, _, bind_ok hrun, hmeta, hchild, rfl, rfl, rfl⟩

theorem detachChild_refused
    (h : s.metaCase? metaCaseId = none ∨ s.atomicCase? childCaseId = none) :
    ∃ e, detachChild policy metaCaseId childCaseId reason actorId draw s = (.error e, s) := by
  unfold detachChild
  apply bothGuards_refused
  simp only [requireMetaCase, bind_bind_run, peek_bind_run, orRaise_bind_run]
  cases hmeta : s.metaCase? metaCaseId with
  | none => exact ⟨_, rfl⟩
  | some metaCase =>
    have hchild := h.resolve_left (by rw [hmeta]; exact nofun)
    simp only [requireAtomicCase_bind_run, hchild]
    exact ⟨_, rfl⟩

end Detach

section Mark

variable {childCaseId : String} (required : Bool) (reason actorId : String) (draw : Draw)

theorem markIndependent_written {child : AtomicCaseProjection}
    (hchild : s.atomicCase? childCaseId = some child) :
    (markIndependentActionRequired policy childCaseId required reason actorId draw s).2.cases =
      s.cases.put (.atomic (markedIndependent policy child required draw.now)) := by
  unfold markIndependentActionRequired
  rw [caseWriteGuard_run, if_pos (by rw [atomicCase?_eq_some.1 hchild]; rfl)]
  simp only [requireAtomicCase_bind_run, hchild, upsertCase, bind_bind_run, alter_bind_run,
    pure_bind_run]
  obtain ⟨stored, ev, ix, hrun⟩ := storeEvent_run _ _
  rw [bind_ok hrun]
  rfl

theorem markIndependent_refused (h : s.atomicCase? childCaseId = none) :
    (markIndependentActionRequired policy childCaseId required reason actorId draw s).2 = s := by
  unfold markIndependentActionRequired
  rw [caseWriteGuard_run]
  split
  · simp only [requireAtomicCase_bind_run, h]
  · rfl

end Mark

end Calls

/-! ## The invariant -/

section Invariant

variable (policy : CasePolicy) {s t : Store}

/-- Only the cases matter. -/
theorem Correlated.congr (hs : Correlated s) (h : t.cases = s.cases) : Correlated t := by
  have hmeta : t.metaCase? = s.metaCase? := by
    unfold Store.metaCase?
    rw [h]
  have hatomic : t.atomicCase? = s.atomicCase? := by
    unfold Store.atomicCase?
    rw [h]
  have hgrouping : t.grouping = s.grouping := by
    unfold Store.grouping
    rw [hmeta, hatomic]
  exact ⟨hgrouping ▸ hs.agrees, hmeta ▸ hs.active, hatomic ▸ hs.covered⟩

/-- A meta case that stays active and a child whose marks are in order. -/
theorem Rewritten.correlated {metaCase metaCase' : MetaCaseProjection}
    {child child' : AtomicCaseProjection} (h : Rewritten s t metaCase metaCase' child child')
    (hs : Correlated s) (hagrees : t.grouping.Agrees) (hstatus : metaCase'.status = metaCase.status)
    (hcovered : child'.coveredByMetaCase = true →
      child'.metaCaseId ≠ "" ∧ child'.independentActionRequired = false) : Correlated t where
  agrees := hagrees
  active := by
    intro key found hfound
    rw [h.metaCase?] at hfound
    split at hfound
    · rename_i hkey
      cases hfound
      rw [hkey, hstatus]
      exact hs.active metaCase.caseId metaCase h.stored
    · exact hs.active key found hfound
  covered := by
    intro key found hfound
    rw [h.atomicCase?] at hfound
    split at hfound
    · cases hfound
      exact hcovered
    · exact hs.covered key found hfound

/-- The members that a rewritten meta case lists. -/
theorem Rewritten.mem_members {metaCase metaCase' : MetaCaseProjection}
    {child child' : AtomicCaseProjection} (h : Rewritten s t metaCase metaCase' child child')
    (key caseId : String) : caseId ∈ t.grouping.members key ↔
      if key = metaCase.caseId then caseId ∈ metaCase'.childCaseIds
      else caseId ∈ s.grouping.members key := by
  change (∃ found, t.metaCase? key = some found ∧ _) ↔ _
  rw [h.metaCase?]
  split
  · simp
  · rfl

/-- The owner that a rewritten case names. -/
theorem Rewritten.owner {metaCase metaCase' : MetaCaseProjection}
    {child child' : AtomicCaseProjection} (h : Rewritten s t metaCase metaCase' child child')
    (caseId : String) : t.grouping.owner caseId =
      if caseId = child.caseId then truthyId (some child'.metaCaseId)
      else s.grouping.owner caseId := by
  change (t.atomicCase? caseId).bind _ = _
  rw [h.atomicCase?]
  split <;> rfl

theorem truthyId_of_ne {text : String} (h : text ≠ "") : truthyId (some text) = some text := by
  simp [truthyId, h]

/-- The child of an attachment belongs to no other meta case. -/
theorem owner_of_attachable {metaCaseId childCaseId : String} {metaCase : MetaCaseProjection}
    {child : AtomicCaseProjection} (hs : Correlated s)
    (h : s.attachable? metaCaseId childCaseId = some (metaCase, child)) (owner : String)
    (howner : s.grouping.owner child.caseId = some owner) : owner = metaCase.caseId := by
  obtain ⟨hmeta, hchild, hfree⟩ := attachable?_eq_some.1 h
  obtain ⟨other, hother, -⟩ : ∃ other, s.metaCase? owner = some other ∧ _ :=
    (hs.agrees owner child.caseId).2 howner
  obtain ⟨stored, hstored, hid, hne⟩ := owner_eq_some.1 howner
  rw [caseId_of_atomicCase? hchild, hchild] at hstored
  cases hstored
  by_contra hdiff
  refine hfree ⟨hid ▸ hne, hid ▸ hdiff, other, ?_, (hs.active owner other hother).2⟩
  rw [hid]
  exact hother

/-- Attached on both sides. -/
theorem Rewritten.attached {metaCase : MetaCaseProjection} {child : AtomicCaseProjection}
    {independentActionRequired : Bool} {now : String}
    (h : Rewritten s t metaCase (withChild policy metaCase child now) child
      (attachedTo policy child metaCase.caseId independentActionRequired now))
    (hne : metaCase.caseId ≠ "") :
    t.grouping = s.grouping.attach metaCase.caseId child.caseId := by
  apply Grouping.ext
  · funext key
    ext caseId
    rw [h.mem_members, Grouping.mem_attach]
    by_cases hkey : key = metaCase.caseId
    · subst hkey
      rw [if_pos rfl, mem_grouping h.stored]
      unfold withChild
      split <;> simp_all [or_comm]
    · simp [hkey]
  · funext caseId
    rw [h.owner]
    change _ = Function.update s.grouping.owner child.caseId (some metaCase.caseId) caseId
    rw [Function.update_apply]
    split
    · exact truthyId_of_ne hne
    · rfl

/-- Detached on both sides. -/
theorem Rewritten.detached {metaCase : MetaCaseProjection} {child : AtomicCaseProjection}
    {now : String} (h : Rewritten s t metaCase (withoutChild policy metaCase child.caseId now) child
      (detachedFrom policy child metaCase.caseId now)) (hne : metaCase.caseId ≠ "") :
    t.grouping = s.grouping.detach metaCase.caseId child.caseId := by
  apply Grouping.ext
  · funext key
    ext caseId
    rw [h.mem_members, Grouping.mem_detach]
    by_cases hkey : key = metaCase.caseId
    · subst hkey
      rw [if_pos rfl, mem_grouping h.stored]
      simp [withoutChild]
    · simp [hkey]
  · funext caseId
    have howner : s.grouping.owner child.caseId = truthyId (some child.metaCaseId) := by
      change (s.atomicCase? child.caseId).bind _ = _
      rw [h.known]
      rfl
    rw [h.owner]
    change _ = Function.update s.grouping.owner child.caseId _ caseId
    rw [Function.update_apply, howner]
    split
    · unfold detachedFrom
      by_cases hmine : child.metaCaseId = metaCase.caseId
      · dsimp only
        rw [if_pos hmine, hmine, truthyId_of_ne hne, if_pos rfl]
        rfl
      · dsimp only
        rw [if_neg hmine, if_neg]
        intro hsome
        obtain ⟨heq, -⟩ := Option.filter_eq_some_iff.1 hsome
        exact hmine (Option.some.inj heq)
    · rfl

section Keeps

variable {metaCaseId childCaseId reason actorId : String} {draw : Draw}

theorem attachChild_correlated (confidence : PyFloat) (independentActionRequired : Bool) :
    Keeps Correlated (attachChild policy metaCaseId childCaseId reason confidence actorId
      independentActionRequired draw) := by
  intro s hs
  rcases h : s.attachable? metaCaseId childCaseId with _ | ⟨metaCase, child⟩
  · obtain ⟨e, hrun⟩ := attachChild_refused policy reason confidence actorId
      independentActionRequired draw h
    rwa [hrun]
  obtain ⟨result, t, hrun, hwritten⟩ := attachChild_written policy reason confidence actorId
    independentActionRequired draw h
  rw [hrun]
  have hne := (hs.active _ _ hwritten.stored).1
  refine hwritten.correlated hs ?_ rfl fun hcovered => ⟨hne, ?_⟩
  · rw [hwritten.attached policy hne]
    exact hs.agrees.attach fun owner howner => owner_of_attachable hs h owner howner
  · simpa [attachedTo] using hcovered

theorem detachChild_correlated :
    Keeps Correlated (detachChild policy metaCaseId childCaseId reason actorId draw) := by
  intro s hs
  rcases hmeta : s.metaCase? metaCaseId with _ | metaCase
  · obtain ⟨e, hrun⟩ := detachChild_refused policy reason actorId draw (Or.inl hmeta)
    rwa [hrun]
  rcases hchild : s.atomicCase? childCaseId with _ | child
  · obtain ⟨e, hrun⟩ := detachChild_refused policy reason actorId draw (Or.inr hchild)
    rwa [hrun]
  obtain ⟨result, t, hrun, hwritten⟩ := detachChild_written policy reason actorId draw hmeta hchild
  rw [hrun]
  have hne := (hs.active _ _ hwritten.stored).1
  refine hwritten.correlated hs ?_ rfl fun hcovered => ?_
  · rw [hwritten.detached policy hne]
    exact hs.agrees.detach
  · unfold detachedFrom at hcovered ⊢
    dsimp only at hcovered ⊢
    by_cases hmine : child.metaCaseId = metaCase.caseId
    · rw [if_pos hmine] at hcovered
      cases hcovered
    · rw [if_neg hmine] at hcovered ⊢
      exact hs.covered _ child hwritten.known hcovered

/-- The mark moves no case between meta cases. -/
theorem markIndependent_correlated (required : Bool) :
    Keeps Correlated
      (markIndependentActionRequired policy childCaseId required reason actorId draw) := by
  intro s hs
  rcases hchild : s.atomicCase? childCaseId with _ | child
  · rwa [markIndependent_refused policy required reason actorId draw hchild]
  have hcases := markIndependent_written policy required reason actorId draw hchild
  generalize (markIndependentActionRequired policy childCaseId required reason actorId draw s).2 = t
    at hcases ⊢
  obtain rfl := caseId_of_atomicCase? hchild
  have hatomic := atomicCase?_put hcases
  have hmeta : t.metaCase? = s.metaCase? := by
    funext key
    unfold Store.metaCase?
    rw [hcases, Table.get?_put]
    split
    · rename_i hkey
      change child.caseId = key at hkey
      rw [← hkey, atomicCase?_eq_some.1 hchild]
      rfl
    · rfl
  have hgrouping : t.grouping = s.grouping := by
    apply Grouping.ext
    · unfold Store.grouping
      rw [hmeta]
    · funext key
      change (t.atomicCase? key).bind _ = (s.atomicCase? key).bind _
      rw [hatomic]
      split
      · rename_i hkey
        change child.caseId = key at hkey
        rw [← hkey, hchild]
        rfl
      · rfl
  refine ⟨hgrouping ▸ hs.agrees, hmeta ▸ hs.active, fun key found hfound hcovered => ?_⟩
  rw [hatomic] at hfound
  split at hfound
  · cases hfound
    have hold := hs.covered _ child hchild
    unfold markedIndependent at hcovered ⊢
    cases required with
    | true => cases hcovered
    | false =>
      refine ⟨?_, rfl⟩
      by_cases hmine : child.metaCaseId = ""
      · simp only [Bool.false_eq_true, if_false, hmine, ne_eq, not_true] at hcovered
        exact (hold hcovered).1
      · exact hmine
  · exact hs.covered key found hfound hcovered

end Keeps

/-- A new meta case is active and has no children yet. -/
theorem newMetaCase_ok {request : MetaCaseRequest} {fingerprint : String} {draws : MetaCaseDraws}
    {metaCase : MetaCaseProjection}
    (h : newMetaCase policy request fingerprint draws = .ok metaCase) :
    metaCase.caseId = draws.metaCaseId ∧ metaCase.childCaseIds = [] ∧
      metaCase.status ∉ RELEASING_STATUSES := by
  unfold newMetaCase at h
  dsimp only at h
  split at h
  · cases h
  · split at h
    · cases h
    · cases h
      refine ⟨rfl, rfl, ?_⟩
      unfold MetaCaseProjection.fillCounts
      dsimp only
      split <;> decide

theorem metaCase?_put_storm (s : Store) (metaCase : MetaCaseProjection) (key : String) :
    Store.metaCase? { s with cases := s.cases.put (.storm metaCase) } key =
      if key = metaCase.caseId then some metaCase else s.metaCase? key := by
  unfold Store.metaCase?
  rw [Table.get?_put]
  change ((if metaCase.caseId = key then some (CaseProjection.storm metaCase)
    else s.cases.get? key).bind CaseProjection.storm?) = _
  by_cases hkey : key = metaCase.caseId
  · rw [if_pos hkey.symm, if_pos hkey]
    rfl
  · rw [if_neg (Ne.symm hkey), if_neg hkey]

theorem atomicCase?_put_storm {metaCase : MetaCaseProjection}
    (hfresh : s.cases.get? metaCase.caseId = none) :
    Store.atomicCase? { s with cases := s.cases.put (.storm metaCase) } = s.atomicCase? := by
  funext key
  unfold Store.atomicCase?
  rw [Table.get?_put]
  split
  · rename_i hkey
    change metaCase.caseId = key at hkey
    rw [← hkey, hfresh]
    rfl
  · rfl

/-- A meta case without children, under a new id. -/
theorem Correlated.put_metaCase (hs : Correlated s) {metaCase : MetaCaseProjection}
    (hfresh : s.cases.get? metaCase.caseId = none) (hne : metaCase.caseId ≠ "")
    (hchildren : metaCase.childCaseIds = []) (hactive : metaCase.status ∉ RELEASING_STATUSES) :
    Correlated { s with cases := s.cases.put (.storm metaCase) } := by
  have hmeta := metaCase?_put_storm s metaCase
  have hatomic := atomicCase?_put_storm hfresh
  have hgrouping : Store.grouping { s with cases := s.cases.put (.storm metaCase) } =
      s.grouping := by
    apply Grouping.ext
    · funext key
      ext caseId
      change (∃ found, Store.metaCase? _ key = some found ∧ _) ↔
        ∃ found, s.metaCase? key = some found ∧ _
      rw [hmeta]
      split
      · rename_i hkey
        have hnone : s.metaCase? key = none := by
          unfold Store.metaCase?
          rw [hkey, hfresh]
          rfl
        simp [hnone, hchildren]
      · rfl
    · unfold Store.grouping
      rw [hatomic]
  refine ⟨hgrouping ▸ hs.agrees, fun key found hfound => ?_, hatomic ▸ hs.covered⟩
  rw [hmeta] at hfound
  split at hfound
  · rename_i hkey
    cases hfound
    exact ⟨hkey ▸ hne, hactive⟩
  · exact hs.active key found hfound

/-- The attachments of a new meta case. -/
def attachAll (request : MetaCaseRequest) (draws : MetaCaseDraws) : StoreM (List MetaCaseResult) :=
  forEach (fun child => attachChild policy draws.metaCaseId child.1 request.correlationReason
    request.correlationConfidence request.actorId false (draws.attached child.2))
      request.childCaseIds.zipIdx

/-- What `create_meta_case` writes: nothing, or the meta case and then its children. -/
theorem createMetaCase_cases (py : Python) (request : MetaCaseRequest) (draws : MetaCaseDraws)
    (s : Store) :
    (∃ e fingerprint, newMetaCase policy request fingerprint draws = .error e ∧
      (createMetaCase py policy request draws s).2 = s) ∨
    ∃ fingerprint metaCase u, newMetaCase policy request fingerprint draws = .ok metaCase ∧
      u.cases = s.cases.put (.storm metaCase) ∧
        (createMetaCase py policy request draws s).2 = (attachAll policy request draws u).2 := by
  simp only [createMetaCase, ofResult_bind_run]
  cases hnew : newMetaCase policy request _ draws with
  | error e => exact Or.inl ⟨e, _, hnew, rfl⟩
  | ok metaCase =>
    obtain ⟨stored, ev, ix, hrun⟩ := storeEvent_run
      (metaCaseCreatedEvent policy metaCase request.actorId draws.created)
      { s with cases := s.cases.put (.storm metaCase) }
    refine Or.inr ⟨_, metaCase, { s with
      cases := s.cases.put (.storm metaCase)
      events := ev
      caseEvents := ix }, hnew, rfl, ?_⟩
    simp only [upsertCase, bind_bind_run, alter_bind_run, pure_bind_run]
    rw [bind_ok hrun, (newMetaCase_ok policy hnew).1]
    refine bind_state (fun attached t => ?_) _ _
    simp only [requireMetaCase, bind_bind_run, peek_bind_run, orRaise_bind_run]
    cases t.metaCase? draws.metaCaseId <;> rfl

/-- **Creating a meta case keeps the invariant, also when it stops at one of the children.** -/
theorem createMetaCase_correlated (py : Python) (request : MetaCaseRequest) (draws : MetaCaseDraws)
    (hs : Correlated s) (hfresh : s.cases.get? draws.metaCaseId = none)
    (hne : draws.metaCaseId ≠ "") :
    Correlated (createMetaCase py policy request draws s).2 := by
  rcases createMetaCase_cases policy py request draws s with ⟨e, fingerprint, -, hstate⟩ |
    ⟨fingerprint, metaCase, u, hnew, hput, hstate⟩
  · rwa [hstate]
  · obtain ⟨hid, hchildren, hactive⟩ := newMetaCase_ok policy hnew
    rw [← hid] at hfresh hne
    have hcreated : Correlated u := (hs.put_metaCase hfresh hne hchildren hactive).congr hput
    rw [hstate]
    exact Keeps.forEach (fun child => attachChild_correlated policy _ _) _ u hcreated

end Invariant

/-! ## Runs -/

/-- Other calls change neither side of the relation nor the marks, and leave every meta case
active. -/
structure SameMembership (s t : Store) : Prop where
  metaCases : ∀ metaCaseId metaCase, t.metaCase? metaCaseId = some metaCase →
    metaCase.status ∉ RELEASING_STATUSES ∧ ∃ before, s.metaCase? metaCaseId = some before ∧
      before.childCaseIds = metaCase.childCaseIds
  metaCases_kept : ∀ metaCaseId before, s.metaCase? metaCaseId = some before →
    ∃ metaCase, t.metaCase? metaCaseId = some metaCase
  atomic : ∀ caseId case, t.atomicCase? caseId = some case →
    (∃ before, s.atomicCase? caseId = some before ∧ before.metaCaseId = case.metaCaseId ∧
      before.coveredByMetaCase = case.coveredByMetaCase ∧
        before.independentActionRequired = case.independentActionRequired) ∨
    s.atomicCase? caseId = none ∧ case.metaCaseId = "" ∧ case.coveredByMetaCase = false
  atomic_kept : ∀ caseId before, s.atomicCase? caseId = some before →
    ∃ case, t.atomicCase? caseId = some case

inductive MembershipCall where
  | create (request : MetaCaseRequest) (draws : MetaCaseDraws)
  | attach (metaCaseId childCaseId reason : String) (confidence : PyFloat) (actorId : String)
      (independentActionRequired : Bool) (draw : Draw)
  | detach (metaCaseId childCaseId reason actorId : String) (draw : Draw)
  | mark (childCaseId : String) (required : Bool) (reason actorId : String) (draw : Draw)
  | elsewhere (after : Store)

/-- The state that a call leaves, whether it returns or raises. -/
def MembershipCall.next (py : Python) (policy : CasePolicy) (s : Store) : MembershipCall → Store
  | .create request draws => (createMetaCase py policy request draws s).2
  | .attach metaCaseId childCaseId reason confidence actorId independentActionRequired draw =>
    (attachChild policy metaCaseId childCaseId reason confidence actorId
      independentActionRequired draw s).2
  | .detach metaCaseId childCaseId reason actorId draw =>
    (detachChild policy metaCaseId childCaseId reason actorId draw s).2
  | .mark childCaseId required reason actorId draw =>
    (markIndependentActionRequired policy childCaseId required reason actorId draw s).2
  | .elsewhere after => after

/-- Ids are new, and what happens elsewhere does not touch the relation. -/
def MembershipCall.Allowed (s : Store) : MembershipCall → Prop
  | .create _ draws => s.cases.get? draws.metaCaseId = none ∧ draws.metaCaseId ≠ ""
  | .elsewhere after => SameMembership s after
  | _ => True

def membershipStep (py : Python) (policy : CasePolicy) (s : Store) (call : MembershipCall)
    (t : Store) : Prop := call.Allowed s ∧ t = call.next py policy s

/-- No case belongs to a meta case yet. -/
structure Uncorrelated (s : Store) : Prop where
  metaCases : ∀ metaCaseId metaCase, s.metaCase? metaCaseId = some metaCase →
    metaCaseId ≠ "" ∧ metaCase.status ∉ RELEASING_STATUSES ∧ metaCase.childCaseIds = []
  atomic : ∀ caseId case, s.atomicCase? caseId = some case →
    case.metaCaseId = "" ∧ case.coveredByMetaCase = false

section Runs

variable {py : Python} {policy : CasePolicy} {s t : Store}

theorem Uncorrelated.correlated (h : Uncorrelated s) : Correlated s where
  agrees := by
    intro metaCaseId caseId
    constructor
    · rintro ⟨metaCase, hmeta, hmem⟩
      rw [(h.metaCases metaCaseId metaCase hmeta).2.2] at hmem
      cases hmem
    · intro howner
      obtain ⟨child, hchild, hid, hne⟩ := owner_eq_some.1 howner
      exact absurd (hid.symm.trans (h.atomic caseId child hchild).1) hne
  active := fun metaCaseId metaCase hmeta =>
    ⟨(h.metaCases metaCaseId metaCase hmeta).1, (h.metaCases metaCaseId metaCase hmeta).2.1⟩
  covered := by
    intro caseId child hchild hcovered
    rw [(h.atomic caseId child hchild).2] at hcovered
    cases hcovered

theorem SameMembership.grouping_eq (h : SameMembership s t) : t.grouping = s.grouping := by
  apply Grouping.ext
  · funext metaCaseId
    ext caseId
    constructor
    · rintro ⟨metaCase, hmeta, hmem⟩
      obtain ⟨-, before, hbefore, heq⟩ := h.metaCases metaCaseId metaCase hmeta
      exact ⟨before, hbefore, heq ▸ hmem⟩
    · rintro ⟨before, hbefore, hmem⟩
      obtain ⟨metaCase, hmeta⟩ := h.metaCases_kept metaCaseId before hbefore
      obtain ⟨-, before', hbefore', heq⟩ := h.metaCases metaCaseId metaCase hmeta
      rw [hbefore] at hbefore'
      cases hbefore'
      exact ⟨metaCase, hmeta, heq ▸ hmem⟩
  · funext caseId
    change (t.atomicCase? caseId).bind _ = (s.atomicCase? caseId).bind _
    rcases hcase : t.atomicCase? caseId with _ | case
    · rcases hbefore : s.atomicCase? caseId with _ | before
      · rfl
      · obtain ⟨case, hcase'⟩ := h.atomic_kept caseId before hbefore
        rw [hcase] at hcase'
        cases hcase'
    · rcases h.atomic caseId case hcase with ⟨before, hbefore, hid, -⟩ | ⟨hnone, hid, -⟩
      · rw [hbefore]
        change truthyId (some case.metaCaseId) = truthyId (some before.metaCaseId)
        rw [hid]
      · rw [hnone]
        change truthyId (some case.metaCaseId) = none
        rw [hid]
        rfl

theorem SameMembership.correlated (h : SameMembership s t) (hs : Correlated s) : Correlated t where
  agrees := h.grouping_eq ▸ hs.agrees
  active := by
    intro metaCaseId metaCase hmeta
    obtain ⟨hactive, before, hbefore, -⟩ := h.metaCases metaCaseId metaCase hmeta
    exact ⟨(hs.active metaCaseId before hbefore).1, hactive⟩
  covered := by
    intro caseId case hcase hcovered
    rcases h.atomic caseId case hcase with ⟨before, hbefore, hid, hsame, hmark⟩ | ⟨-, -, hopen⟩
    · rw [← hid, ← hmark]
      exact hs.covered caseId before hbefore (hsame.trans hcovered)
    · rw [hopen] at hcovered
      cases hcovered

/-- **Every call keeps the invariant.** -/
theorem membershipStep_correlated {call : MembershipCall} (hs : Correlated s)
    (h : membershipStep py policy s call t) : Correlated t := by
  obtain ⟨hallowed, rfl⟩ := h
  cases call with
  | create request draws =>
    exact createMetaCase_correlated policy py request draws hs hallowed.1 hallowed.2
  | attach metaCaseId childCaseId reason confidence actorId independentActionRequired draw =>
    exact attachChild_correlated policy confidence independentActionRequired s hs
  | detach metaCaseId childCaseId reason actorId draw => exact detachChild_correlated policy s hs
  | mark childCaseId required reason actorId draw =>
    exact markIndependent_correlated policy required s hs
  | elsewhere after => exact SameMembership.correlated hallowed hs

end Runs

/-- **Over every run of calls, also of calls that raise, membership is consistent.** -/
theorem membership_run {py : Python} {policy : CasePolicy} {s t : Store}
    {calls : List MembershipCall} (hrun : Run (membershipStep py policy) s calls t)
    (hs : Uncorrelated s) : MembershipConsistent t :=
  (hrun.invariant (fun _ _ _ h hstep => membershipStep_correlated h hstep) hs.correlated).consistent

/-- Two cases that belong to no meta case. -/
def pairStore : Store where
  cases := (Table.empty.put (.atomic {
    caseId := "CASE-1"
    openedAt := "2026-01-01T00:00:00+00:00"
    updatedAt := "2026-01-01T00:00:00+00:00" })).put (.atomic {
    caseId := "CASE-2"
    openedAt := "2026-01-01T00:00:00+00:00"
    updatedAt := "2026-01-01T00:00:00+00:00" })

/-- A meta case whose second child does not exist, and a mark on the first. -/
def halfCalls : List MembershipCall :=
  [.create {
      title := "Storm"
      correlationReason := "shared_site"
      correlationConfidence := .fin (4 / 5)
      childCaseIds := ["CASE-1", "CASE-9", "CASE-2"] } {
      metaCaseId := "META-1"
      created := ⟨"event-1", "2026-01-01T00:01:00+00:00"⟩
      attached := fun i => ⟨"event-child-" ++ toString i, "2026-01-01T00:01:00+00:00"⟩ },
    .mark "CASE-1" true "operator" "alice" ⟨"event-2", "2026-01-01T00:02:00+00:00"⟩]

theorem uncorrelated_pairStore : Uncorrelated pairStore where
  metaCases := by
    intro metaCaseId metaCase h
    have hmem := Table.mem_of_get? (metaCase?_eq_some.1 h)
    change _ ∈ [_, _] at hmem
    simp at hmem
  atomic := by
    intro caseId case h
    have hmem := Table.mem_of_get? (atomicCase?_eq_some.1 h)
    change _ ∈ [_, _] at hmem
    simp only [List.mem_cons, CaseProjection.atomic.injEq, List.not_mem_nil, or_false] at hmem
    rcases hmem with rfl | rfl <;> exact ⟨rfl, rfl⟩

theorem membership_run_half :
    ((halfCalls.foldl (MembershipCall.next asciiPython {}) pairStore).metaCase? "META-1").map
        MetaCaseProjection.childCaseIds = some ["CASE-1"] ∧
      MembershipConsistent (halfCalls.foldl (MembershipCall.next asciiPython {}) pairStore) :=
  ⟨by decide +kernel, membership_run (Run.of_valid ⟨⟨by rfl, by decide⟩, trivial, trivial⟩)
    uncorrelated_pairStore⟩

end NocAgent.Cases
