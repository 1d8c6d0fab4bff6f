import NocAgent.Cases.AliasTable
import NocAgent.Lib.Chains

/-!
# Chains of linked cases

* `Rooted` — following the parents of a linked case ends at one that is not linked.
* `AliasesOpen` — no alias resolves to a linked case.
* `Tangles` — a case is linked to a parent that is itself linked, and closes a cycle or hands it
  an alias.
* `links_run_iff` — over every run of links from cases that are not linked: both hold in every
  state exactly when no link tangles.
-/

set_option autoImplicit false

namespace NocAgent.Cases

open Effects Effects.Action Keyed Lts Chains

/-- `last_diagnosis["linked_parent_case"]`, when it is a case id. -/
def AtomicCaseProjection.linkedParentCase (case : AtomicCaseProjection) : Option String :=
  match case.lastDiagnosis.get "linked_parent_case" with
  | .str parentCaseId => some parentCaseId
  | _ => none

/-- The parent of a linked case. -/
def Store.parent? (s : Store) (caseId : String) : Option String :=
  (s.atomicCase? caseId).bind fun case =>
    if case.status = .linked then case.linkedParentCase else none

/-- Following the parents of a linked case ends at a case that is not linked. -/
def Rooted (s : Store) : Prop :=
  ∀ caseId case, s.atomicCase? caseId = some case → case.status = .linked →
    ∃ rootId root, Ends s.parent? caseId rootId ∧ s.atomicCase? rootId = some root ∧
      root.status ≠ .linked

/-- No alias resolves to a linked case. -/
def AliasesOpen (s : Store) : Prop :=
  ∀ aliasType aliasValue caseId, (resolveAlias aliasType aliasValue s).1 = .ok (some caseId) →
    ∀ case, s.atomicCase? caseId = some case → case.status ≠ .linked

/-- **Every linked case leads to one that is not, and no alias leads to a linked case.** -/
def LinksSound (s : Store) : Prop := Rooted s ∧ AliasesOpen s

/-- No case is linked. -/
def Unlinked (s : Store) : Prop :=
  ∀ caseId case, s.atomicCase? caseId = some case → case.status ≠ .linked

/-- One link with fresh ids for the aliases. -/
def linkStep (s : Store) (call : LinkCall) (t : Store) : Prop :=
  call.draws.Fresh s ∧ t = (call.run s).2

/-- The call links a case to a linked parent whose chain ends in that case, or hands an alias
over to it. -/
def Tangles (s : Store) (call : LinkCall) : Prop :=
  ∃ child parent, s.linkable? call = some (child, parent) ∧ parent.status = .linked ∧
    (Ends s.parent? parent.caseId child.caseId ∨
      ∃ entry ∈ s.activeAliases child.caseId, s.aliasTables.Movable entry)

/-! ## Parents -/

/-- Every linked case has a parent among the cases. -/
def Parented (s : Store) : Prop :=
  ∀ caseId case, s.atomicCase? caseId = some case → case.status = .linked →
    ∃ parentId parent, case.linkedParentCase = some parentId ∧
      s.atomicCase? parentId = some parent

section Cases

variable {s t : Store}

theorem parent?_of_linked {caseId : String} {case : AtomicCaseProjection}
    (h : s.atomicCase? caseId = some case) (hlinked : case.status = .linked) :
    s.parent? caseId = case.linkedParentCase := by
  unfold Store.parent?
  rw [h, Option.bind_some, if_pos hlinked]

theorem parent?_of_open {caseId : String} {case : AtomicCaseProjection}
    (h : s.atomicCase? caseId = some case) (hopen : case.status ≠ .linked) :
    s.parent? caseId = none := by
  unfold Store.parent?
  rw [h, Option.bind_some, if_neg hopen]

theorem parent?_of_none {caseId : String} (h : s.atomicCase? caseId = none) :
    s.parent? caseId = none := by
  unfold Store.parent?
  rw [h, Option.bind_none]

/-- A chain of cases stays among the cases and ends at one that is not linked. -/
theorem root_of_ends (h : Parented s) {caseId rootId : String} {case : AtomicCaseProjection}
    (hcase : s.atomicCase? caseId = some case) (hends : Ends s.parent? caseId rootId) :
    ∃ root, s.atomicCase? rootId = some root ∧ root.status ≠ .linked := by
  induction hends generalizing case with
  | @here caseId hend =>
    refine ⟨case, hcase, fun hlinked => ?_⟩
    obtain ⟨parentId, parent, hparent, -⟩ := h caseId case hcase hlinked
    rw [parent?_of_linked hcase hlinked, hparent] at hend
    cases hend
  | @step caseId parentId rootId hparent _ ih =>
    by_cases hlinked : case.status = .linked
    · obtain ⟨parentId', parent, hparent', hget⟩ := h caseId case hcase hlinked
      rw [parent?_of_linked hcase hlinked, hparent'] at hparent
      cases hparent
      exact ih hget
    · rw [parent?_of_open hcase hlinked] at hparent
      cases hparent

/-- **Every linked case leads to one that is not exactly when every chain of parents stops.** -/
theorem rooted_iff (h : Parented s) : Rooted s ↔ Total s.parent? := by
  constructor
  · intro hrooted caseId
    rcases hcase : s.atomicCase? caseId with _ | case
    · exact ⟨caseId, .here (parent?_of_none hcase)⟩
    · by_cases hlinked : case.status = .linked
      · obtain ⟨rootId, root, hends, -⟩ := hrooted caseId case hcase hlinked
        exact ⟨rootId, hends⟩
      · exact ⟨caseId, .here (parent?_of_open hcase hlinked)⟩
  · intro htotal caseId case hcase _
    obtain ⟨rootId, hends⟩ := htotal caseId
    obtain ⟨root, hroot, hopen⟩ := root_of_ends h hcase hends
    exact ⟨rootId, root, hends, hroot, hopen⟩

end Cases

/-! ## Aliases that are handed over -/

/-- The case that an alias key resolves to. -/
def AliasTables.caseOf (tables : AliasTables) (key : AliasType × String) : Option String :=
  ((truthyId (tables.aliasIndex key)).bind fun aliasId => tables.aliases.get? aliasId).bind
    fun found => if found.retiredAt = none then some found.caseId else none

theorem resolves?_eq (s : Store) (aliasType : AliasType) (aliasValue : String) :
    s.resolves? aliasType aliasValue = s.aliasTables.caseOf (aliasKey aliasType aliasValue) := rfl

theorem caseOf_eq_some {tables : AliasTables} {key : AliasType × String} {caseId : String} :
    tables.caseOf key = some caseId ↔ ∃ aliasId row, tables.aliasIndex key = some aliasId ∧
      aliasId ≠ "" ∧ tables.aliases.get? aliasId = some row ∧ row.retiredAt = none ∧
      row.caseId = caseId := by
  unfold AliasTables.caseOf
  constructor
  · intro h
    obtain ⟨row, hrow, hactive⟩ := Option.bind_eq_some_iff.1 h
    obtain ⟨aliasId, hid, hget⟩ := Option.bind_eq_some_iff.1 hrow
    obtain ⟨hindex, hne⟩ := Option.filter_eq_some_iff.1 hid
    split at hactive
    · rename_i hopen
      exact ⟨aliasId, row, hindex, by simpa using hne, hget, hopen, Option.some.inj hactive⟩
    · cases hactive
  · rintro ⟨aliasId, row, hindex, hne, hget, hopen, rfl⟩
    have hid : truthyId (tables.aliasIndex key) = some aliasId := by
      rw [hindex]
      exact Option.filter_eq_some_iff.2 ⟨rfl, by simpa using hne⟩
    rw [hid, Option.bind_some, hget, Option.bind_some, if_pos hopen]

section Moves

variable {fromCaseId toCaseId now : String} {draws : LinkDraws} {entry : CaseIdentityAlias}
  {rest : List CaseIdentityAlias} {tables : AliasTables}

/-- The row of an id after a move. -/
theorem move_get? (tables : AliasTables) (entry : CaseIdentityAlias) (aliasId : String) :
    (tables.move toCaseId now draws entry).aliases.get? aliasId =
      if tables.Movable entry ∧ aliasId = draws.aliasId entry.aliasId then
        some (replacementAlias toCaseId (draws.aliasId entry.aliasId) entry)
      else if aliasId = entry.aliasId then some (entry.retired now)
      else tables.aliases.get? aliasId := by
  have hretired : (entry.retired now).aliasId = entry.aliasId := rfl
  have hreplaced : (replacementAlias toCaseId (draws.aliasId entry.aliasId) entry).aliasId =
      draws.aliasId entry.aliasId := rfl
  unfold AliasTables.move
  by_cases hmovable : tables.Movable entry
  · rw [if_pos hmovable]
    simp only [Table.get?_put, hretired, hreplaced, hmovable, true_and, eq_comm]
  · rw [if_neg hmovable]
    simp only [Table.get?_put, hretired, hmovable, false_and, if_false, eq_comm]

/-- **What a key resolves to after a move**: the new case, or what it resolved to before unless
that was the alias moved. -/
theorem caseOf_move (h : Handing fromCaseId draws (entry :: rest) tables)
    (key : AliasType × String) :
    (tables.move toCaseId now draws entry).caseOf key =
      if tables.Movable entry ∧ key = entry.key then some toCaseId
      else if tables.aliasIndex key = some entry.aliasId then none
      else tables.caseOf key := by
  obtain ⟨htruthy, -, hindex⟩ := h.fresh entry List.mem_cons_self
  unfold AliasTables.caseOf
  rw [move_aliasIndex]
  by_cases hmoved : tables.Movable entry ∧ key = entry.key
  · have hid : truthyId (some (draws.aliasId entry.aliasId)) = some (draws.aliasId entry.aliasId) :=
      Option.filter_eq_some_iff.2 ⟨rfl, by simpa using htruthy⟩
    rw [if_pos hmoved, if_pos hmoved, hid, Option.bind_some, move_get?, if_pos ⟨hmoved.1, rfl⟩,
      Option.bind_some]
    rfl
  · rw [if_neg hmoved, if_neg hmoved]
    cases hid : truthyId (tables.aliasIndex key) with
    | none =>
      split <;> rfl
    | some aliasId =>
      obtain ⟨hindexed, -⟩ := Option.filter_eq_some_iff.1 hid
      have hnew : aliasId ≠ draws.aliasId entry.aliasId := by
        rintro rfl
        exact hindex key hindexed
      rw [hindexed, Option.bind_some, move_get?, if_neg fun h => hnew h.2]
      by_cases hself : aliasId = entry.aliasId
      · rw [if_pos hself, if_pos (congrArg some hself)]
        rfl
      · rw [if_neg hself, if_neg fun h => hself (Option.some.inj h), Option.bind_some]

/-- What is moved later could have been moved before. -/
theorem movable_of_move {other : CaseIdentityAlias} (hne : draws.aliasId entry.aliasId ≠ other.aliasId)
    (hmovable : (tables.move toCaseId now draws entry).Movable other) : tables.Movable other := by
  unfold AliasTables.Movable at hmovable ⊢
  rw [move_aliasIndex] at hmovable
  split at hmovable
  · rcases hmovable with hnone | hsome
    · cases hnone
    · exact absurd (Option.some.inj hsome) hne
  · exact hmovable

/-- **What a key resolves to after the aliases were handed over**: what it resolved to before, or
the new case if there was an alias to move. -/
theorem caseOf_moves : ∀ {entries : List CaseIdentityAlias} {tables : AliasTables},
    Handing fromCaseId draws entries tables → ∀ {key : AliasType × String} {caseId : String},
      (entries.foldl (AliasTables.move toCaseId now draws) tables).caseOf key = some caseId →
      tables.caseOf key = some caseId ∨
        caseId = toCaseId ∧ ∃ entry ∈ entries, tables.Movable entry
  | [], _, _, _, _, h => Or.inl h
  | entry :: rest, tables, hhanding, key, caseId, h => by
    rw [List.foldl_cons] at h
    rcases caseOf_moves hhanding.tail h with hcase | ⟨hto, other, hother, hmovable⟩
    · rw [caseOf_move hhanding] at hcase
      split at hcase
      · rename_i hmoved
        exact Or.inr ⟨(Option.some.inj hcase).symm, entry, List.mem_cons_self, hmoved.1⟩
      · split at hcase
        · cases hcase
        · exact Or.inl hcase
    · have hmem := List.mem_cons_of_mem entry hother
      exact Or.inr ⟨hto, other, hmem,
        movable_of_move (hhanding.fresh_ne List.mem_cons_self hmem) hmovable⟩

/-- A key that resolves to the new case keeps doing so. -/
theorem caseOf_moves_kept (hcases : fromCaseId ≠ toCaseId) :
    ∀ {entries : List CaseIdentityAlias} {tables : AliasTables},
      Handing fromCaseId draws entries tables → ∀ {key : AliasType × String},
        tables.caseOf key = some toCaseId →
        (entries.foldl (AliasTables.move toCaseId now draws) tables).caseOf key = some toCaseId
  | [], _, _, _, h => h
  | entry :: rest, tables, hhanding, key, h => by
    rw [List.foldl_cons]
    refine caseOf_moves_kept hcases hhanding.tail ?_
    rw [caseOf_move hhanding]
    split
    · rfl
    · rw [if_neg]
      · exact h
      · intro hindex
        obtain ⟨aliasId, row, hindexed, -, hget, -, hcase⟩ := caseOf_eq_some.1 h
        obtain ⟨hstored, hfrom, -⟩ := hhanding.stored entry List.mem_cons_self
        cases hindex.symm.trans hindexed
        cases hstored.symm.trans hget
        exact hcases (hfrom.symm.trans hcase)

/-- An alias that could be moved makes its key resolve to the new case. -/
theorem caseOf_moves_movable (now : String) (hcases : fromCaseId ≠ toCaseId) :
    ∀ {entries : List CaseIdentityAlias} {tables : AliasTables},
      Handing fromCaseId draws entries tables → ∀ entry ∈ entries, tables.Movable entry →
        (entries.foldl (AliasTables.move toCaseId now draws) tables).caseOf entry.key =
          some toCaseId
  | first :: rest, tables, hhanding, entry, hentry, hmovable => by
    rw [List.foldl_cons]
    by_cases hmoved : tables.Movable first ∧ entry.key = first.key
    · refine caseOf_moves_kept hcases hhanding.tail ?_
      rw [caseOf_move hhanding, if_pos hmoved]
    · rcases List.mem_cons.1 hentry with rfl | hrest
      · exact absurd ⟨hmovable, rfl⟩ hmoved
      · refine caseOf_moves_movable now hcases hhanding.tail entry hrest ?_
        unfold AliasTables.Movable
        rw [move_aliasIndex, if_neg hmoved]
        exact hmovable

/-- The aliases of the old case that are left after one was moved. -/
theorem active_move (hcases : fromCaseId ≠ toCaseId)
    (hall : ∀ aliasId row, tables.aliases.get? aliasId = some row → row.caseId = fromCaseId →
      row.retiredAt = none → row ∈ entry :: rest) (aliasId : String) (row : CaseIdentityAlias)
    (hget : (tables.move toCaseId now draws entry).aliases.get? aliasId = some row)
    (hfrom : row.caseId = fromCaseId) (hopen : row.retiredAt = none) : row ∈ rest := by
  rw [move_get?] at hget
  split at hget
  · cases hget
    exact absurd hfrom hcases.symm
  · split at hget
    · cases hget
      cases hopen
    · rename_i hne
      rcases List.mem_cons.1 (hall aliasId row hget hfrom hopen) with rfl | hrest
      · exact absurd (Table.key_of_get? hget).symm hne
      · exact hrest

/-- An alias of the case that hands them over is retired. -/
theorem get?_moves (hcases : fromCaseId ≠ toCaseId) :
    ∀ {entries : List CaseIdentityAlias} {tables : AliasTables},
      (∀ aliasId row, tables.aliases.get? aliasId = some row → row.caseId = fromCaseId →
        row.retiredAt = none → row ∈ entries) →
      ∀ aliasId row, (entries.foldl (AliasTables.move toCaseId now draws) tables).aliases.get?
        aliasId = some row → row.caseId = fromCaseId → row.retiredAt ≠ none
  | [], _, hall, aliasId, row, hget, hcase => fun hopen => by cases hall aliasId row hget hcase hopen
  | entry :: rest, tables, hall, aliasId, row, hget, hcase => by
    rw [List.foldl_cons] at hget
    exact get?_moves hcases (active_move hcases hall) aliasId row hget hcase

end Moves

/-! ## One link -/

section Steps

variable {s : Store} {call : LinkCall} {child parent : AtomicCaseProjection}

@[simp] theorem linkedChild_linkedParentCase (child parent : AtomicCaseProjection) (reason : String)
    (evidenceRefs : List String) (now : String) :
    (linkedChild child parent reason evidenceRefs now).linkedParentCase = some parent.caseId := by
  unfold AtomicCaseProjection.linkedParentCase linkedChild
  simp [get_dictPut]

/-- The cases after a link. -/
theorem atomicCase?_linked {t : Store}
    (hcases : t.cases = (s.cases.put (.atomic (linkedChild child parent call.reason
      call.evidenceRefs call.now))).put (.atomic (linkedParent parent call.now)))
    (caseId : String) : t.atomicCase? caseId =
      if parent.caseId = caseId then some (linkedParent parent call.now)
      else if child.caseId = caseId then
        some (linkedChild child parent call.reason call.evidenceRefs call.now)
      else s.atomicCase? caseId := by
  have hchild := atomicCase?_put (s := s) (t := { s with cases := s.cases.put (.atomic (linkedChild
    child parent call.reason call.evidenceRefs call.now)) }) rfl caseId
  have hparent := atomicCase?_put (s := { s with cases := s.cases.put (.atomic (linkedChild
    child parent call.reason call.evidenceRefs call.now)) }) hcases caseId
  rw [hparent, hchild]
  rfl

/-- The two cases of a link are different, stored, and the child is not linked. -/
theorem linkable?_stored (hlink : s.linkable? call = some (child, parent)) :
    child.caseId ≠ parent.caseId ∧ s.atomicCase? child.caseId = some child ∧
      s.atomicCase? parent.caseId = some parent ∧ child.status ≠ .linked := by
  obtain ⟨hids, hchild, hparent, hopen⟩ := linkable?_eq_some.1 hlink
  rw [caseId_of_atomicCase? hchild, caseId_of_atomicCase? hparent]
  exact ⟨hids, hchild, hparent, hopen⟩

/-- **A link points the child at its parent and no other case anywhere else.** -/
theorem parent?_linked {t : Store} (hlink : s.linkable? call = some (child, parent))
    (hcases : t.cases = (s.cases.put (.atomic (linkedChild child parent call.reason
      call.evidenceRefs call.now))).put (.atomic (linkedParent parent call.now))) :
    t.parent? = Function.update s.parent? child.caseId (some parent.caseId) := by
  obtain ⟨hids, hchild, hparent, hopen⟩ := linkable?_stored hlink
  funext caseId
  have hget := atomicCase?_linked hcases caseId
  by_cases hself : caseId = child.caseId
  · subst hself
    rw [if_neg hids.symm, if_pos rfl] at hget
    rw [Function.update_self, parent?_of_linked hget rfl, linkedChild_linkedParentCase]
  · rw [Function.update_of_ne hself]
    by_cases htarget : parent.caseId = caseId
    · subst htarget
      rw [if_pos rfl] at hget
      by_cases hlinked : parent.status = .linked
      · rw [parent?_of_linked hget hlinked, parent?_of_linked hparent hlinked]
        rfl
      · rw [parent?_of_open hget hlinked, parent?_of_open hparent hlinked]
    · rw [if_neg htarget, if_neg fun h => hself h.symm] at hget
      unfold Store.parent?
      rw [hget]

theorem parented_linked {t : Store} (h : Parented s)
    (hlink : s.linkable? call = some (child, parent))
    (hcases : t.cases = (s.cases.put (.atomic (linkedChild child parent call.reason
      call.evidenceRefs call.now))).put (.atomic (linkedParent parent call.now))) :
    Parented t := by
  obtain ⟨hids, hchild, hparent, hopen⟩ := linkable?_stored hlink
  have hget := atomicCase?_linked hcases
  have hkept : ∀ {caseId case}, s.atomicCase? caseId = some case →
      ∃ other, t.atomicCase? caseId = some other := by
    intro caseId case hcase
    rw [hget]
    split
    · exact ⟨_, rfl⟩
    · split
      · exact ⟨_, rfl⟩
      · exact ⟨case, hcase⟩
  have hparents : ∀ case : AtomicCaseProjection, (∃ parentId parent,
      case.linkedParentCase = some parentId ∧ s.atomicCase? parentId = some parent) →
      ∃ parentId parent, case.linkedParentCase = some parentId ∧
        t.atomicCase? parentId = some parent := by
    rintro case ⟨parentId, other, hparentId, hother⟩
    obtain ⟨kept, hkeptGet⟩ := hkept hother
    exact ⟨parentId, kept, hparentId, hkeptGet⟩
  intro caseId case hcase hlinked
  rw [hget] at hcase
  split at hcase
  · cases hcase
    exact hparents (linkedParent parent call.now) (h parent.caseId parent hparent hlinked)
  · split at hcase
    · cases hcase
      exact hparents _ ⟨parent.caseId, parent, linkedChild_linkedParentCase .., hparent⟩
    · exact hparents case (h caseId case hcase hlinked)

/-- What a key resolves to in the store. -/
theorem aliasesOpen_iff : AliasesOpen s ↔ ∀ aliasType aliasValue caseId case,
    s.aliasTables.caseOf (aliasKey aliasType aliasValue) = some caseId →
      s.atomicCase? caseId = some case → case.status ≠ .linked := by
  unfold AliasesOpen
  constructor
  · intro h aliasType aliasValue caseId case hcaseOf
    refine h aliasType aliasValue caseId ?_ case
    rw [resolveAlias_run, resolves?_eq, hcaseOf]
  · intro h aliasType aliasValue caseId hresolves case
    rw [resolveAlias_run, resolves?_eq] at hresolves
    exact h aliasType aliasValue caseId case (Except.ok.inj hresolves)

/-- **After a link no alias leads to a linked case, unless one was handed to a linked parent.** -/
theorem aliasesOpen_linked {t : Store} (h : AliasesOpen s)
    (hlink : s.linkable? call = some (child, parent)) (hfresh : call.draws.Fresh s)
    (hcases : t.cases = (s.cases.put (.atomic (linkedChild child parent call.reason
      call.evidenceRefs call.now))).put (.atomic (linkedParent parent call.now)))
    (htables : t.aliasTables = s.handed child parent call) :
    AliasesOpen t ↔ ¬ (parent.status = .linked ∧
      ∃ entry ∈ s.activeAliases child.caseId, s.aliasTables.Movable entry) := by
  obtain ⟨hids, hchild, hparent, hopen⟩ := linkable?_stored hlink
  have hhanding := hfresh.handing child.caseId
  have hget := atomicCase?_linked hcases
  rw [aliasesOpen_iff] at h ⊢
  rw [htables]
  constructor
  · rintro hall ⟨hlinked, entry, hentry, hmovable⟩
    have hcaseOf := caseOf_moves_movable call.now hids hhanding entry hentry hmovable
    refine hall entry.aliasType entry.aliasValue parent.caseId (linkedParent parent call.now)
      hcaseOf ?_ hlinked
    rw [hget, if_pos rfl]
  · intro hnot aliasType aliasValue caseId case hcaseOf hcase
    rw [hget] at hcase
    by_cases htarget : parent.caseId = caseId
    · rw [if_pos htarget] at hcase
      cases hcase
      intro hlinked
      rcases caseOf_moves hhanding hcaseOf with hbefore | ⟨-, hmoved⟩
      · exact h aliasType aliasValue caseId parent hbefore (htarget ▸ hparent) hlinked
      · exact hnot ⟨hlinked, hmoved⟩
    · rw [if_neg htarget] at hcase
      by_cases hself : child.caseId = caseId
      · -- an alias of the child was retired
        subst hself
        exfalso
        obtain ⟨aliasId, row, -, -, hrow, hrowOpen, hrowCase⟩ := caseOf_eq_some.1 hcaseOf
        refine get?_moves hids (fun id other hother hfrom hactive => ?_) aliasId row hrow
          hrowCase hrowOpen
        refine mem_activeAliases.2 ⟨?_, hfrom, hactive⟩
        rw [Table.key_of_get? hother]
        exact hother
      · rw [if_neg hself] at hcase
        rcases caseOf_moves hhanding hcaseOf with hbefore | ⟨hto, -⟩
        · exact h aliasType aliasValue caseId case hbefore hcase
        · exact absurd hto.symm htarget

theorem parented_link (hparented : Parented s) (hfresh : call.draws.Fresh s) :
    Parented (call.run s).2 := by
  cases hlink : s.linkable? call with
  | none =>
    rw [linkCall_refused hlink]
    exact hparented
  | some pair =>
    obtain ⟨child, parent⟩ := pair
    obtain ⟨result, ev, ix, hrun⟩ := linkCall_linked hlink hfresh
    exact parented_linked hparented hlink (by rw [hrun])

/-- **A link keeps the links sound unless it tangles them.** -/
theorem linksSound_link (hparented : Parented s) (h : LinksSound s)
    (hfresh : call.draws.Fresh s) :
    LinksSound (call.run s).2 ↔ ¬ Tangles s call := by
  have hparented' := parented_link hparented hfresh
  cases hlink : s.linkable? call with
  | none =>
    rw [linkCall_refused hlink]
    refine iff_of_true h ?_
    rintro ⟨child, parent, hsome, -⟩
    cases hlink.symm.trans hsome
  | some pair =>
    obtain ⟨child, parent⟩ := pair
    obtain ⟨hids, hchild, hparent, hopen⟩ := linkable?_stored hlink
    obtain ⟨result, ev, ix, hrun⟩ := linkCall_linked hlink hfresh
    have hcases : (call.run s).2.cases = (s.cases.put (.atomic (linkedChild child parent
        call.reason call.evidenceRefs call.now))).put (.atomic (linkedParent parent call.now)) := by
      rw [hrun]
    have htables : (call.run s).2.aliasTables = s.handed child parent call := by
      rw [hrun]
      rfl
    have hrooted : Rooted (call.run s).2 ↔ ¬ Ends s.parent? parent.caseId child.caseId := by
      rw [rooted_iff hparented', parent?_linked hlink hcases]
      exact total_update_iff ((rooted_iff hparented).1 h.1) (parent?_of_open hchild hopen)
    have hends : Ends s.parent? parent.caseId child.caseId → parent.status = .linked := by
      intro hends
      by_contra hparentOpen
      exact hids (hends.eq_of_end (parent?_of_open hparent hparentOpen))
    unfold LinksSound
    rw [hrooted, aliasesOpen_linked h.2 hlink hfresh hcases htables, ← not_or]
    refine not_congr ⟨?_, ?_⟩
    · rintro (hcycle | ⟨hlinked, hmovable⟩)
      · exact ⟨child, parent, hlink, hends hcycle, Or.inl hcycle⟩
      · exact ⟨child, parent, hlink, hlinked, Or.inr hmovable⟩
    · rintro ⟨child', parent', hsome, hlinked, hor⟩
      cases hlink.symm.trans hsome
      rcases hor with hcycle | hmovable
      · exact Or.inl hcycle
      · exact Or.inr ⟨hlinked, hmovable⟩

/-- **Over every run of links from cases that are not linked, every linked case leads to one that
is not and no alias leads to a linked case, in every state, exactly when no link tangles.** -/
theorem links_run_iff {start : Store} (hstart : Unlinked start) {calls : List LinkCall} :
    Run (Guarded linkStep fun s call => ¬ Tangles s call) start calls s ↔
      Run (Upheld linkStep LinksSound) start calls s := by
  have hparented : Parented start := fun caseId case hcase hlinked =>
    absurd hlinked (hstart caseId case hcase)
  have hsound : LinksSound start := by
    refine ⟨fun caseId case hcase hlinked => absurd hlinked (hstart caseId case hcase), ?_⟩
    intro aliasType aliasValue caseId _ case hcase
    exact hstart caseId case hcase
  refine Run.guarded_iff_upheld (J := Parented) ?_ ?_ hparented hsound
  · rintro s call t hparented ⟨hfresh, rfl⟩
    exact parented_link hparented hfresh
  · rintro s call t hparented hsound ⟨hfresh, rfl⟩
    exact linksSound_link hparented hsound hfresh

theorem unlinked_of_rows (h : ∀ row ∈ s.cases.rows, ∀ case ∈ row.atomic?, case.status ≠ .linked) :
    Unlinked s := by
  intro caseId case hget
  exact h _ (Table.mem_of_get? (atomicCase?_eq_some.1 hget)) case rfl

end Steps

/-! ## Two cases that are linked to one another -/

def siblingCase (caseId : String) : AtomicCaseProjection where
  caseId := caseId
  openedAt := "2026-01-01T01:00:00+00:00"
  updatedAt := "2026-01-01T01:00:00+00:00"

def siblingAlias (caseId : String) : CaseIdentityAlias where
  aliasId := "alias_" ++ caseId
  caseId := caseId
  aliasType := .sourceFp
  aliasValue := caseId

/-- Two open cases, each with an alias of its own. -/
def siblings : Store where
  cases := (Table.empty.put (.atomic (siblingCase "a"))).put (.atomic (siblingCase "b"))
  aliases := (Table.empty.put (siblingAlias "a")).put (siblingAlias "b")
  aliasIndex := (Index.empty.set (siblingAlias "a").key (siblingAlias "a").aliasId).set
    (siblingAlias "b").key (siblingAlias "b").aliasId

def siblingLink (child parent : String) : LinkCall where
  childCaseId := child
  parentCaseId := parent
  reason := "same host"
  evidenceRefs := []
  now := "2026-01-01T02:00:00+00:00"
  draws := {
    aliasId := fun aliasId => aliasId ++ "_" ++ parent
    childEventId := "evt_child_" ++ child
    parentEventId := "evt_parent_" ++ parent }

/-- The first case linked to the second. -/
def linkedOnce : Store := ((siblingLink "a" "b").run siblings).2

/-- The second case linked to the first as well. -/
def linkedTwice : Store := ((siblingLink "b" "a").run linkedOnce).2

theorem siblings_mirrors : Mirrors activeKey siblings.aliases siblings.aliasIndex :=
  (mirrors_empty.put_new rfl rfl rfl).put_new rfl rfl (by decide +kernel)

theorem siblings_fresh : (siblingLink "a" "b").draws.Fresh siblings :=
  fresh_of_mirrors siblings_mirrors (by decide +kernel)

theorem linkedOnce_fresh : (siblingLink "b" "a").draws.Fresh linkedOnce :=
  fresh_of_mirrors (link_mirrors siblings_mirrors siblings_fresh) (by decide +kernel)

theorem siblings_unlinked : Unlinked siblings := unlinked_of_rows (by decide +kernel)

theorem not_linksSound_twice :
    Unlinked siblings ∧
    Run linkStep siblings [siblingLink "a" "b", siblingLink "b" "a"] linkedTwice ∧
    ¬ Rooted linkedTwice ∧ ¬ AliasesOpen linkedTwice := by
  refine ⟨siblings_unlinked, Run.cons ⟨siblings_fresh, rfl⟩ (Run.single ⟨linkedOnce_fresh, rfl⟩),
    fun h => ?_, fun h => ?_⟩
  · have hcase : ∃ case ∈ linkedTwice.atomicCase? "a", case.status = .linked := by decide +kernel
    obtain ⟨case, hget, hlinked⟩ := hcase
    obtain ⟨rootId, root, hends, -⟩ := h "a" case hget hlinked
    refine not_ends_of_closed (S := fun caseId => caseId = "a" ∨ caseId = "b") ?_ (Or.inl rfl) hends
    rintro caseId (rfl | rfl)
    · exact ⟨"b", by decide +kernel, Or.inr rfl⟩
    · exact ⟨"a", by decide +kernel, Or.inl rfl⟩
  · have hcase : ∃ case ∈ linkedTwice.atomicCase? "a", case.status = .linked := by decide +kernel
    obtain ⟨case, hget, hlinked⟩ := hcase
    have hresolves : linkedTwice.resolves? .sourceFp "a" = some "a" := by decide +kernel
    refine h .sourceFp "a" "a" ?_ case hget hlinked
    rw [resolveAlias_run, hresolves]

theorem linksSound_once :
    Run (Upheld linkStep LinksSound) siblings [siblingLink "a" "b"] linkedOnce := by
  refine (links_run_iff siblings_unlinked).1 (Run.single ⟨?_, siblings_fresh, rfl⟩)
  rintro ⟨child, parent, hlink, hlinked, -⟩
  have hparent : siblings.atomicCase? "b" = some parent := (linkable?_eq_some.1 hlink).2.2.1
  exact siblings_unlinked "b" parent hparent hlinked

end NocAgent.Cases
