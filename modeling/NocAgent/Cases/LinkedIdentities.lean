import NocAgent.Cases.LinkChains
import NocAgent.Cases.Reachable

/-!
# No identity is lost in a link

* `Indexed` — the index has the key of every alias that is not retired, and leads from a key to an
  alias with that key; two aliases of one case may share a key.
* `IdentityOp`, `identityStep` — the store's methods; all but three leave the alias tables alone.
* `indexed_run` — every store reached from the empty one is indexed.
* `linkChildCase_run` — a link makes what resolved to the child resolve to the parent, and leaves
  every other identity, every other case and every other field of the parent as they are.
-/

set_option autoImplicit false

namespace NocAgent.Cases

open Effects Effects.Action Keyed Lts

/-- **Every alias that is not retired is found under its key, itself or another with that key.** -/
structure AliasTables.Indexed (tables : AliasTables) : Prop where
  stored : ∀ key aliasId, tables.aliasIndex key = some aliasId →
    aliasId ≠ "" ∧ ∃ row, tables.aliases.get? aliasId = some row ∧ row.key = key
  listed : ∀ row ∈ tables.aliases.rows, row.retiredAt = none →
    (tables.aliasIndex row.key).isSome

/-- The id of the alias is not the id of another identity. -/
def Store.Names (s : Store) (entry : CaseIdentityAlias) : Prop :=
  entry.aliasId ≠ "" ∧ ∀ row, s.aliases.get? entry.aliasId = some row → row.key = entry.key

/-! ## What the writers keep -/

namespace AliasTables.Indexed

variable {tables : AliasTables} {entry : CaseIdentityAlias}

/-- Storing an alias, when the index changes under its key only and to its id. -/
theorem put (h : tables.Indexed)
    (hsame : ∀ row, tables.aliases.get? entry.aliasId = some row → row.key = entry.key)
    {ix : Index (AliasType × String) String}
    (hix : ∀ key, ix key = tables.aliasIndex key ∨
      key = entry.key ∧ entry.aliasId ≠ "" ∧ ix key = some entry.aliasId)
    (hlisted : entry.retiredAt = none → (ix entry.key).isSome) :
    Indexed ⟨tables.aliases.put entry, ix⟩ := by
  constructor
  · intro key aliasId hkey
    rcases hix key with hold | ⟨rfl, hid, hnew⟩
    · obtain ⟨hne, row, hget, hrow⟩ := h.stored key aliasId (hold.symm.trans hkey)
      refine ⟨hne, ?_⟩
      by_cases hself : entry.aliasId = aliasId
      · subst hself
        exact ⟨entry, Table.get?_put_self _ _, (hsame row hget).symm.trans hrow⟩
      · exact ⟨row, (Table.get?_put_of_ne _ hself).trans hget, hrow⟩
    · cases hnew.symm.trans hkey
      exact ⟨hid, entry, Table.get?_put_self _ _, rfl⟩
  · intro row hrow hopen
    rcases Table.mem_put.1 hrow with rfl | ⟨hrow, -⟩
    · exact hlisted hopen
    · change (ix row.key).isSome
      rcases hix row.key with hold | ⟨-, -, hnew⟩
      · rw [hold]
        exact h.listed row hrow hopen
      · rw [hnew]
        rfl

/-- Storing an alias under its key. -/
theorem write (h : tables.Indexed) (hid : entry.aliasId ≠ "")
    (hsame : ∀ row, tables.aliases.get? entry.aliasId = some row → row.key = entry.key) :
    Indexed ⟨tables.aliases.put entry, tables.aliasIndex.set entry.key entry.aliasId⟩ := by
  refine h.put hsame (fun key => ?_) fun _ => by simp
  by_cases hkey : key = entry.key
  · exact Or.inr ⟨hkey, hid, by rw [hkey, Index.set_self]⟩
  · exact Or.inl (by rw [Index.set_apply, if_neg hkey])

/-- Storing a retired alias, which the index does not get. -/
theorem retire (h : tables.Indexed)
    (hsame : ∀ row, tables.aliases.get? entry.aliasId = some row → row.key = entry.key)
    (hretired : entry.retiredAt ≠ none) :
    Indexed ⟨tables.aliases.put entry, tables.aliasIndex⟩ :=
  h.put hsame (fun _ => Or.inl rfl) fun hopen => absurd hopen hretired

/-- Storing the aliases of a new case. -/
theorem writeAll : ∀ {entries : List CaseIdentityAlias} {tables : AliasTables}, tables.Indexed →
    (∀ entry ∈ entries, entry.aliasId ≠ "" ∧
      (∀ row, tables.aliases.get? entry.aliasId = some row → row.key = entry.key) ∧
      ∀ other ∈ entries, other.aliasId = entry.aliasId → other.key = entry.key) →
    Indexed ⟨storeAliases entries tables.aliases, indexAliases entries tables.aliasIndex⟩
  | [], _, h, _ => h
  | entry :: rest, tables, h, hentries => by
    obtain ⟨hid, hsame, -⟩ := hentries entry List.mem_cons_self
    have hlater : ∀ later ∈ rest, later.aliasId ≠ "" ∧
        (∀ row, (tables.aliases.put entry).get? later.aliasId = some row → row.key = later.key) ∧
        ∀ other ∈ rest, other.aliasId = later.aliasId → other.key = later.key := by
      intro later hlater
      obtain ⟨hid', hsame', hothers'⟩ := hentries later (List.mem_cons_of_mem _ hlater)
      refine ⟨hid', fun row hget => ?_, fun other hother => hothers' other
        (List.mem_cons_of_mem _ hother)⟩
      rw [Table.get?_put] at hget
      split at hget
      · rename_i heq
        cases hget
        exact hothers' _ List.mem_cons_self heq
      · exact hsame' row hget
    have hrest := writeAll (h.write hid hsame) hlater
    exact hrest

variable {fromCaseId toCaseId : String} {draws : LinkDraws} {rest : List CaseIdentityAlias}

/-- **An alias that is handed over leaves every key found.** -/
theorem move (now : String) (h : tables.Indexed)
    (hhanding : Handing fromCaseId draws (entry :: rest) tables) :
    (tables.move toCaseId now draws entry).Indexed := by
  obtain ⟨hstored, -, -⟩ := hhanding.stored entry List.mem_cons_self
  obtain ⟨htruthy, hfresh, -⟩ := hhanding.fresh entry List.mem_cons_self
  have hself : ∀ row, tables.aliases.get? (entry.retired now).aliasId = some row →
      row.key = (entry.retired now).key := by
    intro row hrow
    cases hstored.symm.trans hrow
    rfl
  have hretired : Indexed ⟨tables.aliases.put (entry.retired now), tables.aliasIndex⟩ :=
    h.retire hself (by simp [CaseIdentityAlias.retired])
  unfold AliasTables.move
  split
  · have hnew : ∀ row, (tables.aliases.put (entry.retired now)).get?
        (draws.aliasId entry.aliasId) = some row →
        row.key = (replacementAlias toCaseId (draws.aliasId entry.aliasId) entry).key := ?_
    · rw [← key_replacementAlias toCaseId (draws.aliasId entry.aliasId) entry]
      exact hretired.write htruthy hnew
    intro row hrow
    have hne : (entry.retired now).aliasId ≠ draws.aliasId entry.aliasId :=
      (hhanding.fresh_ne List.mem_cons_self List.mem_cons_self).symm
    have hget := (Table.get?_put_of_ne tables.aliases hne).symm.trans hrow
    cases hfresh.symm.trans hget
  · exact hretired

/-- A move makes the key of the alias resolve to the new case where it resolved to the alias. -/
theorem caseOf_move (now : String) (h : tables.Indexed)
    (hhanding : Handing fromCaseId draws (entry :: rest) tables) (key : AliasType × String) :
    (tables.move toCaseId now draws entry).caseOf key =
      if tables.aliasIndex key = some entry.aliasId then some toCaseId else tables.caseOf key := by
  obtain ⟨hstored, -, hopen⟩ := hhanding.stored entry List.mem_cons_self
  have hlisted := h.listed entry (Table.mem_of_get? hstored) hopen
  rw [Cases.caseOf_move hhanding]
  by_cases hindex : tables.aliasIndex key = some entry.aliasId
  · obtain ⟨-, row, hget, hkey⟩ := h.stored key entry.aliasId hindex
    cases hstored.symm.trans hget
    have hmovable : tables.Movable entry := Or.inr (hkey.symm ▸ hindex)
    rw [if_pos ⟨hmovable, hkey.symm⟩, if_pos hindex]
  · rw [if_neg hindex, if_neg hindex, if_neg]
    rintro ⟨hnone | hsome, rfl⟩
    · rw [hnone] at hlisted
      cases hlisted
    · exact hindex hsome

/-- **After all its aliases were handed over, what resolved to the old case resolves to the new
one, and nothing else resolves to another case than before.** -/
theorem caseOf_moves (now : String) (hcases : fromCaseId ≠ toCaseId) :
    ∀ {entries : List CaseIdentityAlias} {tables : AliasTables}, tables.Indexed →
      Handing fromCaseId draws entries tables →
      (∀ aliasId row, tables.aliases.get? aliasId = some row → row.caseId = fromCaseId →
        row.retiredAt = none → row ∈ entries) → ∀ key,
      (entries.foldl (AliasTables.move toCaseId now draws) tables).caseOf key =
        if tables.caseOf key = some fromCaseId then some toCaseId else tables.caseOf key
  | [], tables, _, _, hall, key => by
    rw [if_neg]
    · rfl
    · intro hfrom
      obtain ⟨aliasId, row, -, -, hget, hopen, hcase⟩ := caseOf_eq_some.1 hfrom
      cases hall aliasId row hget hcase hopen
  | entry :: rest, tables, h, hhanding, hall, key => by
    obtain ⟨hstored, hcase, hopen⟩ := hhanding.stored entry List.mem_cons_self
    rw [List.foldl_cons, caseOf_moves now hcases (h.move now hhanding) hhanding.tail
      (active_move hcases hall), h.caseOf_move now hhanding]
    by_cases hindex : tables.aliasIndex key = some entry.aliasId
    · have hfrom : tables.caseOf key = some fromCaseId :=
        caseOf_eq_some.2 ⟨entry.aliasId, entry, hindex, (h.stored key _ hindex).1, hstored, hopen,
          hcase⟩
      rw [if_pos hindex, if_pos hfrom, if_neg fun heq => hcases (Option.some.inj heq).symm]
    · rw [if_neg hindex]

end AliasTables.Indexed

/-! ## The methods of the store -/

/-- A call of one of the methods that write the alias tables, or of another. -/
inductive IdentityOp where
  | createAtomicCase (case : AtomicCaseProjection) (aliases : List CaseIdentityAlias)
      (events : List CaseEvent)
  | recordAlias (entry : CaseIdentityAlias)
  | linkChildCase (call : LinkCall)
  | elsewhere (t : Store)

def IdentityOp.run : IdentityOp → Store → Store
  | .createAtomicCase case aliases events, s => (Cases.createAtomicCase case aliases events s).2
  | .recordAlias entry, s => (Cases.recordAlias entry s).2
  | .linkChildCase call, s => (call.run s).2
  | .elsewhere t, _ => t

/-- No id stands for two identities, and a link draws fresh ids. -/
def IdentityOp.Allowed (s : Store) : IdentityOp → Prop
  | .createAtomicCase _ aliases _ => ∀ entry ∈ aliases, s.Names entry ∧
      ∀ other ∈ aliases, other.aliasId = entry.aliasId → other.key = entry.key
  | .recordAlias entry => s.Names entry
  | .linkChildCase call => call.draws.Fresh s
  | .elsewhere t => t.aliasTables = s.aliasTables

def identityStep (s : Store) (op : IdentityOp) (t : Store) : Prop := op.Allowed s ∧ t = op.run s

section Steps

variable {s : Store}

/-- A case is created with all its aliases, or nothing is written. -/
theorem createAtomicCase_aliasTables (case : AtomicCaseProjection)
    (aliases : List CaseIdentityAlias) (events : List CaseEvent) (s : Store) :
    (createAtomicCase case aliases events s).2 = s ∨
      (createAtomicCase case aliases events s).2.aliasTables =
        ⟨storeAliases aliases s.aliases, indexAliases aliases s.aliasIndex⟩ := by
  have hrun := aliasedCase_run aliases s
  rcases haliased : s.aliased aliases with e | _ | existing
  · rw [haliased] at hrun
    unfold createAtomicCase
    rw [bind_error hrun]
    exact Or.inl rfl
  · rcases hsame : s.sameFingerprint case.fingerprint with _ | existing
    · obtain ⟨stored, ev, ix, hcreated⟩ := createAtomicCase_created case haliased hsame events
      rw [hcreated]
      exact Or.inr rfl
    · rw [haliased] at hrun
      unfold createAtomicCase
      rw [bind_ok hrun]
      simp only [peek_bind_run, hsame]
      exact Or.inl rfl
  · rw [haliased] at hrun
    unfold createAtomicCase
    rw [bind_ok hrun]
    exact Or.inl rfl

theorem createAtomicCase_indexed (h : s.aliasTables.Indexed) (case : AtomicCaseProjection)
    {aliases : List CaseIdentityAlias} (events : List CaseEvent)
    (hnames : ∀ entry ∈ aliases, s.Names entry ∧
      ∀ other ∈ aliases, other.aliasId = entry.aliasId → other.key = entry.key) :
    (createAtomicCase case aliases events s).2.aliasTables.Indexed := by
  rcases createAtomicCase_aliasTables case aliases events s with hsame | hcreated
  · rw [hsame]
    exact h
  · rw [hcreated]
    refine h.writeAll fun entry hentry => ?_
    obtain ⟨⟨hid, hrow⟩, hothers⟩ := hnames entry hentry
    exact ⟨hid, hrow, hothers⟩

theorem recordAlias_indexed (h : s.aliasTables.Indexed) {entry : CaseIdentityAlias}
    (hnames : s.Names entry) : (recordAlias entry s).2.aliasTables.Indexed := by
  rcases recordAlias_cases entry s with hsame | ⟨-, hstored⟩
  · rw [hsame]
    exact h
  · rw [hstored]
    unfold Store.aliasTables
    dsimp only
    split
    · exact h.write hnames.1 hnames.2
    · rename_i hretired
      exact h.retire hnames.2 hretired

theorem foldl_move_indexed {fromCaseId : String} (toCaseId now : String) {draws : LinkDraws} :
    ∀ {entries : List CaseIdentityAlias} {tables : AliasTables}, tables.Indexed →
      Handing fromCaseId draws entries tables →
      (entries.foldl (AliasTables.move toCaseId now draws) tables).Indexed
  | [], _, h, _ => h
  | entry :: rest, tables, h, hhanding => by
    rw [List.foldl_cons]
    exact foldl_move_indexed toCaseId now (h.move now hhanding) hhanding.tail

theorem linkCall_indexed (h : s.aliasTables.Indexed) {call : LinkCall}
    (hfresh : call.draws.Fresh s) : (call.run s).2.aliasTables.Indexed := by
  cases hlink : s.linkable? call with
  | none =>
    rw [linkCall_refused hlink]
    exact h
  | some pair =>
    obtain ⟨child, parent⟩ := pair
    obtain ⟨result, ev, ix, hrun⟩ := linkCall_linked hlink hfresh
    rw [hrun]
    exact foldl_move_indexed parent.caseId call.now h (hfresh.handing child.caseId)

theorem indexed_step {op : IdentityOp} {t : Store} (h : s.aliasTables.Indexed)
    (hstep : identityStep s op t) : t.aliasTables.Indexed := by
  obtain ⟨hallowed, rfl⟩ := hstep
  cases op with
  | createAtomicCase case aliases events => exact createAtomicCase_indexed h case events hallowed
  | recordAlias entry => exact recordAlias_indexed h hallowed
  | linkChildCase call => exact linkCall_indexed h hallowed
  | elsewhere t =>
    change t.aliasTables.Indexed
    rw [show t.aliasTables = s.aliasTables from hallowed]
    exact h

theorem indexed_empty : ({} : Store).aliasTables.Indexed := by
  refine ⟨fun key aliasId hkey => ?_, fun row hrow => ?_⟩
  · cases hkey
  · cases hrow

/-- **Every reachable store finds each alias that is not retired under its key.** -/
theorem indexed_run {ops : List IdentityOp} (h : Run identityStep {} ops s) :
    s.aliasTables.Indexed :=
  h.invariant (fun _ _ _ hs hstep => indexed_step hs hstep) indexed_empty

/-- Ids that no alias has are fresh for a link. -/
theorem fresh_of_indexed (h : s.aliasTables.Indexed) {draws : LinkDraws}
    (hrows : ∀ entry ∈ s.aliases.rows, draws.aliasId entry.aliasId ≠ "" ∧
      s.aliases.get? (draws.aliasId entry.aliasId) = none ∧
      ∀ other ∈ s.aliases.rows, draws.aliasId other.aliasId = draws.aliasId entry.aliasId →
        other.aliasId = entry.aliasId) : draws.Fresh s := by
  intro entry hentry
  obtain ⟨htruthy, hnone, hdiffer⟩ := hrows entry hentry
  refine ⟨⟨htruthy, hnone, fun key hkey => ?_⟩, hdiffer⟩
  obtain ⟨-, row, hget, -⟩ := h.stored key _ hkey
  cases hnone.symm.trans hget

end Steps

/-! ## One link -/

/-- **A link loses no identity**: in every reachable store, what resolved to the child resolves to
the parent, everything else resolves as before, no alias of the child is left, and of the cases
only the child and the parent's `updatedAt` change. -/
theorem linkChildCase_run {ops : List IdentityOp} {s : Store} (hrun : Run identityStep {} ops s)
    {call : LinkCall} {child parent : AtomicCaseProjection}
    (hids : call.childCaseId ≠ call.parentCaseId)
    (hchild : s.atomicCase? call.childCaseId = some child)
    (hparent : s.atomicCase? call.parentCaseId = some parent) (hopen : child.status ≠ .linked)
    (hfresh : call.draws.Fresh s) :
    (∃ result, (call.run s).1 = .ok (some result)) ∧
      (∀ aliasType aliasValue,
        (resolveAlias aliasType aliasValue s).1 = .ok (some call.childCaseId) →
        (resolveAlias aliasType aliasValue (call.run s).2).1 = .ok (some call.parentCaseId)) ∧
      (∀ aliasType aliasValue,
        (resolveAlias aliasType aliasValue s).1 ≠ .ok (some call.childCaseId) →
        (resolveAlias aliasType aliasValue (call.run s).2).1 =
          (resolveAlias aliasType aliasValue s).1) ∧
      (∀ row ∈ (call.run s).2.aliases.rows, row.caseId = call.childCaseId →
        row.retiredAt ≠ none) ∧
      (call.run s).2.atomicCase? call.parentCaseId =
        some { parent with updatedAt := call.now } ∧
      ∀ caseId, caseId ≠ call.childCaseId → caseId ≠ call.parentCaseId →
        (call.run s).2.cases.get? caseId = s.cases.get? caseId := by
  have hlink := linkable?_eq_some.2 ⟨hids, hchild, hparent, hopen⟩
  have hchildId := caseId_of_atomicCase? hchild
  have hparentId := caseId_of_atomicCase? hparent
  have hne : child.caseId ≠ parent.caseId := by
    rw [hchildId, hparentId]
    exact hids
  have hall : ∀ aliasId row, s.aliasTables.aliases.get? aliasId = some row →
      row.caseId = child.caseId → row.retiredAt = none → row ∈ s.activeAliases child.caseId := by
    intro aliasId row hget hcase hactive
    refine mem_activeAliases.2 ⟨?_, hcase, hactive⟩
    rw [Table.key_of_get? hget]
    exact hget
  obtain ⟨result, ev, ix, hlinked⟩ := linkCall_linked hlink hfresh
  have hresolves : ∀ aliasType aliasValue,
      (resolveAlias aliasType aliasValue (call.run s).2).1 =
        .ok (if s.resolves? aliasType aliasValue = some child.caseId then some parent.caseId
          else s.resolves? aliasType aliasValue) := by
    intro aliasType aliasValue
    rw [resolveAlias_run, hlinked]
    exact congrArg Except.ok ((indexed_run hrun).caseOf_moves call.now hne
      (hfresh.handing child.caseId) hall (aliasKey aliasType aliasValue))
  refine ⟨⟨result, by rw [hlinked]⟩, fun aliasType aliasValue hold => ?_,
    fun aliasType aliasValue hold => ?_, fun row hrow hcase => ?_, ?_, fun caseId hc hp => ?_⟩
  · rw [resolveAlias_run] at hold
    rw [hresolves, if_pos (by rw [hchildId]; exact Except.ok.inj hold), hparentId]
  · rw [resolveAlias_run] at hold
    rw [hresolves, resolveAlias_run, if_neg]
    intro hsome
    rw [hsome, hchildId] at hold
    exact hold rfl
  · rw [hlinked] at hrow
    exact get?_moves hne hall row.aliasId row (Table.mem_rows_iff.1 hrow)
      (hcase.trans hchildId.symm)
  · rw [atomicCase?_linked (linkCall_cases hlink), if_pos hparentId]
    rfl
  · rw [linkCall_cases hlink, Table.get?_put_of_ne, Table.get?_put_of_ne]
    · exact fun h => hc (h.symm.trans hchildId)
    · exact fun h => hp (h.symm.trans hparentId)

/-- A case with two aliases of one key, and another case. -/
def doubledOps : List IdentityOp :=
  [.createAtomicCase (siblingCase "a") [siblingAlias "a", { siblingAlias "a" with
      aliasId := "alias_padded"
      aliasValue := "a " }] [],
    .createAtomicCase (siblingCase "b") [siblingAlias "b"] []]

/-- The store after both cases were created. -/
def doubled : Store := doubledOps.foldl (fun s op => op.run s) {}

theorem doubledOps_run : Run identityStep {} doubledOps doubled := by
  have hnew : ∀ {s : Store} {entry : CaseIdentityAlias}, entry.aliasId ≠ "" →
      s.aliases.get? entry.aliasId = none → s.Names entry := by
    intro s entry hid hnone
    refine ⟨hid, fun row hrow => ?_⟩
    cases hnone.symm.trans hrow
  refine Run.cons ⟨fun entry hentry => ⟨?_, ?_⟩, rfl⟩ (Run.single ⟨fun entry hentry => ⟨?_, ?_⟩, rfl⟩)
  · refine hnew ?_ rfl
    revert entry
    decide
  · revert entry
    decide
  · cases List.mem_singleton.1 hentry
    exact hnew (by decide) (by decide +kernel)
  · revert entry
    decide

/-- The first case is linked to the second: both its aliases resolve to the second. -/
theorem linkChildCase_run_doubled :
    (resolveAlias .sourceFp "a" ((siblingLink "a" "b").run doubled).2).1 = .ok (some "b") ∧
      ∀ row ∈ ((siblingLink "a" "b").run doubled).2.aliases.rows, row.caseId = "a" →
        row.retiredAt ≠ none := by
  have hfresh : (siblingLink "a" "b").draws.Fresh doubled :=
    fresh_of_indexed (indexed_run doubledOps_run) (by decide +kernel)
  obtain ⟨child, hchild⟩ : ∃ child, doubled.atomicCase? "a" = some child :=
    Option.isSome_iff_exists.1 (by decide +kernel)
  obtain ⟨parent, hparent⟩ : ∃ parent, doubled.atomicCase? "b" = some parent :=
    Option.isSome_iff_exists.1 (by decide +kernel)
  have hopen : ∀ case ∈ doubled.atomicCase? "a", case.status ≠ .linked := by decide +kernel
  have hids : (siblingLink "a" "b").childCaseId ≠ (siblingLink "a" "b").parentCaseId := by decide
  have h := linkChildCase_run doubledOps_run hids hchild hparent (hopen child hchild) hfresh
  refine ⟨h.2.1 .sourceFp "a" ?_, h.2.2.2.1⟩
  rw [resolveAlias_run]
  decide +kernel

end NocAgent.Cases
