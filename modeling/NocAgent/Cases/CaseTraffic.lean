import NocAgent.Cases.GraphMemory
import NocAgent.Cases.VerifierRuns

/-!
# Observations and the graph's writes between each other

Every store call is one step; between two of them any other call may take its steps.

* `GraphCall` — a call of the graph's memory, `GraphWriter` where it is, `GraphWriter.next` its
  next store call.
* `Traffic`, `trafficStep` — one store, any number of observers and of graph writers, links,
  outcomes and handoff updates.
* `graphCall_steps` — a call that nobody interrupts does what `GraphCall.run` says.
-/

set_option autoImplicit false

namespace NocAgent.Cases

open Effects Effects.Action Keyed Lts

/-! ## A call of the graph's memory -/

/-- What is written to a case under its guard. -/
inductive GraphWrite where
  | summary (payload : JsonDict)
  | fields (payload : JsonDict)

/-- `put_summary` or `update_case`, or `link_to_parent_case`. -/
inductive GraphCall where
  | write (incidentId : String) (item : GraphWrite)
  | linkToParent (childCaseId parentCaseId reason : String) (evidenceRefs : List Json)

/-- What the writes of one call draw. -/
structure WriterDraws extends GraphDraws where
  linkedAt : String
  link : LinkDraws

section Calls

variable (py : Python)

/-- The part under the guard. -/
def GraphWrite.guarded (caseId : String) (draws : GraphDraws) : GraphWrite → StoreM Unit
  | .summary payload => writeSummary py caseId payload draws
  | .fields payload => do
    let _ ← writeCaseUpdate py caseId payload draws
    pure ()

def GraphCall.run (draws : WriterDraws) : GraphCall → StoreM Unit
  | .write incidentId (.summary payload) => putSummary py incidentId payload draws.toGraphDraws
  | .write incidentId (.fields payload) => do
    let _ ← updateCase py incidentId payload draws.toGraphDraws
    pure ()
  | .linkToParent childCaseId parentCaseId reason evidenceRefs => do
    let _ ← linkToParentCase py childCaseId parentCaseId reason evidenceRefs draws.linkedAt
      draws.link
    pure ()

end Calls

/-- Where a call of `resolve_case_identifier` is. -/
inductive Lookup where
  /-- before `get_case` -/
  | direct (text : String)
  /-- before `resolve_alias` for the first of the types, or `list_cases` -/
  | byAlias (text : String) (aliasTypes : List AliasType)
  | found (caseId : Option String)

def Lookup.enter (identifier : String) : Lookup :=
  if strip identifier = "" then .found none else .direct (strip identifier)

def Lookup.next : Lookup → StoreM Lookup
  | .direct text => do
    let direct ← getCase text
    match direct.bind CaseProjection.atomic? with
    | some case => pure (.found (some case.caseId))
    | none => pure (.byAlias text [.sourceFp, .sourceEventId])
  | .byAlias text [] => do
    let caseId ← peek fun s => s.caseByNumber? text
    pure (.found caseId)
  | .byAlias text (aliasType :: rest) => do
    let caseId ← resolveAlias aliasType text
    match truthyId caseId with
    | some caseId => pure (.found (some caseId))
    | none => pure (.byAlias text rest)
  | .found caseId => pure (.found caseId)

/-- Where a call of the graph's memory is. -/
inductive GraphWriter where
  | idle
  | finding (incidentId : String) (item : GraphWrite) (lookup : Lookup)
  /-- before `get_case` -/
  | loading (caseId : String) (item : GraphWrite)
  /-- before the guard is taken -/
  | writing (caseId : String) (item : GraphWrite)
  | findingChild (parentCaseId reason : String) (evidenceRefs : List Json) (lookup : Lookup)
  | findingParent (child : Option String) (reason : String) (evidenceRefs : List Json)
      (lookup : Lookup)
  /-- before `link_child_case` -/
  | linking (child parent reason : String) (evidenceRefs : List Json)

/-- The case to load is known as soon as the lookup has ended. -/
def GraphWriter.locate (incidentId : String) (item : GraphWrite) : Lookup → GraphWriter
  | .found caseId => .loading (orText (caseId.getD "") incidentId) item
  | lookup => .finding incidentId item lookup

def GraphWriter.locateParent (child : Option String) (reason : String) (evidenceRefs : List Json) :
    Lookup → GraphWriter
  | .found parent =>
    match truthyId child, truthyId parent with
    | some child, some parent => .linking child parent reason evidenceRefs
    | _, _ => .idle
  | lookup => .findingParent child reason evidenceRefs lookup

def GraphWriter.locateChild (parentCaseId reason : String) (evidenceRefs : List Json) :
    Lookup → GraphWriter
  | .found child => .locateParent child reason evidenceRefs (.enter parentCaseId)
  | lookup => .findingChild parentCaseId reason evidenceRefs lookup

def GraphCall.enter : GraphCall → GraphWriter
  | .write incidentId item => .locate incidentId item (.enter incidentId)
  | .linkToParent childCaseId parentCaseId reason evidenceRefs =>
    .locateChild parentCaseId reason evidenceRefs (.enter childCaseId)

section Writer

variable (py : Python) (draws : WriterDraws)

/-- The next store call, and where the call is after it. -/
def GraphWriter.next : GraphWriter → StoreM GraphWriter
  | .idle => pure .idle
  | .finding incidentId item lookup => do
    let lookup ← lookup.next
    pure (.locate incidentId item lookup)
  | .loading caseId item => do
    let case ← getCase caseId
    let case ← orRaise (case.bind CaseProjection.atomic?) .keyError
    pure (.writing case.caseId item)
  | .writing caseId item => do
    caseWriteGuard caseId (item.guarded py caseId draws.toGraphDraws)
    pure .idle
  | .findingChild parentCaseId reason evidenceRefs lookup => do
    let lookup ← lookup.next
    pure (.locateChild parentCaseId reason evidenceRefs lookup)
  | .findingParent child reason evidenceRefs lookup => do
    let lookup ← lookup.next
    pure (.locateParent child reason evidenceRefs lookup)
  | .linking child parent reason evidenceRefs => do
    let _ ← linkChildCase child parent (safeString py 500 (.str reason))
      ((evidenceRefs.take 20).map (safeString py 160)) draws.linkedAt draws.link
    pure .idle

end Writer

/-! ## The traffic -/

/-- The store, and any number of observers and of graph writers. -/
structure Traffic where
  store : Store
  observers : Nat → Observer
  writers : Nat → GraphWriter

/-- Nothing is going on. -/
def Traffic.quiet (store : Store) : Traffic where
  store := store
  observers _ := .idle
  writers _ := .idle

inductive TrafficLabel where
  | receive (j : Nat) (observation : ObservationRecord)
  | observe (j : Nat) (draws : ObserveDraws)
  | begin (i : Nat) (call : GraphCall)
  | write (i : Nat) (draws : WriterDraws)
  | link (call : LinkCall)
  | resolve (caseId handoffId : String) (outcome : OutcomeRecord) (now : String)
      (event : Option CaseEvent)
  | append (update : HandoffUpdate) (handoffStatus : Option HandoffStatus)
      (caseStatus : Option CaseStatus) (caseHandoffStatus : Option String)
      (event : Option CaseEvent)

section Steps

variable (py : Python) (policy : CasePolicy)

def Traffic.atObserver (sys : Traffic) (j : Nat) (c : Observer) (s : Store) : Traffic :=
  { sys with
    store := s
    observers := Function.update sys.observers j c }

def Traffic.atWriter (sys : Traffic) (i : Nat) (c : GraphWriter) (s : Store) : Traffic :=
  { sys with
    store := s
    writers := Function.update sys.writers i c }

def Traffic.after (sys : Traffic) : TrafficLabel → Traffic
  | .receive j observation => sys.atObserver j (.storing observation) sys.store
  | .observe j draws =>
    let r := (sys.observers j).next py policy draws sys.store
    sys.atObserver j (goto .idle r.1) r.2
  | .begin i call => sys.atWriter i call.enter sys.store
  | .write i draws =>
    let r := (sys.writers i).next py draws sys.store
    sys.atWriter i (goto .idle r.1) r.2
  | .link call => { sys with store := (call.run sys.store).2 }
  | .resolve caseId handoffId outcome now event =>
    { sys with store := (resolveCaseWithOutcome caseId handoffId outcome now event sys.store).2 }
  | .append update handoffStatus caseStatus caseHandoffStatus event =>
    { sys with store :=
        (appendHandoffUpdate update handoffStatus caseStatus caseHandoffStatus event sys.store).2 }

/-- A call starts where none is running. -/
def TrafficLabel.Allowed (sys : Traffic) : TrafficLabel → Prop
  | .receive j _ => sys.observers j = .idle
  | .begin i _ => sys.writers i = .idle
  | _ => True

instance (sys : Traffic) : (l : TrafficLabel) → Decidable (l.Allowed sys)
  | .receive j _ =>
    match h : sys.observers j with
    | .idle => isTrue h
    | .storing .. | .aliasing .. | .loading .. | .writing .. | .updating .. =>
        isFalse fun hidle => by simp only [TrafficLabel.Allowed, h, reduceCtorEq] at hidle
  | .begin i _ =>
    match h : sys.writers i with
    | .idle => isTrue h
    | .finding .. | .loading .. | .writing .. | .findingChild .. | .findingParent .. | .linking .. =>
        isFalse fun hidle => by simp only [TrafficLabel.Allowed, h, reduceCtorEq] at hidle
  | .observe .. | .write .. | .link .. | .resolve .. | .append .. => isTrue trivial

def trafficStep (sys : Traffic) (l : TrafficLabel) (t : Traffic) : Prop :=
  l.Allowed sys ∧ t = sys.after py policy l

end Steps

/-! ## Calls that nobody interrupts -/

section Link

variable (py : Python) (draws : WriterDraws)

/-- A lookup inside a call goes on where the call does. -/
theorem byAlias_performs {f : Lookup → GraphWriter}
    (hf : ∀ text aliasTypes s, (f (.byAlias text aliasTypes)).next py draws s =
      ((Lookup.byAlias text aliasTypes).next >>= fun lookup => pure (f lookup)) s) (text : String) :
    ∀ aliasTypes : List AliasType, Performs (GraphWriter.next py draws) .idle
      (f (.byAlias text aliasTypes)) (resolveByAlias text aliasTypes) fun caseId => f (.found caseId)
  | [] => Performs.step fun s => hf text [] s
  | aliasType :: rest => by
    intro s
    have hfirst := resolveAlias_run aliasType text s
    have hstep := hf text (aliasType :: rest) s
    unfold resolveByAlias
    rw [bind_ok hfirst]
    unfold Lookup.next at hstep
    rw [bind_bind_run, bind_ok hfirst] at hstep
    cases hid : truthyId (s.resolves? aliasType text) with
    | some caseId =>
      rw [hid] at hstep
      exact .go hstep (.refl _ _)
    | none =>
      rw [hid] at hstep
      exact .go hstep (byAlias_performs hf text rest s)

theorem lookup_performs {f : Lookup → GraphWriter}
    (hdirect : ∀ text s, (f (.direct text)).next py draws s =
      ((Lookup.direct text).next >>= fun lookup => pure (f lookup)) s)
    (hf : ∀ text aliasTypes s, (f (.byAlias text aliasTypes)).next py draws s =
      ((Lookup.byAlias text aliasTypes).next >>= fun lookup => pure (f lookup)) s)
    (identifier : String) : Performs (GraphWriter.next py draws) .idle (f (.enter identifier))
      (resolveCaseIdentifier identifier) fun caseId => f (.found caseId) := by
  unfold Lookup.enter resolveCaseIdentifier
  by_cases hempty : strip identifier = ""
  · simp only [hempty, if_true]
    exact Performs.pure none fun caseId => f (.found caseId)
  · simp only [hempty, if_false]
    intro s
    have hstep := hdirect (strip identifier) s
    unfold Lookup.next getCase at hstep
    unfold getCase
    rw [bind_bind_run, peek_bind_run] at hstep
    rw [peek_bind_run]
    cases hcase : (s.cases.get? (strip identifier)).bind CaseProjection.atomic? with
    | some case =>
      simp only [hcase] at hstep ⊢
      exact .go hstep (.refl _ _)
    | none =>
      simp only [hcase] at hstep ⊢
      exact .go hstep (byAlias_performs py draws hf _ _ s)

/-- What a write of a summary or of fields leaves. -/
theorem graphWrite_state (incidentId : String) (item : GraphWrite) (s : Store) :
    (GraphCall.run py draws (.write incidentId item) s).2 =
      match s.graphCase? incidentId with
      | some case =>
        (caseWriteGuard case.caseId (item.guarded py case.caseId draws.toGraphDraws) s).2
      | none => s := by
  cases item with
  | summary payload =>
    have hrun : GraphCall.run py draws (.write incidentId (.summary payload)) =
        putSummary py incidentId payload draws.toGraphDraws := rfl
    rw [hrun, putSummary, requireGraphCase_bind_run]
    cases s.graphCase? incidentId <;> rfl
  | fields payload =>
    have hrun : GraphCall.run py draws (.write incidentId (.fields payload)) =
        (updateCase py incidentId payload draws.toGraphDraws >>= fun _ => pure ()) := rfl
    rw [hrun, bind_pure_state, updateCase, requireGraphCase_bind_run]
    cases s.graphCase? incidentId with
    | none => rfl
    | some case => exact (caseWriteGuard_pure_state case.caseId _ (fun _ => ()) s).symm

theorem write_reaches (incidentId : String) (item : GraphWrite) (s : Store) :
    Effects.Reaches (GraphWriter.next py draws) .idle
      (.locate incidentId item (.enter incidentId)) s .idle
      (GraphCall.run py draws (.write incidentId item) s).2 := by
  have hfind := lookup_performs py draws (f := GraphWriter.locate incidentId item)
    (fun _ _ => rfl) (fun _ _ _ => rfl) incidentId s
  rw [resolveCaseIdentifier_run] at hfind
  refine hfind.trans ?_
  rw [graphWrite_state]
  have hload : ∀ case, s.graphCase? incidentId = case →
      (GraphWriter.loading (orText ((s.graphCaseId? incidentId).getD "") incidentId) item).next py
        draws s = (orRaise case .keyError >>= fun case =>
          (pure (.writing case.caseId item) : StoreM GraphWriter)) s := by
    rintro case rfl
    rfl
  cases hcase : s.graphCase? incidentId with
  | none => exact .stop (hload none hcase)
  | some case =>
    refine .go (hload (some case) hcase) ?_
    refine Performs.halts (x := caseWriteGuard case.caseId
      (item.guarded py case.caseId draws.toGraphDraws)) ?_ s
    exact Performs.step fun _ => rfl

theorem linkToParent_reaches (childCaseId parentCaseId reason : String) (evidenceRefs : List Json)
    (s : Store) :
    Effects.Reaches (GraphWriter.next py draws) .idle
      (.locateChild parentCaseId reason evidenceRefs (.enter childCaseId)) s .idle
      (GraphCall.run py draws (.linkToParent childCaseId parentCaseId reason evidenceRefs) s).2 := by
  have hchild := lookup_performs py draws
    (f := GraphWriter.locateChild parentCaseId reason evidenceRefs)
    (fun _ _ => rfl) (fun _ _ _ => rfl) childCaseId s
  have hparent := lookup_performs py draws
    (f := GraphWriter.locateParent (s.graphCaseId? childCaseId) reason evidenceRefs)
    (fun _ _ => rfl) (fun _ _ _ => rfl) parentCaseId s
  rw [resolveCaseIdentifier_run] at hchild hparent
  refine (hchild.trans hparent).trans ?_
  have hrun : GraphCall.run py draws (.linkToParent childCaseId parentCaseId reason evidenceRefs) =
      (linkToParentCase py childCaseId parentCaseId reason evidenceRefs draws.linkedAt draws.link >>=
        fun _ => pure ()) := rfl
  rw [hrun, bind_pure_state, linkToParentCase, bind_ok (resolveCaseIdentifier_run childCaseId s),
    bind_ok (resolveCaseIdentifier_run parentCaseId s)]
  change Effects.Reaches _ _ (GraphWriter.locateParent (s.graphCaseId? childCaseId) reason
    evidenceRefs
    (.found (s.graphCaseId? parentCaseId))) s .idle _
  unfold GraphWriter.locateParent
  dsimp only
  cases truthyId (s.graphCaseId? childCaseId) with
  | none => exact .refl _ _
  | some child =>
    cases truthyId (s.graphCaseId? parentCaseId) with
    | none => exact .refl _ _
    | some parent => exact Performs.halts (Performs.step fun _ => rfl) s

theorem atWriter_self {sys : Traffic} {i : Nat} {c : GraphWriter} (h : sys.writers i = c)
    (s : Store) : sys.atWriter i c s = { sys with store := s } := by
  unfold Traffic.atWriter
  rw [← h, Function.update_eq_self]

/-- What the steps of one writer reach, the traffic reaches. -/
theorem writes_of_reaches (policy : CasePolicy) (sys : Traffic) (i : Nat) {c c' : GraphWriter}
    {s t : Store} (h : Effects.Reaches (GraphWriter.next py draws) .idle c s c' t) :
    ∃ ls, Run (trafficStep py policy) (sys.atWriter i c s) ls (sys.atWriter i c' t) := by
  induction h with
  | refl => exact ⟨[], .nil _⟩
  | @head c c' s u _ ih =>
    obtain ⟨ls, hls⟩ := ih
    refine ⟨.write i draws :: ls, Run.cons ⟨trivial, ?_⟩ hls⟩
    simp [Traffic.after, Traffic.atWriter]

/-- **A call that nobody interrupts does what `GraphCall.run` says.** -/
theorem graphCall_steps (policy : CasePolicy) {sys : Traffic} {i : Nat}
    (hidle : sys.writers i = .idle) (call : GraphCall) :
    ∃ ls, Run (trafficStep py policy) sys ls
      { sys with store := (call.run py draws sys.store).2 } := by
  have hbegin : trafficStep py policy sys (.begin i call)
      (sys.atWriter i call.enter sys.store) := ⟨hidle, rfl⟩
  have hreach : Effects.Reaches (GraphWriter.next py draws) .idle call.enter sys.store .idle
      (call.run py draws sys.store).2 := by
    cases call with
    | write incidentId item => exact write_reaches py draws incidentId item sys.store
    | linkToParent childCaseId parentCaseId reason evidenceRefs =>
      exact linkToParent_reaches py draws childCaseId parentCaseId reason evidenceRefs sys.store
  obtain ⟨ls, hls⟩ := writes_of_reaches py draws policy sys i hreach
  rw [atWriter_self hidle] at hls
  exact ⟨_, Run.cons hbegin hls⟩

end Link

end NocAgent.Cases
