import NocAgent.Python.Value
import NocAgent.Lib.Lts

/-!
# Case cards

A Discord card shows a case.  Its file remembers the message, the digest of the payload it shows, the
revision of the case, and when Discord confirmed it last.

* `readCard` — the record in the file, if it is a valid one.
* `deliverCaseCard` — one call, with what its callbacks do.
* `CardSystem` — calls for one destination and case, one after the other, as the file lock has them.

Principal result: `cards_run` — revisions do not go backwards, a call that does not deliver leaves
the file, and the record is that of the content accepted last.
-/

set_option autoImplicit false

namespace NocAgent.Cases

open Lts

/-! ## The file -/

def CARD_REFRESH_S : ℚ := 21600

inductive CardFile where
  | missing
  /-- what the text of the file is; `none` is not JSON -/
  | holds (json : Option Json)

/-- A valid record. -/
structure CardState where
  messageId : Int
  digest : String
  /-- a number -/
  verifiedAt : Json
  revision : PyFloat

/-- `x if isinstance(x, (int, float)) else 0`. -/
def numberOrZero (x : Json) : Json :=
  match x.number? with
  | some _ => x
  | none => .int 0

/-- The record in the file; without one the card counts as new. -/
def readCard : CardFile → Option CardState
  | .holds (some (.dict state)) =>
    match state.lookup "message_id", state.lookup "digest" with
    | some (.int messageId), some (.str previous) =>
      if 0 < messageId then
        some ⟨messageId, previous, numberOrZero (JsonDict.getD state "verified_at" (.int 0)),
          ((JsonDict.getD state "revision" (.int 0)).number?).getD (.fin 0)⟩
      else none
    | _, _ => none
  | _ => none

/-- The file that a delivery writes. -/
def cardFile (messageId : Int) (digest : String) (verifiedAt : Json) (revision : ℚ) : CardFile :=
  .holds (some (.dict [("message_id", .int messageId), ("digest", .str digest),
    ("verified_at", verifiedAt), ("revision", .float (.fin revision))]))

/-- `0 <= verified_now - verified_at < CARD_REFRESH_S`. -/
def recentlyVerified (verifiedAt : Json) (now : ℚ) : Bool :=
  match verifiedAt.number? with
  | some (.fin q) => decide (0 ≤ now - q ∧ now - q < CARD_REFRESH_S)
  | _ => false

/-- The time of a receipt: finite, positive and not in the future. -/
def receiptTime (verifiedAt : Json) (now : ℚ) : Option ℚ :=
  match verifiedAt with
  | .int n => if 0 < (n : ℚ) ∧ (n : ℚ) ≤ now then some n else none
  | .float (.fin q) => if 0 < q ∧ q ≤ now then some q else none
  | _ => none

/-! ## A call -/

/-- What `edit` does within its time. -/
inductive EditOutcome where
  | returned (accepted : Bool)
  | cardNotFound
  /-- another exception, or the timeout -/
  | raised
  | cancelled
  deriving DecidableEq, Repr

/-- What `create` does within its time. -/
inductive CreateOutcome where
  | returned (value : Json)
  | raised
  | cancelled

/-- A call that offers a payload for the card of a case. -/
structure CardCall where
  payload : Json
  revision : ℚ
  forceRefresh : Bool := false
  supersededReceipt : Bool := false
  /-- the directory is there, and the lock is taken in time -/
  locked : Bool := true
  now : ℚ
  edit : EditOutcome
  create : CreateOutcome

inductive CardResult where
  | delivered
  | failed
  | superseded
  | receipt (verifiedAt : ℚ)
  /-- the call itself was cancelled -/
  | cancelled
  deriving DecidableEq

/-- A use of a callback, and whether it accepted the content. -/
inductive CardEvent where
  | edited (accepted : Bool)
  | created (accepted : Bool)
  deriving DecidableEq

section Call

variable (py : Python)

/-- The digest of a payload. -/
def cardDigest (payload : Json) : String := py.sha256 (py.dumps payload)

/-- The part of the call that posts a new card. -/
def createCard (file : CardFile) (call : CardCall) (before : List CardEvent) :
    CardFile × CardResult × List CardEvent :=
  match call.create with
  | .returned (.int messageId) =>
    if 0 < messageId then
      (cardFile messageId (cardDigest py call.payload) (.float (.fin call.now)) call.revision,
        .delivered, before ++ [.created true])
    else (file, .failed, before ++ [.created false])
  | .returned _ => (file, .failed, before ++ [.created false])
  | .raised => (file, .failed, before ++ [.created false])
  | .cancelled => (file, .cancelled, before ++ [.created false])

/-- `deliver_case_card`. -/
def deliverCaseCard (file : CardFile) (call : CardCall) : CardFile × CardResult × List CardEvent :=
  if !call.locked then (file, .failed, [])
  else
    match readCard file with
    | none => createCard py file call []
    | some state =>
      if state.revision.gt call.revision then
        match receiptTime state.verifiedAt call.now, call.supersededReceipt with
        | some verifiedAt, true => (file, .receipt verifiedAt, [])
        | _, _ => (file, .superseded, [])
      else if !call.forceRefresh && state.digest == cardDigest py call.payload &&
          recentlyVerified state.verifiedAt call.now then
        if state.revision = .fin call.revision then (file, .delivered, [])
        else
          -- the order advances without a request, and the confirmation keeps its time
          (cardFile state.messageId (cardDigest py call.payload) state.verifiedAt call.revision,
            .delivered, [])
      else
        match call.edit with
        | .returned true =>
          (cardFile state.messageId (cardDigest py call.payload) (.float (.fin call.now))
            call.revision, .delivered, [.edited true])
        | .returned false => (file, .failed, [.edited false])
        | .cardNotFound => createCard py file call [.edited false]
        | .raised => (file, .failed, [.edited false])
        | .cancelled => (file, .cancelled, [.edited false])

end Call

/-! ## Calls in a row -/

/-- The file of a card, and what was delivered of it. -/
structure CardSystem where
  file : CardFile := .missing
  /-- the payload that a callback accepted last -/
  accepted : Option Json := none
  /-- the highest revision of a call that delivered -/
  highest : Option ℚ := none

/-- A callback accepted the content. -/
def accepts (events : List CardEvent) : Bool :=
  events.any fun event => event = .edited true ∨ event = .created true

/-- The highest revision after a call that delivers. -/
def highestOf (highest : Option ℚ) (revision : ℚ) : ℚ :=
  match highest with
  | some old => max old revision
  | none => revision

/-- The system after a call that came out as `out`. -/
def CardSystem.after (s : CardSystem) (call : CardCall)
    (out : CardFile × CardResult × List CardEvent) : CardSystem where
  file := out.1
  accepted := if accepts out.2.2 then some call.payload else s.accepted
  highest := if out.2.1 = .delivered then some (highestOf s.highest call.revision) else s.highest

theorem CardSystem.after_kept (s : CardSystem) {call : CardCall} {result : CardResult}
    {events : List CardEvent} (hresult : result ≠ .delivered) (haccepts : accepts events = false) :
    s.after call (s.file, result, events) = s := by
  unfold CardSystem.after
  simp [hresult, haccepts]

section System

variable (py : Python)

def CardSystem.next (s : CardSystem) (call : CardCall) : CardSystem :=
  s.after call (deliverCaseCard py s.file call)

def cardStep (s : CardSystem) (call : CardCall) (t : CardSystem) : Prop := t = s.next py call

end System

/-- The revision in the file. -/
def recordedRevision (file : CardFile) : Option PyFloat := (readCard file).map CardState.revision

/-- **A call does not go backwards**, and posts a new card only for want of one. -/
structure CardOrdered (py : Python) (file : CardFile) (call : CardCall) : Prop where
  forward : ∀ old, recordedRevision file = some (.fin old) →
    ∃ new, recordedRevision (deliverCaseCard py file call).1 = some (.fin new) ∧ old ≤ new
  unchanged : (deliverCaseCard py file call).2.1 ≠ .delivered → (deliverCaseCard py file call).1 = file
  created : ∀ accepted, .created accepted ∈ (deliverCaseCard py file call).2.2 →
    readCard file = none ∨ call.edit = .cardNotFound

/-- The record is that of the content accepted last, at the highest revision. -/
def CardRecorded (py : Python) (s : CardSystem) : Prop :=
  (s.file = .missing ∧ s.accepted = none ∧ s.highest = none) ∨
    ∃ messageId payload verifiedAt revision, 0 < messageId ∧
      s.file = cardFile messageId (cardDigest py payload) verifiedAt revision ∧
      (∃ x, Json.number? verifiedAt = some x) ∧ s.accepted = some payload ∧
      s.highest = some revision

section Runs

variable {py : Python} {s t : CardSystem} {file : CardFile} {call : CardCall}
  {out : CardFile × CardResult × List CardEvent}

theorem readCard_cardFile {messageId : Int} (h : 0 < messageId) (digest : String)
    {verifiedAt : Json} (hnumber : ∃ x, Json.number? verifiedAt = some x) (revision : ℚ) :
    readCard (cardFile messageId digest verifiedAt revision) =
      some ⟨messageId, digest, verifiedAt, .fin revision⟩ := by
  obtain ⟨x, hx⟩ := hnumber
  have hkeep : numberOrZero verifiedAt = verifiedAt := by
    unfold numberOrZero
    rw [hx]
  change (if 0 < messageId then some (⟨messageId, digest, numberOrZero verifiedAt, .fin revision⟩ :
    CardState) else none) = _
  rw [if_pos h, hkeep]

/-- What a call can do. -/
inductive CardMove (py : Python) (file : CardFile) (call : CardCall) :
    CardFile × CardResult × List CardEvent → Prop where
  | kept {result : CardResult} {events : List CardEvent} (hresult : result ≠ .delivered)
      (haccepts : accepts events = false)
      (hcreated : ∀ accepted, .created accepted ∈ events →
        readCard file = none ∨ call.edit = .cardNotFound) :
      CardMove py file call (file, result, events)
  | unchanged {state : CardState} (hread : readCard file = some state)
      (hrevision : state.revision = .fin call.revision) :
      CardMove py file call (file, .delivered, [])
  | advanced {state : CardState} (hread : readCard file = some state)
      (hrevision : state.revision.gt call.revision = false)
      (hdigest : state.digest = cardDigest py call.payload) :
      CardMove py file call (cardFile state.messageId (cardDigest py call.payload) state.verifiedAt
        call.revision, .delivered, [])
  | accepted {messageId : Int} {events : List CardEvent} (hid : 0 < messageId)
      (haccepts : accepts events = true)
      (hrevision : ∀ state, readCard file = some state → state.revision.gt call.revision = false)
      (hcreated : ∀ accepted, .created accepted ∈ events →
        readCard file = none ∨ call.edit = .cardNotFound) :
      CardMove py file call (cardFile messageId (cardDigest py call.payload) (.float (.fin call.now))
        call.revision, .delivered, events)

theorem readCard_messageId {file : CardFile} {state : CardState}
    (h : readCard file = some state) : 0 < state.messageId := by
  unfold readCard at h
  split at h
  · split at h
    · split at h
      · cases h
        assumption
      · cases h
    · cases h
  · cases h

/-- Posting a card, where that is called for. -/
theorem createCard_move {file : CardFile} {before : List CardEvent}
    (hbefore : before = [] ∨ before = [.edited false])
    (hcalled : readCard file = none ∨ call.edit = .cardNotFound)
    (hrevision : ∀ state, readCard file = some state → state.revision.gt call.revision = false) :
    CardMove py file call (createCard py file call before) := by
  have hfailed : accepts (before ++ [.created false]) = false := by
    rcases hbefore with rfl | rfl <;> decide
  have hcreated : accepts (before ++ [.created true]) = true := by
    rcases hbefore with rfl | rfl <;> decide
  unfold createCard
  split
  · split
    · next hid => exact .accepted hid hcreated hrevision fun _ _ => hcalled
    · exact .kept (by decide) hfailed fun _ _ => hcalled
  · exact .kept (by decide) hfailed fun _ _ => hcalled
  · exact .kept (by decide) hfailed fun _ _ => hcalled
  · exact .kept (by decide) hfailed fun _ _ => hcalled

theorem deliverCaseCard_move (py : Python) (file : CardFile) (call : CardCall) :
    CardMove py file call (deliverCaseCard py file call) := by
  unfold deliverCaseCard
  split
  · exact .kept (by decide) rfl fun _ h => absurd h List.not_mem_nil
  · split
    · next hread =>
      refine createCard_move (Or.inl rfl) (Or.inl hread) fun state hstate => ?_
      rw [hread] at hstate
      cases hstate
    · next state hread =>
      split
      · split
        · refine .kept ?_ rfl fun _ h => absurd h List.not_mem_nil
          intro h
          cases h
        · exact .kept (by decide) rfl fun _ h => absurd h List.not_mem_nil
      · next hgt =>
        have hgt : state.revision.gt call.revision = false := by simpa using hgt
        have hrevision : ∀ other, readCard file = some other →
            other.revision.gt call.revision = false := by
          intro other hother
          rw [hread] at hother
          cases hother
          exact hgt
        split
        · next hskip =>
          split
          · next hsame => exact .unchanged hread hsame
          · refine .advanced hread hgt ?_
            simp only [Bool.and_eq_true, beq_iff_eq] at hskip
            exact hskip.1.2
        · cases hedit : call.edit with
          | returned accepted =>
            cases accepted with
            | true =>
              refine .accepted (readCard_messageId hread) rfl hrevision fun _ h => ?_
              simp at h
            | false =>
              refine .kept (by decide) rfl fun _ h => ?_
              simp at h
          | cardNotFound => exact createCard_move (Or.inr rfl) (Or.inr hedit) hrevision
          | raised =>
            refine .kept (by decide) rfl fun _ h => ?_
            simp at h
          | cancelled =>
            refine .kept (by decide) rfl fun _ h => ?_
            simp at h

theorem recordedRevision_cardFile {messageId : Int} (h : 0 < messageId) (digest : String)
    {verifiedAt : Json} (hnumber : ∃ x, Json.number? verifiedAt = some x) (revision : ℚ) :
    recordedRevision (cardFile messageId digest verifiedAt revision) = some (.fin revision) := by
  unfold recordedRevision
  rw [readCard_cardFile h digest hnumber]
  rfl

theorem readCard_verifiedAt {file : CardFile} {state : CardState}
    (h : readCard file = some state) : ∃ x, Json.number? state.verifiedAt = some x := by
  have hzero : ∀ value : Json, ∃ x, Json.number? (numberOrZero value) = some x := by
    intro value
    unfold numberOrZero
    split
    · next x hx => exact ⟨x, hx⟩
    · exact ⟨.fin 0, rfl⟩
  unfold readCard at h
  split at h
  · split at h
    · split at h
      · cases h
        exact hzero _
      · cases h
    · cases h
  · cases h

/-- A call whose revision is not below that of the file writes no lower one. -/
theorem recordedRevision_le {old : ℚ} (hold : recordedRevision file = some (.fin old))
    (hrevision : ∀ state, readCard file = some state → state.revision.gt call.revision = false) :
    old ≤ call.revision := by
  obtain ⟨state, hread, hstate⟩ := Option.map_eq_some_iff.1 hold
  have hgt := hrevision state hread
  rw [hstate] at hgt
  exact not_lt.1 (of_decide_eq_false hgt)

theorem CardMove.forward (h : CardMove py file call out) {old : ℚ}
    (hold : recordedRevision file = some (.fin old)) :
    ∃ new, recordedRevision out.1 = some (.fin new) ∧ old ≤ new := by
  cases h with
  | kept => exact ⟨old, hold, le_refl old⟩
  | unchanged => exact ⟨old, hold, le_refl old⟩
  | advanced hread hgt =>
    refine ⟨call.revision, ?_, recordedRevision_le hold fun other hother => ?_⟩
    · exact recordedRevision_cardFile (readCard_messageId hread) _ (readCard_verifiedAt hread) _
    · rw [hread] at hother
      cases hother
      exact hgt
  | accepted hid _ hrevision =>
    refine ⟨call.revision, ?_, recordedRevision_le hold hrevision⟩
    exact recordedRevision_cardFile hid _ ⟨.fin call.now, rfl⟩ _

theorem CardMove.file_eq (h : CardMove py file call out) (hresult : out.2.1 ≠ .delivered) :
    out.1 = file := by
  cases h with
  | kept => rfl
  | unchanged => rfl
  | advanced => exact absurd rfl hresult
  | accepted => exact absurd rfl hresult

theorem CardMove.created (h : CardMove py file call out) {accepted : Bool}
    (hevent : .created accepted ∈ out.2.2) : readCard file = none ∨ call.edit = .cardNotFound := by
  cases h with
  | kept _ _ hcalled => exact hcalled accepted hevent
  | unchanged => exact absurd hevent List.not_mem_nil
  | advanced => exact absurd hevent List.not_mem_nil
  | accepted _ _ _ hcalled => exact hcalled accepted hevent

/-- **Every call is in order**, whatever the file holds. -/
theorem cardOrdered (py : Python) (file : CardFile) (call : CardCall) :
    CardOrdered py file call where
  forward _ hold := (deliverCaseCard_move py file call).forward hold
  unchanged hresult := (deliverCaseCard_move py file call).file_eq hresult
  created _ hevent := (deliverCaseCard_move py file call).created hevent

theorem highestOf_eq {highest : Option ℚ} {revision : ℚ}
    (h : ∀ old, highest = some old → old ≤ revision) : highestOf highest revision = revision := by
  cases highest with
  | none => rfl
  | some old => exact max_eq_right (h old rfl)

/-- The revision in the file is the highest. -/
theorem CardRecorded.highest_le (hs : CardRecorded py s)
    (hrevision : ∀ state, readCard s.file = some state → state.revision.gt call.revision = false)
    {old : ℚ} (hold : s.highest = some old) : old ≤ call.revision := by
  obtain ⟨-, -, hnone⟩ | ⟨messageId, payload, verifiedAt, revision, hid, hfile, hnumber, -, hhighest⟩ :=
    hs
  · rw [hnone] at hold
    cases hold
  · rw [hhighest] at hold
    cases hold
    have hrecorded : recordedRevision s.file = some (.fin old) := by
      rw [hfile]
      exact recordedRevision_cardFile hid _ hnumber _
    exact recordedRevision_le hrecorded hrevision

/-- **One call keeps the record true.** -/
theorem CardMove.recorded (h : CardMove py s.file call out) (hs : CardRecorded py s) :
    CardRecorded py (s.after call out) := by
  cases h with
  | kept hresult haccepts =>
    have hafter : s.after call (s.file, _, _) = s := s.after_kept hresult haccepts
    rw [hafter]
    exact hs
  | @unchanged state hread hrevision =>
    obtain ⟨hfile, -, -⟩ | ⟨messageId, payload, verifiedAt, revision, hid, hfile, hnumber,
      haccepted, hhighest⟩ := id hs
    · rw [hfile] at hread
      cases hread
    · rw [hfile, readCard_cardFile hid _ hnumber] at hread
      cases hread
      cases hrevision
      refine Or.inr ⟨messageId, payload, verifiedAt, call.revision, hid, hfile, hnumber, haccepted, ?_⟩
      change some (highestOf s.highest call.revision) = _
      rw [hhighest, highestOf_eq]
      intro old hold
      cases hold
      exact le_refl _
  | @advanced state hread hgt hdigest =>
    obtain ⟨hfile, -, -⟩ | ⟨messageId, payload, verifiedAt, revision, hid, hfile, hnumber,
      haccepted, hhighest⟩ := id hs
    · rw [hfile] at hread
      cases hread
    · have hle : ∀ old, s.highest = some old → old ≤ call.revision := by
        intro old hold
        refine hs.highest_le (fun other hother => ?_) hold
        rw [hread] at hother
        cases hother
        exact hgt
      rw [hfile, readCard_cardFile hid _ hnumber] at hread
      cases hread
      refine Or.inr ⟨messageId, payload, verifiedAt, call.revision, hid, ?_, hnumber, haccepted, ?_⟩
      · change cardFile messageId (cardDigest py call.payload) verifiedAt call.revision = _
        rw [← hdigest]
      · exact congrArg some (highestOf_eq hle)
  | @accepted messageId events hid haccepts hrevision =>
    refine Or.inr ⟨messageId, call.payload, .float (.fin call.now), call.revision, hid, rfl,
      ⟨.fin call.now, rfl⟩, if_pos haccepts, ?_⟩
    exact congrArg some (highestOf_eq fun old hold => hs.highest_le hrevision hold)

/-- The state that a run from no card reaches is recorded truly. -/
theorem cards_recorded {calls : List CardCall} (hrun : Run (cardStep py) {} calls s) :
    CardRecorded py s := by
  refine hrun.invariant (I := CardRecorded py) ?_ (Or.inl ⟨rfl, rfl, rfl⟩)
  rintro s call _ hs rfl
  exact (deliverCaseCard_move py s.file call).recorded hs

/-- **Case cards do not go backwards.**  Whatever calls came first, the next one is in order; there
is no record until a callback accepted content, and then it has the digest of the content accepted
last and the highest revision that was delivered. -/
theorem cards_run (py : Python) (calls : List CardCall) (s : CardSystem)
    (hrun : Run (cardStep py) {} calls s) :
    (∀ call, CardOrdered py s.file call) ∧ (s.accepted = none → s.file = .missing) ∧
      ∀ payload, s.accepted = some payload → ∃ state revision, readCard s.file = some state ∧
        state.digest = cardDigest py payload ∧ state.revision = .fin revision ∧
          s.highest = some revision := by
  refine ⟨cardOrdered py s.file, ?_⟩
  obtain ⟨hfile, hnone, -⟩ | ⟨messageId, last, verifiedAt, revision, hid, hfile, hnumber, hlast,
    hhighest⟩ := cards_recorded hrun
  · refine ⟨fun _ => hfile, fun payload haccepts => ?_⟩
    rw [hnone] at haccepts
    cases haccepts
  · refine ⟨fun hnone => ?_, fun payload haccepts => ?_⟩
    · rw [hlast] at hnone
      cases hnone
    · rw [hlast] at haccepts
      cases haccepts
      refine ⟨⟨messageId, cardDigest py last, verifiedAt, .fin revision⟩, revision, ?_, rfl, rfl,
        hhighest⟩
      rw [hfile]
      exact readCard_cardFile hid _ hnumber _

end Runs

/-- Digests that are the titles of the cards. -/
def titlePython : Python :=
  { asciiPython with
    dumps := fun payload =>
      match payload with
      | .dict [("title", .str title)] => title
      | _ => ""
    sha256 := id }

/-- A card is posted and found deleted; the older of two updates comes last. -/
def lateUpdate : List CardCall :=
  [{ payload := .dict [("title", .str "open")], revision := 1, now := 10, edit := .raised,
     create := .returned (.int 7) },
   { payload := .dict [("title", .str "resolved")], revision := 3, now := 20, edit := .cardNotFound,
     create := .returned (.int 8) },
   { payload := .dict [("title", .str "open")], revision := 2, now := 30, edit := .returned true,
     create := .raised }]

def lateUpdateSystem : CardSystem := lateUpdate.foldl (CardSystem.next titlePython) {}

theorem cards_run_lateUpdate : ∃ state revision, readCard lateUpdateSystem.file = some state ∧
    state.digest = cardDigest titlePython (.dict [("title", .str "resolved")]) ∧
    state.revision = .fin revision ∧ lateUpdateSystem.highest = some revision := by
  have hrun : Run (cardStep titlePython) {} lateUpdate lateUpdateSystem :=
    Run.cons rfl (Run.cons rfl (Run.single rfl))
  exact (cards_run titlePython lateUpdate lateUpdateSystem hrun).2.2 _ rfl

end NocAgent.Cases
