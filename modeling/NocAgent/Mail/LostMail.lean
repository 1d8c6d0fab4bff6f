import NocAgent.Mail.Mailbox

/-!
# Which mail a poll loses

* `Accounted` — after the poll every listed message has a stored draft of its own, needs no
  response, or is still unseen.
* `Handled` — the poll gets through the messages that it fetched, and no draft is written over.
* `Unlost` — when a poll loses nothing, from what it meets.
* `accounted_iff` — the two are the same.
-/

set_option autoImplicit false

namespace NocAgent.Mail

open Effects Keyed

section Polling

variable (py : Python) (email : EmailPackage)

/-- What a fetch gives: nothing, a message, or an exception. -/
def fetchResult (a : Arrival) : Except PyExc (Option InboundMail) :=
  match a.reply with
  | .raised e => .error e
  | .answered _ _ =>
    match a.reply.raw? with
    | none => .ok none
    | some raw =>
      match parseMessage py email a.uid raw with
      | .error e => .error e
      | .ok message => .ok (some message)

/-- The fetch or the parser raises. -/
def fetchStops (a : Arrival) : Bool :=
  match fetchResult py email a with
  | .error _ => true
  | .ok _ => false

/-- The fetches that are sent: up to the first that stops. -/
def sentFetches : List Arrival → List Arrival
  | [] => []
  | a :: rest => if fetchStops py email a then [a] else a :: sentFetches rest

/-- The messages of the fetches. -/
def fetchedMail (arrivals : List Arrival) : List (Arrival × InboundMail) :=
  arrivals.filterMap fun a =>
    match fetchResult py email a with
    | .ok (some message) => some (a, message)
    | _ => none

/-- The draft of the message is stored, or the message needs no response. -/
def Done (s : MailState) (p : Arrival × InboundMail) : Prop :=
  (∃ plan, p.1.model = .ok plan ∧
    s.drafts (draftIdOf py p.2) = some (.stored (storedDraft py p.2 p.1.createdAt plan))) ∨
  p.2.uid ∈ s.noResponse

/-- **Every message of the list is accounted for.** -/
def Accounted (poll : Poll) (s : MailState) : Prop :=
  ∀ a ∈ poll.arrivals,
    (∃ message, fetchResult py email a = .ok (some message) ∧ Done py s (a, message)) ∨
      a.uid ∉ s.seen

/-- Every message that needs a response gets a plan and a draft file, an exception after that comes
with the last one only, and no later message that needs a response has its draft id. -/
def Handled : List (Arrival × InboundMail) → Prop
  | [] => True
  | p :: rest => (mailNeedsNoResponse py p.2 = false →
      (∃ plan, p.1.model = .ok plan) ∧ p.1.write = .written ∧
      (p.1.imapError = none ∨ rest = []) ∧
      ∀ q ∈ rest, mailNeedsNoResponse py q.2 = false → draftIdOf py q.2 ≠ draftIdOf py p.2) ∧
    Handled rest

/-- The poll ends before it looks at the messages. -/
def Poll.Cut (poll : Poll) : Prop :=
  (∃ a ∈ poll.arrivals, fetchStops py email a = true) ∨ poll.logoutError ≠ none

/-- Once fetching has begun: if it is cut, no fetch that was sent has marked its message as seen;
otherwise a fetch without a message has not, and those with one are handled. -/
def Poll.Unlost (poll : Poll) : Prop :=
  poll.startError = none →
    (poll.Cut py email → ∀ a ∈ sentFetches py email poll.arrivals, a.marks = false) ∧
    (¬ poll.Cut py email →
      (∀ a ∈ poll.arrivals, fetchResult py email a = .ok none → a.marks = false) ∧
      Handled py (fetchedMail py email poll.arrivals))

end Polling

/-! ## Fetching -/

section Fetching

variable {py : Python} {email : EmailPackage} {s : MailState} {a : Arrival}

/-- The uids that the fetches mark. -/
def markedUids (arrivals : List Arrival) : List String :=
  (arrivals.filter Arrival.marks).map Arrival.uid

theorem fetchStops_iff : fetchStops py email a = true ↔ ∃ e, fetchResult py email a = .error e := by
  unfold fetchStops
  cases fetchResult py email a with
  | error e => simp
  | ok message => simp

variable (py email) in
theorem fetchOne_run (a : Arrival) (s : MailState) : fetchOne py email a s =
    (fetchResult py email a, { s with seen := s.seen ++ markedUids [a] }) := by
  have hmark : (if a.marks then { s with seen := s.seen ++ [a.uid] } else s) =
      { s with seen := s.seen ++ markedUids [a] } := by
    unfold markedUids
    cases hmarks : a.marks with
    | true => simp [hmarks]
    | false => simp [hmarks]
  unfold fetchOne fetchResult
  rw [Action.alter_bind_run, hmark]
  cases hreply : a.reply with
  | raised e => rfl
  | answered status data =>
    simp only
    cases (FetchReply.answered status data).raw? with
    | none => rfl
    | some raw =>
      simp only [Action.ofResult_bind_run]
      cases parseMessage py email a.uid raw <;> rfl

variable (py email) in
/-- **The fetches mark what they mark, and give their messages if none of them stops.** -/
theorem fetchUnseenMessages_run : ∀ (arrivals : List Arrival) (s : MailState),
    (fetchUnseenMessages py email arrivals s).2 =
      { s with seen := s.seen ++ markedUids (sentFetches py email arrivals) } ∧
    ((∃ a ∈ arrivals, fetchStops py email a = true) →
      ∃ e, (fetchUnseenMessages py email arrivals s).1 = .error e) ∧
    ((∀ a ∈ arrivals, fetchStops py email a = false) →
      (fetchUnseenMessages py email arrivals s).1 = .ok (fetchedMail py email arrivals))
  | [], s => by simp [fetchUnseenMessages, sentFetches, markedUids, fetchedMail]
  | a :: rest, s => by
    have hone := fetchOne_run py email a s
    unfold fetchUnseenMessages sentFetches
    cases hresult : fetchResult py email a with
    | error e =>
      rw [hresult] at hone
      have hstops : fetchStops py email a = true := fetchStops_iff.2 ⟨e, hresult⟩
      rw [Action.bind_error hone, if_pos hstops]
      refine ⟨rfl, fun _ => ⟨e, rfl⟩, fun hnone => ?_⟩
      rw [hnone a List.mem_cons_self] at hstops
      cases hstops
    | ok message =>
      rw [hresult] at hone
      have hgoes : fetchStops py email a = false := by
        rw [← Bool.not_eq_true, fetchStops_iff, hresult]
        rintro ⟨e, ⟨⟩⟩
      obtain ⟨hstate, herror, hok⟩ := fetchUnseenMessages_run rest
        { s with seen := s.seen ++ markedUids [a] }
      rw [Action.bind_ok hone, hgoes]
      refine ⟨?_, ?_, ?_⟩
      · rw [Action.bind_pure_state, hstate]
        simp [markedUids, List.filter_cons]
        split <;> simp
      · rintro ⟨b, hb, hstops⟩
        rcases List.mem_cons.1 hb with rfl | hb
        · rw [hgoes] at hstops
          cases hstops
        · obtain ⟨e, he⟩ := herror ⟨b, hb, hstops⟩
          exact ⟨e, by rw [Action.bind_error (Prod.ext he rfl)]⟩
      · intro hnone
        have hrest := hok fun b hb => hnone b (List.mem_cons_of_mem _ hb)
        rw [Action.bind_ok (Prod.ext hrest rfl)]
        cases message with
        | none => simp [fetchedMail, hresult]
        | some message => simp [fetchedMail, hresult]

theorem sentFetches_of_goes : ∀ {arrivals : List Arrival},
    (∀ a ∈ arrivals, fetchStops py email a = false) → sentFetches py email arrivals = arrivals
  | [], _ => rfl
  | a :: rest, h => by
    have hrest := sentFetches_of_goes fun b hb => h b (List.mem_cons_of_mem _ hb)
    unfold sentFetches
    rw [h a List.mem_cons_self, hrest]
    rfl

theorem mem_of_mem_sentFetches : ∀ {arrivals : List Arrival} {b : Arrival},
    b ∈ sentFetches py email arrivals → b ∈ arrivals
  | [], b, h => by
    unfold sentFetches at h
    cases h
  | a :: rest, b, h => by
    unfold sentFetches at h
    split at h
    · exact List.mem_singleton.1 h ▸ List.mem_cons_self
    · rcases List.mem_cons.1 h with rfl | h
      · exact List.mem_cons_self
      · exact List.mem_cons_of_mem _ (mem_of_mem_sentFetches h)

end Fetching

/-! ## Drafting -/

section Drafting

variable {py : Python} {s t : MailState} {p q : Arrival × InboundMail}

/-- A draft file of another message, if any. -/
def NoDraftOf (s : MailState) (uid : String) : Prop :=
  ∀ id draft, s.drafts id = some (.stored draft) → draft.sourceUid ≠ uid

/-- The state has nothing of the message yet. -/
structure Untouched (s : MailState) (uid : String) : Prop where
  drafts : NoDraftOf s uid
  noResponse : uid ∉ s.noResponse

theorem Untouched.not_done (h : Untouched s p.2.uid) : ¬ Done py s p := by
  rintro (⟨plan, -, hdraft⟩ | hnone)
  · exact h.drafts _ _ hdraft rfl
  · exact h.noResponse hnone

/-- The state with a draft of the message. -/
def MailState.withDraft (py : Python) (s : MailState) (p : Arrival × InboundMail)
    (plan : MailDraftPlan) : MailState :=
  let draft := storedDraft py p.2 p.1.createdAt plan
  { s with drafts := s.drafts.set draft.draftId (.stored draft) }

theorem Untouched.store (h : Untouched s q.2.uid) (hne : p.2.uid ≠ q.2.uid)
    (plan : MailDraftPlan) : Untouched (s.withDraft py p plan) q.2.uid := by
  refine ⟨fun id draft hdraft => ?_, h.noResponse⟩
  simp only [MailState.withDraft, Index.set_apply] at hdraft
  split at hdraft
  · cases hdraft
    exact hne
  · exact h.drafts id draft hdraft

theorem Untouched.pass (h : Untouched s q.2.uid) (hne : p.2.uid ≠ q.2.uid) :
    Untouched { s with noResponse := s.noResponse ++ [p.2.uid] } q.2.uid := by
  refine ⟨h.drafts, fun hmem => ?_⟩
  rcases List.mem_append.1 hmem with hold | hnew
  · exact h.noResponse hold
  · exact hne (List.mem_singleton.1 hnew).symm

/-! What a round does. -/

theorem processMessage_noResponse (h : mailNeedsNoResponse py p.2 = true) (s : MailState) :
    processMessage py p s = (.ok (), { s with noResponse := s.noResponse ++ [p.2.uid] }) := by
  unfold processMessage
  rw [if_pos h]
  rfl

theorem processMessage_draft (h : mailNeedsNoResponse py p.2 = false) (s : MailState) :
    processMessage py p s = match p.1.model with
      | .error e => (.error e, s)
      | .ok plan => storeDraft p.1 (storedDraft py p.2 p.1.createdAt plan) s := by
  unfold processMessage
  rw [h, if_neg Bool.false_ne_true, Action.ofResult_bind_run]
  cases p.1.model <;> rfl

/-- Rounds without a draft of this name leave the file. -/
theorem processMessages_frame : ∀ {ps : List (Arrival × InboundMail)} {s : MailState} {id : String},
    (∀ q ∈ ps, mailNeedsNoResponse py q.2 = false → draftIdOf py q.2 ≠ id) →
    (processMessages py ps s).2.drafts id = s.drafts id
  | [], _, _, _ => rfl
  | p :: rest, s, id, h => by
    have hone : (processMessage py p s).2.drafts id = s.drafts id := by
      cases hneeds : mailNeedsNoResponse py p.2 with
      | true => rw [processMessage_noResponse hneeds]
      | false =>
        have hne : id ≠ draftIdOf py p.2 := fun heq => h p List.mem_cons_self hneeds heq.symm
        rw [processMessage_draft hneeds]
        cases p.1.model with
        | error e => rfl
        | ok plan =>
          unfold storeDraft
          cases p.1.write with
          | refused e => rfl
          | torn e => simp [storedDraft, Index.set_apply, hne]
          | written =>
            cases p.1.imapError with
            | none => simp [raiseSome, storedDraft, Index.set_apply, hne]
            | some e => simp [raiseSome, storedDraft, Index.set_apply, hne]
    unfold processMessages
    rcases hrun : processMessage py p s with ⟨e | _, t⟩
    · rw [Action.bind_error hrun]
      rw [hrun] at hone
      exact hone
    · rw [Action.bind_ok hrun]
      rw [hrun] at hone
      exact (processMessages_frame fun q hq => h q (List.mem_cons_of_mem _ hq)).trans hone

/-- A message is listed as needing no response only if it does, and stays listed. -/
theorem mem_noResponse : ∀ {ps : List (Arrival × InboundMail)} {s : MailState} {uid : String},
    (uid ∈ s.noResponse → uid ∈ (processMessages py ps s).2.noResponse) ∧
    (uid ∈ (processMessages py ps s).2.noResponse →
      uid ∈ s.noResponse ∨ ∃ q ∈ ps, mailNeedsNoResponse py q.2 = true ∧ q.2.uid = uid)
  | [], _, _ => ⟨fun h => h, fun h => Or.inl h⟩
  | p :: rest, s, uid => by
    have hone : (uid ∈ s.noResponse → uid ∈ (processMessage py p s).2.noResponse) ∧
        (uid ∈ (processMessage py p s).2.noResponse →
          uid ∈ s.noResponse ∨ mailNeedsNoResponse py p.2 = true ∧ p.2.uid = uid) := by
      cases hneeds : mailNeedsNoResponse py p.2 with
      | true =>
        rw [processMessage_noResponse hneeds]
        refine ⟨fun h => List.mem_append_left _ h, fun h => ?_⟩
        rcases List.mem_append.1 h with hold | hnew
        · exact Or.inl hold
        · exact Or.inr ⟨rfl, (List.mem_singleton.1 hnew).symm⟩
      | false =>
        have hsame : (processMessage py p s).2.noResponse = s.noResponse := by
          rw [processMessage_draft hneeds]
          cases p.1.model with
          | error e => rfl
          | ok plan =>
            unfold storeDraft
            cases p.1.write with
            | refused e => rfl
            | torn e => rfl
            | written => cases p.1.imapError <;> rfl
        rw [hsame]
        exact ⟨fun h => h, fun h => Or.inl h⟩
    unfold processMessages
    rcases hrun : processMessage py p s with ⟨e | _, t⟩
    · rw [Action.bind_error hrun]
      rw [hrun] at hone
      refine ⟨hone.1, fun h => ?_⟩
      rcases hone.2 h with hold | hnew
      · exact Or.inl hold
      · exact Or.inr ⟨p, List.mem_cons_self, hnew⟩
    · rw [Action.bind_ok hrun]
      rw [hrun] at hone
      obtain ⟨hkeeps, honly⟩ := @mem_noResponse rest t uid
      refine ⟨fun h => hkeeps (hone.1 h), fun h => ?_⟩
      rcases honly h with hold | ⟨q, hq, hnew⟩
      · rcases hone.2 hold with hold | hnew
        · exact Or.inl hold
        · exact Or.inr ⟨p, List.mem_cons_self, hnew⟩
      · exact Or.inr ⟨q, List.mem_cons_of_mem _ hq, hnew⟩

/-- The file of the last draft. -/
theorem withDraft_apply (s : MailState) (p : Arrival × InboundMail) (plan : MailDraftPlan) :
    (s.withDraft py p plan).drafts (draftIdOf py p.2) =
      some (.stored (storedDraft py p.2 p.1.createdAt plan)) :=
  Index.set_self _ _ _

/-- Drafts of different messages with one id are not both in the file. -/
theorem Done.id_ne (hp : Done py t p) (hq : Done py t q) (hne : p.2.uid ≠ q.2.uid)
    (hpn : p.2.uid ∉ t.noResponse) (hqn : q.2.uid ∉ t.noResponse) :
    draftIdOf py q.2 ≠ draftIdOf py p.2 := by
  intro heq
  obtain ⟨pplan, -, hpdraft⟩ := hp.resolve_right hpn
  obtain ⟨qplan, -, hqdraft⟩ := hq.resolve_right hqn
  rw [heq, hpdraft] at hqdraft
  have hdraft : storedDraft py p.2 p.1.createdAt pplan = storedDraft py q.2 q.1.createdAt qplan := by
    simpa using hqdraft
  exact hne (congrArg StoredDraft.sourceUid hdraft)

/-- How a round ends that drafts a reply. -/
theorem processMessage_cases (hneeds : mailNeedsNoResponse py p.2 = false) (s : MailState) :
    (∃ plan, p.1.model = .ok plan ∧ p.1.write = .written ∧
      processMessage py p s = (match p.1.imapError with
        | none => .ok ()
        | some e => .error e, s.withDraft py p plan)) ∨
    ((∀ plan, p.1.model = .ok plan → p.1.write ≠ .written) ∧ ∃ e t,
      processMessage py p s = (.error e, t) ∧ t.noResponse = s.noResponse ∧
        ∀ id draft, t.drafts id = some (.stored draft) → s.drafts id = some (.stored draft)) := by
  rw [processMessage_draft hneeds]
  cases hmodel : p.1.model with
  | error e =>
    refine Or.inr ⟨fun plan hplan => ?_, e, s, rfl, rfl, fun _ _ h => h⟩
    cases hplan
  | ok plan =>
    simp only
    unfold storeDraft
    cases hwrite : p.1.write with
    | refused e => exact Or.inr ⟨fun _ _ => by simp, e, s, rfl, rfl, fun _ _ h => h⟩
    | torn e =>
      refine Or.inr ⟨fun _ _ => by simp, e, _, rfl, rfl, fun id draft hdraft => ?_⟩
      simp only [Index.set_apply] at hdraft
      split at hdraft
      · cases hdraft
      · exact hdraft
    | written =>
      refine Or.inl ⟨plan, rfl, rfl, ?_⟩
      cases p.1.imapError <;> rfl

/-- **All messages are done exactly when the poll gets through them and no draft is written
over.** -/
theorem processMessages_done_iff : ∀ {ps : List (Arrival × InboundMail)} {s : MailState},
    (ps.map fun p => p.2.uid).Nodup → (∀ p ∈ ps, Untouched s p.2.uid) →
    ((∀ p ∈ ps, Done py (processMessages py ps s).2 p) ↔ Handled py ps)
  | [], _, _, _ => by simp [Handled]
  | p :: rest, s, hnodup, hfresh => by
    rw [List.map_cons, List.nodup_cons] at hnodup
    obtain ⟨hnew, hrest⟩ := hnodup
    have hne : ∀ q ∈ rest, p.2.uid ≠ q.2.uid := fun q hq heq =>
      hnew (heq ▸ List.mem_map_of_mem (f := fun p => p.2.uid) hq)
    have hp := hfresh p List.mem_cons_self
    have hfrest : ∀ q ∈ rest, Untouched s q.2.uid :=
      fun q hq => hfresh q (List.mem_cons_of_mem _ hq)
    unfold processMessages Handled
    rw [List.forall_mem_cons]
    cases hneeds : mailNeedsNoResponse py p.2 with
    | true =>
      rw [Action.bind_ok (processMessage_noResponse hneeds s)]
      have hdone := processMessages_done_iff hrest fun q hq => (hfrest q hq).pass (hne q hq)
      refine and_congr (iff_of_true (Or.inr ?_) fun h => nomatch h) hdone
      exact mem_noResponse.1 (List.mem_append_right _ (List.mem_singleton_self _))
    | false =>
      rcases processMessage_cases hneeds s with ⟨plan, hmodel, hwrite, hrun⟩ | ⟨hfails, hstops⟩
      · cases himap : p.1.imapError with
        | some e =>
          rw [himap] at hrun
          rw [Action.bind_error hrun]
          have hkeep : Done py (s.withDraft py p plan) p := Or.inl ⟨plan, hmodel, withDraft_apply s p plan⟩
          have hothers : ∀ q ∈ rest, ¬ Done py (s.withDraft py p plan) q := fun q hq =>
            ((hfrest q hq).store (hne q hq) plan).not_done
          constructor
          · rintro ⟨-, hall⟩
            have hnil : rest = [] := List.eq_nil_iff_forall_not_mem.2 fun q hq => hothers q hq (hall q hq)
            subst hnil
            exact ⟨fun _ => ⟨⟨plan, hmodel⟩, hwrite, Or.inr rfl, fun q hq => nomatch hq⟩, trivial⟩
          · rintro ⟨hhandled, -⟩
            have hnil := (hhandled rfl).2.2.1.resolve_left fun h => nomatch h
            subst hnil
            exact ⟨hkeep, fun q hq => nomatch hq⟩
        | none =>
          rw [himap] at hrun
          rw [Action.bind_ok hrun]
          have hfresh' : ∀ q ∈ rest, Untouched (s.withDraft py p plan) q.2.uid :=
            fun q hq => (hfrest q hq).store (hne q hq) plan
          have hdone := processMessages_done_iff hrest hfresh'
          -- a message that gets a draft is not among those that need no response
          have hlisted : ∀ q ∈ rest, mailNeedsNoResponse py q.2 = false →
              q.2.uid ∉ (processMessages py rest (s.withDraft py p plan)).2.noResponse := by
            intro q hq hqneeds hmem
            rcases mem_noResponse.2 hmem with hold | ⟨r, hr, hrneeds, huid⟩
            · exact (hfresh' q hq).noResponse hold
            · have heq : r = q := List.inj_on_of_nodup_map hrest hr hq huid
              rw [heq, hqneeds] at hrneeds
              cases hrneeds
          have hpn : p.2.uid ∉ (processMessages py rest (s.withDraft py p plan)).2.noResponse := by
            intro hmem
            rcases mem_noResponse.2 hmem with hold | ⟨r, hr, -, huid⟩
            · exact hp.noResponse hold
            · exact hne r hr huid.symm
          constructor
          · rintro ⟨hhead, hall⟩
            refine ⟨fun _ => ⟨⟨plan, hmodel⟩, hwrite, Or.inl rfl, fun q hq hqneeds => ?_⟩, hdone.1 hall⟩
            exact hhead.id_ne (hall q hq) (hne q hq) hpn (hlisted q hq hqneeds)
          · rintro ⟨hhandled, htail⟩
            refine ⟨Or.inl ⟨plan, hmodel, ?_⟩, hdone.2 htail⟩
            rw [processMessages_frame (hhandled rfl).2.2.2]
            exact withDraft_apply s p plan
      · obtain ⟨e, t, hrun, hnone, hdrafts⟩ := hstops
        rw [Action.bind_error hrun]
        have hlost : ¬ Done py t p := by
          rintro (⟨plan, -, hdraft⟩ | hmem)
          · exact hp.drafts _ _ (hdrafts _ _ hdraft) rfl
          · exact hp.noResponse (hnone ▸ hmem)
        refine iff_of_false (fun h => hlost h.1) fun h => ?_
        obtain ⟨⟨plan, hplan⟩, hwrite, -⟩ := h.1 rfl
        exact hfails plan hplan hwrite

theorem fixes_seen_raiseSome (e : Option PyExc) : Action.Fixes MailState.seen (raiseSome e) := by
  cases e with
  | none => exact Action.Fixes.pure ()
  | some e => exact Action.Fixes.raise e

/-- Drafting marks nothing. -/
theorem fixes_seen_processMessage (p : Arrival × InboundMail) :
    Action.Fixes MailState.seen (processMessage py p) := by
  intro s
  cases hneeds : mailNeedsNoResponse py p.2 with
  | true => rw [processMessage_noResponse hneeds]
  | false =>
    rw [processMessage_draft hneeds]
    cases p.1.model with
    | error e => rfl
    | ok plan =>
      unfold storeDraft
      cases p.1.write with
      | refused e => rfl
      | torn e => rfl
      | written => exact fixes_seen_raiseSome _ _

theorem fixes_seen_processMessages : ∀ ps : List (Arrival × InboundMail),
    Action.Fixes MailState.seen (processMessages py ps)
  | [] => Action.Fixes.pure ()
  | p :: rest => Action.Fixes.bind (fixes_seen_processMessage p)
      fun _ => fixes_seen_processMessages rest

end Drafting

/-! ## The poll -/

section Poll

variable {py : Python} {email : EmailPackage} {poll : Poll}

theorem untouched_of_empty {seen : List String} (uid : String) :
    Untouched { seen := seen } uid := by
  refine ⟨fun id draft h => ?_, fun h => ?_⟩
  · cases h
  · cases h

/-- A poll that is cut leaves the marks of the fetches that were sent, and nothing else. -/
theorem processMailboxOnce_cut (hstart : poll.startError = none) (hcut : poll.Cut py email) :
    (processMailboxOnce py email poll {}).2 =
      { seen := markedUids (sentFetches py email poll.arrivals) } := by
  obtain ⟨hstate, herror, hok⟩ :=
    fetchUnseenMessages_run py email poll.arrivals {}
  unfold processMailboxOnce
  rw [hstart]
  change ((fetchUnseenMessages py email poll.arrivals >>= _) _).2 = _
  by_cases hstops : ∃ a ∈ poll.arrivals, fetchStops py email a = true
  · obtain ⟨e, he⟩ := herror hstops
    have hrun : fetchUnseenMessages py email poll.arrivals {} =
        (.error e, { seen := markedUids (sentFetches py email poll.arrivals) }) :=
      Prod.ext he hstate
    rw [Action.bind_error hrun]
  · obtain ⟨e, hlogout⟩ := Option.ne_none_iff_exists'.1 (hcut.resolve_left hstops)
    have hgoes := hok fun a ha => by
      rw [← Bool.not_eq_true]
      exact fun h => hstops ⟨a, ha, h⟩
    have hrun : fetchUnseenMessages py email poll.arrivals {} =
        (.ok (fetchedMail py email poll.arrivals),
          { seen := markedUids (sentFetches py email poll.arrivals) }) :=
      Prod.ext hgoes hstate
    rw [Action.bind_ok hrun, hlogout]
    rfl

/-- A poll that is not cut drafts replies to the messages that it fetched. -/
theorem processMailboxOnce_uncut (hstart : poll.startError = none) (hcut : ¬ poll.Cut py email) :
    (processMailboxOnce py email poll {}).2 =
      (processMessages py (fetchedMail py email poll.arrivals)
        { seen := markedUids poll.arrivals }).2 := by
  obtain ⟨hstate, -, hok⟩ :=
    fetchUnseenMessages_run py email poll.arrivals {}
  have hlogout : poll.logoutError = none := by
    by_contra hne
    exact hcut (Or.inr hne)
  have hgoes : ∀ a ∈ poll.arrivals, fetchStops py email a = false := by
    intro a ha
    rw [← Bool.not_eq_true]
    exact fun h => hcut (Or.inl ⟨a, ha, h⟩)
  rw [sentFetches_of_goes hgoes] at hstate
  have hrun : fetchUnseenMessages py email poll.arrivals {} =
      (.ok (fetchedMail py email poll.arrivals), { seen := markedUids poll.arrivals }) :=
    Prod.ext (hok hgoes) hstate
  unfold processMailboxOnce
  rw [hstart]
  change ((fetchUnseenMessages py email poll.arrivals >>= _) _).2 = _
  rw [Action.bind_ok hrun, hlogout]
  change ((processMessages py _ >>= fun _ => raiseSome poll.finishError) _).2 = _
  refine Action.bind_state (fun _ t => ?_) _ _
  cases poll.finishError <;> rfl

theorem mem_markedUids {a : Arrival} {arrivals sent : List Arrival}
    (hnodup : (arrivals.map Arrival.uid).Nodup) (ha : a ∈ arrivals)
    (hsent : ∀ b ∈ sent, b ∈ arrivals) :
    a.uid ∈ markedUids sent ↔ a ∈ sent ∧ a.marks = true := by
  unfold markedUids
  rw [List.mem_map]
  constructor
  · rintro ⟨b, hb, huid⟩
    obtain ⟨hb, hmarks⟩ := List.mem_filter.1 hb
    have heq : b = a := List.inj_on_of_nodup_map hnodup (hsent b hb) ha huid
    exact heq ▸ ⟨hb, hmarks⟩
  · rintro ⟨hmem, hmarks⟩
    exact ⟨a, List.mem_filter.2 ⟨hmem, hmarks⟩, rfl⟩

theorem mem_fetchedMail {a : Arrival} {message : InboundMail} {arrivals : List Arrival} :
    (a, message) ∈ fetchedMail py email arrivals ↔
      a ∈ arrivals ∧ fetchResult py email a = .ok (some message) := by
  unfold fetchedMail
  rw [List.mem_filterMap]
  constructor
  · rintro ⟨b, hb, hgives⟩
    split at hgives
    · rename_i found hfound
      cases hgives
      exact ⟨hb, hfound⟩
    · cases hgives
  · rintro ⟨ha, hresult⟩
    exact ⟨a, ha, by rw [hresult]⟩

theorem parseMessage_uid {uid : String} {raw : List Char} {message : InboundMail}
    (h : parseMessage py email uid raw = .ok message) : message.uid = uid := by
  unfold parseMessage at h
  cases hparse : email.parsebytes raw with
  | error e =>
    rw [hparse] at h
    cases h
  | ok found =>
    rw [hparse] at h
    cases htext : extractTextBody found with
    | error e =>
      simp only [bind, Except.bind, htext] at h
      cases h
    | ok text =>
      simp only [bind, Except.bind, htext] at h
      cases h
      rfl

/-- A fetch that gives a message marks it, under the uid of the arrival. -/
theorem fetchResult_some {a : Arrival} {message : InboundMail}
    (h : fetchResult py email a = .ok (some message)) : message.uid = a.uid ∧ a.marks = true := by
  unfold fetchResult at h
  cases hreply : a.reply with
  | raised e =>
    rw [hreply] at h
    cases h
  | answered status data =>
    rw [hreply] at h
    simp only at h
    cases hraw : (FetchReply.answered status data).raw? with
    | none =>
      rw [hraw] at h
      cases h
    | some raw =>
      rw [hraw] at h
      simp only at h
      cases hparse : parseMessage py email a.uid raw with
      | error e =>
        rw [hparse] at h
        cases h
      | ok found =>
        rw [hparse] at h
        cases h
        exact ⟨parseMessage_uid hparse, a.sets raw (hreply ▸ hraw)⟩

theorem fetchedMail_nodup : ∀ {arrivals : List Arrival}, (arrivals.map Arrival.uid).Nodup →
    ((fetchedMail py email arrivals).map fun p => p.2.uid).Nodup
  | [], _ => List.nodup_nil
  | a :: rest, h => by
    rw [List.map_cons, List.nodup_cons] at h
    have hrest := fetchedMail_nodup h.2
    unfold fetchedMail at hrest ⊢
    rw [List.filterMap_cons]
    split
    · exact hrest
    · rename_i p hp
      split at hp
      · rename_i message hmessage
        cases hp
        rw [List.map_cons, List.nodup_cons]
        refine ⟨fun hmem => h.1 ?_, hrest⟩
        obtain ⟨q, hq, huid⟩ := List.mem_map.1 hmem
        obtain ⟨hqmem, hqsome⟩ := mem_fetchedMail.1 hq
        have hsame : q.1.uid = a.uid :=
          (fetchResult_some hqsome).1.symm.trans (huid.trans (fetchResult_some hmessage).1)
        exact hsame ▸ List.mem_map_of_mem hqmem
      · cases hp

/-- What happened to a message of a poll that is not cut. -/
theorem accounted_uncut_iff (hcut : ¬ poll.Cut py email) {t : MailState}
    (hseen : t.seen = markedUids poll.arrivals) : Accounted py email poll t ↔
      (∀ a ∈ poll.arrivals, fetchResult py email a = .ok none → a.marks = false) ∧
        ∀ p ∈ fetchedMail py email poll.arrivals, Done py t p := by
  have hmarked : ∀ a ∈ poll.arrivals, a.uid ∈ t.seen ↔ a.marks = true := by
    intro a ha
    rw [hseen, mem_markedUids poll.nodup ha fun _ hb => hb, and_iff_right ha]
  constructor
  · intro h
    refine ⟨fun a ha hnone => ?_, fun p hp => ?_⟩
    · rcases h a ha with ⟨message, hsome, -⟩ | hunseen
      · rw [hnone] at hsome
        cases hsome
      · rw [hmarked a ha, Bool.not_eq_true] at hunseen
        exact hunseen
    · obtain ⟨a, message⟩ := p
      obtain ⟨ha, hsome⟩ := mem_fetchedMail.1 hp
      rcases h a ha with ⟨found, hfound, hdone⟩ | hunseen
      · rw [hsome] at hfound
        cases hfound
        exact hdone
      · exact absurd ((hmarked a ha).2 (fetchResult_some hsome).2) hunseen
  · rintro ⟨hnone, hdone⟩ a ha
    cases hresult : fetchResult py email a with
    | error e => exact absurd (Or.inl ⟨a, ha, fetchStops_iff.2 ⟨e, hresult⟩⟩) hcut
    | ok found =>
      cases found with
      | some message => exact Or.inl ⟨message, rfl, hdone _ (mem_fetchedMail.2 ⟨ha, hresult⟩)⟩
      | none =>
        refine Or.inr fun hmem => ?_
        rw [hmarked a ha, hnone a ha hresult] at hmem
        cases hmem

/-- A poll that is cut accounts for the messages that are still unseen. -/
theorem accounted_cut_iff {sent : List Arrival} (hsent : ∀ a ∈ sent, a ∈ poll.arrivals) :
    Accounted py email poll { seen := markedUids sent } ↔ ∀ a ∈ sent, a.marks = false := by
  constructor
  · intro h a ha
    rcases h a (hsent a ha) with ⟨message, -, hdone⟩ | hunseen
    · exact absurd hdone (untouched_of_empty message.uid).not_done
    · rw [← Bool.not_eq_true]
      exact fun hmarks => hunseen ((mem_markedUids poll.nodup (hsent a ha) hsent).2 ⟨ha, hmarks⟩)
  · intro h a ha
    refine Or.inr fun hmem => ?_
    obtain ⟨hin, hmarks⟩ := (mem_markedUids poll.nodup ha hsent).1 hmem
    rw [h a hin] at hmarks
    cases hmarks

end Poll

/-- **A poll loses no mail exactly when its fetching is not cut after a message was marked as
seen, a fetch without a message leaves it unseen, and every message that was fetched is handled.** -/
theorem accounted_iff (py : Python) (email : EmailPackage) (poll : Poll) :
    Accounted py email poll (processMailboxOnce py email poll {}).2 ↔ poll.Unlost py email := by
  unfold Poll.Unlost
  cases hstart : poll.startError with
  | some e =>
    refine iff_of_true (fun a _ => Or.inr ?_) fun h => nomatch h
    unfold processMailboxOnce
    rw [hstart]
    exact List.not_mem_nil
  | none =>
    refine Iff.trans ?_ (forall_prop_of_true rfl).symm
    by_cases hcut : poll.Cut py email
    · rw [processMailboxOnce_cut hstart hcut,
        accounted_cut_iff fun _ hb => mem_of_mem_sentFetches hb]
      simp [hcut]
    · rw [processMailboxOnce_uncut hstart hcut,
        accounted_uncut_iff hcut (fixes_seen_processMessages _ _)]
      have huids : ((fetchedMail py email poll.arrivals).map fun p => p.2.uid).Nodup :=
        fetchedMail_nodup poll.nodup
      rw [processMessages_done_iff huids fun p _ => untouched_of_empty p.2.uid]
      simp [hcut]

/-- Messages without a part structure, whose addresses are written plainly. -/
def plainEmail : EmailPackage where
  parsebytes raw := .ok {
    headers := [("From", "ops@example.net"), ("To", "noc@as215932.net"), ("Subject", "Link down")]
    multipart := false
    walk := []
    text := .ok (String.ofList raw) }
  getaddresses values := values.map fun value => ("", value)

/-- One message is unseen, and the model is not available. -/
def modelDownPoll : Poll where
  arrivals := [{
    uid := "44"
    reply := .answered "OK" [.pair "The session is down.".toList, .other]
    marks := true
    sets := fun _ _ => rfl
    model := .error (.named "ModelHTTPError" "503")
    createdAt := "2026-01-01T00:00:00+00:00"
    write := .written }]
  nodup := List.nodup_singleton _

/-- The message is marked as seen before the model fails: it has no draft, and no later poll lists
it. -/
theorem not_accounted_modelDown : ¬ Accounted asciiPython plainEmail modelDownPoll
    (processMailboxOnce asciiPython plainEmail modelDownPoll {}).2 := by
  intro h
  have hstate : (processMailboxOnce asciiPython plainEmail modelDownPoll {}).2 =
      { seen := ["44"] } := rfl
  rw [hstate] at h
  rcases h _ List.mem_cons_self with ⟨message, -, ⟨plan, hplan, -⟩ | hmem⟩ | hunseen
  · cases hplan
  · cases hmem
  · exact hunseen List.mem_cons_self

end NocAgent.Mail
