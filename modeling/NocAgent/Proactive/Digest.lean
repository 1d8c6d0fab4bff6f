import NocAgent.Proactive.Carry
import NocAgent.Lib.Lts
import Mathlib.Data.Finset.Insert
import Mathlib.Data.List.Chain

/-!
# The digest of a cycle

The proactive loop remembers the set of hotspots it posted last, and when.

* `reportDecision` — `_report_decision`: whether a cycle posts.
* `safeReport` — `_safe_report`: the state is committed once the reporter has delivered.
* `DigestSystem` — the loop over cycles, with a clock that does not go back and the posts so far.

Principal result: `digest_run` — posts of one set are apart and never twice empty, a failed delivery
leaves the state, and a changed set is always attempted.
-/

set_option autoImplicit false

namespace NocAgent.Proactive

open Lts

/-! ## The code -/

/-- `frozenset((h.fingerprint(), h.severity) for h in report.hotspots)`. -/
abbrev ReportSignature := Finset (String × Severity)

def signatureOf (py : Python) (hotspots : List Hotspot) : ReportSignature :=
  (hotspots.map fun h => (h.fingerprint py, h.severity)).toFinset

/-- `_last_report_signature` and `_last_report_ts`. -/
structure ReportState where
  lastSignature : Option ReportSignature := none
  lastTs : ℚ := 0

/-- `max(1, self.settings.report_reassert_s)`. -/
def reassertAfter (reportReassertS : Int) : ℚ := ((max 1 reportReassertS : Int) : ℚ)

/-- `bool(self._last_report_signature)`. -/
def ReportState.reported (s : ReportState) : Bool :=
  match s.lastSignature with
  | none => false
  | some signature => decide (signature ≠ ∅)

/-- `_report_decision`, at the clock reading `now`. -/
def reportDecision (py : Python) (reportReassertS : Int) (s : ReportState) (hotspots : List Hotspot)
    (now : ℚ) : Bool × ReportSignature :=
  let signature := signatureOf py hotspots
  if hotspots.isEmpty then (s.reported, signature)
  else
    let changed := decide (some signature ≠ s.lastSignature)
    let stale := decide (reassertAfter reportReassertS ≤ now - s.lastTs)
    (changed || stale, signature)

/-- What becomes of a post. -/
inductive DeliveryOutcome where
  /-- the reporter returned anything but `False` -/
  | delivered
  /-- it returned `False` -/
  | refused
  | raised
  /-- the cycle was cancelled in the reporter -/
  | cancelled
  deriving DecidableEq, Repr

/-- `_safe_report`: the state it leaves, whether a post was due and whether it was delivered. -/
def safeReport (py : Python) (reportReassertS : Int) (s : ReportState) (hotspots : List Hotspot)
    (now : ℚ) (outcome : DeliveryOutcome) : ReportState × Bool × Bool :=
  let (should, signature) := reportDecision py reportReassertS s hotspots now
  if should then
    match outcome with
    | .delivered => (⟨some signature, now⟩, true, true)
    | _ => (s, true, false)
  else (s, false, false)

/-! ## Cycles -/

/-- A digest that was posted. -/
structure DigestPost where
  signature : ReportSignature
  postedAt : ℚ

/-- A cycle that reports; what it decided and did is read off the state it starts in. -/
structure DigestCycle where
  hotspots : List Hotspot
  now : ℚ
  outcome : DeliveryOutcome

/-- The state of the reports, the clock, and the digests delivered. -/
structure DigestSystem where
  report : ReportState := {}
  clock : ℚ
  /-- the posts that were delivered, the newest one first -/
  posts : List DigestPost := []

section Cycles

variable (py : Python) (reportReassertS : Int)

/-- The post is attempted. -/
def Attempts (s : DigestSystem) (c : DigestCycle) : Prop :=
  (safeReport py reportReassertS s.report c.hotspots c.now c.outcome).2.1 = true

/-- The post is delivered. -/
def Posts (s : DigestSystem) (c : DigestCycle) : Prop :=
  (safeReport py reportReassertS s.report c.hotspots c.now c.outcome).2.2 = true

instance (s : DigestSystem) (c : DigestCycle) : Decidable (Posts py reportReassertS s c) :=
  inferInstanceAs (Decidable (_ = true))

def DigestSystem.next (s : DigestSystem) (c : DigestCycle) : DigestSystem where
  report := (safeReport py reportReassertS s.report c.hotspots c.now c.outcome).1
  clock := c.now
  posts := if Posts py reportReassertS s c then ⟨signatureOf py c.hotspots, c.now⟩ :: s.posts
    else s.posts

/-- The clock does not go back. -/
def digestStep (s : DigestSystem) (c : DigestCycle) (t : DigestSystem) : Prop :=
  s.clock ≤ c.now ∧ t = s.next py reportReassertS c

end Cycles

/-- The set posted last; nothing posted counts as the empty set. -/
def DigestSystem.lastPosted (s : DigestSystem) : ReportSignature :=
  (s.posts.head?.map DigestPost.signature).getD ∅

/-- **A repeated set is posted later, and an empty one not twice.** -/
def PostsApart (reportReassertS : Int) (newer older : DigestPost) : Prop :=
  (newer.signature = older.signature → reassertAfter reportReassertS ≤ newer.postedAt - older.postedAt) ∧
    ¬ (newer.signature = ∅ ∧ older.signature = ∅)

/-! ## What the state remembers -/

section Runs

variable {py : Python} {reportReassertS : Int} {s t : DigestSystem} {c : DigestCycle}

/-- The state is the newest post. -/
structure Remembers (s : DigestSystem) : Prop where
  signature : s.report.lastSignature = s.posts.head?.map DigestPost.signature
  ts : ∀ post ∈ s.posts.head?, s.report.lastTs = post.postedAt

theorem signatureOf_eq_empty {hotspots : List Hotspot} :
    signatureOf py hotspots = ∅ ↔ hotspots = [] := by
  unfold signatureOf
  rw [List.toFinset_eq_empty_iff, List.map_eq_nil_iff]

/-- What a cycle can do: it attempts exactly when the decision says so, and posts only then. -/
theorem next_cases (py : Python) (reportReassertS : Int) (s : DigestSystem)
    (c : DigestCycle) :
    (Posts py reportReassertS s c ∧ c.outcome = .delivered ∧
      (reportDecision py reportReassertS s.report c.hotspots c.now).1 = true ∧
      s.next py reportReassertS c =
        ⟨⟨some (signatureOf py c.hotspots), c.now⟩, c.now,
          ⟨signatureOf py c.hotspots, c.now⟩ :: s.posts⟩) ∨
    (¬ Posts py reportReassertS s c ∧
      s.next py reportReassertS c = ⟨s.report, c.now, s.posts⟩) := by
  have hsignature : (reportDecision py reportReassertS s.report c.hotspots c.now).2 =
      signatureOf py c.hotspots := by
    unfold reportDecision
    split <;> rfl
  by_cases hposts : Posts py reportReassertS s c
  · refine Or.inl ?_
    have hkept := hposts
    unfold Posts safeReport at hkept
    cases hdue : (reportDecision py reportReassertS s.report c.hotspots c.now).1 with
    | false => simp [hdue] at hkept
    | true =>
      cases houtcome : c.outcome with
      | delivered =>
        refine ⟨hposts, rfl, rfl, ?_⟩
        unfold DigestSystem.next
        rw [if_pos hposts]
        unfold safeReport
        simp [hdue, houtcome, hsignature]
      | _ => simp [hdue, houtcome] at hkept
  · refine Or.inr ⟨hposts, ?_⟩
    have hreport : (safeReport py reportReassertS s.report c.hotspots c.now c.outcome).1 =
        s.report := by
      unfold Posts safeReport at hposts
      unfold safeReport
      cases hdue : (reportDecision py reportReassertS s.report c.hotspots c.now).1 with
      | false => simp [hdue]
      | true =>
        cases houtcome : c.outcome with
        | delivered => simp [hdue, houtcome] at hposts
        | _ => simp [hdue]
    unfold DigestSystem.next
    rw [if_neg hposts, hreport]

theorem attempts_iff : Attempts py reportReassertS s c ↔
    (reportDecision py reportReassertS s.report c.hotspots c.now).1 = true := by
  unfold Attempts safeReport
  cases hdue : (reportDecision py reportReassertS s.report c.hotspots c.now).1 with
  | false => simp [hdue]
  | true => cases c.outcome <;> simp [hdue]

theorem Remembers.step (h : Remembers s) (hstep : digestStep py reportReassertS s c t) :
    Remembers t := by
  obtain ⟨-, rfl⟩ := hstep
  rcases next_cases py reportReassertS s c with
    ⟨-, -, -, hnext⟩ | ⟨-, hnext⟩
  · rw [hnext]
    refine ⟨rfl, fun post hpost => ?_⟩
    cases hpost
    rfl
  · rw [hnext]
    exact ⟨h.signature, h.ts⟩

/-- The empty set is posted only after a set that is not empty. -/
theorem reported_iff (h : Remembers s) : s.report.reported = true ↔ s.lastPosted ≠ ∅ := by
  unfold ReportState.reported DigestSystem.lastPosted
  rw [h.signature]
  cases s.posts.head? with
  | none => simp
  | some post => simp

/-- A changed set is due. -/
theorem attempts_of_changed (h : Remembers s) (hchanged : signatureOf py c.hotspots ≠ s.lastPosted) :
    Attempts py reportReassertS s c := by
  rw [attempts_iff]
  unfold reportDecision
  by_cases hempty : c.hotspots = []
  · rw [signatureOf_eq_empty.2 hempty] at hchanged
    rw [hempty]
    exact (reported_iff h).2 (Ne.symm hchanged)
  · rw [if_neg (by simpa using hempty)]
    refine Bool.or_eq_true_iff.2 (Or.inl (decide_eq_true fun heq => hchanged ?_))
    unfold DigestSystem.lastPosted
    rw [← h.signature, ← heq]
    rfl

/-- A post stands apart from the one before it. -/
theorem postsApart_of_due (h : Remembers s)
    (hdue : (reportDecision py reportReassertS s.report c.hotspots c.now).1 = true) :
    ∀ older ∈ s.posts.head?,
      PostsApart reportReassertS ⟨signatureOf py c.hotspots, c.now⟩ older := by
  intro older holder
  have hlast : s.lastPosted = older.signature := by
    unfold DigestSystem.lastPosted
    rw [holder]
    rfl
  unfold reportDecision at hdue
  by_cases hempty : c.hotspots = []
  · rw [hempty] at hdue ⊢
    have hne : older.signature ≠ ∅ := hlast ▸ (reported_iff h).1 hdue
    rw [signatureOf_eq_empty.2 rfl]
    exact ⟨fun heq => absurd heq.symm hne, fun hboth => hne hboth.2⟩
  · rw [if_neg (by simpa using hempty)] at hdue
    refine ⟨fun heq => ?_, fun hboth => hempty (signatureOf_eq_empty.1 hboth.1)⟩
    have hsame : some (signatureOf py c.hotspots) = s.report.lastSignature := by
      rw [h.signature, holder]
      exact congrArg some heq
    rcases Bool.or_eq_true_iff.1 hdue with hchanged | hstale
    · exact absurd hsame (of_decide_eq_true hchanged)
    · rw [← h.ts older holder]
      exact of_decide_eq_true hstale

theorem isChain_posts_step (h : Remembers s)
    (hchain : s.posts.IsChain (PostsApart reportReassertS))
    (hstep : digestStep py reportReassertS s c t) :
    t.posts.IsChain (PostsApart reportReassertS) := by
  obtain ⟨-, rfl⟩ := hstep
  rcases next_cases py reportReassertS s c with
    ⟨-, -, hdue, hnext⟩ | ⟨-, hnext⟩
  · rw [hnext]
    exact List.isChain_cons.2 ⟨postsApart_of_due h hdue, hchain⟩
  · rw [hnext]
    exact hchain

/-- **Every run of cycles de-duplicates its digests.** -/
theorem digest_run {start : ℚ} {cs : List DigestCycle}
    (h : Run (digestStep py reportReassertS) { clock := start } cs s) :
    s.posts.IsChain (PostsApart reportReassertS) ∧
      ∀ c t, digestStep py reportReassertS s c t →
        (c.outcome ≠ .delivered → t.report = s.report ∧ t.posts = s.posts) ∧
        (signatureOf py c.hotspots ≠ s.lastPosted → Attempts py reportReassertS s c) := by
  have hinit : Remembers { clock := start } := by
    refine ⟨rfl, fun post hpost => ?_⟩
    cases hpost
  have hkept := h.invariant
    (I := fun s => Remembers s ∧ s.posts.IsChain (PostsApart reportReassertS))
    (fun s c t hs hstep => ⟨hs.1.step hstep, isChain_posts_step hs.1 hs.2 hstep⟩)
    ⟨hinit, List.isChain_nil⟩
  refine ⟨hkept.2, fun c t hstep => ⟨fun hfailed => ?_, attempts_of_changed hkept.1⟩⟩
  obtain ⟨-, rfl⟩ := hstep
  rcases next_cases py reportReassertS s c with
    ⟨-, hdelivered, -⟩ | ⟨-, hnext⟩
  · exact absurd hdelivered hfailed
  · rw [hnext]
    exact ⟨rfl, rfl⟩

end Runs

/-- A full disk is announced; the all-clear is refused, and then delivered. -/
def recoveredDisk : List DigestCycle :=
  [⟨[diskFull], 10, .delivered⟩, ⟨[], 20, .refused⟩, ⟨[], 30, .delivered⟩]

def recoveredDigest : DigestSystem :=
  recoveredDisk.foldl (fun s c => s.next asciiPython 3600 c) { clock := 0 }

theorem run_recoveredDisk :
    Run (digestStep asciiPython 3600) { clock := 0 } recoveredDisk recoveredDigest := by
  refine Run.cons ⟨?_, rfl⟩ (Run.cons ⟨?_, rfl⟩ (Run.single ⟨?_, rfl⟩))
  · change (0 : ℚ) ≤ 10
    norm_num
  · change (10 : ℚ) ≤ 20
    norm_num
  · change (20 : ℚ) ≤ 30
    norm_num

/-- The disk fills again, and the reporter raises. -/
def fullAgain : DigestCycle := ⟨[diskFull], 40, .raised⟩

theorem digest_run_recoveredDisk : recoveredDigest.posts.IsChain (PostsApart 3600) ∧
    (recoveredDigest.next asciiPython 3600 fullAgain).report = recoveredDigest.report ∧
    Attempts asciiPython 3600 recoveredDigest fullAgain := by
  have h := digest_run run_recoveredDisk
  have hstep : digestStep asciiPython 3600 recoveredDigest fullAgain
      (recoveredDigest.next asciiPython 3600 fullAgain) := by
    refine ⟨?_, rfl⟩
    change (30 : ℚ) ≤ 40
    norm_num
  have hcycle := h.2 fullAgain _ hstep
  exact ⟨h.1, (hcycle.1 (by decide)).1, hcycle.2 (by decide)⟩

end NocAgent.Proactive
