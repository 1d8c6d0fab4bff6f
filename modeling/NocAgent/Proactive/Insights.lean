import NocAgent.Lib.Lts
import NocAgent.Lib.Table
import NocAgent.Lib.Traced
import NocAgent.Python.Value
import Mathlib.Data.List.Chain

/-!
# Emitting insight decisions

Every cycle's decisions are offered as records.  A file keeps, for each fingerprint, the signature
of the decision delivered last and when; what it has seen lately is not emitted again.

* `pending`, `mark` — the methods of `InsightEmissionState`.
* `emitInsightRecords` — `_emit_insight_records`, from the records of the cycle on.
* `InsightSystem` — the loop over cycles, with a clock that does not go back and the marks so far.
* `Stamped` — the file holds the last mark of every fingerprint, but for marks that are too old.

Principal result: `insights_run` — a decision is not repeated early, and none is lost.
-/

set_option autoImplicit false

namespace NocAgent.Proactive

open Effects Keyed Lts

/-! ## The code -/

/-- The entries under their fingerprints. -/
abbrev InsightEntries := Table (Prod.fst : String × Json → String)

/-- What a read of `insight-emissions.json` gives. -/
inductive InsightFile where
  /-- there is no file, or it holds no JSON object -/
  | nothing
  | entries (data : InsightEntries)

/-- `_load`. -/
def InsightFile.load : InsightFile → InsightEntries
  | .nothing => Table.empty
  | .entries data => data

/-- `_STATE_MAX_AGE_S`. -/
def STATE_MAX_AGE_S : ℚ := 30 * 86400

section Code

variable (py : Python)

/-- `str(record.get("fingerprint") or "")`. -/
def recordFingerprint (record : JsonDict) : String := textOf py (record.get "fingerprint")

/- `fixed1` is `f"{x:.1f}"`. -/
variable (fixed1 : PyFloat → String) (reassertS : Int)

/-- `float(utility.get("total") or 0.0)`. -/
def utilityTotal (record : JsonDict) : Except PyExc PyFloat :=
  match (record.get "expected_utility").or (.dict []) with
  | .dict utility => pyFloat py ((JsonDict.get utility "total").or (.float (.fin 0)))
  | _ => .error .attributeError

/-- What is no number counts as zero. -/
def utilityBucket (record : JsonDict) : Except PyExc String :=
  match utilityTotal py record with
  | .ok total => .ok (fixed1 total)
  | .error .typeError => .ok "0.0"
  | .error .valueError => .ok "0.0"
  | .error e => .error e

/-- `_signature`. -/
def recordSignature (record : JsonDict) : Except PyExc String :=
  match utilityBucket py fixed1 record with
  | .error e => .error e
  | .ok bucket => .ok (takeChars 8 (takeChars 16 (py.sha256 ("|".intercalate
      [pyStr py (record.get "action_selected"), pyStr py (record.get "why_now"),
        textOf py (record.get "risk_class"), bucket]))))

/-- `float(entry.get("ts") or 0.0)`. -/
def stampedAt (entry : JsonDict) : Except PyExc PyFloat :=
  pyFloat py ((entry.get "ts").or (.float (.fin 0)))

/-- `self.reassert_s`, which is `max(1, reassert_s)`. -/
def reassertAge : ℚ := ((max 1 reassertS : Int) : ℚ)

/-- `now - x >= age`. -/
def hasAge (now age : ℚ) : PyFloat → Bool
  | .nan => false
  | .inf negative => negative
  | .fin ts => age ≤ now - ts

/-- `now - x < age`. -/
def belowAge (now age : ℚ) : PyFloat → Bool
  | .nan => false
  | .inf negative => !negative
  | .fin ts => now - ts < age

/-- `fresh`: no entry, another signature, or an entry that is old. -/
def freshEntry (now : ℚ) (signature : String) : Option Json → Except PyExc Bool
  | none => .ok true
  | some .null => .ok true
  | some (.dict entry) =>
    if (JsonDict.get entry "why").isStr signature then
      match stampedAt py entry with
      | .error e => .error e
      | .ok ts => .ok (hasAge now (reassertAge reassertS) ts)
    else .ok true
  | some _ => .error .attributeError

/-- The loop of `pending`; `seen` is `seen_this_call`. -/
def pendingFrom (now : ℚ) (data : InsightEntries) :
    List String → List JsonDict → Except PyExc (List JsonDict)
  | _, [] => .ok []
  | seen, record :: rest =>
    match recordSignature py fixed1 record with
    | .error e => .error e
    | .ok signature =>
      let fingerprint := recordFingerprint py record
      match freshEntry py reassertS now signature ((data.get? fingerprint).map Prod.snd) with
      | .error e => .error e
      | .ok fresh =>
        if fresh && !seen.contains fingerprint then
          match pendingFrom now data (fingerprint :: seen) rest with
          | .error e => .error e
          | .ok due => .ok (record :: due)
        else pendingFrom now data seen rest

/-- `pending`. -/
def pending (now : ℚ) (file : InsightFile) (records : List JsonDict) :
    Except PyExc (List JsonDict) :=
  pendingFrom py fixed1 reassertS now file.load [] records

/-- `{"why": signature, "ts": now}`. -/
def insightStamp (signature : String) (now : ℚ) : Json :=
  .dict [("why", .str signature), ("ts", .float (.fin now))]

/-- The first loop of `mark`. -/
def stampAll (now : ℚ) : InsightEntries → List JsonDict → Except PyExc InsightEntries
  | data, [] => .ok data
  | data, record :: rest =>
    match recordSignature py fixed1 record with
    | .error e => .error e
    | .ok signature =>
      stampAll now (data.put (recordFingerprint py record, insightStamp signature now)) rest

/-- `isinstance(entry, dict) and (now - float(entry.get("ts") or 0.0)) < _STATE_MAX_AGE_S`. -/
def youngEntry (now : ℚ) : Json → Except PyExc Bool
  | .dict entry =>
    match stampedAt py entry with
    | .error e => .error e
    | .ok ts => .ok (belowAge now STATE_MAX_AGE_S ts)
  | _ => .ok false

/-- `youngEntry` of an entry it does not raise for. -/
def isYoung (now : ℚ) (entry : Json) : Bool :=
  match youngEntry py now entry with
  | .ok young => young
  | .error _ => false

/-- The pruning in `mark`. -/
def pruneOld (now : ℚ) (data : InsightEntries) : Except PyExc InsightEntries :=
  match collectE (fun row => youngEntry py now row.2) data.rows with
  | .error e => .error e
  | .ok _ => .ok (data.filter fun row => isYoung py now row.2)

/-- `mark`, where the file can be written. -/
def mark (now : ℚ) (file : InsightFile) (records : List JsonDict) : Except PyExc InsightFile :=
  match stampAll py fixed1 now file.load records with
  | .error e => .error e
  | .ok data =>
    match pruneOld py now data with
    | .error e => .error e
    | .ok kept => .ok (.entries kept)

/-- What `_emit_insight_records` returns and the file it leaves, with the records it marked. -/
structure InsightEmission where
  delivered : Int
  file : InsightFile
  marked : List JsonDict

/-- `_emit_insight_records`, from the records on: `emitted` is what
`emit_loop_decision_envelopes` returns or raises, and the clock is read in `pending` and in
`mark`. -/
def emitInsightRecords (now markedAt : ℚ) (emitted : Except PyExc Int) (file : InsightFile)
    (records : List JsonDict) : InsightEmission :=
  match pending py fixed1 reassertS now file records with
  | .error _ => ⟨0, file, []⟩
  | .ok [] => ⟨0, file, []⟩
  | .ok due =>
    match emitted with
    | .error _ => ⟨0, file, []⟩
    | .ok delivered =>
      if delivered = due.length then
        match mark py fixed1 markedAt file due with
        | .error _ => ⟨0, file, []⟩
        | .ok stamped => ⟨delivered, stamped, due⟩
      else ⟨delivered, file, []⟩

end Code

/-! ## Cycles -/

/-- A cycle that offers records: when `pending` and `mark` read the clock, and what the emission
returned. -/
structure InsightCycle where
  records : List JsonDict
  now : ℚ
  markedAt : ℚ
  emitted : Except PyExc Int

/-- A decision that was delivered. -/
structure InsightMark where
  fingerprint : String
  signature : String
  markedAt : ℚ

/-- The store of insights, the clock, and what was emitted. -/
structure InsightSystem where
  file : InsightFile := .nothing
  clock : ℚ
  /-- the newest one first -/
  marks : List InsightMark := []

/-- The mark of a fingerprint that was made last. -/
def lastMark (marks : List InsightMark) (fingerprint : String) : Option InsightMark :=
  marks.find? fun m => m.fingerprint = fingerprint

/-- The marks of a fingerprint. -/
def InsightSystem.marksOf (s : InsightSystem) (fingerprint : String) : List InsightMark :=
  s.marks.filter fun m => m.fingerprint = fingerprint

section Cycles

variable (py : Python) (fixed1 : PyFloat → String) (reassertS : Int)

/-- The mark that `mark` leaves of a record. -/
def insightMark (markedAt : ℚ) (record : JsonDict) : InsightMark where
  fingerprint := recordFingerprint py record
  signature := (recordSignature py fixed1 record).toOption.getD ""
  markedAt := markedAt

def InsightSystem.next (s : InsightSystem) (c : InsightCycle) : InsightSystem :=
  let emission := emitInsightRecords py fixed1 reassertS c.now c.markedAt c.emitted s.file c.records
  { file := emission.file
    clock := c.markedAt
    marks := (emission.marked.map (insightMark py fixed1 c.markedAt)).reverse ++ s.marks }

/-- The clock does not go back. -/
def insightStep (s : InsightSystem) (c : InsightCycle) (t : InsightSystem) : Prop :=
  s.clock ≤ c.now ∧ c.now ≤ c.markedAt ∧ t = s.next py fixed1 reassertS c

/-! ## The property -/

/-- **A decision that is marked again is marked later.** -/
def MarksApart (newer older : InsightMark) : Prop :=
  newer.signature = older.signature → reassertAge reassertS ≤ newer.markedAt - older.markedAt

/-- The records are about one fingerprint, with one signature. -/
def SameDecision (record other : JsonDict) : Prop :=
  recordFingerprint py record = recordFingerprint py other ∧
    recordSignature py fixed1 record = recordSignature py fixed1 other

/-- `fresh`, for a record. -/
def IsDue (now : ℚ) (data : InsightEntries) (record : JsonDict) : Prop :=
  ∃ signature, recordSignature py fixed1 record = .ok signature ∧
    freshEntry py reassertS now signature ((data.get? (recordFingerprint py record)).map Prod.snd) =
      .ok true

/-- **What a call of `pending` returns**: a fingerprint once, and every record unless one of its
fingerprint is returned or its decision was marked lately. -/
structure ReturnsDue (s : InsightSystem) (now : ℚ) (records due : List JsonDict) : Prop where
  listed : due.Sublist records
  once : (due.map (recordFingerprint py)).Nodup
  withheld : ∀ record ∈ records, record ∉ due →
    (∃ other ∈ due, recordFingerprint py other = recordFingerprint py record) ∨
      ∃ m, lastMark s.marks (recordFingerprint py record) = some m ∧
        recordSignature py fixed1 record = .ok m.signature ∧
        now - m.markedAt < reassertAge reassertS

/-- **A decision that was due and is not delivered is due again** in the next cycle that offers it. -/
def DueAgain (s : InsightSystem) : Prop :=
  ∀ c t due record, insightStep py fixed1 reassertS s c t →
    pending py fixed1 reassertS c.now s.file c.records = .ok due → record ∈ due →
    c.emitted ≠ .ok due.length → ∀ cs u now, Run (insightStep py fixed1 reassertS) t cs u →
    (∀ c' ∈ cs, ∀ other ∈ c'.records, ¬ SameDecision py fixed1 other record) → u.clock ≤ now →
    IsDue py fixed1 reassertS now u.file.load record ∧
      ∀ records due', record ∈ records →
        pending py fixed1 reassertS now u.file records = .ok due' →
        ∃ other ∈ due', recordFingerprint py other = recordFingerprint py record

end Cycles

/-! ## Reading the file -/

/-- The file holds the last mark of every fingerprint, but for marks that are too old. -/
structure Stamped (data : InsightEntries) (marks : List InsightMark) (clock : ℚ) : Prop where
  stored : ∀ row ∈ data.rows, ∃ m, lastMark marks row.1 = some m ∧
    row.2 = insightStamp m.signature m.markedAt
  kept : ∀ fingerprint m, lastMark marks fingerprint = some m →
    data.get? fingerprint = some (fingerprint, insightStamp m.signature m.markedAt) ∨
      STATE_MAX_AGE_S ≤ clock - m.markedAt

/-- The decision was not marked lately. -/
def Unmarked (reassertS : Int) (marks : List InsightMark) (fingerprint signature : String)
    (now : ℚ) : Prop :=
  ∀ m ∈ lastMark marks fingerprint, m.signature = signature →
    reassertAge reassertS ≤ now - m.markedAt

section Reading

variable {py : Python} {fixed1 : PyFloat → String} {reassertS : Int} {data : InsightEntries}
  {marks : List InsightMark} {clock now : ℚ} {fingerprint signature : String}

theorem stampedAt_stamp (py : Python) (signature : String) (ts : ℚ) :
    stampedAt py [("why", .str signature), ("ts", .float (.fin ts))] = .ok (.fin ts) := by
  have hts : JsonDict.get [("why", .str signature), ("ts", .float (.fin ts))] "ts" =
      .float (.fin ts) := by simp
  unfold stampedAt
  rw [hts]
  unfold Json.or
  by_cases hzero : ts = 0
  · rw [hzero]
    split <;> rfl
  · rw [if_pos (by simpa [Json.truthy] using hzero)]
    rfl

theorem freshEntry_stamp (py : Python) (reassertS : Int) (now ts : ℚ) (signature why : String) :
    freshEntry py reassertS now signature (some (insightStamp why ts)) =
      .ok (decide (why = signature → reassertAge reassertS ≤ now - ts)) := by
  unfold freshEntry insightStamp
  by_cases heq : why = signature
  · simp only [heq, stampedAt_stamp]
    simp [hasAge]
  · simp [heq]

theorem Stamped.mono (h : Stamped data marks clock) (hle : clock ≤ now) :
    Stamped data marks now where
  stored := h.stored
  kept fingerprint m hm := (h.kept fingerprint m hm).imp id fun hold =>
    hold.trans (sub_le_sub_right hle _)

/-- **A record is fresh exactly when its decision was not marked lately.** -/
theorem Stamped.freshEntry_eq (py : Python) (h : Stamped data marks clock)
    (hreassert : reassertAge reassertS ≤ STATE_MAX_AGE_S) (hle : clock ≤ now)
    (fingerprint signature : String) :
    ∃ fresh, freshEntry py reassertS now signature ((data.get? fingerprint).map Prod.snd) =
      .ok fresh ∧ (fresh = true ↔ Unmarked reassertS marks fingerprint signature now) := by
  cases hget : data.get? fingerprint with
  | none =>
    refine ⟨true, rfl, iff_of_true rfl fun m hm _ => ?_⟩
    rcases h.kept fingerprint m hm with hstored | hold
    · rw [hget] at hstored
      cases hstored
    · exact hreassert.trans (hold.trans (sub_le_sub_right hle _))
  | some row =>
    obtain ⟨m, hlast, hrow⟩ := h.stored row (Table.mem_of_get? hget)
    have hkey : row.1 = fingerprint := Table.key_of_get? hget
    rw [Option.map_some, hrow, freshEntry_stamp]
    refine ⟨_, rfl, decide_eq_true_iff.trans ?_⟩
    unfold Unmarked
    rw [← hkey, hlast]
    exact ⟨fun hdue m' hm' => by cases hm'; exact hdue, fun hdue => hdue m rfl⟩

/-! ## What `pending` returns -/

theorem pendingFrom_ok_iff : ∀ (records : List JsonDict) (seen : List String),
    (∃ due, pendingFrom py fixed1 reassertS now data seen records = .ok due) ↔
      ∀ record ∈ records, ∃ signature fresh, recordSignature py fixed1 record = .ok signature ∧
        freshEntry py reassertS now signature
          ((data.get? (recordFingerprint py record)).map Prod.snd) = .ok fresh
  | [], seen => by simp [pendingFrom]
  | record :: rest, seen => by
    rw [List.forall_mem_cons, pendingFrom]
    cases hsignature : recordSignature py fixed1 record with
    | error e => simp
    | ok signature =>
      cases hfresh : freshEntry py reassertS now signature
          ((data.get? (recordFingerprint py record)).map Prod.snd) with
      | error e => simp [hfresh]
      | ok fresh =>
        have hread : ∃ s f, Except.ok signature = Except.ok (ε := PyExc) s ∧
            freshEntry py reassertS now s
              ((data.get? (recordFingerprint py record)).map Prod.snd) = .ok f :=
          ⟨signature, fresh, rfl, hfresh⟩
        rw [and_iff_right hread]
        simp only [hfresh]
        split
        · rw [← pendingFrom_ok_iff rest (recordFingerprint py record :: seen)]
          cases pendingFrom py fixed1 reassertS now data (recordFingerprint py record :: seen)
            rest with
          | error e => simp
          | ok due => simp
        · exact pendingFrom_ok_iff rest seen

/-- What the loop of `pending` returns. -/
structure Selected (py : Python) (fixed1 : PyFloat → String) (reassertS : Int) (now : ℚ)
    (data : InsightEntries) (seen : List String) (records due : List JsonDict) : Prop where
  listed : due.Sublist records
  once : (due.map (recordFingerprint py)).Nodup
  unseen : ∀ record ∈ due, recordFingerprint py record ∉ seen
  isDue : ∀ record ∈ due, IsDue py fixed1 reassertS now data record
  covered : ∀ record ∈ records, IsDue py fixed1 reassertS now data record →
    recordFingerprint py record ∈ seen ∨
      ∃ other ∈ due, recordFingerprint py other = recordFingerprint py record

theorem pendingFrom_selected : ∀ (records : List JsonDict) (seen : List String)
    {due : List JsonDict}, pendingFrom py fixed1 reassertS now data seen records = .ok due →
      Selected py fixed1 reassertS now data seen records due
  | [], seen, due, h => by
    cases h
    exact ⟨.slnil, List.nodup_nil, by simp, by simp, by simp⟩
  | record :: rest, seen, due, h => by
    rw [pendingFrom] at h
    cases hsignature : recordSignature py fixed1 record with
    | error e =>
      rw [hsignature] at h
      cases h
    | ok signature =>
      cases hfresh : freshEntry py reassertS now signature
          ((data.get? (recordFingerprint py record)).map Prod.snd) with
      | error e =>
        simp only [hsignature, hfresh] at h
        cases h
      | ok fresh =>
        simp only [hsignature, hfresh] at h
        split at h
        · rename_i htaken
          obtain ⟨hdue, hunseen⟩ := Bool.and_eq_true_iff.1 htaken
          rw [hdue] at hfresh
          cases hrest : pendingFrom py fixed1 reassertS now data
              (recordFingerprint py record :: seen) rest with
          | error e =>
            rw [hrest] at h
            cases h
          | ok others =>
            rw [hrest] at h
            cases h
            have ih := pendingFrom_selected rest _ hrest
            exact {
              listed := ih.listed.cons_cons record
              once := List.nodup_cons.2 ⟨fun hmem => by
                obtain ⟨other, hother, heq⟩ := List.mem_map.1 hmem
                exact ih.unseen other hother (heq ▸ List.mem_cons_self), ih.once⟩
              unseen := List.forall_mem_cons.2 ⟨by simpa using hunseen, fun other hother hmem =>
                ih.unseen other hother (List.mem_cons_of_mem _ hmem)⟩
              isDue := List.forall_mem_cons.2 ⟨⟨signature, hsignature, hfresh⟩, ih.isDue⟩
              covered := List.forall_mem_cons.2 ⟨fun _ => Or.inr ⟨record, List.mem_cons_self, rfl⟩,
                fun other hother hotherDue => by
                  rcases ih.covered other hother hotherDue with hmem | ⟨d, hd, heq⟩
                  · rcases List.mem_cons.1 hmem with heq | hmem
                    · exact Or.inr ⟨record, List.mem_cons_self, heq.symm⟩
                    · exact Or.inl hmem
                  · exact Or.inr ⟨d, List.mem_cons_of_mem _ hd, heq⟩⟩ }
        · rename_i hskipped
          have ih := pendingFrom_selected rest _ h
          refine { ih with
            listed := ih.listed.cons record
            covered := List.forall_mem_cons.2 ⟨?_, ih.covered⟩ }
          rintro ⟨signature', hsignature', hdue⟩
          rw [hsignature] at hsignature'
          cases hsignature'
          rw [hfresh] at hdue
          cases hdue
          exact Or.inl (by simpa using hskipped)

/-- A record is due when its decision was not marked lately. -/
theorem Stamped.isDue_iff (h : Stamped data marks clock)
    (hreassert : reassertAge reassertS ≤ STATE_MAX_AGE_S) (hle : clock ≤ now) {record : JsonDict} :
    IsDue py fixed1 reassertS now data record ↔
      ∃ signature, recordSignature py fixed1 record = .ok signature ∧
        Unmarked reassertS marks (recordFingerprint py record) signature now := by
  refine exists_congr fun signature => and_congr_right fun _ => ?_
  obtain ⟨fresh, hfresh, hiff⟩ := h.freshEntry_eq py hreassert hle
    (recordFingerprint py record) signature
  rw [hfresh, ← hiff]
  exact ⟨fun heq => by cases heq; rfl, fun heq => congrArg Except.ok heq⟩

/-! ## What `mark` leaves -/

theorem lastMark_cons (m : InsightMark) (marks : List InsightMark) (fingerprint : String) :
    lastMark (m :: marks) fingerprint =
      if m.fingerprint = fingerprint then some m else lastMark marks fingerprint := by
  unfold lastMark
  rw [List.find?_cons]
  by_cases h : m.fingerprint = fingerprint <;> simp [h]

theorem Stamped.put (h : Stamped data marks clock) (m : InsightMark) :
    Stamped (data.put (m.fingerprint, insightStamp m.signature m.markedAt)) (m :: marks) clock where
  stored row hrow := by
    rw [lastMark_cons]
    rcases Table.mem_put.1 hrow with rfl | ⟨hold, hne⟩
    · exact ⟨m, if_pos rfl, rfl⟩
    · obtain ⟨m', hlast, heq⟩ := h.stored row hold
      exact ⟨m', by rw [if_neg (Ne.symm hne), hlast], heq⟩
  kept fingerprint m' hm' := by
    rw [lastMark_cons] at hm'
    rw [Table.get?_put]
    by_cases heq : m.fingerprint = fingerprint
    · rw [if_pos heq] at hm' ⊢
      cases hm'
      exact Or.inl (by rw [heq])
    · rw [if_neg heq] at hm' ⊢
      exact h.kept fingerprint m' hm'

/-- What the first loop of `mark` leaves. -/
theorem Stamped.stampAll (now : ℚ) : ∀ {records : List JsonDict} {data : InsightEntries}
    {marks : List InsightMark}, Stamped data marks clock →
      (∀ record ∈ records, ∃ signature, recordSignature py fixed1 record = .ok signature) →
      ∃ stamped, stampAll py fixed1 now data records = .ok stamped ∧
        Stamped stamped ((records.map (insightMark py fixed1 now)).reverse ++ marks) clock
  | [], data, marks, h, _ => ⟨data, rfl, h⟩
  | record :: rest, data, marks, h, hread => by
    obtain ⟨signature, hsignature⟩ := hread record List.mem_cons_self
    have hmark : insightMark py fixed1 now record =
        ⟨recordFingerprint py record, signature, now⟩ := by
      unfold insightMark
      rw [hsignature]
      rfl
    obtain ⟨stamped, hstamped, hrest⟩ := (h.put (insightMark py fixed1 now record)).stampAll now
      fun other hother => hread other (List.mem_cons_of_mem _ hother)
    refine ⟨stamped, ?_, ?_⟩
    · rw [Proactive.stampAll, hsignature, ← hstamped, hmark]
    · rw [List.map_cons, List.reverse_cons, List.append_assoc]
      exact hrest

theorem youngEntry_stamp (py : Python) (now ts : ℚ) (signature : String) :
    youngEntry py now (insightStamp signature ts) =
      .ok (decide (now - ts < STATE_MAX_AGE_S)) := by
  unfold youngEntry insightStamp
  simp only [stampedAt_stamp]
  rfl

/-- What is left when the old entries are dropped. -/
theorem Stamped.pruneOld (py : Python) (h : Stamped data marks clock) :
    ∃ kept, pruneOld py clock data = .ok kept ∧ Stamped kept marks clock := by
  obtain ⟨_, hread⟩ := (collectE_ok_iff (f := fun row => youngEntry py clock row.2)
    (fun _ => Iff.rfl) data.rows).2 fun row hrow => by
      obtain ⟨m, -, heq⟩ := h.stored row hrow
      exact ⟨_, by rw [heq, youngEntry_stamp]⟩
  refine ⟨_, by unfold Proactive.pruneOld; rw [hread], ?_, ?_⟩
  · exact fun row hrow => h.stored row (List.mem_of_mem_filter hrow)
  · intro fingerprint m hm
    rw [Table.get?_filter]
    rcases h.kept fingerprint m hm with hstored | hold
    · rw [hstored]
      by_cases hage : clock - m.markedAt < STATE_MAX_AGE_S
      · refine Or.inl (Option.filter_eq_some_iff.2 ⟨rfl, ?_⟩)
        unfold isYoung
        simp only [youngEntry_stamp]
        exact decide_eq_true hage
      · exact Or.inr (not_lt.1 hage)
    · exact Or.inr hold

/-- **`mark` makes every record the last mark of its fingerprint.** -/
theorem Stamped.mark (py : Python) (fixed1 : PyFloat → String) {file : InsightFile} (h : Stamped file.load marks clock) {due : List JsonDict}
    (hread : ∀ record ∈ due, ∃ signature, recordSignature py fixed1 record = .ok signature) :
    ∃ file', mark py fixed1 clock file due = .ok file' ∧
      Stamped file'.load ((due.map (insightMark py fixed1 clock)).reverse ++ marks) clock := by
  obtain ⟨stamped, hstamped, hmarks⟩ := h.stampAll clock hread
  obtain ⟨kept, hkept, hpruned⟩ := hmarks.pruneOld py
  exact ⟨.entries kept, by unfold Proactive.mark; simp only [hstamped, hkept], hpruned⟩

/-- **What a cycle can do**: mark all that was due, or nothing. -/
theorem Stamped.emit_cases (py : Python) (fixed1 : PyFloat → String) (reassertS : Int) (now : ℚ)
    {file : InsightFile} (h : Stamped file.load marks clock) {markedAt : ℚ}
    (hle : clock ≤ markedAt) (emitted : Except PyExc Int)
    (records : List JsonDict) :
    (∃ due, pending py fixed1 reassertS now file records = .ok due ∧ due ≠ [] ∧
      emitted = .ok due.length ∧
      ∃ file', emitInsightRecords py fixed1 reassertS now markedAt emitted file records =
          ⟨due.length, file', due⟩ ∧
        Stamped file'.load ((due.map (insightMark py fixed1 markedAt)).reverse ++ marks) markedAt) ∨
    (∃ delivered, emitInsightRecords py fixed1 reassertS now markedAt emitted file records =
        ⟨delivered, file, []⟩ ∧
      ∀ due, pending py fixed1 reassertS now file records = .ok due → due ≠ [] →
        emitted ≠ .ok due.length) := by
  unfold emitInsightRecords
  cases hpending : pending py fixed1 reassertS now file records with
  | error e => exact Or.inr ⟨0, rfl, fun due hdue => by cases hdue⟩
  | ok due =>
    cases due with
    | nil => exact Or.inr ⟨0, rfl, fun due hdue hne => by cases hdue; exact absurd rfl hne⟩
    | cons record rest =>
      cases emitted with
      | error e => exact Or.inr ⟨0, rfl, fun due hdue _ => by cases hdue; exact nofun⟩
      | ok delivered =>
        by_cases hall : delivered = ((record :: rest).length : Int)
        · have hselected := pendingFrom_selected records [] hpending
          obtain ⟨file', hmark, hstamped⟩ := (h.mono hle).mark py fixed1
            fun r hr => (hselected.isDue r hr).imp fun _ => And.left
          refine Or.inl ⟨record :: rest, rfl, List.cons_ne_nil _ _, congrArg _ hall, file', ?_,
            hstamped⟩
          simp only [if_pos hall, hmark]
          rw [hall]
        · refine Or.inr ⟨delivered, by simp only [if_neg hall], fun due hdue _ heq => ?_⟩
          cases hdue
          exact hall (Except.ok.inj heq)

/-! ## Marks -/

theorem lastMark_eq_head? (marks : List InsightMark) (fingerprint : String) :
    lastMark marks fingerprint =
      (marks.filter fun m => m.fingerprint = fingerprint).head? := by
  unfold lastMark
  rw [List.head?_filter]

/-- Marks that are due stand apart from those before them. -/
theorem isChain_marks {markedAt : ℚ} : ∀ {due : List JsonDict} {marks : List InsightMark},
    (due.map (recordFingerprint py)).Nodup →
    (∀ record ∈ due, Unmarked reassertS marks (recordFingerprint py record)
      (insightMark py fixed1 markedAt record).signature markedAt) →
    (∀ fingerprint, (marks.filter fun m => m.fingerprint = fingerprint).IsChain
      (MarksApart reassertS)) →
    ∀ fingerprint, ((((due.map (insightMark py fixed1 markedAt)).reverse ++ marks)).filter
      fun m => m.fingerprint = fingerprint).IsChain (MarksApart reassertS)
  | [], marks, _, _, hchain, fingerprint => hchain fingerprint
  | record :: rest, marks, honce, hdue, hchain, fingerprint => by
    rw [List.map_cons, List.reverse_cons, List.append_assoc]
    obtain ⟨hnew, hothers⟩ := List.nodup_cons.1 honce
    refine isChain_marks hothers (fun other hother m hm hsame => ?_) (fun fingerprint' => ?_)
      fingerprint
    · have hne : (insightMark py fixed1 markedAt record).fingerprint ≠
          recordFingerprint py other := fun heq =>
        hnew (List.mem_map.2 ⟨other, hother, heq.symm⟩)
      rw [List.singleton_append, lastMark_cons, if_neg hne] at hm
      exact hdue other (List.mem_cons_of_mem _ hother) m hm hsame
    · rw [List.singleton_append, List.filter_cons]
      split
      · rename_i hmatch
        refine List.isChain_cons.2 ⟨fun older holder => ?_, hchain fingerprint'⟩
        have hfingerprint : recordFingerprint py record = fingerprint' := of_decide_eq_true hmatch
        rw [← lastMark_eq_head?, ← hfingerprint] at holder
        exact fun hsame => hdue record List.mem_cons_self older holder hsame.symm
      · exact hchain fingerprint'

end Reading

/-! ## Runs -/

section Runs

variable {py : Python} {fixed1 : PyFloat → String} {reassertS : Int} {s t : InsightSystem}
  {c : InsightCycle} {fingerprint signature : String}

theorem Unmarked.mono {marks : List InsightMark} {now later : ℚ} (hle : now ≤ later)
    (h : Unmarked reassertS marks fingerprint signature now) :
    Unmarked reassertS marks fingerprint signature later :=
  fun m hm hsame => (h m hm hsame).trans (sub_le_sub_right hle _)

theorem signature_of_insightMark {record : JsonDict} {markedAt : ℚ}
    (h : recordSignature py fixed1 record = .ok signature) :
    (insightMark py fixed1 markedAt record).signature = signature := by
  unfold insightMark
  rw [h]
  rfl

/-- What every run keeps. -/
structure EmitsOnce (reassertS : Int) (s : InsightSystem) : Prop where
  stamped : Stamped s.file.load s.marks s.clock
  apart : ∀ fingerprint, (s.marksOf fingerprint).IsChain (MarksApart reassertS)

/-- What a call of `pending` returns, in a state that a run comes to. -/
theorem EmitsOnce.returnsDue (h : EmitsOnce reassertS s)
    (hreassert : reassertAge reassertS ≤ STATE_MAX_AGE_S) {now : ℚ} (hle : s.clock ≤ now)
    {records due : List JsonDict}
    (hpending : pending py fixed1 reassertS now s.file records = .ok due) :
    ReturnsDue py fixed1 reassertS s now records due := by
  have hselected := pendingFrom_selected records [] hpending
  refine ⟨hselected.listed, hselected.once, fun record hrecord hnot => ?_⟩
  by_cases hdue : IsDue py fixed1 reassertS now s.file.load record
  · rcases hselected.covered record hrecord hdue with hseen | hother
    · exact absurd hseen List.not_mem_nil
    · exact Or.inl hother
  · obtain ⟨signature, -, hsignature, -⟩ :=
      (pendingFrom_ok_iff records []).1 ⟨due, hpending⟩ record hrecord
    rw [h.stamped.isDue_iff hreassert hle] at hdue
    have hmarked : ¬ Unmarked reassertS s.marks (recordFingerprint py record) signature now :=
      fun hunmarked => hdue ⟨signature, hsignature, hunmarked⟩
    unfold Unmarked at hmarked
    push Not at hmarked
    obtain ⟨m, hlast, rfl, hyoung⟩ := hmarked
    exact Or.inr ⟨m, hlast, hsignature, hyoung⟩

theorem EmitsOnce.step (h : EmitsOnce reassertS s)
    (hreassert : reassertAge reassertS ≤ STATE_MAX_AGE_S)
    (hstep : insightStep py fixed1 reassertS s c t) : EmitsOnce reassertS t := by
  obtain ⟨hclock, hmarked, rfl⟩ := hstep
  rcases h.stamped.emit_cases py fixed1 reassertS c.now (hclock.trans hmarked) c.emitted
    c.records with
    ⟨due, hpending, -, -, file', hemit, hstamped⟩ | ⟨delivered, hemit, -⟩
  · have hselected := pendingFrom_selected c.records [] hpending
    unfold InsightSystem.next
    rw [hemit]
    refine ⟨hstamped, isChain_marks hselected.once (fun record hrecord => ?_) h.apart⟩
    obtain ⟨signature, hsignature, hunmarked⟩ :=
      (h.stamped.isDue_iff hreassert hclock).1 (hselected.isDue record hrecord)
    rw [signature_of_insightMark hsignature]
    exact hunmarked.mono hmarked
  · unfold InsightSystem.next
    rw [hemit]
    exact ⟨h.stamped.mono (hclock.trans hmarked), h.apart⟩

theorem emitsOnce_run (hreassert : reassertAge reassertS ≤ STATE_MAX_AGE_S) {start : ℚ}
    {cs : List InsightCycle} (h : Run (insightStep py fixed1 reassertS) { clock := start } cs s) :
    EmitsOnce reassertS s := by
  refine h.invariant (fun s c t hs hstep => hs.step hreassert hstep) ⟨⟨?_, ?_⟩, ?_⟩
  · exact fun row hrow => absurd hrow List.not_mem_nil
  · intro fingerprint m hm
    cases hm
  · exact fun fingerprint => List.isChain_nil

/-- The marks that a cycle adds. -/
theorem EmitsOnce.marks (h : EmitsOnce reassertS s)
    (hstep : insightStep py fixed1 reassertS s c t) {due : List JsonDict}
    (hpending : pending py fixed1 reassertS c.now s.file c.records = .ok due) :
    t.marks = (if c.emitted = .ok due.length then
      (due.map (insightMark py fixed1 c.markedAt)).reverse else []) ++ s.marks := by
  obtain ⟨hclock, hmarked, rfl⟩ := hstep
  rcases h.stamped.emit_cases py fixed1 reassertS c.now (hclock.trans hmarked) c.emitted
    c.records with
    ⟨due', hpending', -, hall, file', hemit, -⟩ | ⟨delivered, hemit, hnot⟩
  · rw [hpending] at hpending'
    cases hpending'
    unfold InsightSystem.next
    rw [hemit, if_pos hall]
  · unfold InsightSystem.next
    rw [hemit]
    cases due with
    | nil => simp
    | cons record rest => rw [if_neg (hnot _ hpending (List.cons_ne_nil _ _))]; rfl

/-- A cycle that does not offer the decision leaves it unmarked. -/
theorem Unmarked.step (hs : EmitsOnce reassertS s) {now : ℚ} {record : JsonDict}
    (h : Unmarked reassertS s.marks (recordFingerprint py record) signature now)
    (hsignature : recordSignature py fixed1 record = .ok signature)
    (hnone : ∀ other ∈ c.records, ¬ SameDecision py fixed1 other record)
    (hstep : insightStep py fixed1 reassertS s c t) :
    Unmarked reassertS t.marks (recordFingerprint py record) signature now := by
  cases hpending : pending py fixed1 reassertS c.now s.file c.records with
  | error e =>
    obtain ⟨-, -, rfl⟩ := hstep
    unfold InsightSystem.next emitInsightRecords
    rw [hpending]
    exact h
  | ok due =>
    have hselected := pendingFrom_selected c.records [] hpending
    rw [hs.marks hstep hpending]
    intro m hm hsame
    unfold lastMark at hm
    rw [List.find?_append, Option.mem_def, Option.or_eq_some_iff] at hm
    rcases hm with hm | ⟨-, hm⟩
    · have hfingerprint := List.find?_some hm
      have hmem := List.mem_of_find?_eq_some hm
      split at hmem
      · obtain ⟨other, hother, rfl⟩ := List.mem_map.1 (List.mem_reverse.1 hmem)
        obtain ⟨signature', hsignature', -⟩ := hselected.isDue other hother
        rw [signature_of_insightMark hsignature'] at hsame
        rw [hsame, ← hsignature] at hsignature'
        exact absurd ⟨of_decide_eq_true hfingerprint, hsignature'⟩
          (hnone other (hselected.listed.subset hother))
      · exact absurd hmem List.not_mem_nil
    · exact h m hm hsame

theorem EmitsOnce.dueAgain (h : EmitsOnce reassertS s)
    (hreassert : reassertAge reassertS ≤ STATE_MAX_AGE_S) :
    DueAgain py fixed1 reassertS s := by
  intro c t due record hstep hpending hrecord hfailed cs u now hrun hnone hle
  obtain ⟨signature, hsignature, hunmarked⟩ := (h.stamped.isDue_iff hreassert hstep.1).1
    ((pendingFrom_selected c.records [] hpending).isDue record hrecord)
  have hmarks : t.marks = s.marks := by
    rw [h.marks hstep hpending, if_neg hfailed]
    rfl
  -- the invariant of the cycles that do not offer the decision
  have hquiet : Run (Guarded (insightStep py fixed1 reassertS) fun _ c' => ∀ other ∈ c'.records,
      ¬ SameDecision py fixed1 other record) t cs u := hrun.guarded fun c' hc' _ => hnone c' hc'
  have hkept := hquiet.invariant
    (I := fun v => EmitsOnce reassertS v ∧ c.now ≤ v.clock ∧
      Unmarked reassertS v.marks (recordFingerprint py record) signature c.now)
    (fun v c' w hv hw => ⟨hv.1.step hreassert hw.2, hv.2.1.trans (hw.2.1.trans (by
      obtain ⟨-, hle', rfl⟩ := hw.2
      exact hle')), hv.2.2.step hv.1 hsignature hw.1 hw.2⟩)
    ⟨h.step hreassert hstep, by
      obtain ⟨-, hle', rfl⟩ := hstep
      exact hle', by rw [hmarks]; exact hunmarked⟩
  obtain ⟨hu, hclock, hlast⟩ := hkept
  have hdue : IsDue py fixed1 reassertS now u.file.load record :=
    (hu.stamped.isDue_iff hreassert hle).2 ⟨signature, hsignature, hlast.mono (hclock.trans hle)⟩
  refine ⟨hdue, fun records due' hmem hpending' => ?_⟩
  rcases (pendingFrom_selected records [] hpending').covered record hmem hdue with hseen | hother
  · exact absurd hseen List.not_mem_nil
  · exact hother

/-- A call of `pending` returns where every record has a signature. -/
theorem EmitsOnce.pending_ok_iff (h : EmitsOnce reassertS s)
    (hreassert : reassertAge reassertS ≤ STATE_MAX_AGE_S) {now : ℚ} (hle : s.clock ≤ now)
    (records : List JsonDict) :
    (∃ due, pending py fixed1 reassertS now s.file records = .ok due) ↔
      ∀ record ∈ records, ∃ signature, recordSignature py fixed1 record = .ok signature := by
  refine (pendingFrom_ok_iff records []).trans (forall₂_congr fun record _ =>
    exists_congr fun signature => ⟨fun ⟨_, hsignature, _⟩ => hsignature, fun hsignature => ?_⟩)
  obtain ⟨fresh, hfresh, -⟩ := h.stamped.freshEntry_eq py hreassert hle
    (recordFingerprint py record) signature
  exact ⟨fresh, hsignature, hfresh⟩

/-- **Every run of cycles emits a decision when it is due, and only then.** -/
theorem insights_run (py : Python) (fixed1 : PyFloat → String) {reassertS : Int}
    (hreassert : reassertS ≤ 30 * 86400) {start : ℚ} {cs : List InsightCycle} {s : InsightSystem}
    (h : Run (insightStep py fixed1 reassertS) { clock := start } cs s) :
    (∀ fingerprint, (s.marksOf fingerprint).IsChain (MarksApart reassertS)) ∧
    (∀ now records, s.clock ≤ now →
      ((∃ due, pending py fixed1 reassertS now s.file records = .ok due) ↔
        ∀ record ∈ records, ∃ signature, recordSignature py fixed1 record = .ok signature) ∧
      ∀ due, pending py fixed1 reassertS now s.file records = .ok due →
        ReturnsDue py fixed1 reassertS s now records due) ∧
    (∀ c t due, insightStep py fixed1 reassertS s c t →
      pending py fixed1 reassertS c.now s.file c.records = .ok due →
      t.marks = (if c.emitted = .ok due.length then
        (due.map (insightMark py fixed1 c.markedAt)).reverse else []) ++ s.marks) ∧
    DueAgain py fixed1 reassertS s := by
  have hage : reassertAge reassertS ≤ STATE_MAX_AGE_S := by
    have hmax : max 1 reassertS ≤ 30 * 86400 := max_le (by norm_num) hreassert
    unfold reassertAge STATE_MAX_AGE_S
    exact_mod_cast hmax
  have hs := emitsOnce_run hage h
  exact ⟨hs.apart, fun now records hle => ⟨hs.pending_ok_iff hage hle records,
    fun due hpending => hs.returnsDue hage hle hpending⟩,
    fun c t due hstep hpending => hs.marks hstep hpending, hs.dueAgain hage⟩

end Runs

/-! ## An outage of the collector -/

/-- An interpreter whose digest of a text is the text. -/
def plainPython : Python := { asciiPython with sha256 := id }

/-- A decision about a disk. -/
def diskDecision (action : String) : JsonDict :=
  [("fingerprint", .str "disk"), ("action_selected", .str action), ("why_now", .str "new hotspot"),
    ("expected_utility", .dict [("total", .int 1)])]

/-- The decision is delivered. -/
def collectorUp : InsightCycle := ⟨[diskDecision "notify"], 10, 11, .ok 1⟩

def collectorSystem : InsightSystem :=
  ({ clock := 0 } : InsightSystem).next plainPython (fun _ => "1.0") 3600 collectorUp

theorem insights_run_collectorUp : (collectorSystem.marksOf "disk").IsChain (MarksApart 3600) ∧
    DueAgain plainPython (fun _ => "1.0") 3600 collectorSystem := by
  have hstep : insightStep plainPython (fun _ => "1.0") 3600 { clock := 0 } collectorUp
      collectorSystem := by
    refine ⟨?_, ?_, rfl⟩
    · change (0 : ℚ) ≤ 10
      norm_num
    · change (10 : ℚ) ≤ 11
      norm_num
  have h := insights_run plainPython (fun _ => "1.0") (by decide) (Run.single hstep)
  exact ⟨h.1 "disk", h.2.2.2⟩

/-- Only the new decision is due after two minutes. -/
example : (pending plainPython (fun _ => "1.0") 3600 130 collectorSystem.file
    [diskDecision "notify", diskDecision "draft"]).toOption.map List.length = some 1 := by
  decide +kernel

end NocAgent.Proactive
