import NocAgent.Proactive.Carry
import NocAgent.Proactive.Suppressions

/-!
# Pruning acknowledgements

After a scan the loop drops what operators have muted, and forgets an untimed acknowledgement once
no hotspot of the cycle has its id.

* `applySuppressions` — `ProactiveLoop._apply_suppressions`.
* `AckSystem` — the loop and its store over cycles, restarts and calls of the store; `rules` keeps
  which rules were firing for an id when it was acknowledged.
* `PrunedOnRecovery` — an untimed acknowledgement goes only when its rules were evaluated cleanly
  and found nothing, a timed one never goes, and the cycle reports what is not muted.
* `Known` — where a rule of an untimed acknowledgement is not evaluated cleanly, the scan or the
  set carried for it still has a hotspot with the id.
* `prunedOnRecovery_run_iff` — over every run these are the same.
-/

set_option autoImplicit false

namespace NocAgent.Proactive

open Keyed Lts

/-! ## The code -/

/-- The id is a prefix of the fingerprint. -/
def hasPrefix (ackId fingerprint : String) : Bool := ackId.toList.isPrefixOf fingerprint.toList

section Store

variable (py : Python)

/-- `expires_at is None or float(expires_at) > now`. -/
def lastsUntil (now : ℚ) : Json → Except PyExc Bool
  | .null => .ok true
  | expiresAt =>
    match pyFloat py expiresAt with
    | .error e => .error e
    | .ok x => .ok (x.gt now)

def activeEntry (now : ℚ) : Json → Except PyExc Bool
  | .dict entry => lastsUntil py now (JsonDict.get entry "expires_at")
  | _ => .error .attributeError

/-- The entries that have not expired. -/
def activeOf (now : ℚ) : List (String × Json) → Except PyExc (List (String × Json))
  | [] => .ok []
  | row :: rest =>
    match activeEntry py now row.2 with
    | .error e => .error e
    | .ok keep =>
      match activeOf now rest with
      | .error e => .error e
      | .ok out => .ok (if keep then row :: out else out)

/-- `active`. -/
def SuppressionFile.active (now : ℚ) (file : SuppressionFile) :
    Except PyExc (List (String × Json)) :=
  match file.load with
  | .error e => .error e
  | .ok data => activeOf py now data.rows

/-- A whole call of the store; one that raises leaves the file. -/
def SuppressionFile.perform (file : SuppressionFile) (call : SuppressionCall) : SuppressionFile :=
  match file.load with
  | .error _ => file
  | .ok data => if call.writes data then .entries (call.update data) else file

/-- `entry.get("expires_at") is None`. -/
def untimed : Json → Bool
  | .dict entry => !(JsonDict.get entry "expires_at").notNone
  | _ => false

/-- Remove every untimed id of the list that no firing fingerprint begins with. -/
def pruneAcks (firing : List String) : List (String × Json) → SuppressionFile → SuppressionFile
  | [], file => file
  | (ackId, entry) :: rest, file =>
    if untimed entry && !firing.any (hasPrefix ackId) then
      pruneAcks firing rest (file.perform (.remove ackId))
    else pruneAcks firing rest file

/-- The hotspots whose fingerprints begin with no id of the list. -/
def unmuted (active : List (String × Json)) (raw : List Hotspot) : List Hotspot :=
  raw.filter fun h => !active.any fun row => hasPrefix row.1 (h.fingerprint py)

/-- `_apply_suppressions`, at the clock readings of its two reads of the store. -/
def applySuppressions (now later : ℚ) (raw : List Hotspot) (file : SuppressionFile) :
    List Hotspot × SuppressionFile :=
  match file.active py now with
  | .error _ => (raw, file)
  | .ok [] => (raw, file)
  | .ok active =>
    let pruned := pruneAcks (raw.map (Hotspot.fingerprint py)) active file
    match pruned.active py later with
    | .error _ => (raw, pruned)
    | .ok ids => (unmuted py ids raw, pruned)

end Store

/-! ## Cycles -/

/-- A cycle, with the rules that raised in it: the scan goes on without them. -/
structure ScanCycle extends Cycle where
  failed : List String := []

/-- The cycle is not degraded, and evaluated the rule. -/
def ScanCycle.Cleanly (c : ScanCycle) (rule : String) : Prop :=
  c.degraded = false ∧ (rule ∉ DEEP_RULE_IDS ∨ c.doDeep = true) ∧ rule ∉ c.failed

/-- The stored acks, and the hotspots that are carried. -/
structure AckSystem where
  file : SuppressionFile
  sets : CarriedSets
  /-- the rules whose hotspots, with the id as a prefix, were firing when it was acknowledged -/
  rules : String → List String

inductive AckLabel where
  | cycle (c : ScanCycle) (now later : ℚ)
  /-- a cycle that ends before it applies the suppressions -/
  | cut (c : ScanCycle)
  /-- a call of the store, and the rules that are firing for its fingerprint -/
  | call (call : SuppressionCall) (rules : List String)
  | restart

section Cycles

variable (py : Python)

/-- The effective set of a cycle. -/
def effectiveOf (s : AckSystem) (c : ScanCycle) : List Hotspot :=
  (mergeWithCarried py s.sets c.raw c.doDeep c.degraded).1

/-- What a cycle reports, and the store it leaves. -/
def reportOf (s : AckSystem) (c : ScanCycle) (now later : ℚ) : List Hotspot × SuppressionFile :=
  applySuppressions py now later (effectiveOf py s c) s.file

def AckSystem.next (s : AckSystem) : AckLabel → AckSystem
  | .cycle c now later => { s with
      file := (reportOf py s c now later).2
      sets := (mergeWithCarried py s.sets c.raw c.doDeep c.degraded).2 }
  | .cut c => { s with sets := (mergeWithCarried py s.sets c.raw c.doDeep c.degraded).2 }
  | .call call rules => { s with
      file := s.file.perform call
      rules := Function.update s.rules call.fingerprint rules }
  | .restart => { s with sets := ⟨[], []⟩ }

def AckLabel.Allowed : AckLabel → Prop
  | .cycle c _ _ => c.WellFormed
  | .cut c => c.WellFormed
  | .call _ _ => True
  | .restart => True

def ackStep (s : AckSystem) (l : AckLabel) (t : AckSystem) : Prop := l.Allowed ∧ t = s.next py l

/-- A fresh loop on a persisted store. -/
def AckSystem.start (file : SuppressionFile) (rules : String → List String) : AckSystem :=
  ⟨file, ⟨[], []⟩, rules⟩

/-! ## The property -/

/-- The cycle found a hotspot of the rule with the id. -/
def ScanCycle.Finds (c : ScanCycle) (rule ackId : String) : Prop :=
  ∃ h ∈ c.raw, h.ruleId = rule ∧ hasPrefix ackId (h.fingerprint py) = true

/-- When the store is read for the last time. -/
def lastRead (file : SuppressionFile) (now later : ℚ) : ℚ :=
  match file.active py now with
  | .ok [] => now
  | _ => later

/-- **What a cycle may do to acknowledgements.** -/
structure Recovered (s : AckSystem) (c : ScanCycle) (now later : ℚ) : Prop where
  recovered : ∀ ackId entry, s.file.data.get? ackId = some (ackId, entry) →
    untimed entry = true → (reportOf py s c now later).2.data.get? ackId = none → ∀ rule ∈ s.rules ackId,
      c.Cleanly rule ∧ ¬ c.Finds py rule ackId
  timed : ∀ ackId entry, s.file.data.get? ackId = some (ackId, entry) → untimed entry = false →
    (reportOf py s c now later).2.data.get? ackId = some (ackId, entry)
  reported : ∀ ids,
    (reportOf py s c now later).2.active py (lastRead py s.file now later) = .ok ids →
    (reportOf py s c now later).1 = unmuted py ids (effectiveOf py s c)

def PrunedOnRecovery (s : AckSystem) (l : AckLabel) (_ : AckSystem) : Prop :=
  match l with
  | .cycle c now later => Recovered py s c now later
  | _ => True

/-- What the cycle knows: its scan, and the set that is carried for what it did not evaluate. -/
def knownOf (s : AckSystem) (c : ScanCycle) : List Hotspot :=
  c.raw ++ if c.degraded then s.sets.lastEffective
    else if c.doDeep then [] else s.sets.lastDeepHotspots

/-- Where a rule of an untimed acknowledgement is not evaluated cleanly, the cycle knows a hotspot
with its id; or the store cannot be read. -/
def Known (s : AckSystem) : AckLabel → Prop
  | .cycle c now _ => (∃ active, s.file.active py now = .ok active) →
      ∀ ackId entry, s.file.data.get? ackId = some (ackId, entry) → untimed entry = true →
        ∀ rule ∈ s.rules ackId, ¬ c.Cleanly rule →
          ∃ h ∈ knownOf s c, hasPrefix ackId (h.fingerprint py) = true
  | _ => True

end Cycles

/-! ## Reading the store -/

section Reading

variable {py : Python} {now later : ℚ} {file : SuppressionFile} {data : Suppressions}

theorem lastsUntil_of_notNone {expiresAt : Json} (h : expiresAt.notNone = true) :
    lastsUntil py now expiresAt = match pyFloat py expiresAt with
      | .error e => .error e
      | .ok x => .ok (x.gt now) := by
  cases expiresAt with
  | null => cases h
  | _ => rfl

theorem eq_null_of_notNone {x : Json} (h : x.notNone = false) : x = .null := by
  cases x with
  | null => rfl
  | _ => cases h

/-- Whether an entry can be read does not depend on the clock. -/
theorem activeEntry_ok_iff (entry : Json) :
    (∃ keep, activeEntry py now entry = .ok keep) ↔ ∃ keep, activeEntry py later entry = .ok keep := by
  cases entry with
  | dict fields =>
    change (∃ keep, lastsUntil py now (JsonDict.get fields "expires_at") = _) ↔
      ∃ keep, lastsUntil py later (JsonDict.get fields "expires_at") = _
    cases hnone : (JsonDict.get fields "expires_at").notNone with
    | true =>
      rw [lastsUntil_of_notNone hnone, lastsUntil_of_notNone hnone]
      cases pyFloat py (JsonDict.get fields "expires_at") <;> simp
    | false =>
      rw [eq_null_of_notNone hnone]
      exact ⟨fun _ => ⟨true, rfl⟩, fun _ => ⟨true, rfl⟩⟩
  | _ => simp [activeEntry]

/-- An untimed entry is active. -/
theorem activeEntry_untimed {entry : Json} (h : untimed entry = true) :
    activeEntry py now entry = .ok true := by
  cases entry with
  | dict fields =>
    have hnone : (!(JsonDict.get fields "expires_at").notNone) = true := h
    rw [Bool.not_eq_true'] at hnone
    change lastsUntil py now (JsonDict.get fields "expires_at") = .ok true
    rw [eq_null_of_notNone hnone]
    rfl
  | _ => cases h

theorem activeOf_ok_iff : ∀ rows : List (String × Json),
    (∃ out, activeOf py now rows = .ok out) ↔
      ∀ row ∈ rows, ∃ keep, activeEntry py now row.2 = .ok keep
  | [] => by simp [activeOf]
  | row :: rest => by
    have ih := activeOf_ok_iff rest
    unfold activeOf
    rw [List.forall_mem_cons, ← ih]
    cases activeEntry py now row.2 with
    | error e => simp
    | ok keep => cases activeOf py now rest <;> simp

/-- The active rows. -/
theorem mem_activeOf : ∀ {rows out : List (String × Json)}, activeOf py now rows = .ok out →
    ∀ row, row ∈ out ↔ row ∈ rows ∧ activeEntry py now row.2 = .ok true
  | [], out, h, row => by
    cases h
    simp
  | first :: rest, out, h, row => by
    unfold activeOf at h
    cases hfirst : activeEntry py now first.2 with
    | error e =>
      rw [hfirst] at h
      cases h
    | ok keep =>
      rw [hfirst] at h
      cases hrest : activeOf py now rest with
      | error e =>
        rw [hrest] at h
        cases h
      | ok others =>
        rw [hrest] at h
        cases h
        have ih := mem_activeOf hrest row
        cases keep with
        | true =>
          rw [if_pos rfl, List.mem_cons, ih, List.mem_cons]
          constructor
          · rintro (rfl | ⟨hmem, hactive⟩)
            · exact ⟨Or.inl rfl, hfirst⟩
            · exact ⟨Or.inr hmem, hactive⟩
          · rintro ⟨rfl | hmem, hactive⟩
            · exact Or.inl rfl
            · exact Or.inr ⟨hmem, hactive⟩
        | false =>
          rw [if_neg Bool.false_ne_true, ih, List.mem_cons]
          constructor
          · rintro ⟨hmem, hactive⟩
            exact ⟨Or.inr hmem, hactive⟩
          · rintro ⟨rfl | hmem, hactive⟩
            · rw [hfirst] at hactive
              cases hactive
            · exact ⟨hmem, hactive⟩

theorem active_ok_iff : (∃ out, file.active py now = .ok out) ↔
    ∃ out, file.active py later = .ok out := by
  unfold SuppressionFile.active
  cases file.load with
  | error e => simp
  | ok data =>
    simp only [activeOf_ok_iff]
    exact forall₂_congr fun row _ => activeEntry_ok_iff row.2

end Reading

/-! ## Pruning -/

section Pruning

variable {file : SuppressionFile} {data : Suppressions} {firing : List String}

/-- Removing an id. -/
theorem perform_remove (h : file.load = .ok data) (ackId : String) :
    ∃ left, (file.perform (.remove ackId)).load = .ok left ∧
      ∀ k, left.get? k = if ackId = k then none else data.get? k := by
  have hperform : file.perform (.remove ackId) =
      if SuppressionCall.writes data (.remove ackId) then .entries (data.erase ackId) else file := by
    unfold SuppressionFile.perform
    rw [h]
    rfl
  rw [hperform]
  cases hwrites : SuppressionCall.writes data (.remove ackId) with
  | true => exact ⟨_, rfl, fun k => Table.get?_erase data ackId k⟩
  | false =>
    refine ⟨data, h, fun k => ?_⟩
    split
    · rename_i heq
      rw [← heq]
      exact SuppressionCall.get?_of_not_writes hwrites
    · rfl

/-- The list has the id with an untimed entry, and no firing fingerprint begins with it. -/
def Prunes (firing : List String) (rows : List (String × Json)) (ackId : String) : Prop :=
  firing.any (hasPrefix ackId) = false ∧ ∃ entry, (ackId, entry) ∈ rows ∧ untimed entry = true

variable (firing) in
/-- **What is left after pruning.** -/
theorem pruneAcks_load : ∀ (rows : List (String × Json)) {file : SuppressionFile}
    {data : Suppressions}, file.load = .ok data →
    ∃ left, (pruneAcks firing rows file).load = .ok left ∧
      ∀ k row, left.get? k = some row ↔ data.get? k = some row ∧ ¬ Prunes firing rows k
  | [], file, data, h => ⟨data, h, fun k row => by simp [Prunes]⟩
  | (ackId, entry) :: rest, file, data, h => by
    unfold pruneAcks
    by_cases hprune : (untimed entry && !firing.any (hasPrefix ackId)) = true
    · rw [if_pos hprune]
      obtain ⟨hentry, hquiet⟩ := Bool.and_eq_true_iff.1 hprune
      rw [Bool.not_eq_true'] at hquiet
      obtain ⟨left, hload, hleft⟩ := perform_remove h ackId
      obtain ⟨last, hlast, hrest⟩ := pruneAcks_load rest hload
      refine ⟨last, hlast, fun k row => ?_⟩
      rw [hrest, hleft]
      by_cases hk : ackId = k
      · subst hk
        have hprunes : Prunes firing ((ackId, entry) :: rest) ackId :=
          ⟨hquiet, entry, List.mem_cons_self, hentry⟩
        simp [hprunes]
      · have hk' : k ≠ ackId := fun heq => hk heq.symm
        simp [Prunes, hk, hk']
    · rw [if_neg hprune]
      obtain ⟨last, hlast, hrest⟩ := pruneAcks_load rest h
      refine ⟨last, hlast, fun k row => ?_⟩
      rw [hrest]
      have hsame : Prunes firing ((ackId, entry) :: rest) k ↔ Prunes firing rest k := by
        refine and_congr_right fun hquiet => ⟨?_, ?_⟩
        · rintro ⟨other, hmem, hentry⟩
          rcases List.mem_cons.1 hmem with heq | hmem
          · cases heq
            rw [hentry, hquiet] at hprune
            exact absurd rfl hprune
          · exact ⟨other, hmem, hentry⟩
        · rintro ⟨other, hmem, hentry⟩
          exact ⟨other, List.mem_cons_of_mem _ hmem, hentry⟩
      rw [hsame]

end Pruning

/-! ## One cycle -/

section OneCycle

variable {py : Python} {s : AckSystem} {c : ScanCycle} {now later : ℚ}

/-- The effective set has the fingerprints that the cycle knows. -/
theorem effectiveOf_any_iff (hwf : c.WellFormed) (ackId : String) :
    (∃ h ∈ effectiveOf py s c, hasPrefix ackId (h.fingerprint py) = true) ↔
      ∃ h ∈ knownOf s c, hasPrefix ackId (h.fingerprint py) = true := by
  obtain ⟨⟨raw, doDeep, degraded⟩, failed⟩ := c
  cases degraded with
  | true =>
    constructor
    · rintro ⟨h, hmem, hprefix⟩
      rcases List.mem_append.1 hmem with hraw | hold
      · exact ⟨h, List.mem_append_left _ hraw, hprefix⟩
      · exact ⟨h, List.mem_append_right _ (List.mem_filter.1 hold).1, hprefix⟩
    · rintro ⟨h, hmem, hprefix⟩
      rcases List.mem_append.1 hmem with hraw | hold
      · exact ⟨h, List.mem_append_left _ hraw, hprefix⟩
      · have hreports : Reports py (effectiveOf py s ⟨⟨raw, doDeep, true⟩, failed⟩) h :=
          reports_degraded hold
        obtain ⟨h', hmem', hfingerprint⟩ := hreports
        exact ⟨h', hmem', hfingerprint.symm ▸ hprefix⟩
  | false =>
    cases doDeep with
    | true => simp [effectiveOf, mergeWithCarried, knownOf]
    | false =>
      have hraw : (raw.filter fun h => !h.deepRule) = raw := by
        refine List.filter_eq_self.2 fun h hmem => ?_
        rw [hwf rfl h hmem]
        rfl
      simp [effectiveOf, mergeWithCarried, knownOf, hraw]

theorem firing_any_iff {raw : List Hotspot} {ackId : String} :
    (raw.map (Hotspot.fingerprint py)).any (hasPrefix ackId) = false ↔
      ¬ ∃ h ∈ raw, hasPrefix ackId (h.fingerprint py) = true := by
  rw [← Bool.not_eq_true, List.any_eq_true]
  simp

/-- When the store cannot be read, a cycle leaves it. -/
theorem reportOf_unreadable {e : PyExc} (h : s.file.active py now = .error e) :
    reportOf py s c now later = (effectiveOf py s c, s.file) := by
  unfold reportOf applySuppressions
  rw [h]

/-- **The store after a cycle that can read it.** -/
theorem reportOf_data {active : List (String × Json)} (h : s.file.active py now = .ok active)
    (ackId : String) (row : String × Json) :
    (reportOf py s c now later).2.data.get? ackId = some row ↔
      s.file.data.get? ackId = some row ∧
        ¬ Prunes ((effectiveOf py s c).map (Hotspot.fingerprint py)) active ackId := by
  have hload : ∃ data, s.file.load = .ok data := by
    unfold SuppressionFile.active at h
    cases hfile : s.file.load with
    | error e =>
      rw [hfile] at h
      cases h
    | ok data => exact ⟨data, rfl⟩
  obtain ⟨data, hload⟩ := hload
  obtain ⟨left, hleft, hget⟩ :=
    pruneAcks_load ((effectiveOf py s c).map (Hotspot.fingerprint py)) active hload
  have hfile : (reportOf py s c now later).2.data = left := by
    unfold reportOf applySuppressions
    rw [h]
    cases active with
    | nil =>
      change s.file.data = left
      exact SuppressionFile.data_of_load hleft
    | cons first rest =>
      refine Eq.trans ?_ (SuppressionFile.data_of_load hleft)
      simp only
      split <;> rfl
  rw [hfile, hget, SuppressionFile.data_of_load hload]

theorem mem_active {active : List (String × Json)} (h : s.file.active py now = .ok active)
    {ackId : String} {entry : Json} (hentry : untimed entry = true) :
    (ackId, entry) ∈ active ↔ s.file.data.get? ackId = some (ackId, entry) := by
  unfold SuppressionFile.active at h
  cases hfile : s.file.load with
  | error e =>
    rw [hfile] at h
    cases h
  | ok data =>
    rw [hfile] at h
    rw [SuppressionFile.data_of_load hfile, mem_activeOf h, and_iff_left (activeEntry_untimed hentry)]
    exact Table.mem_rows_iff

variable (later) in
/-- An untimed acknowledgement is gone after a cycle exactly when the effective set has no
hotspot with its id. -/
theorem pruned_iff {active : List (String × Json)} (h : s.file.active py now = .ok active)
    {ackId : String} {entry : Json} (hstored : s.file.data.get? ackId = some (ackId, entry))
    (hentry : untimed entry = true) :
    (reportOf py s c now later).2.data.get? ackId = none ↔
      ¬ ∃ h ∈ effectiveOf py s c, hasPrefix ackId (h.fingerprint py) = true := by
  rw [← firing_any_iff, Option.eq_none_iff_forall_ne_some]
  simp only [ne_eq, reportOf_data h]
  constructor
  · intro hgone
    have hprunes := not_not.1 fun hkept => hgone _ ⟨hstored, hkept⟩
    exact hprunes.1
  · rintro hquiet row ⟨-, hkept⟩
    exact hkept ⟨hquiet, entry, (mem_active h hentry).2 hstored, hentry⟩

/-- A timed acknowledgement stays. -/
theorem timed_stays {ackId : String} {entry : Json}
    (hstored : s.file.data.get? ackId = some (ackId, entry)) (hentry : untimed entry = false) :
    (reportOf py s c now later).2.data.get? ackId = some (ackId, entry) := by
  cases h : s.file.active py now with
  | error e =>
    rw [reportOf_unreadable h]
    exact hstored
  | ok active =>
    rw [reportOf_data h]
    refine ⟨hstored, ?_⟩
    rintro ⟨-, other, hmem, hother⟩
    rw [mem_active h hother, hstored] at hmem
    cases hmem
    rw [hentry] at hother
    cases hother

/-- The cycle reports what no active id mutes. -/
theorem reported_unmuted {ids : List (String × Json)}
    (h : (reportOf py s c now later).2.active py (lastRead py s.file now later) = .ok ids) :
    (reportOf py s c now later).1 = unmuted py ids (effectiveOf py s c) := by
  unfold lastRead at h
  cases hactive : s.file.active py now with
  | error e =>
    rw [hactive, reportOf_unreadable hactive] at h
    obtain ⟨out, hout⟩ := active_ok_iff.1 ⟨ids, h⟩
    rw [hactive] at hout
    cases hout
  | ok active =>
    rw [hactive] at h
    cases active with
    | nil =>
      have hreport : reportOf py s c now later = (effectiveOf py s c, s.file) := by
        unfold reportOf applySuppressions
        rw [hactive]
      rw [hreport] at h ⊢
      rw [hactive] at h
      cases h
      simp [unmuted]
    | cons first rest =>
      unfold reportOf applySuppressions at h ⊢
      rw [hactive] at h ⊢
      simp only at h ⊢
      split at h
      · rename_i e hlater
        rw [hlater] at h
        cases h
      · rename_i found hlater
        rw [hlater] at h
        cases h
        rfl

/-- **A cycle prunes on recovery only, exactly when it knows the untimed acknowledgements whose
rules it does not evaluate cleanly.** -/
theorem recovered_iff (hwf : c.WellFormed) :
    Recovered py s c now later ↔ Known py s (.cycle c now later) := by
  constructor
  · rintro hrecovered ⟨active, hactive⟩ ackId entry hstored hentry rule hrule hunclean
    by_contra hunknown
    rw [← effectiveOf_any_iff hwf, ← pruned_iff later hactive hstored hentry] at hunknown
    exact hunclean (hrecovered.recovered ackId entry hstored hentry hunknown rule hrule).1
  · intro hknown
    refine ⟨fun ackId entry hstored hentry hgone rule hrule => ?_,
      fun ackId entry hstored hentry => timed_stays hstored hentry, fun ids h => reported_unmuted h⟩
    cases hactive : s.file.active py now with
    | error e =>
      rw [reportOf_unreadable hactive, hstored] at hgone
      cases hgone
    | ok active =>
      rw [pruned_iff later hactive hstored hentry, effectiveOf_any_iff hwf] at hgone
      refine ⟨?_, fun ⟨h, hmem, _, hprefix⟩ => hgone ⟨h, List.mem_append_left _ hmem, hprefix⟩⟩
      by_contra hunclean
      exact hgone (hknown ⟨active, hactive⟩ ackId entry hstored hentry rule hrule hunclean)

end OneCycle

/-- **Over every run of a fresh loop on any store: acknowledgements are pruned on recovery only,
exactly when every cycle knows those whose rules it does not evaluate cleanly.** -/
theorem prunedOnRecovery_run_iff {py : Python} {file : SuppressionFile}
    {rules : String → List String} {ls : List AckLabel} {s : AckSystem} :
    Run (Guarded (ackStep py) (Known py)) (.start file rules) ls s ↔
      Run (Doing (ackStep py) (PrunedOnRecovery py)) (.start file rules) ls s := by
  refine Run.guarded_iff_doing fun s l t hstep => ?_
  cases l with
  | cycle c now later => exact recovered_iff hstep.1
  | cut c => exact Iff.rfl
  | call call rules => exact Iff.rfl
  | restart => exact Iff.rfl

/-- A store with an untimed acknowledgement of the full disk. -/
def ackedFile : SuppressionFile :=
  .entries (Table.empty.put ("6ab2553b1fc08271", .dict [("expires_at", .null)]))

/-- After a restart the first cycle is degraded and finds nothing: the acknowledgement is gone. -/
theorem not_prunedOnRecovery_restart :
    let start := AckSystem.start ackedFile fun _ => ["disk_fill"]
    let cycle := AckLabel.cycle ⟨⟨[], true, true⟩, []⟩ 0 0
    ackStep carryPython start cycle (start.next carryPython cycle) ∧
      ¬ PrunedOnRecovery carryPython start cycle (start.next carryPython cycle) := by
  intro start cycle
  refine ⟨⟨fun h => ?_, rfl⟩, fun h => ?_⟩
  · cases h
  · have hgone := (h.recovered "6ab2553b1fc08271" (.dict [("expires_at", .null)]) rfl rfl rfl
      "disk_fill" List.mem_cons_self).1
    cases hgone.1

end NocAgent.Proactive
