import NocAgent.Proactive.AckPruning
import NocAgent.Proactive.Ledger
import NocAgent.Python.Words

/-!
# Who may mute what

Three writers put ids into the suppression store, and the loop drops every hotspot whose
fingerprint begins with a stored id.

* `ProactiveAckRequest.call`, `discordAck`, `autoSnooze` — the writers.
* `MuteSystem` — the store over their calls and over the loop's cycles; `supplied` keeps the ids
  that operators asked for and those that the auto-snooze stored.
* `Selective` — every stored id is nonempty, only such an id that somebody supplied drops a hotspot,
  and none drops them all.
* `selective_run_iff` — over every run this holds in every state exactly when no accepted request of
  the control route has a blank fingerprint.
-/

set_option autoImplicit false

namespace NocAgent.Proactive

open Keyed Lts

/-! ## The writers -/

/-- The body of an ack over HTTP. -/
structure ProactiveAckRequest where
  fingerprint : String
  reason : String := ""
  issue : String := ""
  operator : String := "web"
  ttlHours : Option PyFloat := none

/-- `x * 3600`. -/
def PyFloat.hours : PyFloat → PyFloat
  | .fin q => .fin (q * 3600)
  | x => x

/-- `control_proactive_ack`, with the clock readings of the store. -/
def ProactiveAckRequest.call (request : ProactiveAckRequest) (createdAt : String)
    (expiresAt : PyFloat) : SuppressionCall :=
  .add {
    fingerprint := strip request.fingerprint
    reason := request.reason
    issue := request.issue
    operator := request.operator
    ttlSeconds := request.ttlHours.bind fun hours =>
      if (Json.float hours).truthy then some (PyFloat.hours hours) else none } createdAt expiresAt

/-- `ack_hotspot`; `none` is the answer that asks for an id. -/
def discordAck (ackId reason operator : String) (hours : Int) (createdAt : String)
    (expiresAt : PyFloat) : Option SuppressionCall :=
  if strip ackId = "" then none
  else some (.add {
    fingerprint := strip ackId
    reason := reason
    operator := operator
    ttlSeconds := if 0 < hours then some (.fin (hours * 3600)) else none } createdAt expiresAt)

/-- The settings of the auto-snooze. -/
structure SnoozeSettings where
  autoSnoozeEnabled : Bool := false
  autoSnoozeTtlS : Int := 86400
  autoSnoozeMaxPerCycle : Int := 3

/-- What the auto-snooze reads from outside: clocks, and whether a write of the store raises. -/
structure SnoozeDraws where
  now : ℚ
  createdAt : Nat → String
  expiresAt : Nat → PyFloat
  failed : Nat → Bool := fun _ => false

/-- `_is_auto_snoozable`. -/
def isAutoSnoozable (h : Hotspot) : Bool := h.severity == .low && !h.warrantsChange

section Writers

variable (py : Python) (settings : SnoozeSettings) (draws : SnoozeDraws)

def snoozeCall (h : Hotspot) (i : Nat) : SuppressionCall :=
  .add {
    fingerprint := h.fingerprint py
    key := h.key
    reason := "auto-snoozed (non-urgent " ++ Severity.text h.severity ++ "): " ++ h.title
    operator := "agent"
    ttlSeconds := some (.fin settings.autoSnoozeTtlS) } (draws.createdAt i) (draws.expiresAt i)

/-- The loop over the hotspots: those snoozed so far, the active ids, and the store. -/
def snoozeEach : List (Hotspot × Nat) → List Hotspot → List String → SuppressionFile →
    List Hotspot × SuppressionFile
  | [], snoozed, _, file => (snoozed, file)
  | (h, i) :: rest, snoozed, activeIds, file =>
    if max 1 settings.autoSnoozeMaxPerCycle ≤ snoozed.length then (snoozed, file)
    else if !isAutoSnoozable h then snoozeEach rest snoozed activeIds file
    else if activeIds.any fun a => hasPrefix a (h.fingerprint py) || hasPrefix (h.fingerprint py) a
      then snoozeEach rest snoozed activeIds file
    else
      match file.load, draws.failed i with
      | .ok _, false => snoozeEach rest (snoozed ++ [h]) (activeIds ++ [h.fingerprint py])
          (file.perform (snoozeCall py settings draws h i))
      -- the exception is logged
      | _, _ => snoozeEach rest snoozed activeIds file

/-- The hotspots that `_auto_snooze` snoozes, and the store after it. -/
def snoozedNow (raw : List Hotspot) (file : SuppressionFile) : List Hotspot × SuppressionFile :=
  if !settings.autoSnoozeEnabled then ([], file)
  else
    let activeIds := match file.active py draws.now with
      | .ok active => active.map Prod.fst
      | .error _ => []
    snoozeEach py settings draws raw.zipIdx [] activeIds file

/-- `_auto_snooze`. -/
def autoSnooze (raw : List Hotspot) (file : SuppressionFile) : List String × SuppressionFile :=
  let (snoozed, file) := snoozedNow py settings draws raw file
  (snoozed.map Hotspot.key, file)

end Writers

/-! ## Runs -/

/-- The store of suppressions, and the ids that were asked for. -/
structure MuteSystem where
  file : SuppressionFile
  /-- the ids that operators asked for and those that the auto-snooze stored -/
  supplied : List String

inductive MuteLabel where
  /-- an accepted request of the control route -/
  | httpAck (request : ProactiveAckRequest) (createdAt : String) (expiresAt : PyFloat)
  | httpUnack (fingerprint : String)
  | discordAck (ackId reason operator : String) (hours : Int) (createdAt : String)
      (expiresAt : PyFloat)
  | discordUnack (ackId : String)
  | snooze (settings : SnoozeSettings) (draws : SnoozeDraws) (raw : List Hotspot)
  /-- the loop applies the store and prunes it -/
  | apply (raw : List Hotspot) (now later : ℚ)

namespace MuteSystem

/-- No store yet. -/
def fresh : MuteSystem := ⟨.nothing, []⟩

def perform (s : MuteSystem) (call : SuppressionCall) : MuteSystem :=
  { s with file := s.file.perform call }

/-- A call that stores the id it is given. -/
def supply (s : MuteSystem) (call : SuppressionCall) : MuteSystem :=
  ⟨s.file.perform call, s.supplied ++ [call.fingerprint]⟩

def next (py : Python) (s : MuteSystem) : MuteLabel → MuteSystem
  | .httpAck request createdAt expiresAt => s.supply (request.call createdAt expiresAt)
  | .httpUnack fingerprint => s.perform (.remove (strip fingerprint))
  | .discordAck ackId reason operator hours createdAt expiresAt =>
    match Proactive.discordAck ackId reason operator hours createdAt expiresAt with
    | none => s
    | some call => s.supply call
  | .discordUnack ackId => s.perform (.remove (strip ackId))
  | .snooze settings draws raw => {
      file := (autoSnooze py settings draws raw s.file).2
      supplied := s.supplied ++
        (snoozedNow py settings draws raw s.file).1.map (Hotspot.fingerprint py) }
  | .apply raw now later => { s with file := (applySuppressions py now later raw s.file).2 }

end MuteSystem

def muteStep (py : Python) (s : MuteSystem) (l : MuteLabel) (t : MuteSystem) : Prop :=
  t = s.next py l

/-- The request of the control route has an id. -/
def MuteLabel.NotBlank : MuteLabel → Prop
  | .httpAck request _ _ => strip request.fingerprint ≠ ""
  | _ => True

/-- The id is stored. -/
def SuppressionFile.Stores (file : SuppressionFile) (ackId : String) : Prop :=
  ∃ row, file.data.get? ackId = some row

/-- **Mutes are selective.** -/
structure Selective (py : Python) (s : MuteSystem) : Prop where
  nonempty : ∀ ackId, s.file.Stores ackId → ackId ≠ ""
  supplied : ∀ now later raw h, h ∈ raw → h ∉ (applySuppressions py now later raw s.file).1 →
    ∃ ackId ∈ s.supplied, ackId ≠ "" ∧ hasPrefix ackId (h.fingerprint py) = true
  spares : ∀ ackId, s.file.Stores ackId → ∃ h : Hotspot, hasPrefix ackId (h.fingerprint py) = false

/-- Digests are texts, and the fingerprints of some two hotspots begin differently. -/
structure DigestLaws (py : Python) : Prop where
  nonempty : ∀ text, py.sha256 text ≠ ""
  varied : ∃ h k : Hotspot, (h.fingerprint py).toList.head? ≠ (k.fingerprint py).toList.head?

/-! ## What the calls store -/

section Storing

variable {py : Python} {file : SuppressionFile} {data : Suppressions} {ackId : String}

theorem stores_iff (h : file.load = .ok data) :
    file.Stores ackId ↔ ∃ row, data.get? ackId = some row := by
  unfold SuppressionFile.Stores
  rw [SuppressionFile.data_of_load h]

/-- The store can be read, and its ids have the property. -/
structure SuppressionFile.Holds (file : SuppressionFile) (Q : String → Prop) : Prop where
  readable : ∃ data, file.load = .ok data
  ids : ∀ ackId, file.Stores ackId → Q ackId

/-- A call that is carried out on a store that can be read. -/
theorem perform_load (h : file.load = .ok data) (call : SuppressionCall) :
    ∃ left, (file.perform call).load = .ok left ∧ ∀ k, left.get? k =
      if call.fingerprint = k then call.result else data.get? k := by
  have hperform : file.perform call =
      if call.writes data then .entries (call.update data) else file := by
    unfold SuppressionFile.perform
    rw [h]
  rw [hperform]
  cases hwrites : call.writes data with
  | true => exact ⟨_, rfl, fun k => SuppressionCall.get?_update call data k⟩
  | false =>
    refine ⟨data, h, fun k => ?_⟩
    split
    · rename_i heq
      rw [← heq]
      exact SuppressionCall.get?_of_not_writes hwrites
    · rfl

/-- What is stored after a call: the id of an `add`, and the others as before. -/
theorem stores_perform (h : file.load = .ok data) (call : SuppressionCall) :
    (file.perform call).Stores ackId ↔
      if call.fingerprint = ackId then call.result.isSome = true else file.Stores ackId := by
  obtain ⟨left, hleft, hget⟩ := perform_load h call
  rw [stores_iff hleft, stores_iff h, hget]
  split
  · exact Option.isSome_iff_exists.symm
  · rfl

theorem SuppressionFile.Holds.perform {Q : String → Prop} (h : file.Holds Q)
    {call : SuppressionCall} (hids : call.result.isSome = true → Q call.fingerprint) :
    (file.perform call).Holds Q := by
  obtain ⟨data, hload⟩ := h.readable
  refine ⟨?_, fun ackId hstored => ?_⟩
  · obtain ⟨left, hleft, -⟩ := perform_load hload call
    exact ⟨left, hleft⟩
  · rw [stores_perform hload] at hstored
    split at hstored
    · rename_i heq
      exact heq ▸ hids hstored
    · exact h.ids ackId hstored

theorem SuppressionFile.Holds.mono {Q R : String → Prop} (h : file.Holds Q)
    (hsub : ∀ ackId, Q ackId → R ackId) : file.Holds R :=
  ⟨h.readable, fun ackId hstored => hsub ackId (h.ids ackId hstored)⟩

/-- What a cycle leaves in the store was there before. -/
theorem SuppressionFile.Holds.applySuppressions {Q : String → Prop} (h : file.Holds Q)
    (raw : List Hotspot) (now later : ℚ) : (applySuppressions py now later raw file).2.Holds Q := by
  unfold Proactive.applySuppressions
  split
  · exact h
  · exact h
  · rename_i active _ _
    obtain ⟨data, hload⟩ := h.readable
    obtain ⟨left, hleft, hget⟩ := pruneAcks_load (raw.map (Hotspot.fingerprint py)) active hload
    have hpruned : (pruneAcks (raw.map (Hotspot.fingerprint py)) active file).Holds Q := by
      refine ⟨⟨left, hleft⟩, fun k hk => h.ids k ?_⟩
      obtain ⟨row, hrow⟩ := (stores_iff hleft).1 hk
      exact (stores_iff hload).2 ⟨row, ((hget k row).1 hrow).1⟩
    dsimp only
    split
    · exact hpruned
    · exact hpruned

/-- An active id is stored. -/
theorem stores_of_active {now : ℚ} {active : List (String × Json)}
    (h : file.active py now = .ok active) {row : String × Json} (hrow : row ∈ active) :
    file.Stores row.1 := by
  unfold SuppressionFile.active at h
  cases hload : file.load with
  | error e =>
    rw [hload] at h
    cases h
  | ok data =>
    rw [hload] at h
    refine (stores_iff hload).2 ⟨row, ?_⟩
    exact Table.mem_rows_iff.1 ((mem_activeOf h row).1 hrow).1

/-- **A hotspot is dropped only for a stored id that its fingerprint begins with.** -/
theorem stores_of_dropped {raw : List Hotspot} {now later : ℚ} {h : Hotspot} (hmem : h ∈ raw)
    (hdropped : h ∉ (applySuppressions py now later raw file).1) :
    ∃ ackId, file.Stores ackId ∧ hasPrefix ackId (h.fingerprint py) = true := by
  unfold applySuppressions at hdropped
  split at hdropped
  · exact absurd hmem hdropped
  · exact absurd hmem hdropped
  · rename_i active _ hactive
    dsimp only at hdropped
    split at hdropped
    · exact absurd hmem hdropped
    · rename_i ids hids
      have hload : ∃ data, file.load = .ok data := by
        unfold SuppressionFile.active at hactive
        cases hload : file.load with
        | error e =>
          rw [hload] at hactive
          cases hactive
        | ok data => exact ⟨data, rfl⟩
      obtain ⟨data, hload⟩ := hload
      obtain ⟨left, hleft, hget⟩ := pruneAcks_load (raw.map (Hotspot.fingerprint py)) active hload
      have hmuted : (ids.any fun row => hasPrefix row.1 (h.fingerprint py)) = true := by
        by_contra hquiet
        refine hdropped (List.mem_filter.2 ⟨hmem, ?_⟩)
        rw [Bool.not_eq_true] at hquiet
        rw [hquiet]
        rfl
      obtain ⟨row, hrow, hbegins⟩ := List.any_eq_true.1 hmuted
      obtain ⟨found, hfound⟩ := (stores_iff hleft).1 (stores_of_active hids hrow)
      exact ⟨row.1, (stores_iff hload).2 ⟨found, ((hget row.1 found).1 hfound).1⟩, hbegins⟩

end Storing

section Snoozing

variable {py : Python} {settings : SnoozeSettings} {draws : SnoozeDraws} {Q : String → Prop}

/-- What is snoozed stays snoozed. -/
theorem snoozed_subset : ∀ (raw : List (Hotspot × Nat)) (snoozed : List Hotspot)
    (activeIds : List String) (file : SuppressionFile),
    snoozed ⊆ (snoozeEach py settings draws raw snoozed activeIds file).1
  | [], _, _, _ => List.Subset.refl _
  | (h, i) :: rest, snoozed, activeIds, file => by
    unfold snoozeEach
    split
    · exact List.Subset.refl _
    split
    · exact snoozed_subset rest _ _ _
    split
    · exact snoozed_subset rest _ _ _
    split
    · exact List.Subset.trans (List.subset_append_left _ _) (snoozed_subset rest _ _ _)
    · exact snoozed_subset rest _ _ _

/-- The auto-snooze stores the fingerprints of the hotspots that it snoozes. -/
theorem SuppressionFile.Holds.snoozeEach : ∀ (raw : List (Hotspot × Nat))
    (snoozed : List Hotspot) (activeIds : List String) (file : SuppressionFile), file.Holds Q →
    (∀ h ∈ (snoozeEach py settings draws raw snoozed activeIds file).1, Q (h.fingerprint py)) →
    (snoozeEach py settings draws raw snoozed activeIds file).2.Holds Q
  | [], _, _, _, hfile, _ => hfile
  | (h, i) :: rest, snoozed, activeIds, file, hfile, hids => by
    unfold Proactive.snoozeEach at hids ⊢
    split
    · exact hfile
    rename_i hroom
    rw [if_neg hroom] at hids
    split
    · rename_i hurgent
      rw [if_pos hurgent] at hids
      exact SuppressionFile.Holds.snoozeEach rest _ _ _ hfile hids
    rename_i hsnoozable
    rw [if_neg hsnoozable] at hids
    split
    · rename_i hactive
      rw [if_pos hactive] at hids
      exact SuppressionFile.Holds.snoozeEach rest _ _ _ hfile hids
    rename_i hinactive
    rw [if_neg hinactive] at hids
    cases hload : file.load with
    | error e =>
      rw [hload] at hids
      exact SuppressionFile.Holds.snoozeEach rest _ _ _ hfile hids
    | ok data =>
      rw [hload] at hids
      cases hfailed : draws.failed i with
      | true =>
        rw [hfailed] at hids
        exact SuppressionFile.Holds.snoozeEach rest _ _ _ hfile hids
      | false =>
        rw [hfailed] at hids
        refine SuppressionFile.Holds.snoozeEach rest _ _ _ (hfile.perform fun _ => ?_) hids
        -- the hotspot is among those snoozed in the end
        exact hids h (snoozed_subset rest _ _ _ (List.mem_append_right _ List.mem_cons_self))

theorem SuppressionFile.Holds.autoSnooze {file : SuppressionFile} {raw : List Hotspot}
    (h : file.Holds Q)
    (hids : ∀ h ∈ (snoozedNow py settings draws raw file).1, Q (h.fingerprint py)) :
    (autoSnooze py settings draws raw file).2.Holds Q := by
  change (snoozedNow py settings draws raw file).2.Holds Q
  unfold snoozedNow at hids ⊢
  split
  · exact h
  · rename_i henabled
    rw [if_neg henabled] at hids
    exact SuppressionFile.Holds.snoozeEach _ _ _ _ h hids

end Snoozing

/-! ## One step -/

section Steps

variable {py : Python} {s t : MuteSystem} {l : MuteLabel}

/-- The store can be read, and somebody asked for every id in it. -/
def MuteSystem.Supplied (s : MuteSystem) : Prop := s.file.Holds fun ackId => ackId ∈ s.supplied

theorem fingerprint_ne_empty (laws : DigestLaws py) (h : Hotspot) : h.fingerprint py ≠ "" :=
  takeChars_nonempty (by decide) (laws.nonempty _)

/-- A nonempty id begins at most one of two fingerprints that begin differently. -/
theorem DigestLaws.spares (laws : DigestLaws py) {ackId : String} (hne : ackId ≠ "") :
    ∃ h : Hotspot, hasPrefix ackId (h.fingerprint py) = false := by
  obtain ⟨h, k, hdiffer⟩ := laws.varied
  have hhead : ∀ {text : String}, hasPrefix ackId text = true →
      text.toList.head? = ackId.toList.head? := by
    intro text hbegins
    obtain ⟨rest, hrest⟩ := List.isPrefixOf_iff_prefix.1 hbegins
    rw [← hrest, List.head?_append_of_ne_nil _ fun hnil => hne (String.toList_eq_nil_iff.1 hnil)]
  by_contra hall
  rw [not_exists] at hall
  have hbegins := fun h => Bool.not_eq_false _ ▸ hall h
  exact hdiffer ((hhead (hbegins h)).trans (hhead (hbegins k)).symm)

/-- **Where every stored id was supplied, mutes are selective exactly when every stored id is
nonempty.** -/
theorem selective_iff (laws : DigestLaws py) (hs : s.Supplied) :
    Selective py s ↔ s.file.Holds fun ackId => ackId ≠ "" := by
  refine ⟨fun h => ⟨hs.readable, h.nonempty⟩, fun hne => ⟨hne.ids, ?_, fun ackId hstored => ?_⟩⟩
  · intro now later raw h hmem hdropped
    obtain ⟨ackId, hstored, hbegins⟩ := stores_of_dropped hmem hdropped
    exact ⟨ackId, hs.ids ackId hstored, hne.ids ackId hstored, hbegins⟩
  · exact laws.spares (hne.ids ackId hstored)

theorem Supplied.supply (hs : s.Supplied) (call : SuppressionCall) : (s.supply call).Supplied := by
  refine (hs.mono fun ackId hmem => List.mem_append_left _ hmem).perform fun _ => ?_
  exact List.mem_append_right _ (List.mem_singleton_self _)

/-- **Every step keeps the store readable and its ids supplied.** -/
theorem muteStep_supplied (hs : s.Supplied) (h : muteStep py s l t) : t.Supplied := by
  obtain rfl := h
  cases l with
  | httpAck request createdAt expiresAt => exact Supplied.supply hs _
  | httpUnack fingerprint => exact hs.perform nofun
  | discordUnack ackId => exact hs.perform nofun
  | discordAck ackId reason operator hours createdAt expiresAt =>
    unfold MuteSystem.next
    dsimp only
    split
    · exact hs
    · exact Supplied.supply hs _
  | snooze settings draws raw =>
    refine (hs.mono fun ackId hmem => List.mem_append_left _ hmem).autoSnooze fun h hmem => ?_
    exact List.mem_append_right _ (List.mem_map_of_mem hmem)
  | apply raw now later => exact hs.applySuppressions raw now later

/-- **A step keeps the ids nonempty exactly when it is no accepted request with a blank
fingerprint.** -/
theorem muteStep_nonempty_iff (laws : DigestLaws py)
    (hs : s.file.Holds fun ackId => ackId ≠ "") (h : muteStep py s l t) :
    (t.file.Holds fun ackId => ackId ≠ "") ↔ l.NotBlank := by
  obtain rfl := h
  cases l with
  | httpAck request createdAt expiresAt =>
    refine ⟨fun h => h.ids _ ?_, fun hne => hs.perform fun _ => hne⟩
    obtain ⟨data, hload⟩ := hs.readable
    have hstored : (s.file.perform (request.call createdAt expiresAt)).Stores
        (strip request.fingerprint) ↔ if _ then _ else _ := stores_perform hload _
    exact (hstored.trans (iff_of_eq (if_pos rfl))).2 rfl
  | httpUnack fingerprint => exact iff_of_true (hs.perform nofun) trivial
  | discordUnack ackId => exact iff_of_true (hs.perform nofun) trivial
  | discordAck ackId reason operator hours createdAt expiresAt =>
    refine iff_of_true ?_ trivial
    unfold MuteSystem.next Proactive.discordAck
    dsimp only
    by_cases hblank : strip ackId = ""
    · rw [if_pos hblank]
      exact hs
    · rw [if_neg hblank]
      exact hs.perform fun _ => hblank
  | snooze settings draws raw =>
    exact iff_of_true (hs.autoSnooze fun h _ => fingerprint_ne_empty laws h) trivial
  | apply raw now later => exact iff_of_true (hs.applySuppressions raw now later) trivial

end Steps

/-- **Over every run from no store, mutes are selective in every state exactly when no accepted
request of the control route has a blank fingerprint.** -/
theorem selective_run_iff {py : Python} (laws : DigestLaws py) {ls : List MuteLabel}
    {s : MuteSystem} :
    Run (Guarded (muteStep py) fun _ l => l.NotBlank) .fresh ls s ↔
      Run (Upheld (muteStep py) (Selective py)) .fresh ls s := by
  have hfresh : ∀ Q : String → Prop, MuteSystem.fresh.file.Holds Q := by
    refine fun Q => ⟨⟨_, rfl⟩, ?_⟩
    rintro ackId ⟨row, hrow⟩
    cases hrow
  refine Run.guarded_iff_upheld (J := MuteSystem.Supplied) ?_ ?_ (hfresh _)
    ((selective_iff laws (hfresh _)).2 (hfresh _))
  · exact fun s l t hs hstep => muteStep_supplied hs hstep
  · intro s l t hs hselective hstep
    rw [selective_iff laws hs] at hselective
    rw [selective_iff laws (muteStep_supplied hs hstep)]
    exact muteStep_nonempty_iff laws hselective hstep

/-- The digests of two disks. -/
def mutePython : Python := { asciiPython with
  sha256 := fun text =>
    if text = "disk_fill|web1:/" then
      "6ab2553b1fc082713a9240c1e76cd3e0320abc6fa67f08970f3952e05f4a394a"
    else "1353f701091d29ec1f302b086d8f660fe54f551d3d27d9afe938eb0391875172" }

theorem mutePython_laws : DigestLaws mutePython where
  nonempty := by
    intro text
    unfold mutePython
    dsimp only
    split <;> decide
  varied := ⟨diskFull, { diskFull with key := "web2:/" }, by decide⟩

def ackLabel (fingerprint : String) : MuteLabel :=
  .httpAck { fingerprint := fingerprint } "2026-01-01T00:00:00Z" (.fin 0)

theorem selective_run_disk :
    Run (Upheld (muteStep mutePython) (Selective mutePython)) .fresh [ackLabel " 6ab2553b "]
      (MuteSystem.fresh.next mutePython (ackLabel " 6ab2553b ")) := by
  have hrun : Run (Guarded (muteStep mutePython) fun _ l => l.NotBlank) .fresh
      [ackLabel " 6ab2553b "] (MuteSystem.fresh.next mutePython (ackLabel " 6ab2553b ")) :=
    Run.single ⟨show strip " 6ab2553b " ≠ "" by decide, rfl⟩
  exact (selective_run_iff mutePython_laws).1 hrun

/-- A request whose fingerprint is a space mutes every hotspot. -/
theorem not_selective_blank :
    ¬ ∀ (ls : List MuteLabel) (s : MuteSystem), Run (muteStep mutePython) .fresh ls s →
      Selective mutePython s := by
  intro h
  have hselective := h [ackLabel " "] _ (Run.single rfl)
  exact hselective.nonempty "" ⟨_, rfl⟩ rfl

end NocAgent.Proactive
