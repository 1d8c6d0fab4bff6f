import NocAgent.Lib.Lts
import NocAgent.Lib.Table
import NocAgent.Proactive.Hotspot

/-!
# The suppression store

Operators and the loop mute hotspots in one file.  Every call reads the whole file, writes the
changed copy into a temporary file and renames it over the first.

* `SuppressionFile`, `active` — what a read of the file gives.
* `StateDir` — the two files of the state directory, by name and by inode.
* `SuppressionSystem` — calls of `add` and `remove` that take their steps in any order.
* `Alone` — a call that is going to write reads the file while no other call is between its read
  and its rename.
* `Applied` — the entries are those of the start, with the calls that returned carried out.
* `Serial` — what such calls keep: at most one is busy, and its copy is up to date.
* `applied_run` — in every state of a run in which every writing call is alone no update is lost.
-/

set_option autoImplicit false

namespace NocAgent.Proactive

open Keyed Lts

/-- The entries under their fingerprints. -/
abbrev Suppressions := Table (Prod.fst : String × Json → String)

inductive SuppressionFile where
  /-- there is no file, it cannot be read, or it holds no JSON object -/
  | nothing
  /-- reading it raises what `_load` does not catch: it is no UTF-8 text -/
  | undecodable
  | entries (data : Suppressions)

/-- `_load`. -/
def SuppressionFile.load : SuppressionFile → Except PyExc Suppressions
  | .nothing => .ok Table.empty
  | .undecodable => .error .valueError
  | .entries data => .ok data

/-- The entries of a file that can be read. -/
def SuppressionFile.data (file : SuppressionFile) : Suppressions :=
  match file.load with
  | .ok data => data
  | .error _ => Table.empty

theorem SuppressionFile.data_of_load {file : SuppressionFile} {data : Suppressions}
    (h : file.load = .ok data) : file.data = data := by
  unfold SuppressionFile.data
  rw [h]

/-- The arguments of `add`. -/
structure SuppressionArgs where
  fingerprint : String
  key : String := ""
  reason : String := ""
  issue : String := ""
  operator : String := ""
  ttlSeconds : Option PyFloat := none

/-- The entry; `expiresAt` is `time.time() + ttl_seconds`. -/
def SuppressionArgs.entry (args : SuppressionArgs) (createdAt : String) (expiresAt : PyFloat) :
    Json :=
  .dict [("fingerprint", .str args.fingerprint), ("key", .str args.key),
    ("reason", .str args.reason), ("issue", .str args.issue), ("operator", .str args.operator),
    ("created_at", .str createdAt),
    ("expires_at", if ((args.ttlSeconds.map Json.float).getD .null).truthy then .float expiresAt
      else .null)]

/-! ## Calls -/

/-- A call of the store, with the clock readings of an `add`. -/
inductive SuppressionCall where
  | add (args : SuppressionArgs) (createdAt : String) (expiresAt : PyFloat)
  | remove (fingerprint : String)

namespace SuppressionCall

def fingerprint : SuppressionCall → String
  | add args _ _ => args.fingerprint
  | remove fingerprint => fingerprint

/-- What the call leaves under its fingerprint. -/
def result : SuppressionCall → Option (String × Json)
  | add args createdAt expiresAt => some (args.fingerprint, args.entry createdAt expiresAt)
  | remove _ => none

/-- The copy that is written back. -/
def update (data : Suppressions) : SuppressionCall → Suppressions
  | add args createdAt expiresAt => data.put (args.fingerprint, args.entry createdAt expiresAt)
  | remove fingerprint => data.erase fingerprint

/-- `remove` writes only if the fingerprint is there. -/
def writes (data : Suppressions) : SuppressionCall → Bool
  | add _ _ _ => true
  | remove fingerprint => (data.get? fingerprint).isSome

theorem get?_update (call : SuppressionCall) (data : Suppressions) (fingerprint : String) :
    (call.update data).get? fingerprint =
      if call.fingerprint = fingerprint then call.result else data.get? fingerprint := by
  cases call with
  | add args createdAt expiresAt => exact Table.get?_put _ _ _
  | remove removed => exact Table.get?_erase _ _ _

/-- A call that writes nothing finds its work done. -/
theorem get?_of_not_writes {call : SuppressionCall} {data : Suppressions}
    (h : call.writes data = false) : data.get? call.fingerprint = call.result := by
  cases call with
  | add args createdAt expiresAt => cases h
  | remove fingerprint => exact Option.isNone_iff_eq_none.1 (Option.isSome_eq_false_iff.1 h)

end SuppressionCall

/-! ## The state directory -/

/-- `suppressions.json` and `suppressions.tmp`. -/
structure StateDir where
  /-- what an inode holds; `none` while it is empty -/
  content : Nat → Option SuppressionFile
  store : Option Nat
  temporary : Option Nat
  /-- every inode in use is below -/
  next : Nat

namespace StateDir

def read (dir : StateDir) : SuppressionFile :=
  match dir.store with
  | none => .nothing
  | some inode => (dir.content inode).getD .nothing

/-- The entries a read finds. -/
def entries (dir : StateDir) : Suppressions := dir.read.data

/-- `open(tmp, "w")`: the file is emptied, or created. -/
def openTemporary (dir : StateDir) : Nat × StateDir :=
  match dir.temporary with
  | some inode => (inode, { dir with content := Function.update dir.content inode none })
  | none => (dir.next, { dir with
      content := Function.update dir.content dir.next none
      temporary := some dir.next
      next := dir.next + 1 })

/-- Write into an open file; what is left when another call has written into it is `mixed`. -/
def write (dir : StateDir) (inode : Nat) (data : Suppressions) (mixed : SuppressionFile) :
    StateDir :=
  { dir with content := Function.update dir.content inode (some (match dir.content inode with
      | none => .entries data
      | some _ => mixed)) }

/-- `tmp.replace(path)`; without the temporary file it raises. -/
def rename (dir : StateDir) : Except PyExc StateDir :=
  match dir.temporary with
  | none => .error (.named "FileNotFoundError" "suppressions.tmp")
  | some inode => .ok { dir with store := some inode, temporary := none }

/-- The names stand for different inodes that are in use. -/
structure Sound (dir : StateDir) : Prop where
  store : ∀ inode, dir.store = some inode → inode < dir.next
  temporary : ∀ inode, dir.temporary = some inode → inode < dir.next
  distinct : ∀ inode, dir.store = some inode → dir.temporary ≠ some inode

end StateDir

/-! ## Calls that overlap -/

/-- Where a call is. -/
inductive CallPhase where
  | idle
  | loaded (data : Suppressions)
  | opened (inode : Nat) (data : Suppressions)
  | written
  | returned
  | raised (e : PyExc)

/-- Between its read and its rename. -/
def CallPhase.busy : CallPhase → Bool
  | .loaded _ | .opened _ _ | .written => true
  | .idle | .returned | .raised _ => false

/-- The files of the store, and the calls under way. -/
structure SuppressionSystem where
  dir : StateDir
  phase : Nat → CallPhase

/-- A call takes its next step. -/
structure SuppressionTurn where
  call : Nat
  mixed : SuppressionFile := .nothing

section System

variable (calls : List SuppressionCall)

/-- The step of a call, and the directory afterwards. -/
def stepCall (dir : StateDir) (call : SuppressionCall) (mixed : SuppressionFile) :
    CallPhase → CallPhase × StateDir
  | .idle =>
    match dir.read.load with
    | .error e => (.raised e, dir)
    | .ok data => (if call.writes data then .loaded (call.update data) else .returned, dir)
  | .loaded data => (.opened dir.openTemporary.1 data, dir.openTemporary.2)
  | .opened inode data => (.written, dir.write inode data mixed)
  | .written =>
    match dir.rename with
    | .error e => (.raised e, dir)
    | .ok dir => (.returned, dir)
  | phase => (phase, dir)

def SuppressionSystem.next (s : SuppressionSystem) (l : SuppressionTurn) : SuppressionSystem :=
  match calls[l.call]? with
  | none => s
  | some call => {
      dir := (stepCall s.dir call l.mixed (s.phase l.call)).2
      phase := Function.update s.phase l.call (stepCall s.dir call l.mixed (s.phase l.call)).1 }

def suppressionStep (s : SuppressionSystem) (l : SuppressionTurn) (t : SuppressionSystem) : Prop :=
  l.call < calls.length ∧ t = s.next calls l

/-- The calls have not begun. -/
def SuppressionSystem.start (dir : StateDir) : SuppressionSystem := ⟨dir, fun _ => .idle⟩

/-- A call that is going to write reads the file while no other call is between its read and its
rename. -/
def Alone (s : SuppressionSystem) (l : SuppressionTurn) : Prop :=
  s.phase l.call = .idle → ∀ call ∈ calls[l.call]?, ∀ data, s.dir.read.load = .ok data →
    call.writes data = true → ∀ j < calls.length, j ≠ l.call → (s.phase j).busy = false

/-- **The entries are those of the start, with the calls that returned carried out.** -/
structure Applied (start : StateDir) (s : SuppressionSystem) : Prop where
  returned : ∀ i call, calls[i]? = some call → s.phase i = .returned →
    s.dir.entries.get? call.fingerprint = call.result
  others : ∀ fingerprint, (∀ i call, calls[i]? = some call → s.phase i = .returned →
    call.fingerprint ≠ fingerprint) → s.dir.entries.get? fingerprint = start.entries.get? fingerprint

end System

/-! ## One step -/

namespace StateDir

variable {dir : StateDir} {inode : Nat} {data : Suppressions} {mixed : SuppressionFile}

theorem openTemporary_some (h : dir.temporary = some inode) : dir.openTemporary =
    (inode, { dir with content := Function.update dir.content inode none }) := by
  unfold StateDir.openTemporary
  split
  · rename_i found hfound
    rw [h] at hfound
    cases hfound
    rfl
  · rename_i hnone
    rw [h] at hnone
    cases hnone

theorem openTemporary_none (h : dir.temporary = none) : dir.openTemporary =
    (dir.next, { dir with
      content := Function.update dir.content dir.next none
      temporary := some dir.next
      next := dir.next + 1 }) := by
  unfold StateDir.openTemporary
  split
  · rename_i found hfound
    rw [h] at hfound
    cases hfound
  · rfl

theorem Sound.openTemporary (h : dir.Sound) : dir.openTemporary.2.Sound := by
  cases htmp : dir.temporary with
  | some inode =>
    rw [openTemporary_some htmp]
    exact ⟨h.store, h.temporary, h.distinct⟩
  | none =>
    rw [openTemporary_none htmp]
    refine ⟨fun inode hi => ?_, fun inode hi => ?_, fun inode hi heq => ?_⟩
    · exact Nat.lt_succ_of_lt (h.store inode hi)
    · cases hi
      exact Nat.lt_succ_self _
    · cases heq
      exact absurd (h.store _ hi) (Nat.lt_irrefl _)

theorem Sound.write (h : dir.Sound) : (dir.write inode data mixed).Sound :=
  ⟨h.store, h.temporary, h.distinct⟩

theorem temporary_openTemporary (dir : StateDir) :
    dir.openTemporary.2.temporary = some dir.openTemporary.1 ∧
      dir.openTemporary.2.content dir.openTemporary.1 = none := by
  cases htmp : dir.temporary with
  | some inode =>
    rw [openTemporary_some htmp]
    exact ⟨htmp, Function.update_self _ _ _⟩
  | none =>
    rw [openTemporary_none htmp]
    exact ⟨rfl, Function.update_self _ _ _⟩

theorem read_eq {dir' : StateDir} (hstore : dir'.store = dir.store)
    (hcontent : ∀ inode, dir.store = some inode → dir'.content inode = dir.content inode) :
    dir'.read = dir.read := by
  unfold StateDir.read
  rw [hstore]
  cases hs : dir.store with
  | none => rfl
  | some inode => simp only [hcontent inode hs]

/-- Opening the temporary file leaves the other one. -/
theorem read_openTemporary (h : dir.Sound) : dir.openTemporary.2.read = dir.read := by
  cases htmp : dir.temporary with
  | some tmp =>
    rw [openTemporary_some htmp]
    refine read_eq rfl fun inode hi => ?_
    have hne : inode ≠ tmp := fun heq => h.distinct inode hi (heq ▸ htmp)
    exact Function.update_of_ne hne _ _
  | none =>
    rw [openTemporary_none htmp]
    refine read_eq rfl fun inode hi => ?_
    have hne : inode ≠ dir.next := Nat.ne_of_lt (h.store inode hi)
    exact Function.update_of_ne hne _ _

theorem read_write (h : dir.Sound) (htmp : dir.temporary = some inode) :
    (dir.write inode data mixed).read = dir.read := by
  refine read_eq rfl fun stored hi => ?_
  have hne : stored ≠ inode := fun heq => h.distinct stored hi (heq ▸ htmp)
  exact Function.update_of_ne hne _ _

theorem entries_eq {dir' : StateDir} (h : dir'.read = dir.read) : dir'.entries = dir.entries := by
  unfold StateDir.entries
  rw [h]

end StateDir

section Steps

variable {calls : List SuppressionCall} {start dir : StateDir} {s t : SuppressionSystem}
  {call : SuppressionCall} {mixed : SuppressionFile} {l : SuppressionTurn}

/-- A call between its read and its rename holds the update of what the file still has. -/
def Pending (dir : StateDir) (call : SuppressionCall) : CallPhase → Prop
  | .loaded data => data = call.update dir.entries
  | .opened inode data => data = call.update dir.entries ∧ dir.temporary = some inode ∧
      dir.content inode = none
  | .written => ∃ inode, dir.temporary = some inode ∧
      dir.content inode = some (.entries (call.update dir.entries))
  | .idle | .returned | .raised _ => True

theorem pending_of_not_busy {phase : CallPhase} (h : phase.busy = false) :
    Pending dir call phase := by
  cases phase with
  | loaded data => cases h
  | opened inode data => cases h
  | written => cases h
  | idle => trivial
  | returned => trivial
  | raised e => trivial

/-- What a step makes of the entries. -/
def Moves (dir : StateDir) (call : SuppressionCall) (r : CallPhase × StateDir) : Prop :=
  r.1 = .returned ∧ (∀ fingerprint, r.2.entries.get? fingerprint =
    if call.fingerprint = fingerprint then call.result else dir.entries.get? fingerprint) ∨
  r.1 ≠ .returned ∧ r.2.entries = dir.entries

theorem stepCall_load {data : Suppressions} (h : dir.read.load = .ok data) :
    stepCall dir call mixed .idle =
      (if call.writes data then .loaded (call.update data) else .returned, dir) := by
  unfold stepCall
  rw [h]

theorem stepCall_unreadable {e : PyExc} (h : dir.read.load = .error e) :
    stepCall dir call mixed .idle = (.raised e, dir) := by
  unfold stepCall
  rw [h]

theorem stepCall_rename {inode : Nat} (h : dir.temporary = some inode) :
    stepCall dir call mixed .written =
      (.returned, { dir with store := some inode, temporary := none }) := by
  unfold stepCall StateDir.rename
  rw [h]

variable (mixed) in
/-- **A step of a call whose copy is up to date.** -/
theorem stepCall_spec {phase : CallPhase} (hs : dir.Sound) (hp : Pending dir call phase)
    (hphase : phase ≠ .returned) :
    (stepCall dir call mixed phase).2.Sound ∧
      Pending (stepCall dir call mixed phase).2 call (stepCall dir call mixed phase).1 ∧
      Moves dir call (stepCall dir call mixed phase) := by
  cases phase with
  | returned => exact absurd rfl hphase
  | raised e => exact ⟨hs, trivial, Or.inr ⟨by simp [stepCall], rfl⟩⟩
  | idle =>
    cases hload : dir.read.load with
    | error e =>
      rw [stepCall_unreadable hload]
      exact ⟨hs, trivial, Or.inr ⟨by simp, rfl⟩⟩
    | ok data =>
      have hentries : dir.entries = data := SuppressionFile.data_of_load hload
      rw [stepCall_load hload, ← hentries]
      by_cases hwrites : call.writes dir.entries = true
      · rw [if_pos hwrites]
        exact ⟨hs, rfl, Or.inr ⟨by simp, rfl⟩⟩
      · rw [if_neg hwrites]
        refine ⟨hs, trivial, Or.inl ⟨rfl, fun fingerprint => ?_⟩⟩
        split
        · rename_i heq
          rw [← heq]
          exact SuppressionCall.get?_of_not_writes (Bool.not_eq_true _ ▸ hwrites)
        · rfl
  | loaded data =>
    have hread := StateDir.entries_eq (StateDir.read_openTemporary hs)
    obtain ⟨htmp, hempty⟩ := StateDir.temporary_openTemporary dir
    refine ⟨hs.openTemporary, ⟨?_, htmp, hempty⟩, Or.inr ⟨by simp [stepCall], hread⟩⟩
    change data = call.update dir.openTemporary.2.entries
    rw [hread]
    exact hp
  | opened inode data =>
    obtain ⟨rfl, htmp, hempty⟩ := hp
    have hread : (dir.write inode (call.update dir.entries) mixed).entries = dir.entries :=
      StateDir.entries_eq (StateDir.read_write hs htmp)
    refine ⟨hs.write, ⟨inode, htmp, ?_⟩, Or.inr ⟨by simp [stepCall], hread⟩⟩
    change (dir.write inode (call.update dir.entries) mixed).content inode =
      some (.entries (call.update (dir.write inode (call.update dir.entries) mixed).entries))
    rw [hread]
    simp [StateDir.write, hempty]
  | written =>
    obtain ⟨inode, htmp, hcontent⟩ := hp
    rw [stepCall_rename htmp]
    refine ⟨⟨?_, ?_, ?_⟩, trivial, Or.inl ⟨rfl, fun fingerprint => ?_⟩⟩
    · rintro _ ⟨rfl⟩
      exact hs.temporary inode htmp
    · rintro _ ⟨⟩
    · rintro _ - ⟨⟩
    · rw [← SuppressionCall.get?_update]
      have hread : StateDir.read { dir with store := some inode, temporary := none } =
          .entries (call.update dir.entries) := by
        simp [StateDir.read, hcontent]
      unfold StateDir.entries
      rw [hread]
      rfl

/-! ## Runs -/

/-- What every run keeps in which every writing call is alone. -/
structure Serial (calls : List SuppressionCall) (start : StateDir) (s : SuppressionSystem) :
    Prop where
  sound : s.dir.Sound
  single : ∀ i < calls.length, ∀ j < calls.length, (s.phase i).busy = true →
    (s.phase j).busy = true → i = j
  pending : ∀ i call, calls[i]? = some call → Pending s.dir call (s.phase i)
  applied : Applied calls start s

theorem serial_start (h : start.Sound) : Serial calls start (.start start) where
  sound := h
  single := by
    intro i _ j _ hbusy
    cases hbusy
  pending := fun _ _ _ => trivial
  applied := by
    refine ⟨fun i call _ hreturned => ?_, fun _ _ => rfl⟩
    cases hreturned

theorem next_eq (h : calls[l.call]? = some call) : s.next calls l = {
    dir := (stepCall s.dir call l.mixed (s.phase l.call)).2
    phase := Function.update s.phase l.call (stepCall s.dir call l.mixed (s.phase l.call)).1 } := by
  unfold SuppressionSystem.next
  rw [h]

/-- Only a call that is busy changes the directory, and only one that reads alone becomes busy. -/
theorem stepCall_busy {phase : CallPhase} (h : phase.busy = false) :
    (stepCall dir call mixed phase).2 = dir ∧
      ((stepCall dir call mixed phase).1.busy = true → phase = .idle ∧
        ∃ data, dir.read.load = .ok data ∧ call.writes data = true) := by
  cases phase with
  | loaded data => cases h
  | opened inode data => cases h
  | written => cases h
  | returned => exact ⟨rfl, fun hbusy => nomatch hbusy⟩
  | raised e => exact ⟨rfl, fun hbusy => nomatch hbusy⟩
  | idle =>
    cases hload : dir.read.load with
    | error e =>
      rw [stepCall_unreadable hload]
      exact ⟨rfl, fun hbusy => nomatch hbusy⟩
    | ok data =>
      rw [stepCall_load hload]
      refine ⟨rfl, fun hbusy => ⟨rfl, data, rfl, ?_⟩⟩
      by_contra hwrites
      rw [if_neg hwrites] at hbusy
      cases hbusy

/-- Calls on one fingerprint are one call. -/
theorem eq_of_fingerprint (hnodup : (calls.map SuppressionCall.fingerprint).Nodup) {i j : Nat}
    {a b : SuppressionCall} (ha : calls[i]? = some a) (hb : calls[j]? = some b)
    (h : a.fingerprint = b.fingerprint) : i = j := by
  have hi : i < (calls.map SuppressionCall.fingerprint).length := by
    rw [List.length_map]
    exact (List.getElem?_eq_some_iff.1 ha).1
  refine (List.getElem?_inj hi hnodup).1 ?_
  rw [List.getElem?_map, List.getElem?_map, ha, hb, Option.map_some, Option.map_some, h]

/-- **A step that moves the entries as its call asks keeps what is applied.** -/
theorem Applied.step (h : Applied calls start s)
    (hnodup : (calls.map SuppressionCall.fingerprint).Nodup) {i : Nat}
    (hcall : calls[i]? = some call) (hphase : s.phase i ≠ .returned)
    {r : CallPhase × StateDir} (hmoves : Moves s.dir call r) :
    Applied calls start ⟨r.2, Function.update s.phase i r.1⟩ := by
  have hother : ∀ {j : Nat}, j ≠ i → Function.update s.phase i r.1 j = s.phase j :=
    fun hne => Function.update_of_ne hne _ _
  rcases hmoves with ⟨hreturned, hentries⟩ | ⟨hnot, hentries⟩
  · refine ⟨fun j other hother' hj => ?_, fun fingerprint hnone => ?_⟩
    · change r.2.entries.get? other.fingerprint = other.result
      rw [hentries]
      by_cases hji : j = i
      · subst hji
        rw [hcall] at hother'
        cases hother'
        rw [if_pos rfl]
      · have hne : call.fingerprint ≠ other.fingerprint := fun heq =>
          hji (eq_of_fingerprint hnodup hcall hother' heq).symm
        rw [if_neg hne]
        change Function.update s.phase i r.1 j = _ at hj
        rw [hother hji] at hj
        exact h.returned j other hother' hj
    · change r.2.entries.get? fingerprint = _
      have hne : call.fingerprint ≠ fingerprint :=
        hnone i call hcall ((Function.update_self _ _ _).trans hreturned)
      rw [hentries, if_neg hne]
      refine h.others fingerprint fun j other hother' hj => hnone j other hother' ?_
      have hji : j ≠ i := fun heq => hphase (heq ▸ hj)
      exact (hother hji).trans hj
  · refine ⟨fun j other hother' hj => ?_, fun fingerprint hnone => ?_⟩
    · change r.2.entries.get? other.fingerprint = other.result
      rw [hentries]
      have hji : j ≠ i := by
        rintro rfl
        exact hnot ((Function.update_self _ _ _).symm.trans hj)
      exact h.returned j other hother' ((hother hji).symm.trans hj)
    · change r.2.entries.get? fingerprint = _
      rw [hentries]
      refine h.others fingerprint fun j other hother' hj => hnone j other hother' ?_
      have hji : j ≠ i := fun heq => hphase (heq ▸ hj)
      exact (hother hji).trans hj

theorem Serial.step (h : Serial calls start s)
    (hnodup : (calls.map SuppressionCall.fingerprint).Nodup) (halone : Alone calls s l)
    (hstep : suppressionStep calls s l t) : Serial calls start t := by
  obtain ⟨hlt, rfl⟩ := hstep
  obtain ⟨call, hcall⟩ : ∃ call, calls[l.call]? = some call := ⟨_, List.getElem?_eq_getElem hlt⟩
  have hlength : ∀ {j : Nat} {other : SuppressionCall}, calls[j]? = some other → j < calls.length :=
    fun hj => (List.getElem?_eq_some_iff.1 hj).1
  rw [next_eq hcall]
  by_cases hreturned : s.phase l.call = .returned
  · -- a call that has returned takes no step
    have hstay : stepCall s.dir call l.mixed (s.phase l.call) = (s.phase l.call, s.dir) := by
      rw [hreturned]
      rfl
    rw [hstay, Function.update_eq_self]
    exact h
  · obtain ⟨hsound, hpending, hmoves⟩ := stepCall_spec l.mixed h.sound
      (h.pending l.call call hcall) hreturned
    have hother : ∀ {j : Nat}, j ≠ l.call → Function.update s.phase l.call
        (stepCall s.dir call l.mixed (s.phase l.call)).1 j = s.phase j :=
      fun hne => Function.update_of_ne hne _ _
    -- once the call is busy, no other one is
    have hquiet : (stepCall s.dir call l.mixed (s.phase l.call)).1.busy = true →
        ∀ j < calls.length, j ≠ l.call → (s.phase j).busy = false := by
      intro hbusy j hj hne
      by_cases hold : (s.phase l.call).busy = true
      · by_contra hj'
        exact hne (h.single j hj l.call hlt (Bool.not_eq_false _ ▸ hj') hold)
      · obtain ⟨hidle, data, hload, hwrites⟩ := (stepCall_busy (Bool.not_eq_true _ ▸ hold)).2 hbusy
        exact halone hidle call hcall data hload hwrites j hj hne
    refine ⟨hsound, fun i hi j hj hbi hbj => ?_, fun j other hj => ?_,
      h.applied.step hnodup hcall hreturned hmoves⟩
    · by_cases hic : i = l.call
      · subst hic
        by_contra hne
        have hne' : j ≠ l.call := fun heq => hne heq.symm
        simp only [Function.update_self] at hbi
        simp only [hother hne', hquiet hbi j hj hne'] at hbj
        cases hbj
      · simp only [hother hic] at hbi
        by_cases hjc : j = l.call
        · subst hjc
          simp only [Function.update_self] at hbj
          rw [hquiet hbj i hi hic] at hbi
          cases hbi
        · simp only [hother hjc] at hbj
          exact h.single i hi j hj hbi hbj
    · by_cases hjc : j = l.call
      · subst hjc
        rw [hcall] at hj
        cases hj
        simp only [Function.update_self]
        exact hpending
      · simp only [hother hjc]
        cases hold : (s.phase l.call).busy with
        | true =>
          refine pending_of_not_busy ?_
          by_contra hbusy
          exact hjc (h.single j (hlength hj) l.call hlt (Bool.not_eq_false _ ▸ hbusy) hold)
        | false =>
          rw [(stepCall_busy hold).1]
          exact h.pending j other hj

end Steps

/-- **No update is lost in a run in which every writing call is alone.** -/
theorem applied_run {calls : List SuppressionCall} {start : StateDir} (hstart : start.Sound)
    (hnodup : (calls.map SuppressionCall.fingerprint).Nodup) {ls : List SuppressionTurn}
    {s : SuppressionSystem}
    (h : Run (Guarded (suppressionStep calls) (Alone calls)) (.start start) ls s) :
    Applied calls start s := by
  have hserial : Serial calls start s :=
    h.invariant (fun _ _ _ hi hl => hi.step hnodup hl.1 hl.2) (serial_start hstart)
  exact hserial.applied

theorem run_turns {calls : List SuppressionCall} : ∀ {ls : List SuppressionTurn}
    {s : SuppressionSystem}, (∀ l ∈ ls, l.call < calls.length) →
    Run (suppressionStep calls) s ls (ls.foldl (SuppressionSystem.next calls) s)
  | [], s, _ => .nil s
  | l :: _, _, h => Run.cons ⟨h l List.mem_cons_self, rfl⟩
      (run_turns fun turn hturn => h turn (List.mem_cons_of_mem _ hturn))

/-- The turns of the calls with these numbers. -/
def turnsOf (numbers : List Nat) : List SuppressionTurn := numbers.map fun i => ⟨i, .nothing⟩

/-- `suppressions.json` with one entry, and no temporary file. -/
def mutedDir : StateDir where
  content inode := if inode = 0 then
    some (.entries (Table.empty.put ("3a9240c1e76cd3e0", .dict [("expires_at", .null)]))) else none
  store := some 0
  temporary := none
  next := 1

/-- An operator mutes a disk. -/
def ackDisk : SuppressionCall :=
  .add { fingerprint := "6ab2553b1fc08271", operator := "operator" } "2026-01-01T00:00:00Z" (.fin 0)

theorem mutedDir_sound : mutedDir.Sound := by
  refine ⟨?_, ?_, ?_⟩
  · rintro _ ⟨rfl⟩
    exact Nat.one_pos
  · rintro _ ⟨⟩
  · rintro _ - ⟨⟩

theorem applied_run_ack : ∃ s, s.phase 0 = .returned ∧ Applied [ackDisk] mutedDir s := by
  have hturns : ∀ l ∈ turnsOf [0, 0, 0, 0], l.call = 0 := by simp [turnsOf]
  have halone : ∀ l ∈ turnsOf [0, 0, 0, 0], ∀ s, Alone [ackDisk] s l := by
    intro l hl s _ call _ data _ _ j hj hne
    exact absurd ((Nat.lt_one_iff.1 hj).trans (hturns l hl).symm) hne
  have hrun := run_turns (s := .start mutedDir) fun l hl =>
    show l.call < [ackDisk].length from hturns l hl ▸ Nat.one_pos
  have hnodup : ([ackDisk].map SuppressionCall.fingerprint).Nodup := List.nodup_singleton _
  exact ⟨_, rfl, applied_run mutedDir_sound hnodup (hrun.guarded halone)⟩

/-- The operator's mute and the loop's removal of another read the file before either writes. -/
def crossingCalls : List SuppressionCall := [ackDisk, .remove "3a9240c1e76cd3e0"]

/-- The removal, which renames last, takes the operator's mute away. -/
theorem not_applied_crossing : ∃ ls s,
    Run (suppressionStep crossingCalls) (.start mutedDir) ls s ∧
      (∀ i < crossingCalls.length, s.phase i = .returned) ∧
      ¬ Applied crossingCalls mutedDir s := by
  have hturns : ∀ l ∈ turnsOf [0, 1, 0, 0, 0, 1, 1, 1], l.call < 2 := by simp [turnsOf]
  refine ⟨_, _, run_turns hturns, fun i hi => ?_, fun h => ?_⟩
  · have hcall : i = 0 ∨ i = 1 := by
      change i < 2 at hi
      omega
    rcases hcall with rfl | rfl <;> rfl
  · have hkept := h.returned 0 ackDisk rfl rfl
    have hlost : (none : Option (String × Json)) = ackDisk.result := hkept
    cases hlost

end NocAgent.Proactive
