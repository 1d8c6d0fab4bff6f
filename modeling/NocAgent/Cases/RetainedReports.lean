import NocAgent.Cases.ReportSpool
import Mathlib.Tactic.SplitIfs

/-!
# When a retained report is lost

* `Kept`, `SpoolNamed` — the report of a key is in the outbox or in a file under the digest of the key;
  a file under the digest of a key holds a report of that key.
* `SafeOp` — an operation that loses no report of a key.
* `HostMoves` — what every turn of a call leaves to the others.
* `Retaining` — what every run keeps: what was retained lasts, in the sense of `Storage.Lasting`.
* `retained_run` — where every file that replay may move is the report that its name says, a report
  is never lost once `retain_report` has returned.
* `retained_overwritten` — a file of an older version under the digest of a report replaces it.
-/

set_option autoImplicit false

namespace NocAgent.Cases

open Effects Effects.Action Keyed Lts Storage

/-! ## Names -/

/-- The digest that a name begins with. -/
def digestOf (stem : String) : List Char := stem.toList.takeWhile (· ≠ '-')

def SpoolPath.digest? : SpoolPath → Option (List Char)
  | .temporary _ => none
  | .record stem | .invalid stem | .quarantined stem => some (digestOf stem)

/-- The files that replay moves into the quarantine. -/
def SpoolPath.Source : SpoolPath → Prop
  | .record _ | .invalid _ => True
  | .temporary _ | .quarantined _ => False

/-- The files in which a report counts as retained. -/
def SpoolPath.Counts : SpoolPath → Prop
  | .record _ | .quarantined _ => True
  | .temporary _ | .invalid _ => False

/-- What the libraries promise: an intent with a stripped key is read as it was written; a digest
is hexadecimal; and the keys in use, which the validator strips, have different digests. -/
structure SpoolCodec.Faithful (codec : SpoolCodec) (ids : String → String) : Prop where
  roundTrip : ∀ intent i, strip intent.idempotencyKey = intent.idempotencyKey →
    codec.validateJson (codec.dumpJson intent) = .ok i →
    i.outboxId = intent.outboxId ∧ i.idempotencyKey = intent.idempotencyKey
  stripped : ∀ a, strip (ids a) = ids a
  hexadecimal : ∀ key, '-' ∉ (codec.hexdigest key).toList
  distinct : ∀ a b, codec.hexdigest (ids a) = codec.hexdigest (ids b) → ids a = ids b

/-- The id was drawn for the intent. -/
def OutboxIntent.Drawn (ids : String → String) (intent : OutboxIntent) : Prop :=
  ids intent.outboxId = intent.idempotencyKey

theorem digestOf_tagged (stem token : String) : digestOf (stem ++ "-" ++ token) = digestOf stem := by
  unfold digestOf
  rw [String.toList_append, String.toList_append, List.append_assoc]
  generalize stem.toList = cs
  induction cs with
  | nil => rfl
  | cons c cs ih =>
    rw [List.cons_append, List.takeWhile_cons, List.takeWhile_cons, ih]

theorem digestOf_of_not_mem {stem : String} (h : '-' ∉ stem.toList) : digestOf stem = stem.toList := by
  unfold digestOf
  rw [List.takeWhile_eq_self_iff]
  intro c hc
  simpa using fun hdash : c = '-' => h (hdash ▸ hc)

section Spooling

variable (codec : SpoolCodec) (ids : String → String)

/-! ## Files -/

/-- The digest of the key of the report with the outbox id `a`. -/
def SpoolPath.Of (path : SpoolPath) (a : String) : Prop :=
  path.digest? = some (codec.hexdigest (ids a)).toList

/-- A synced file that is not read as a report that nobody retained, and holds the report that its
name says. -/
structure FileNamed (path : SpoolPath) (file : SpoolFile) : Prop where
  synced : file.synced = true
  drawn : ∀ intent, codec.validateJson file.text = .ok intent → intent.Drawn ids
  holds : ∀ a, path.Of codec ids a → file.Holds codec (ids a)

def SpoolNamed (s : Spool) : Prop :=
  ∀ path, path.Source → ∀ file ∈ s path, FileNamed codec ids path file

def NamedOp : SpoolOp → Prop
  | .write path file => path.Source → FileNamed codec ids path file
  | .unlink _ => True
  | .rename _ target file => target.Source → FileNamed codec ids target file

/-- The report with the outbox id `a` is in the outbox, or in a file under its digest. -/
def Kept (store : Store) (a : String) (s : Spool) : Prop :=
  store.Enqueued (ids a) ∨ ∃ path file, path.Counts ∧ path.Of codec ids a ∧ s path = some file ∧
    file.synced = true ∧ file.Holds codec (ids a)

/-- The operation loses no report with the outbox id `a`. -/
def SafeOp (store : Store) (a : String) : SpoolOp → Prop
  | .write path _ => ¬ path.Of codec ids a
  | .unlink path => path.Of codec ids a → store.Enqueued (ids a)
  | .rename source target file => source.Of codec ids a ∨ target.Of codec ids a →
      target.Counts ∧ target.Of codec ids a ∧ file.synced = true ∧ file.Holds codec (ids a)

/-- The report with the outbox id `a` survives every crash. -/
def Lasts (h : SpoolHost) (a : String) : Prop :=
  Lasting (Kept codec ids h.store a) (SafeOp codec ids h.store a) h.disk

end Spooling

section Spools

variable {codec : SpoolCodec} {ids : String → String} {store : Store} {a : String}

theorem SpoolNamed.apply (s : Spool) (o : SpoolOp) (h : SpoolNamed codec ids s) (ho : NamedOp codec ids o) :
    SpoolNamed codec ids (s.apply o) := by
  intro path hsource file hfile
  cases o with
  | write p f =>
    simp only [Spool.apply, Index.set_apply, Option.mem_def] at hfile
    split at hfile
    · rename_i hp
      cases hfile
      subst hp
      exact ho hsource
    · exact h path hsource file hfile
  | unlink p =>
    simp only [Spool.apply, Index.pop_apply, Option.mem_def] at hfile
    split at hfile
    · cases hfile
    · exact h path hsource file hfile
  | rename p q f =>
    simp only [Spool.apply, Index.set_apply, Index.pop_apply, Option.mem_def] at hfile
    split at hfile
    · rename_i hq
      cases hfile
      subst hq
      exact ho hsource
    split at hfile
    · cases hfile
    · exact h path hsource file hfile

theorem Kept.apply (s : Spool) (o : SpoolOp) (h : Kept codec ids store a s)
    (ho : SafeOp codec ids store a o) : Kept codec ids store a (s.apply o) := by
  rcases h with henqueued | ⟨path, file, hcounts, hof, hfile, hholds⟩
  · exact Or.inl henqueued
  cases o with
  | write p f =>
    refine Or.inr ⟨path, file, hcounts, hof, ?_, hholds⟩
    rw [Spool.apply, Index.set_apply, if_neg fun hp : path = p => ho (hp ▸ hof)]
    exact hfile
  | unlink p =>
    by_cases hp : path = p
    · exact Or.inl (ho (hp ▸ hof))
    · refine Or.inr ⟨path, file, hcounts, hof, ?_, hholds⟩
      rw [Spool.apply, Index.pop_apply, if_neg hp]
      exact hfile
  | rename p q f =>
    by_cases hpq : p.Of codec ids a ∨ q.Of codec ids a
    · obtain ⟨hq, hqof, hf⟩ := ho hpq
      refine Or.inr ⟨q, f, hq, hqof, ?_, hf⟩
      rw [Spool.apply, Index.set_apply, if_pos rfl]
    · rw [not_or] at hpq
      refine Or.inr ⟨path, file, hcounts, hof, ?_, hholds⟩
      rw [Spool.apply, Index.set_apply, if_neg fun hq : path = q => hpq.2 (hq ▸ hof),
        Index.pop_apply, if_neg fun hp : path = p => hpq.1 (hp ▸ hof)]
      exact hfile

theorem SpoolNamed.damaged (garbage : SpoolPath → String) (s : Spool) (h : SpoolNamed codec ids s) :
    SpoolNamed codec ids (s.damaged garbage) := by
  intro path hsource file hfile
  obtain ⟨old, hold, rfl⟩ := Option.map_eq_some_iff.1 hfile
  have hnamed := h path hsource old hold
  rw [if_pos hnamed.synced]
  exact hnamed

theorem Kept.damaged (garbage : SpoolPath → String) (s : Spool) (h : Kept codec ids store a s) :
    Kept codec ids store a (s.damaged garbage) := by
  rcases h with henqueued | ⟨path, file, hcounts, hof, hfile, hsynced, hholds⟩
  · exact Or.inl henqueued
  · refine Or.inr ⟨path, file, hcounts, hof, ?_, hsynced, hholds⟩
    rw [Spool.damaged, hfile, Option.map_some, if_pos hsynced]

theorem Kept.mono {t : Store} (hkeys : ∀ key, store.Enqueued key → t.Enqueued key) (s : Spool)
    (h : Kept codec ids store a s) : Kept codec ids t a s := h.imp_left (hkeys _)

theorem SafeOp.mono {t : Store} (hkeys : ∀ key, store.Enqueued key → t.Enqueued key) (o : SpoolOp)
    (h : SafeOp codec ids store a o) : SafeOp codec ids t a o := by
  cases o with
  | write | rename => exact h
  | unlink path => exact fun hof => hkeys _ (h hof)

end Spools

/-! ## The store -/

section Outbox

variable {ids : String → String} {s : Store} {intent : OutboxIntent}

theorem Store.Enqueued.put {o : Table OutboxIntent.outboxId} (hids : ∀ row ∈ o.rows,
    ids row.outboxId = row.idempotencyKey) (hdrawn : intent.Drawn ids) {key : String}
    (h : ∃ row ∈ o.rows, row.idempotencyKey = key) :
    ∃ row ∈ (o.put intent).rows, row.idempotencyKey = key := by
  obtain ⟨row, hrow, hkey⟩ := h
  by_cases hid : row.outboxId = intent.outboxId
  · refine ⟨intent, Table.mem_put.2 (Or.inl rfl), ?_⟩
    rw [← hkey, ← hids row hrow, hid]
    exact hdrawn.symm
  · exact ⟨row, Table.mem_put.2 (Or.inr ⟨hrow, hid⟩), hkey⟩

/-- **An enqueue loses no key, and what it has accepted is enqueued.** -/
theorem Store.Keyed.enqueue (h : s.Keyed ids) (hdrawn : intent.Drawn ids) :
    ∃ r t, enqueueOutbox intent s = (r, t) ∧ t.Keyed ids ∧
      (∀ key, s.Enqueued key → t.Enqueued key) ∧
      ∀ stored, r = .ok stored → t.Enqueued intent.idempotencyKey := by
  rcases enqueueOutbox_cases intent s with
    ⟨id, existing, hid, -, hrun⟩ | ⟨_, -, -, hrun⟩ | ⟨-, hrun⟩
  · refine ⟨_, _, hrun, h, fun _ hkey => hkey, fun _ _ => ?_⟩
    obtain ⟨row, hrow, hkey⟩ := h.index _ id (Option.filter_eq_some_iff.1 hid).1
    exact ⟨row, Table.mem_of_get? hrow, hkey⟩
  · exact ⟨_, _, hrun, h, fun _ hkey => hkey, fun _ hstored => by cases hstored⟩
  · refine ⟨_, _, hrun, ⟨fun row hrow => ?_, fun key id hid => ?_⟩, fun key hkey => ?_,
      fun _ _ => ⟨intent, Table.mem_put.2 (Or.inl rfl), rfl⟩⟩
    · rcases Table.mem_put.1 hrow with rfl | ⟨hrow, -⟩
      · exact hdrawn
      · exact h.ids row hrow
    · change (s.outboxIndex.set _ _) key = some id at hid
      rw [Index.set_apply] at hid
      split at hid
      · rename_i hkey
        cases hid
        exact ⟨intent, (Table.get?_put ..).trans (if_pos rfl), hkey.symm⟩
      · obtain ⟨row, hrow, hkey⟩ := h.index key id hid
        change ∃ row, (s.outbox.put intent).get? id = some row ∧ row.idempotencyKey = key
        rw [Table.get?_put]
        split
        · rename_i hsame
          refine ⟨intent, rfl, ?_⟩
          rw [← hkey, ← h.ids row (Table.mem_of_get? hrow), Table.key_of_get? hrow, ← hsame]
          exact hdrawn.symm
        · exact ⟨row, hrow, hkey⟩
    · exact Store.Enqueued.put h.ids hdrawn hkey

end Outbox

/-! ## What a turn leaves to the others -/

section Moves

variable (codec : SpoolCodec) (ids : String → String)

/-- The store is keyed, and the files of the spool are named by key, whatever a crash does. -/
structure HostSound (h : SpoolHost) : Prop where
  keyed : h.store.Keyed ids
  named : Lasting (SpoolNamed codec ids) (NamedOp codec ids) h.disk

/-- A turn of a call with the temporary file `own`. -/
structure HostMoves (own : Option String) (h h' : SpoolHost) : Prop where
  sound : HostSound codec ids h'
  enqueued : ∀ key, h.store.Enqueued key → h'.store.Enqueued key
  kept : ∀ a, Kept codec ids h.store a (h.disk.current Spool.apply) →
    Kept codec ids h'.store a (h'.disk.current Spool.apply)
  lasts : ∀ a, Lasts codec ids h a → Lasts codec ids h' a
  temporary : ∀ name, name ∉ own → h'.file? (.temporary name) = h.file? (.temporary name)

end Moves

section Moves

variable {codec : SpoolCodec} {ids : String → String} {h : SpoolHost} {own : Option String}

theorem HostSound.current (hs : HostSound codec ids h) :
    SpoolNamed codec ids (h.disk.current Spool.apply) := hs.named.current SpoolNamed.apply

theorem HostSound.refl (hs : HostSound codec ids h) : HostMoves codec ids own h h :=
  ⟨hs, fun _ hkey => hkey, fun _ hkept => hkept, fun _ hlasts => hlasts, fun _ _ => rfl⟩

theorem HostSound.write (hs : HostSound codec ids h) {o : SpoolOp} (hnamed : NamedOp codec ids o)
    (hsafe : ∀ a, SafeOp codec ids h.store a o)
    (htemporary : ∀ (s : Spool) name, name ∉ own →
      s.apply o (.temporary name) = s (.temporary name)) :
    HostMoves codec ids own h { h with disk := h.disk.write o } := by
  refine ⟨⟨hs.keyed, hs.named.write hnamed⟩, fun _ hkey => hkey, fun a hkept => ?_,
    fun a hlasts => hlasts.write (hsafe a), fun name hname => ?_⟩
  · rw [Disk.current_write]
    exact hkept.apply _ o (hsafe a)
  · unfold SpoolHost.file?
    rw [Disk.current_write]
    exact htemporary _ name hname

theorem HostSound.sync (hs : HostSound codec ids h) :
    HostMoves codec ids own h { h with disk := h.disk.sync Spool.apply } := by
  refine ⟨⟨hs.keyed, lasting_sync hs.current⟩, fun _ hkey => hkey, fun _ hkept => hkept,
    fun a hlasts => ?_, fun _ _ => rfl⟩
  exact lasting_sync (hlasts.current Kept.apply)

theorem HostSound.elsewhere (hs : HostSound codec ids h) {t : Store} (ht : t.Keyed ids)
    (hkeys : ∀ key, h.store.Enqueued key → t.Enqueued key) :
    HostMoves codec ids own h { h with store := t } :=
  ⟨⟨ht, hs.named⟩, hkeys, fun _ hkept => hkept.mono hkeys _,
    fun _ hlasts => hlasts.mono (Kept.mono hkeys) (SafeOp.mono hkeys), fun _ _ => rfl⟩

end Moves

/-! ## The turns of `retain_report` -/

section Retainers

variable (codec : SpoolCodec) (ids : String → String)

def Retainer.Sound (h : SpoolHost) : Retainer → Prop
  | .idle | .returned _ => True
  | .making intent | .writing intent _ | .flushing intent _ => intent.Drawn ids
  | .replacing intent name => intent.Drawn ids ∧
      ∀ file ∈ h.file? (.temporary name), file = ⟨codec.dumpJson intent, true⟩
  | .syncing intent _ => intent.Drawn ids ∧
      Kept codec ids h.store intent.outboxId (h.disk.current Spool.apply)
  | .cleaning intent _ kept => intent.Drawn ids ∧
      (kept = true → Lasts codec ids h intent.outboxId)

/-- The temporary file of a call, in a turn that may make it. -/
def Retainer.owned (d : RetainDraws) : Retainer → Option String
  | .making _ => some d.name
  | r => r.temporary?

/-- What a turn from `r` to `r'` does. -/
structure RetainTurn (d : RetainDraws) (h : SpoolHost) (r : Retainer) (h' : SpoolHost)
    (r' : Retainer) : Prop where
  moves : HostMoves codec ids (r.owned d) h h'
  sound : r'.Sound codec ids h'
  returns : ∀ intent ∈ r.returning r', intent.Drawn ids ∧ Lasts codec ids h' intent.outboxId
  temporary : ∀ name ∈ r'.temporary?, name ∈ r.owned d

end Retainers

section Retainers

variable {codec : SpoolCodec} {ids : String → String} {h h' : SpoolHost}

theorem Retainer.Sound.moves {r : Retainer} (hr : r.Sound codec ids h) {own : Option String}
    (hmoves : HostMoves codec ids own h h') (hother : ∀ name ∈ r.temporary?, name ∉ own) :
    r.Sound codec ids h' := by
  cases r with
  | idle | returned => trivial
  | making | writing | flushing => exact hr
  | replacing intent name =>
    refine ⟨hr.1, fun file hfile => hr.2 file ?_⟩
    rw [← hmoves.temporary name (hother name rfl)]
    exact hfile
  | syncing intent name => exact ⟨hr.1, hmoves.kept _ hr.2⟩
  | cleaning intent name kept => exact ⟨hr.1, fun hkept => hmoves.lasts _ (hr.2 hkept)⟩

/-- A turn that touches nothing. -/
theorem RetainTurn.rested (hs : HostSound codec ids h) (d : RetainDraws) {r r' : Retainer}
    (hsound : r'.Sound codec ids h) (hreturns : r.returning r' = [])
    (htemporary : ∀ name ∈ r'.temporary?, name ∈ r.owned d) :
    RetainTurn codec ids d h r h r' := by
  refine ⟨hs.refl, hsound, fun intent hintent => ?_, htemporary⟩
  rw [hreturns] at hintent
  cases hintent

theorem temporary_ne_of {name : String} {a : String} : ¬ (SpoolPath.temporary name).Of codec ids a :=
  fun h => by cases h

/-- A write to the temporary file of the call. -/
theorem HostSound.write_temporary (hs : HostSound codec ids h) (name : String) (file : SpoolFile) :
    HostMoves codec ids (some name) h
      { h with disk := h.disk.write (.write (.temporary name) file) } := by
  refine hs.write (fun hsource => hsource.elim) (fun a => temporary_ne_of) fun s name' hname => ?_
  rw [Spool.apply, Index.set_apply, if_neg]
  intro hsame
  cases hsame
  exact hname rfl

theorem HostSound.rewrite_temporary (hs : HostSound codec ids h) (name : String)
    (file : SpoolFile) : ∃ h', rewriteTemporary name file h = (.ok (), h') ∧
      HostMoves codec ids (some name) h h' ∧
      ∀ file' ∈ h'.file? (.temporary name), file' = file := by
  unfold rewriteTemporary
  simp only [peek_bind_run]
  cases hold : h.file? (.temporary name) with
  | none =>
    refine ⟨h, rfl, hs.refl, fun file' hfile' => ?_⟩
    rw [hold] at hfile'
    cases hfile'
  | some old =>
    refine ⟨_, rfl, hs.write_temporary name file, fun file' hfile' => ?_⟩
    unfold SpoolHost.file? at hfile'
    rw [Disk.current_write, Spool.apply, Index.set_apply, if_pos rfl] at hfile'
    exact (Option.some.inj hfile').symm

theorem HostSound.unlink_temporary (hs : HostSound codec ids h) (name : String) :
    ∃ h', unlinkFile (.temporary name) h = (.ok (), h') ∧
      HostMoves codec ids (some name) h h' := by
  unfold unlinkFile
  simp only [peek_bind_run]
  cases h.file? (.temporary name) with
  | none => exact ⟨h, rfl, hs.refl⟩
  | some old =>
    refine ⟨_, rfl, hs.write trivial (fun a hof => (temporary_ne_of hof).elim)
      fun s name' hname => ?_⟩
    rw [Spool.apply, Index.pop_apply, if_neg]
    intro hsame
    cases hsame
    exact hname rfl

/-- A record is under the digest of its key. -/
theorem recordPath_of_iff (hcodec : codec.Faithful ids) {intent : OutboxIntent}
    (hdrawn : intent.Drawn ids) (a : String) :
    (recordPath codec intent).Of codec ids a ↔ ids a = intent.idempotencyKey := by
  change some (digestOf (codec.hexdigest intent.idempotencyKey)) =
    some (codec.hexdigest (ids a)).toList ↔ _
  rw [digestOf_of_not_mem (hcodec.hexadecimal _), Option.some_inj, String.toList_inj]
  refine ⟨fun hdigest => ?_, fun hkey => by rw [hkey]⟩
  rw [← hdrawn] at hdigest ⊢
  exact (hcodec.distinct _ _ hdigest).symm

theorem holds_dumpJson (intent : OutboxIntent) :
    (⟨codec.dumpJson intent, true⟩ : SpoolFile).Holds codec intent.idempotencyKey :=
  ⟨intent, rfl, rfl⟩

/-- The temporary file becomes the record. -/
theorem HostSound.replace (hs : HostSound codec ids h) (hcodec : codec.Faithful ids)
    {intent : OutboxIntent} (hdrawn : intent.Drawn ids) (name : String) :
    HostMoves codec ids (some name) h { h with
        disk := h.disk.write (.rename (.temporary name) (recordPath codec intent)
          ⟨codec.dumpJson intent, true⟩) } ∧
      Kept codec ids h.store intent.outboxId ((h.disk.write (.rename (.temporary name)
        (recordPath codec intent) ⟨codec.dumpJson intent, true⟩)).current Spool.apply) := by
  have hholds : ∀ a, (recordPath codec intent).Of codec ids a →
      (⟨codec.dumpJson intent, true⟩ : SpoolFile).Holds codec (ids a) := by
    intro a hof
    rw [(recordPath_of_iff hcodec hdrawn a).1 hof]
    exact holds_dumpJson intent
  have hown : (recordPath codec intent).Of codec ids intent.outboxId :=
    (recordPath_of_iff hcodec hdrawn _).2 hdrawn
  refine ⟨hs.write (fun _ => ⟨rfl, fun i hi => ?_, hholds⟩) (fun a hof => ?_)
    fun s name' hname => ?_, Or.inr ⟨recordPath codec intent, _, trivial, hown, ?_, rfl, hholds _ hown⟩⟩
  · obtain ⟨hid, hkey⟩ := hcodec.roundTrip intent i (hdrawn ▸ hcodec.stripped _) hi
    unfold OutboxIntent.Drawn
    rw [hid, hkey]
    exact hdrawn
  · have htarget := hof.resolve_left temporary_ne_of
    exact ⟨trivial, htarget, rfl, hholds a htarget⟩
  · rw [Spool.apply, Index.set_apply, if_neg (by exact fun h => by cases h), Index.pop_apply, if_neg]
    intro hsame
    cases hsame
    exact hname rfl
  · rw [Disk.current_write, Spool.apply, Index.set_apply, if_pos rfl]

theorem retain_turn (hs : HostSound codec ids h) (hcodec : codec.Faithful ids) {r : Retainer}
    (hr : r.Sound codec ids h) (d : RetainDraws) :
    RetainTurn codec ids d h r (r.next codec d h).2 (goto .idle (r.next codec d h).1) := by
  cases r with
  | idle | returned => exact .rested hs d hr rfl fun _ hname => by cases hname
  | making intent =>
    simp only [Retainer.next]
    split
    · exact .rested hs d trivial rfl fun _ hname => by cases hname
    · refine ⟨hs.write_temporary d.name _, hr, fun _ hintent => ?_, fun _ hname => hname⟩
      cases hintent
  | writing intent name =>
    simp only [Retainer.next]
    split
    · exact .rested hs d ⟨hr, fun h => by cases h⟩ rfl fun _ hname => hname
    · obtain ⟨h', hrun, hmoves, -⟩ := hs.rewrite_temporary name ⟨codec.dumpJson intent, false⟩
      rw [bind_ok hrun]
      exact ⟨hmoves, hr, fun _ hintent => (by cases hintent), fun _ hname => hname⟩
  | flushing intent name =>
    simp only [Retainer.next]
    split
    · exact .rested hs d ⟨hr, fun h => by cases h⟩ rfl fun _ hname => hname
    · obtain ⟨h', hrun, hmoves, hfile⟩ := hs.rewrite_temporary name ⟨codec.dumpJson intent, true⟩
      rw [bind_ok hrun]
      exact ⟨hmoves, ⟨hr, hfile⟩, fun _ hintent => (by cases hintent), fun _ hname => hname⟩
  | replacing intent name =>
    simp only [Retainer.next, peek_bind_run]
    cases hfile : h.file? (.temporary name) with
    | none => exact .rested hs d ⟨hr.1, fun h => by cases h⟩ rfl fun _ hname => hname
    | some file =>
      simp only []
      split
      · exact .rested hs d ⟨hr.1, fun h => by cases h⟩ rfl fun _ hname => hname
      · cases hr.2 file hfile
        obtain ⟨hmoves, hkept⟩ := hs.replace hcodec hr.1 name
        exact ⟨hmoves, ⟨hr.1, hkept⟩, fun _ hintent => (by cases hintent), fun _ hname => hname⟩
  | syncing intent name =>
    simp only [Retainer.next]
    split
    · exact .rested hs d ⟨hr.1, fun h => by cases h⟩ rfl fun _ hname => hname
    · exact ⟨hs.sync, ⟨hr.1, fun _ => lasting_sync hr.2⟩, fun _ hintent => (by cases hintent),
        fun _ hname => hname⟩
  | cleaning intent name kept =>
    simp only [Retainer.next]
    split
    · exact .rested hs d trivial rfl fun _ hname => by cases hname
    · obtain ⟨h', hrun, hmoves⟩ := hs.unlink_temporary name
      rw [bind_ok hrun]
      cases kept with
      | false => exact ⟨hmoves, trivial, fun _ hintent => (by cases hintent), fun _ hname => by cases hname⟩
      | true =>
        refine ⟨hmoves, trivial, fun intent' hintent => ?_, fun _ hname => by cases hname⟩
        cases List.mem_singleton.1 hintent
        exact ⟨hr.1, hmoves.lasts _ (hr.2 rfl)⟩

end Retainers

/-! ## The turns of `replay_reports` -/

section Replayers

variable (codec : SpoolCodec) (ids : String → String)

/-- What a call has read goes with the name that it read it under. -/
def Replayer.Sound (store : Store) : Replayer → Prop
  | .quarantining path _ => path.Source
  | .moving path target _ => path.Source ∧ some (digestOf target) = path.digest?
  | .enqueueing stem intent _ _ => intent.Drawn ids ∧
      ∀ a, (SpoolPath.record stem).Of codec ids a → ids a = intent.idempotencyKey
  | .unlinking stem _ _ => ∀ a, (SpoolPath.record stem).Of codec ids a → store.Enqueued (ids a)
  | .idle | .scanning .. | .moved _ | .leaving _ | .reading .. | .unlinked .. | .returned _ => True

end Replayers

section Replayers

variable {codec : SpoolCodec} {ids : String → String} {h h' : SpoolHost}

theorem Replayer.Sound.moves {r : Replayer} (hr : r.Sound codec ids h.store) {own : Option String}
    (hmoves : HostMoves codec ids own h h') : r.Sound codec ids h'.store := by
  cases r with
  | unlinking => exact fun a hof => hmoves.enqueued _ (hr a hof)
  | _ => exact hr

theorem sound_resume (after : AfterQuarantine) (store : Store) :
    after.resume.Sound codec ids store := by
  cases after with
  | loop => trivial
  | scan =>
    unfold AfterQuarantine.resume
    dsimp only
    split <;> trivial

theorem sound_scanEntry (limit index migrated : Nat) (candidates : List String)
    (entry : Option SpoolPath) (store : Store) :
    (scanEntry limit index migrated candidates entry).Sound codec ids store := by
  unfold scanEntry
  split
  · trivial
  split
  · trivial
  split <;> trivial

theorem digestOf_quarantineStem (s : Spool) (stem token : String) :
    digestOf (quarantineStem s stem token) = digestOf stem := by
  unfold quarantineStem
  split
  · exact digestOf_tagged stem token
  · rfl

theorem readIntent_ok {file : SpoolFile} {intent : OutboxIntent}
    (hread : readIntent codec file = .ok intent) : codec.validateJson file.text = .ok intent := by
  unfold readIntent at hread
  split at hread
  · cases hread
  split at hread
  · cases hread
  · rename_i intent' hvalid
    split at hread
    · cases hread
      exact hvalid
    · cases hread

/-- A file is moved into the quarantine, under the digest that it had. -/
theorem HostSound.move (hs : HostSound codec ids h) {path : SpoolPath} {target : String}
    {file : SpoolFile} (hsource : path.Source) (htarget : some (digestOf target) = path.digest?)
    (hfile : h.file? path = some file) :
    HostMoves codec ids none h
      { h with disk := h.disk.write (.rename path (.quarantined target) file) } := by
  have hnamed := hs.current path hsource file hfile
  refine hs.write (fun hsource => hsource.elim) (fun a hof => ?_) fun s name _ => ?_
  · have hpath : path.Of codec ids a :=
      hof.elim id fun hof => htarget.symm.trans hof
    exact ⟨trivial, htarget.trans hpath, hnamed.synced, hnamed.holds a hpath⟩
  · rw [Spool.apply, Index.set_apply, if_neg (by exact fun h => by cases h), Index.pop_apply, if_neg]
    intro hsame
    subst hsame
    exact hsource

theorem HostSound.unlink_record (hs : HostSound codec ids h) {stem : String}
    (henqueued : ∀ a, (SpoolPath.record stem).Of codec ids a → h.store.Enqueued (ids a)) :
    ∃ h', unlinkFile (.record stem) h = (.ok (), h') ∧ HostMoves codec ids none h h' := by
  unfold unlinkFile
  simp only [peek_bind_run]
  cases h.file? (.record stem) with
  | none => exact ⟨h, rfl, hs.refl⟩
  | some file =>
    refine ⟨_, rfl, hs.write trivial henqueued fun s name _ => ?_⟩
    rw [Spool.apply, Index.pop_apply, if_neg (by exact fun h => by cases h)]

theorem HostSound.enqueue (hs : HostSound codec ids h) {intent : OutboxIntent}
    (hdrawn : intent.Drawn ids) : ∃ r h', onStore (enqueueOutbox intent) h = (r, h') ∧
      HostMoves codec ids none h h' ∧
      ∀ stored, r = .ok stored → h'.store.Enqueued intent.idempotencyKey := by
  obtain ⟨r, t, hrun, hkeyed, hkeys, hstored⟩ := hs.keyed.enqueue hdrawn
  refine ⟨r, { h with store := t }, ?_, hs.elsewhere hkeyed hkeys, hstored⟩
  unfold onStore
  rw [hrun]

theorem replay_turn (hs : HostSound codec ids h) (hcodec : codec.Faithful ids) {r : Replayer}
    (hr : r.Sound codec ids h.store) (d : ReplayDraws) :
    HostMoves codec ids none h (r.next codec d h).2 ∧
      (goto .idle (r.next codec d h).1).Sound codec ids (r.next codec d h).2.store := by
  cases r with
  | idle | returned => exact ⟨hs.refl, trivial⟩
  | scanning limit index migrated candidates =>
    simp only [Replayer.next]
    split
    · exact ⟨hs.refl, trivial⟩
    · exact ⟨hs.refl, sound_scanEntry ..⟩
  | quarantining path after =>
    refine ⟨hs.refl, ?_⟩
    change (if d.failed then Replayer.idle else _).Sound codec ids h.store
    split
    · trivial
    · refine ⟨hr, ?_⟩
      rw [digestOf_quarantineStem]
      cases path with
      | record | invalid => rfl
      | temporary | quarantined => exact hr.elim
  | moving path target after =>
    simp only [Replayer.next, peek_bind_run]
    cases hfile : h.file? path with
    | none => exact ⟨hs.refl, sound_resume ..⟩
    | some file =>
      simp only []
      split
      · exact ⟨hs.refl, trivial⟩
      · exact ⟨hs.move hr.1 hr.2 hfile, trivial⟩
  | moved after =>
    simp only [Replayer.next]
    split <;> exact ⟨hs.refl, trivial⟩
  | leaving after =>
    simp only [Replayer.next]
    split
    · exact ⟨hs.refl, trivial⟩
    · exact ⟨hs.sync, sound_resume ..⟩
  | reading paths accepted =>
    cases paths with
    | nil => exact ⟨hs.refl, trivial⟩
    | cons stem rest =>
      refine ⟨hs.refl, ?_⟩
      simp only [Replayer.next, peek, goto]
      cases hfile : h.file? (.record stem) with
      | none => trivial
      | some file =>
        dsimp only
        split
        · trivial
        split
        · trivial
        · rename_i intent hread
          have hnamed := hs.current (.record stem) trivial file hfile
          refine ⟨hnamed.drawn intent (readIntent_ok hread), fun a hof => ?_⟩
          obtain ⟨written, htext, hkey⟩ := hnamed.holds a hof
          have hvalid := readIntent_ok hread
          rw [htext] at hvalid
          have hstripped : strip written.idempotencyKey = written.idempotencyKey := by
            rw [hkey]
            exact hcodec.stripped a
          exact hkey.symm.trans (hcodec.roundTrip written intent hstripped hvalid).2.symm
  | enqueueing stem intent rest accepted =>
    obtain ⟨r, h', hrun, hmoves, hstored⟩ := hs.enqueue hr.1
    simp only [Replayer.next]
    cases d.outcome with
    | accepted =>
      simp only []
      cases r with
      | error e =>
        rw [bind_error hrun]
        exact ⟨hmoves, trivial⟩
      | ok stored =>
        rw [bind_ok hrun]
        refine ⟨hmoves, fun a hof => ?_⟩
        rw [hr.2 a hof]
        exact hstored stored rfl
    | replyLost =>
      simp only []
      cases r with
      | error e =>
        rw [bind_error hrun]
        exact ⟨hmoves, trivial⟩
      | ok stored =>
        rw [bind_ok hrun]
        exact ⟨hmoves, trivial⟩
    | integrityError => exact ⟨hs.refl, trivial⟩
    | failed => exact ⟨hs.refl, trivial⟩
  | unlinking stem rest accepted =>
    simp only [Replayer.next]
    split
    · exact ⟨hs.refl, trivial⟩
    · obtain ⟨h', hrun, hmoves⟩ := hs.unlink_record hr
      rw [bind_ok hrun]
      exact ⟨hmoves, trivial⟩
  | unlinked rest accepted =>
    simp only [Replayer.next]
    split
    · exact ⟨hs.refl, trivial⟩
    · exact ⟨hs.sync, trivial⟩

end Replayers

/-! ## What every run keeps -/

section Runs

variable (codec : SpoolCodec) (ids : String → String)

/-- The host is sound, and so is what each call holds. -/
structure Retaining (sys : SpoolSystem) : Prop where
  sound : HostSound codec ids sys.host
  retainers : ∀ i, (sys.retainers i).Sound codec ids sys.host
  replayers : ∀ i, (sys.replayers i).Sound codec ids sys.host.store
  apart : ∀ i j, ∀ name ∈ (sys.retainers i).temporary?,
    name ∈ (sys.retainers j).temporary? → i = j
  retained : ∀ intent ∈ sys.retained, intent.Drawn ids ∧ Lasts codec ids sys.host intent.outboxId

end Runs

section Runs

variable {codec : SpoolCodec} {ids : String → String} {sys t : SpoolSystem}

theorem Retaining.atRetainer (h : Retaining codec ids sys) (i : Nat) {r : Retainer}
    (hr : r.Sound codec ids sys.host) (htemporary : r.temporary? = none) :
    Retaining codec ids { sys with retainers := Function.update sys.retainers i r } := by
  refine ⟨h.sound, fun j => ?_, h.replayers, fun j k name hj hk => ?_, h.retained⟩
  · dsimp only
    rw [Function.update_apply]
    split
    · exact hr
    · exact h.retainers j
  · simp only [Function.update_apply] at hj hk
    split at hj
    · rw [htemporary] at hj
      cases hj
    split at hk
    · rw [htemporary] at hk
      cases hk
    · exact h.apart j k name hj hk

theorem Retaining.atReplayer (h : Retaining codec ids sys) (i : Nat) {r : Replayer}
    (hr : r.Sound codec ids sys.host.store) :
    Retaining codec ids { sys with replayers := Function.update sys.replayers i r } := by
  refine ⟨h.sound, h.retainers, fun j => ?_, h.apart, h.retained⟩
  dsimp only
  rw [Function.update_apply]
  split
  · exact hr
  · exact h.replayers j

/-- The host moves, and no call has the temporary file that it moves by. -/
theorem Retaining.atHost (h : Retaining codec ids sys) {host : SpoolHost}
    (hmoves : HostMoves codec ids none sys.host host) :
    Retaining codec ids { sys with host := host } := by
  refine ⟨hmoves.sound, fun i => ?_, fun i => (h.replayers i).moves hmoves, h.apart, ?_⟩
  · exact (h.retainers i).moves hmoves fun _ _ hnone => by cases hnone
  · exact fun intent hintent => (h.retained intent hintent).imp_right (hmoves.lasts _)

theorem Retaining.keep (h : Retaining codec ids sys) (hcodec : codec.Faithful ids) (i : Nat)
    (d : RetainDraws) (hfresh : ∀ j, d.name ∉ (sys.retainers j).temporary?) :
    Retaining codec ids (sys.after codec (.keep i d)) := by
  have hturn := retain_turn h.sound hcodec (h.retainers i) d
  have hother : ∀ j, j ≠ i → ∀ name ∈ (sys.retainers j).temporary?,
      name ∉ (sys.retainers i).owned d := by
    intro j hne name hj hi
    cases hcall : sys.retainers i with
    | making intent =>
      rw [hcall] at hi
      cases hi
      exact hfresh j hj
    | _ =>
      refine hne (h.apart j i name hj ?_)
      rw [hcall] at hi ⊢
      exact hi
  refine ⟨hturn.moves.sound, fun j => ?_, fun j => (h.replayers j).moves hturn.moves,
    fun j k name hj hk => ?_, fun intent hintent => ?_⟩
  · simp only [SpoolSystem.after, Function.update_apply]
    split
    · exact hturn.sound
    · rename_i hne
      exact (h.retainers j).moves hturn.moves (hother j hne)
  · simp only [SpoolSystem.after, Function.update_apply] at hj hk
    split at hj <;> split at hk
    · rename_i hji hki
      exact hji.trans hki.symm
    · rename_i _ hki
      exact absurd (hturn.temporary name hj) (hother k hki name hk)
    · rename_i hji _
      exact absurd (hturn.temporary name hk) (hother j hji name hj)
    · exact h.apart j k name hj hk
  · rcases List.mem_append.1 hintent with hintent | hintent
    · exact hturn.returns intent hintent
    · exact (h.retained intent hintent).imp_right (hturn.moves.lasts _)

theorem Retaining.step (h : Retaining codec ids sys) (hcodec : codec.Faithful ids) {l : SpoolLabel}
    (hstep : spoolStep codec ids sys l t) : Retaining codec ids t := by
  obtain ⟨hallowed, rfl⟩ := hstep
  cases l with
  | retain i intent =>
    have hstart : Retainer.start codec intent = .making intent ∨
        Retainer.start codec intent = .idle := by
      unfold Retainer.start
      split
      · exact Or.inl rfl
      · exact Or.inr rfl
    refine h.atRetainer i ?_ ?_
    all_goals rcases hstart with hstart | hstart <;> rw [hstart]
    · exact hallowed
    · trivial
    · rfl
    · rfl
  | keep i d => exact h.keep hcodec i d hallowed.2
  | replay i limit =>
    refine h.atReplayer i ?_
    unfold Replayer.start
    split <;> trivial
  | work i d =>
    obtain ⟨hmoves, hsound⟩ := replay_turn h.sound hcodec (h.replayers i) d
    exact (h.atHost hmoves).atReplayer i hsound
  | stopRetain i => exact h.atRetainer i trivial rfl
  | stopReplay i => exact h.atReplayer i trivial
  | crash kept garbage =>
    refine ⟨⟨h.sound.keyed, h.sound.named.crash SpoolNamed.apply (SpoolNamed.damaged garbage) hallowed⟩,
      fun _ => trivial, fun _ => trivial, fun _ _ _ hname => (by cases hname),
      fun intent hintent => ?_⟩
    obtain ⟨hdrawn, hlasts⟩ := h.retained intent hintent
    exact ⟨hdrawn, Lasting.crash hlasts Kept.apply (Kept.damaged garbage) hallowed⟩
  | elsewhere s => exact h.atHost (h.sound.elsewhere hallowed.1 hallowed.2)

theorem retaining_quiet {spool : Spool} {store : Store} (hkeyed : store.Keyed ids)
    (hnamed : SpoolNamed codec ids spool) : Retaining codec ids (.quiet spool store) :=
  ⟨⟨hkeyed, hnamed, fun _ ho => by cases ho⟩, fun _ => trivial, fun _ => trivial,
    fun _ _ _ hname => (by cases hname), fun _ hintent => by cases hintent⟩

theorem retains_of_kept {intent : OutboxIntent} (hdrawn : intent.Drawn ids)
    (hkept : Kept codec ids sys.host.store intent.outboxId (sys.host.disk.current Spool.apply)) :
    sys.Retains codec intent.idempotencyKey := by
  rw [← hdrawn]
  rcases hkept with henqueued | ⟨path, file, hcounts, -, hfile, -, hholds⟩
  · exact Or.inl henqueued
  cases path with
  | record stem => exact Or.inr (Or.inl ⟨stem, file, hfile, hholds⟩)
  | quarantined stem => exact Or.inr (Or.inr ⟨stem, file, hfile, hholds⟩)
  | temporary | invalid => exact hcounts.elim

/-- **Whatever calls run side by side and whenever they or the host go down: once `retain_report`
has returned, its report is in the outbox, in the spool or in the quarantine**, if no file that replay
may move had the name of another report at the start. -/
theorem retained_run (hcodec : codec.Faithful ids) {spool : Spool} {store : Store}
    (hkeyed : store.Keyed ids) (hnamed : SpoolNamed codec ids spool) {ls : List SpoolLabel}
    (hrun : Run (spoolStep codec ids) (.quiet spool store) ls sys) :
    ∀ intent ∈ sys.retained, sys.Retains codec intent.idempotencyKey := by
  have h : Retaining codec ids sys :=
    hrun.invariant (fun _ _ _ h hstep => h.step hcodec hstep) (retaining_quiet hkeyed hnamed)
  intro intent hintent
  obtain ⟨hdrawn, hlasts⟩ := h.retained intent hintent
  exact retains_of_kept hdrawn (hlasts.current Kept.apply)

end Runs

/-! ## A report that outlives the host -/

def terminalReport : OutboxIntent where
  outboxId := "out_1"
  intentType := .report
  caseId := some "case_1"
  idempotencyKey := "terminal:case:1"
  payload := [("card_update", .dict [("description", .str "retained result")])]
  nextAttemptAt := "2026-01-01T00:00:00+00:00"
  createdAt := "2026-01-01T00:00:00+00:00"

def terminalText : String :=
  "\x7b\"outbox_id\":\"out_1\",\"intent_type\":\"report\",\"case_id\":\"case_1\"," ++
  "\"meta_case_id\":null,\"idempotency_key\":\"terminal:case:1\",\"state_signature\":\"\"," ++
  "\"payload\":\x7b\"card_update\":\x7b\"description\":\"retained result\"\x7d\x7d," ++
  "\"status\":\"pending\",\"attempts\":0,\"claim_token\":\"\",\"claim_expires_at\":null," ++
  "\"next_attempt_at\":\"2026-01-01T00:00:00+00:00\",\"created_at\":\"2026-01-01T00:00:00+00:00\"," ++
  "\"completed_at\":null,\"external_id\":\"\",\"external_url\":\"\",\"error\":\"\",\"schema_version\":1\x7d"

/-- The digest, the text and the intent of the one report. -/
def terminalCodec : SpoolCodec where
  hexdigest _ := "a5eea685e34c38eb5c7eafb5ccc8be85c43cc12cda999aabf292a28f2089956c"
  dumpJson intent :=
    if intent.outboxId = "out_1" ∧ intent.idempotencyKey = "terminal:case:1" then terminalText else ""
  validateJson text := if text = terminalText then .ok terminalReport else .error .validationError

def terminalIds : String → String := fun _ => "terminal:case:1"

theorem faithful_terminalCodec : terminalCodec.Faithful terminalIds := by
  have hstripped : strip "terminal:case:1" = "terminal:case:1" := by decide +kernel
  have hhexadecimal : '-' ∉ (terminalCodec.hexdigest "").toList := by decide +kernel
  refine ⟨fun intent i _ h => ?_, fun _ => hstripped, fun _ => hhexadecimal, fun _ _ _ => rfl⟩
  dsimp only [terminalCodec] at h
  split at h
  · rename_i hintent
    rw [if_pos rfl] at h
    cases h
    exact ⟨hintent.1.symm, hintent.2.symm⟩
  · rw [if_neg (by decide +kernel)] at h
    cases h

/-- The report is retained and the host goes down; a replay is turned away by the store and moves
the record into the quarantine. -/
def retainedLabels : List SpoolLabel :=
  .retain 0 terminalReport ::
    [.keep 0 { name := "a" }, .keep 0 { name := "b" }, .keep 0 { name := "b" },
      .keep 0 { name := "b" }, .keep 0 { name := "b" }, .keep 0 { name := "b" },
      .crash [] fun _ => "", .replay 0 100,
      .work 0 { entry := some (recordPath terminalCodec terminalReport) }, .work 0 {}, .work 0 {},
      .work 0 { outcome := .integrityError }, .work 0 {}, .work 0 {}]

def retainedSystem : SpoolSystem :=
  retainedLabels.foldl (SpoolSystem.after terminalCodec) (.quiet Index.empty {})

/-- A turn of call 0, where it may be taken, or a crash that keeps nothing. -/
def SpoolLabel.Scheduled (sys : SpoolSystem) : SpoolLabel → Prop
  | .retain i intent => i = 0 ∧ terminalIds intent.outboxId = intent.idempotencyKey
  | .keep i d => i = 0 ∧ sys.host.file? (.temporary d.name) = none ∧
      d.name ∉ (sys.retainers 0).temporary?
  | .replay _ _ | .work _ _ => True
  | .crash kept _ => kept = []
  | _ => False

instance SpoolLabel.decidableScheduled (sys : SpoolSystem) (l : SpoolLabel) :
    Decidable (l.Scheduled sys) := by
  unfold SpoolLabel.Scheduled
  cases l <;> infer_instance

/-- Only call 0 retains. -/
theorem SpoolLabel.Scheduled.step {sys : SpoolSystem} {l : SpoolLabel} (h : l.Scheduled sys)
    (halone : ∀ j, j ≠ 0 → (sys.retainers j).temporary? = none) :
    (∀ j, j ≠ 0 → ((sys.after terminalCodec l).retainers j).temporary? = none) ∧
      spoolStep terminalCodec terminalIds sys l (sys.after terminalCodec l) := by
  cases l with
  | retain i intent =>
    refine ⟨fun j hj => ?_, h.2, rfl⟩
    exact (congrArg Retainer.temporary? (Function.update_of_ne (h.1 ▸ hj) _ _)).trans (halone j hj)
  | keep i d =>
    obtain ⟨rfl, hfile, hname⟩ := h
    refine ⟨fun j hj => ?_, ⟨hfile, fun j => ?_⟩, rfl⟩
    · exact (congrArg Retainer.temporary? (Function.update_of_ne hj _ _)).trans (halone j hj)
    · by_cases hj : j = 0
      · rw [hj]
        exact hname
      · rw [halone j hj]
        exact fun h => by cases h
  | replay | work => exact ⟨halone, trivial, rfl⟩
  | crash kept garbage =>
    refine ⟨fun _ _ => rfl, ?_, rfl⟩
    change kept.Sublist _
    rw [show kept = [] from h]
    exact List.nil_sublist _
  | stopRetain | stopReplay | elsewhere => exact h.elim

theorem run_retainedSystem :
    Run (spoolStep terminalCodec terminalIds) (.quiet Index.empty {}) retainedLabels
      retainedSystem :=
  (Run.of_valid (p := SpoolLabel.Scheduled) (by decide +kernel)).carry
    (I := fun sys => ∀ j, j ≠ 0 → (sys.retainers j).temporary? = none)
    (fun _ _ _ halone h => h.2 ▸ h.1.step halone) fun _ _ => rfl

theorem retained_run_quarantined :
    retainedSystem.retained.map OutboxIntent.outboxId = ["out_1"] ∧
      ∀ intent ∈ retainedSystem.retained,
        retainedSystem.Retains terminalCodec intent.idempotencyKey :=
  ⟨by decide +kernel, retained_run faithful_terminalCodec
    ⟨fun _ hrow => (by cases hrow), fun _ _ hid => by cases hid⟩
    (fun _ _ _ hfile => by cases hfile) run_retainedSystem⟩

/-! ## A report that an older file replaces -/

/-- A file that is no report. -/
def legacyFile : SpoolFile := ⟨"legacy", true⟩

/-- An older version has left the file under the name that the report gets in the quarantine. -/
def legacySpool : Spool := Index.empty.set (.invalid (terminalCodec.hexdigest "")) legacyFile

/-- One replay has seen that the name is free in the quarantine; the report is retained, and a second
replay moves it there; then the first moves the old file. -/
def overwritingLabels : List SpoolLabel :=
  .replay 0 100 :: .work 0 { entry := some (.invalid (terminalCodec.hexdigest "")) } ::
    .work 0 {} :: .retain 0 terminalReport ::
    [.keep 0 { name := "a" }, .keep 0 { name := "b" }, .keep 0 { name := "b" },
      .keep 0 { name := "b" }, .keep 0 { name := "b" }, .keep 0 { name := "b" },
      .replay 1 100,
      .work 1 { entry := some (recordPath terminalCodec terminalReport) }, .work 1 {}, .work 1 {},
      .work 1 { outcome := .integrityError }, .work 1 {}, .work 1 {}, .work 0 {}]

def overwrittenSystem : SpoolSystem :=
  overwritingLabels.foldl (SpoolSystem.after terminalCodec) (.quiet legacySpool {})

theorem run_overwrittenSystem :
    Run (spoolStep terminalCodec terminalIds) (.quiet legacySpool {}) overwritingLabels
      overwrittenSystem :=
  (Run.of_valid (p := SpoolLabel.Scheduled) (by decide +kernel)).carry
    (I := fun sys => ∀ j, j ≠ 0 → (sys.retainers j).temporary? = none)
    (fun _ _ _ halone h => h.2 ▸ h.1.step halone) fun _ _ => rfl

set_option maxRecDepth 100000 in
/-- What was done to the files, in order. -/
theorem overwritten_current :
    overwrittenSystem.host.disk.current Spool.apply =
      [SpoolOp.write (.temporary "a") ⟨"", false⟩,
        .write (.temporary "a") ⟨terminalText, false⟩,
        .write (.temporary "a") ⟨terminalText, true⟩,
        .rename (.temporary "a") (recordPath terminalCodec terminalReport) ⟨terminalText, true⟩,
        .rename (recordPath terminalCodec terminalReport)
          (.quarantined (terminalCodec.hexdigest "")) ⟨terminalText, true⟩,
        .rename (.invalid (terminalCodec.hexdigest ""))
          (.quarantined (terminalCodec.hexdigest "")) legacyFile].foldl Spool.apply legacySpool := rfl

set_option maxRecDepth 100000 in
theorem overwritten_retained : overwrittenSystem.retained = [terminalReport] := rfl

/-- Only the old file is left. -/
theorem overwritten_file {path : SpoolPath} {file : SpoolFile}
    (h : overwrittenSystem.host.file? path = some file) : file = legacyFile := by
  unfold SpoolHost.file? at h
  rw [overwritten_current] at h
  simp only [List.foldl_cons, List.foldl_nil, Spool.apply, Index.set_apply, Index.pop_apply,
    legacySpool, recordPath, terminalCodec] at h
  split_ifs at h
  · cases h
    rfl
  · cases h

theorem not_holds_legacyFile (key : String) : ¬ legacyFile.Holds terminalCodec key := by
  rintro ⟨intent, htext, -⟩
  dsimp only [terminalCodec] at htext
  split at htext
  · exact absurd htext (by decide +kernel)
  · exact absurd htext (by decide +kernel)

/-- A report that `retain_report` has retained is lost. -/
theorem retained_overwritten :
    terminalCodec.Faithful terminalIds ∧
      ¬ ∀ (spool : Spool) (store : Store) (ls : List SpoolLabel) (sys : SpoolSystem),
        store.Keyed terminalIds →
          Run (spoolStep terminalCodec terminalIds) (.quiet spool store) ls sys →
            ∀ intent ∈ sys.retained, sys.Retains terminalCodec intent.idempotencyKey := by
  refine ⟨faithful_terminalCodec, fun h => ?_⟩
  have hkeyed : ({} : Store).Keyed terminalIds :=
    ⟨fun _ hrow => (by cases hrow), fun _ _ hid => by cases hid⟩
  have hretained : terminalReport ∈ overwrittenSystem.retained := by
    rw [overwritten_retained]
    exact List.mem_singleton_self _
  have hstore : overwrittenSystem.host.store.outbox.rows = [] := by decide +kernel
  rcases h _ _ _ _ hkeyed run_overwrittenSystem terminalReport hretained with
    ⟨row, hrow, -⟩ | ⟨stem, file, hfile, hholds⟩ | ⟨stem, file, hfile, hholds⟩
  · rw [hstore] at hrow
    cases hrow
  · rw [overwritten_file hfile] at hholds
    exact not_holds_legacyFile _ hholds
  · rw [overwritten_file hfile] at hholds
    exact not_holds_legacyFile _ hholds

end NocAgent.Cases
