import NocAgent.Cases.Lhp
import NocAgent.Lib.FileTree
import NocAgent.Lib.Lts

/-!
# Review-gated knowledge candidates

Both handlers write each event as a file of its own, for a review outside of the agent.

* `Candidate.event` — the event of a call of either handler, with its id.
* `writeLessonCandidateEvent` — `write_lesson_candidate_event`: the output path is taken as a
  directory if there is one when the event is written, and as the file otherwise.
* `candidateStep` — calls one after the other, with what they reported.
* `Readable` — every event is read back from the path that was reported for it.
* `Separate` — the output path is a directory and the event has a file of its own, or the event is
  the first.
* `readable_run_iff` — every event stays readable exactly when every one written is separate.
-/

set_option autoImplicit false

namespace NocAgent.Knowledge

open Cases Effects Lts Storage

/-! ## Events -/

/-- An event that proposes knowledge. -/
structure LearningEvent where
  id : String
  /-- what else it says -/
  fields : JsonDict

/-- A call of a handler that comes to an event. -/
inductive Candidate where
  /-- of `build_knowledge_candidate_handler`, with the hexadecimal digits of its `uuid4` -/
  | lesson (hex : String) (fields : JsonDict)
  /-- of `build_lhp_knowledge_artifact_handler`, with the id of the outcome it selected -/
  | artifact (caseId : String) (outcomeId : Option String) (handoffId : String) (fields : JsonDict)

section Events

variable (py : Python)

/-- `_learning_event_id`. -/
def learningEventId (caseId : String) (outcomeId : Option String) (handoffId : String) : String :=
  let last := match outcomeId with
    | some outcomeId => sanitizeLhpToken py outcomeId 80
    | none => if handoffId ≠ "" then sanitizeLhpToken py handoffId 80 else "gap"
  takeChars 180 ("learn_lhp_" ++ sanitizeLhpToken py caseId 80 ++ "_" ++ last)

def Candidate.event : Candidate → LearningEvent
  | .lesson hex fields => ⟨"learn_" ++ hex, fields⟩
  | .artifact caseId outcomeId handoffId fields =>
    ⟨learningEventId py caseId outcomeId (sanitizeLhpToken py handoffId 180), fields⟩

end Events

/-! ## Writing -/

inductive CandidateFile where
  | event (e : LearningEvent)
  | other (text : String)

/-- The names of a relative path. -/
def pathNames (text : String) : List String :=
  (text.splitOn "/").filter fun name => name ≠ "" ∧ name ≠ "."

/-- `root / f"{id}.json"`; an id begins with `learn`. -/
def eventPath (root : List String) (id : String) : List String := root ++ pathNames (id ++ ".json")

/-- `write_lesson_candidate_event`, with the path it returns. -/
def writeLessonCandidateEvent (root : List String) (event : LearningEvent) :
    Action (FileTree CandidateFile) Refusal (List String) := do
  let isDir ← Action.peek fun tree => tree.isDir root
  let destination := if isDir then eventPath root event.id else root
  FileTree.write destination (.event event)
  pure destination

/-! ## Calls -/

/-- The files, and the events with the paths that were reported for them. -/
structure CandidateStore where
  tree : FileTree CandidateFile
  reported : List (List String × LearningEvent)

inductive CandidateLabel where
  | written (candidate : Candidate)
  /-- the tree refused the write; one that fails once the file is truncated is left out -/
  | refused (candidate : Candidate)

section Calls

variable (py : Python) (root : List String)

def candidateStep (s : CandidateStore) (l : CandidateLabel) (t : CandidateStore) : Prop :=
  match l with
  | .written candidate =>
    let event := candidate.event py
    (∀ p ∈ s.reported, p.2.id ≠ event.id) ∧ ∃ path,
      writeLessonCandidateEvent root event s.tree = (.ok path, t.tree) ∧
      t.reported = s.reported ++ [(path, event)]
  | .refused candidate =>
    (∃ e, writeLessonCandidateEvent root (candidate.event py) s.tree = (.error e, t.tree)) ∧
      t.reported = s.reported

/-- **Every event is read back from its path.** -/
def Readable (s : CandidateStore) : Prop :=
  ∀ p ∈ s.reported, s.tree.read p.1 = some (.event p.2)

/-- The output path is a directory and no earlier event has the file of this one, or there is no
earlier event. -/
def Separate (s : CandidateStore) : CandidateLabel → Prop
  | .written candidate =>
    if s.tree.isDir root then
      ∀ p ∈ s.reported, FileTree.resolve p.1 ≠
        FileTree.resolve (eventPath root (candidate.event py).id)
    else s.reported = []
  | .refused _ => True

end Calls

/-! ## One write -/

section Writes

variable {py : Python} {root path : List String} {event : LearningEvent} {s t : CandidateStore}
  {l : CandidateLabel} {tree : FileTree CandidateFile}

theorem writeLessonCandidateEvent_ok
    (h : writeLessonCandidateEvent root event s.tree = (.ok path, tree)) :
    path = (if s.tree.isDir root then eventPath root event.id else root) ∧
      FileTree.write path (.event event) s.tree = (.ok (), tree) := by
  unfold writeLessonCandidateEvent at h
  rw [Action.bind_ok (Action.peek_run _ _)] at h
  generalize hdest : (if s.tree.isDir root then eventPath root event.id else root) = dest at h
  cases hwrite : FileTree.write dest (.event event) s.tree with
  | mk result written =>
    cases result with
    | error e =>
      simp only [Action.bind_error hwrite] at h
      cases h
    | ok _ =>
      simp only [Action.bind_ok hwrite] at h
      cases h
      exact ⟨rfl, hwrite⟩

theorem writeLessonCandidateEvent_error {e : Refusal}
    (h : writeLessonCandidateEvent root event s.tree = (.error e, tree)) :
    FileTree.Extends s.tree tree := by
  unfold writeLessonCandidateEvent at h
  rw [Action.bind_ok (Action.peek_run _ _)] at h
  generalize (if s.tree.isDir root then eventPath root event.id else root) = dest at h
  cases hwrite : FileTree.write dest (.event event) s.tree with
  | mk result written =>
    cases result with
    | error e' =>
      simp only [Action.bind_error hwrite] at h
      cases h
      exact FileTree.write_error hwrite
    | ok _ =>
      simp only [Action.bind_ok hwrite] at h
      cases h

/-- The output path is a directory, or every event was written to it. -/
def OnePlace (root : List String) (s : CandidateStore) : Prop :=
  s.tree.isDir root = true ∨ ∀ p ∈ s.reported, p.1 = root

theorem onePlace_step (h : OnePlace root s) (hstep : candidateStep py root s l t) :
    OnePlace root t := by
  cases l with
  | refused candidate =>
    obtain ⟨⟨e, hwrite⟩, hreported⟩ := hstep
    have hext := writeLessonCandidateEvent_error hwrite
    rcases h with hdir | hroot
    · exact Or.inl (FileTree.isDir_mono hext.keepsDirs hdir)
    · exact Or.inr (hreported ▸ hroot)
  | written candidate =>
    obtain ⟨-, path, hwrite, hreported⟩ := hstep
    obtain ⟨hpath, hwrite⟩ := writeLessonCandidateEvent_ok hwrite
    by_cases hdir : s.tree.isDir root = true
    · exact Or.inl (FileTree.isDir_mono (FileTree.write_keepsDirs hwrite) hdir)
    · rw [if_neg hdir] at hpath
      refine Or.inr fun p hp => ?_
      rw [hreported] at hp
      rcases List.mem_append.1 hp with hold | hnew
      · exact h.resolve_left hdir p hold
      · rw [List.mem_singleton.1 hnew]
        exact hpath

/-- **After a write every event is readable exactly when none had its location.** -/
theorem readable_write_iff (hread : Readable s) (hids : ∀ p ∈ s.reported, p.2.id ≠ event.id)
    (hwrite : FileTree.write path (.event event) s.tree = (.ok (), tree)) :
    Readable ⟨tree, s.reported ++ [(path, event)]⟩ ↔
      ∀ p ∈ s.reported, FileTree.resolve p.1 ≠ FileTree.resolve path := by
  constructor
  · intro h p hp heq
    have hlost := FileTree.read_write_same hwrite (hread p hp) heq
    have hkept : tree.read p.1 = some (.event p.2) := h p (List.mem_append_left _ hp)
    rw [hlost] at hkept
    cases hkept
    exact hids p hp rfl
  · intro hother p hp
    rcases List.mem_append.1 hp with hold | hnew
    · exact FileTree.read_write_other hwrite (hread p hold) (hother p hold)
    · rw [List.mem_singleton.1 hnew]
      exact FileTree.read_write_self hwrite

/-- **A call keeps every event readable exactly when its own is separate.** -/
theorem readable_step_iff (hplace : OnePlace root s) (hread : Readable s)
    (hstep : candidateStep py root s l t) : Readable t ↔ Separate py root s l := by
  cases l with
  | refused candidate =>
    obtain ⟨⟨e, hwrite⟩, hreported⟩ := hstep
    refine iff_of_true (fun p hp => ?_) trivial
    rw [hreported] at hp
    exact FileTree.read_extends (writeLessonCandidateEvent_error hwrite) (hread p hp)
  | written candidate =>
    obtain ⟨hids, path, hwrite, hreported⟩ := hstep
    obtain ⟨hpath, hwrite⟩ := writeLessonCandidateEvent_ok hwrite
    have hiff := readable_write_iff hread hids hwrite
    rw [← hreported] at hiff
    refine hiff.trans ?_
    change _ ↔ if s.tree.isDir root then _ else _
    by_cases hdir : s.tree.isDir root = true
    · rw [if_pos hdir] at hpath ⊢
      rw [hpath]
    · rw [if_neg hdir] at hpath ⊢
      rw [hpath]
      constructor
      · intro hother
        refine List.eq_nil_iff_forall_not_mem.2 fun p hp => hother p hp ?_
        rw [hplace.resolve_left hdir p hp]
      · intro hnone p hp
        rw [hnone] at hp
        cases hp

/-- **Over every run, on any files: every event can be read back throughout exactly when each one
is separate when it is written.** -/
theorem readable_run_iff {files : FileTree CandidateFile} {ls : List CandidateLabel} :
    Run (Guarded (candidateStep py root) (Separate py root)) ⟨files, []⟩ ls s ↔
      Run (Upheld (candidateStep py root) Readable) ⟨files, []⟩ ls s := by
  refine Run.guarded_iff_upheld (J := OnePlace root) ?_ ?_ ?_ ?_
  · intro s l t hplace hstep
    exact onePlace_step hplace hstep
  · intro s l t hplace hread hstep
    exact readable_step_iff hplace hread hstep
  · exact Or.inr fun p hp => nomatch hp
  · exact fun p hp => nomatch hp

end Writes

/-- The state directory of the agent, where no candidate was written yet. -/
def stateFiles : FileTree CandidateFile := fun loc =>
  if loc ∈ [["var"], ["var", "lib"], ["var", "lib", "noc-agent"]] then some .dir else none

def candidateRoot : List String := ["var", "lib", "noc-agent", "knowledge-candidates"]

/-- The output path is missing: the first event is written as a file there, and the second over
it. -/
theorem not_readable_missingDir :
    let first : Candidate := .lesson "0a1b" [("summary", .str "disk filled up")]
    let second : Candidate := .lesson "2c3d" [("summary", .str "peer flapped")]
    ∃ s, Run (candidateStep asciiPython candidateRoot) ⟨stateFiles, []⟩
      [.written first, .written second] s ∧ ¬ Readable s := by
  intro first second
  let files (tree : FileTree CandidateFile) (c : Candidate) : FileTree CandidateFile :=
    (writeLessonCandidateEvent candidateRoot (c.event asciiPython) tree).2
  let event := fun c : Candidate => (candidateRoot, c.event asciiPython)
  refine ⟨⟨files (files stateFiles first) second, [event first, event second]⟩, ?_, fun h => ?_⟩
  · refine (Run.single (t := ⟨files stateFiles first, [event first]⟩) ?_).snoc ?_
    · exact ⟨fun p hp => (nomatch hp), candidateRoot, rfl, rfl⟩
    · refine ⟨fun p hp => ?_, candidateRoot, rfl, rfl⟩
      rw [List.mem_singleton.1 hp]
      decide
  · have hread := h (event first) List.mem_cons_self
    have hlost : (some (.event (second.event asciiPython)) : Option CandidateFile) =
        some (.event (first.event asciiPython)) := hread
    simp only [Option.some.injEq, CandidateFile.event.injEq] at hlost
    have hid := congrArg LearningEvent.id hlost
    revert hid
    decide

end NocAgent.Knowledge
