import Mathlib.Data.List.Induction

/-!
# Nested transactions

* `Move`, `Session` — what is done on one connection, its open transactions with what they have
  written, and the batches that were committed.
* `Script` — a well bracketed sequence of moves as a tree; `Script.kept` and `Script.batches`: what
  is left of it inside a transaction and outside all of them.
* `Session.run_inside`, `Session.run_outside` — going through a script leaves just that.
* `Session.exists_script` — moves after which no transaction is open are those of a script;
  `Session.exists_script_open` — any others end in a transaction that is open.
-/

set_option autoImplicit false

namespace Transactions

universe u

variable {ω : Type u}

inductive Move (ω : Type u) where
  | begin
  | write (w : ω)
  /-- the innermost transaction ends, and what it has written is kept or dropped -/
  | close (keep : Bool)

/-- The open transactions, innermost first, and what was committed. -/
structure Session (ω : Type u) where
  levels : List (List ω)
  settled : List (List ω)

namespace Session

def new : Session ω := ⟨[], []⟩

/-- A write outside every transaction is committed at once. -/
def next (s : Session ω) : Move ω → Option (Session ω)
  | .begin => some { s with levels := [] :: s.levels }
  | .write w =>
    match s.levels with
    | [] => some { s with settled := s.settled ++ [[w]] }
    | ws :: rest => some { s with levels := (ws ++ [w]) :: rest }
  | .close keep =>
    match s.levels with
    | [] => none
    | [ws] => some ⟨[], if keep then s.settled ++ [ws] else s.settled⟩
    | ws :: outer :: rest => some { s with levels := (if keep then outer ++ ws else outer) :: rest }

end Session

namespace Session

/-- What was committed before has no say. -/
theorem next_after {levels settled : List (List ω)} {m : Move ω} {s : Session ω}
    (h : next ⟨levels, []⟩ m = some s) :
    next ⟨levels, settled⟩ m = some ⟨s.levels, settled ++ s.settled⟩ := by
  cases m with
  | begin =>
    obtain rfl : _ = s := Option.some.inj h
    simp [next]
  | write w =>
    cases levels <;>
      · obtain rfl : _ = s := Option.some.inj h
        simp [next]
  | close keep =>
    rcases levels with - | ⟨ws, - | ⟨outer, rest⟩⟩
    · cases h
    · obtain rfl : _ = s := Option.some.inj h
      cases keep <;> simp [next]
    · obtain rfl : _ = s := Option.some.inj h
      simp [next]

theorem exists_close {s : Session ω} (h : s.levels ≠ []) (keep : Bool) :
    ∃ t, next s (.close keep) = some t := by
  rcases s with ⟨- | ⟨ws, - | ⟨outer, rest⟩⟩, settled⟩
  · exact absurd rfl h
  · exact ⟨_, rfl⟩
  · exact ⟨_, rfl⟩

end Session

/-! ## Scripts -/

inductive Script (ω : Type u) where
  | done
  | write (w : ω) (rest : Script ω)
  | level (keep : Bool) (body rest : Script ω)

namespace Script

def moves : Script ω → List (Move ω)
  | .done => []
  | .write w rest => .write w :: rest.moves
  | .level keep body rest => .begin :: (body.moves ++ .close keep :: rest.moves)

/-- What a script leaves in the transaction it runs in. -/
def kept : Script ω → List ω
  | .done => []
  | .write w rest => w :: rest.kept
  | .level keep body rest => (if keep then body.kept else []) ++ rest.kept

/-- What a script commits outside every transaction. -/
def batches : Script ω → List (List ω)
  | .done => []
  | .write w rest => [w] :: rest.batches
  | .level keep body rest => if keep then body.kept :: rest.batches else rest.batches

end Script

namespace Session

/-- **Inside a transaction, a script leaves there what it keeps.** -/
theorem run_inside (script : Script ω) : ∀ (ws : List ω) (rest settled : List (List ω)),
    script.moves.foldlM next ⟨ws :: rest, settled⟩ =
      some ⟨(ws ++ script.kept) :: rest, settled⟩ := by
  induction script with
  | done =>
    intro ws rest settled
    simp [Script.moves, Script.kept]
  | write w more ih =>
    intro ws rest settled
    simp [Script.moves, Script.kept, next, ih]
  | level keep body more ihbody ihmore =>
    intro ws rest settled
    cases keep <;> simp [Script.moves, Script.kept, next, ihbody, ihmore]

/-- **Outside every transaction, a script commits its batches.** -/
theorem run_outside (script : Script ω) : ∀ settled : List (List ω),
    script.moves.foldlM next ⟨[], settled⟩ = some ⟨[], settled ++ script.batches⟩ := by
  induction script with
  | done =>
    intro settled
    simp [Script.moves, Script.batches]
  | write w more ih =>
    intro settled
    simp [Script.moves, Script.batches, next, ih]
  | level keep body more _ ihmore =>
    intro settled
    cases keep <;> simp [Script.moves, Script.batches, next, run_inside, ihmore]

/-! ## Every sequence of moves is a script -/

theorem length_of_write {s t : Session ω} {w : ω} (h : next s (.write w) = some t) :
    t.levels.length = s.levels.length := by
  simp only [next] at h
  split at h
  · rename_i hnone
    cases h
    simp [hnone]
  · rename_i hsome
    cases h
    simp [hsome]

theorem length_of_close {s t : Session ω} {keep : Bool} (h : next s (.close keep) = some t) :
    s.levels.length = t.levels.length + 1 := by
  simp only [next] at h
  split at h
  · cases h
  · rename_i hone
    cases h
    simp [hone]
  · rename_i hmore
    cases h
    simp [hmore]

/-- Scripts between which the given number of transactions end. -/
inductive Unwound : Nat → List (Move ω) → Prop where
  | last (script : Script ω) : Unwound 0 script.moves
  | close {n : Nat} {ms : List (Move ω)} (script : Script ω) (keep : Bool) (h : Unwound n ms) :
      Unwound (n + 1) (script.moves ++ .close keep :: ms)

/-- A script can be put before the first one. -/
theorem Unwound.before {n : Nat} {ms : List (Move ω)} (h : Unwound n ms) (first : List (Move ω))
    (hfirst : ∀ script : Script ω, ∃ longer : Script ω, longer.moves = first ++ script.moves) :
    Unwound n (first ++ ms) := by
  cases h with
  | last script =>
    obtain ⟨longer, hlonger⟩ := hfirst script
    rw [← hlonger]
    exact .last longer
  | close script keep h =>
    obtain ⟨longer, hlonger⟩ := hfirst script
    rw [← List.append_assoc, ← hlonger]
    exact .close longer keep h

theorem unwound_of_run : ∀ {ms : List (Move ω)} {s t : Session ω},
    ms.foldlM next s = some t → t.levels = [] → Unwound s.levels.length ms
  | [], s, t, hrun, hend => by
    obtain rfl : s = t := by simpa using hrun
    rw [hend]
    exact .last .done
  | m :: ms, s, t, hrun, hend => by
    rw [List.foldlM_cons] at hrun
    obtain ⟨mid, hmid, hrest⟩ := Option.bind_eq_some_iff.1 hrun
    have ih := unwound_of_run hrest hend
    cases m with
    | begin =>
      obtain rfl : _ = mid := Option.some.inj hmid
      -- what was opened here ends with the first script of the rest
      cases ih with
      | close body keep h =>
        have hlevel := h.before (.begin :: (body.moves ++ [.close keep])) fun script =>
          ⟨.level keep body script, by simp [Script.moves]⟩
        simpa using hlevel
    | write w =>
      rw [← length_of_write hmid]
      exact ih.before [.write w] fun script => ⟨.write w script, rfl⟩
    | close keep =>
      rw [length_of_close hmid]
      exact .close .done keep ih

/-- **Moves after which no transaction is open are those of a script.** -/
theorem exists_script {ms : List (Move ω)} {s : Session ω} (hrun : ms.foldlM next new = some s)
    (hend : s.levels = []) :
    ∃ script : Script ω, ms = script.moves ∧ s.settled = script.batches := by
  have hunwound := unwound_of_run hrun hend
  cases hunwound with
  | last script =>
    refine ⟨script, rfl, ?_⟩
    have hall := run_outside script []
    rw [show (⟨[], []⟩ : Session ω) = new from rfl, hrun] at hall
    simpa using congrArg Session.settled (Option.some.inj hall)

/-- Between two states with a transaction open, nothing is committed. -/
theorem settled_of_open {s t : Session ω} {m : Move ω} (h : next s m = some t)
    (hs : s.levels ≠ []) (ht : t.levels ≠ []) :
    t.settled = s.settled ∧ next ⟨s.levels, []⟩ m = some ⟨t.levels, []⟩ := by
  obtain ⟨levels, settled⟩ := s
  cases m with
  | begin =>
    obtain rfl : _ = t := Option.some.inj h
    exact ⟨rfl, rfl⟩
  | write w =>
    cases levels with
    | nil => exact absurd rfl hs
    | cons ws rest =>
      obtain rfl : _ = t := Option.some.inj h
      exact ⟨rfl, rfl⟩
  | close keep =>
    rcases levels with - | ⟨ws, - | ⟨outer, rest⟩⟩
    · exact absurd rfl hs
    · obtain rfl : _ = t := Option.some.inj h
      exact absurd rfl ht
    · obtain rfl : _ = t := Option.some.inj h
      exact ⟨rfl, rfl⟩

/-- A transaction that is open where none was has just begun. -/
theorem begin_of_open {s t : Session ω} {m : Move ω} (h : next s m = some t) (hs : s.levels = [])
    (ht : t.levels ≠ []) : m = .begin ∧ t = ⟨[[]], s.settled⟩ := by
  obtain ⟨levels, settled⟩ := s
  obtain rfl : levels = [] := hs
  cases m with
  | begin =>
    obtain rfl : _ = t := Option.some.inj h
    exact ⟨rfl, rfl⟩
  | write w =>
    obtain rfl : _ = t := Option.some.inj h
    exact absurd rfl ht
  | close keep => cases h

/-- **Moves are those of a script, whose batches are what is committed, and then those of a
transaction that is open, of which nothing is.** -/
theorem exists_script_open (ms : List (Move ω)) : ∀ {s : Session ω},
    ms.foldlM next new = some s → ∃ (script : Script ω) (rest : List (Move ω)),
      ms = script.moves ++ rest ∧ s.settled = script.batches ∧
        rest.foldlM next new = some ⟨s.levels, []⟩ ∧ (s.levels = [] → rest = []) := by
  induction ms using List.reverseRecOn with
  | nil =>
    intro s hrun
    obtain rfl : new = s := by simpa using hrun
    exact ⟨.done, [], rfl, rfl, rfl, fun _ => rfl⟩
  | append_singleton init m ih =>
    intro s hrun
    by_cases hend : s.levels = []
    · obtain ⟨script, hms, hsettled⟩ := exists_script hrun hend
      exact ⟨script, [], by rw [hms, List.append_nil], hsettled, by rw [hend]; rfl, fun _ => rfl⟩
    · rw [List.foldlM_append] at hrun
      obtain ⟨mid, hmid, hlast⟩ := Option.bind_eq_some_iff.1 hrun
      have hlast : next mid m = some s := by simpa using hlast
      by_cases hopen : mid.levels = []
      · obtain ⟨script, hms, hsettled⟩ := exists_script hmid hopen
        obtain ⟨rfl, rfl⟩ := begin_of_open hlast hopen hend
        exact ⟨script, [.begin], by rw [hms], hsettled, rfl, fun h => absurd h hend⟩
      · obtain ⟨script, rest, hms, hsettled, hrest, -⟩ := ih hmid
        obtain ⟨hsame, hnext⟩ := settled_of_open hlast hopen hend
        refine ⟨script, rest ++ [m], ?_, hsame.trans hsettled, ?_, fun h => absurd h hend⟩
        · rw [hms, List.append_assoc]
        · rw [List.foldlM_append, hrest]
          simpa using hnext

end Session

end Transactions
