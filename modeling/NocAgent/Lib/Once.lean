import NocAgent.Lib.Lts
import NocAgent.Lib.Script
import Mathlib.Data.List.Nodup

/-!
# Changes that are made once

Requests that repeat each other look for a record, make their changes if there is none, and leave
the record with the last of them.

* `Part` — what a call of a request is for; `Before`, `Pending`, `After`: a request keeps to the
  pattern.
* `Requests` — any number of requests on one state; `Requests.call`: one call of one of them.
* `Overlaps` — a request finds no record although another one is between its look and its record,
  or has stopped there.
* `Once` — at most one request is between its look and its record; `Once.call`: a call that does
  not overlap keeps it, and with it every change is made at most once.
-/

set_option autoImplicit false

namespace Effects

open Effects.Action

/-- What a call is for. -/
inductive Part (χ : Type) where
  | other
  | look
  /-- it makes the change when it returns -/
  | change (c : χ)
  /-- it makes the change however it ends -/
  | attempt (c : χ)

/-- The change that a call has made. -/
def Part.made {χ : Type} (returned : Bool) : Part χ → List χ
  | .change c => if returned then [c] else []
  | .attempt c => [c]
  | _ => []

namespace Script

variable {σ ε χ α β : Type}

section Pattern

variable (Good R : σ → Prop)

/-- A computation that leaves the record as it is. -/
def Calm (x : Action σ ε α) : Prop := ∀ p : Prop, Keeps (fun s => Good s ∧ (R s ↔ p)) x

/-- The calls of a request that is through. -/
def After : Script σ ε (Part χ) α → Prop
  | .done _ => True
  | .stop _ => True
  | .call tag x k => tag = .other ∧ Calm Good R x ∧ ∀ b, (k b).After

/-- The calls of a request that has found no record and made the changes `passed`: its last change
leaves the record. -/
def Pending : List χ → Script σ ε (Part χ) α → Prop
  | _, .done _ => False
  | _, .stop _ => True
  | passed, .call .other x k => Calm Good R x ∧ ∀ b, (k b).Pending passed
  | _, .call .look _ _ => False
  | passed, .call (.change c) x k => c ∉ passed ∧ ∀ s, Good s → ¬ R s → Good (x s).2 ∧
      ((∀ e, (x s).1 = .error e → ¬ R (x s).2) ∧
        ∀ b, (x s).1 = .ok b → R (x s).2 ∧ (k b).After Good R ∨
          ¬ R (x s).2 ∧ (k b).Pending (passed ++ [c]))
  | passed, .call (.attempt c) x k =>
    c ∉ passed ∧ Calm Good R x ∧ ∀ b, (k b).Pending (passed ++ [c])

/-- Calls that make some of the given changes, in their order, and leave no record. -/
def Changing : List χ → Script σ ε (Part χ) α → Prop
  | _, .done _ => True
  | _, .stop _ => True
  | allowed, .call .other x k => Calm Good R x ∧ ∀ b, (k b).Changing allowed
  | _, .call .look _ _ => False
  | allowed, .call (.change c) x k => Calm Good R x ∧
      ∃ rest, List.Sublist (c :: rest) allowed ∧ ∀ b, (k b).Changing rest
  | allowed, .call (.attempt c) x k => Calm Good R x ∧
      ∃ rest, List.Sublist (c :: rest) allowed ∧ ∀ b, (k b).Changing rest

/-- The calls of a request that comes in. -/
def Before : Script σ ε (Part χ) α → Prop
  | .done _ => True
  | .stop _ => True
  | .call .other x k => Calm Good R x ∧ ∀ b, (k b).Before
  | .call .look x k => ∀ s, Good s → ∃ b, x s = (.ok b, s) ∧
      (R s → (k b).After Good R) ∧ (¬ R s → (k b).Pending Good R [])
  | .call _ _ _ => False

end Pattern

section Rules

variable {Good R : σ → Prop}

theorem Calm.pure (a : α) : Calm Good R (pure a : Action σ ε α) := fun _ => Keeps.pure a

theorem Calm.peek (g : σ → α) : Calm Good R (peek g : Action σ ε α) := fun _ => Keeps.peek g

theorem Calm.raise (e : ε) : Calm Good R (raise e : Action σ ε α) := fun _ => Keeps.raise e

theorem Calm.raiseIf (c : Prop) [Decidable c] (e : ε) :
    Calm Good R (raiseIf c e : Action σ ε Unit) := fun _ => Keeps.raiseIf c e

theorem Calm.orRaise (o : Option α) (e : ε) : Calm Good R (orRaise o e : Action σ ε α) :=
  fun _ => Keeps.orRaise o e

theorem Calm.forEach {k : α → Action σ ε β} (hk : ∀ a, Calm Good R (k a)) (xs : List α) :
    Calm Good R (forEach k xs) :=
  fun p => Keeps.forEach (fun a => hk a p) xs

/-- A computation that leaves alone what the record is read from. -/
theorem Calm.of_fixes {τ : Type} {f : σ → τ} {x : Action σ ε α} (hx : Fixes f x)
    (h : ∀ s t, f t = f s → (Good s → Good t) ∧ (R t ↔ R s)) : Calm Good R x :=
  fun _ s hs => ⟨(h s _ (hx s)).1 hs.1, (h s _ (hx s)).2.trans hs.2⟩

theorem Calm.bind {x : Action σ ε α} {f : α → Action σ ε β} (hx : Calm Good R x)
    (hf : ∀ a, Calm Good R (f a)) : Calm Good R (x >>= f) :=
  fun p => Keeps.bind (hx p) fun a => hf a p

theorem Calm.good {x : Action σ ε α} (h : Calm Good R x) {s : σ} (hs : Good s) : Good (x s).2 :=
  (h (R s) s ⟨hs, Iff.rfl⟩).1

theorem Calm.record {x : Action σ ε α} (h : Calm Good R x) {s : σ} (hs : Good s) :
    R (x s).2 ↔ R s :=
  (h (R s) s ⟨hs, Iff.rfl⟩).2

/-- A computation that leaves the record exactly when it returns. -/
def Records (Good R : σ → Prop) (x : Action σ ε α) : Prop :=
  ∀ s, Good s → ¬ R s → Good (x s).2 ∧ (R (x s).2 ↔ (x s).1.isOk = true)

/-- A part that leaves the record as it is, and then one that leaves it, which may rely on what the
first part returns. -/
theorem Records.bind_of {x : Action σ ε α} {f : α → Action σ ε β} {P : α → Prop}
    (hx : Calm Good R x) (hP : ∀ s a t, x s = (.ok a, t) → P a)
    (hf : ∀ a, P a → Records Good R (f a)) : Records Good R (x >>= f) := by
  intro s hs hR
  have hgood := hx.good hs
  have hrecord := (not_congr (hx.record hs)).2 hR
  rcases hr : x s with ⟨e | a, t⟩
  · rw [bind_error hr]
    rw [hr] at hgood hrecord
    exact ⟨hgood, iff_of_false hrecord Bool.false_ne_true⟩
  · rw [bind_ok hr]
    rw [hr] at hgood hrecord
    exact hf a (hP s a t hr) t hgood hrecord

theorem Records.bind {x : Action σ ε α} {f : α → Action σ ε β} (hx : Calm Good R x)
    (hf : ∀ a, Records Good R (f a)) : Records Good R (x >>= f) :=
  Records.bind_of hx (fun _ _ _ _ => trivial) fun a _ => hf a

theorem Records.returns {x : Action σ ε α} (hx : Records Good R x) (f : α → β) :
    Records Good R (x >>= fun a => Pure.pure (f a)) := by
  intro s hs hR
  have h := hx s hs hR
  rcases hr : x s with ⟨e | a, t⟩
  · rw [bind_error hr]
    rwa [hr] at h
  · rw [bind_ok hr]
    rwa [hr] at h

theorem After.pure (a : α) : (pure a : Script σ ε (Part χ) α).After Good R := trivial

theorem After.ofAction {x : Action σ ε α} (h : Calm Good R x) :
    (ofAction (.other : Part χ) x).After Good R :=
  ⟨rfl, h, fun _ => trivial⟩

theorem After.stopIf (c : Prop) [Decidable c] (e : ε) :
    (stopIf c e : Script σ ε (Part χ) Unit).After Good R := by
  unfold Script.stopIf
  split <;> trivial

theorem After.orStop (o : Option α) (e : ε) :
    (orStop o e : Script σ ε (Part χ) α).After Good R := by
  cases o <;> trivial

theorem After.ofExcept (r : Except ε α) :
    (ofExcept r : Script σ ε (Part χ) α).After Good R := by
  cases r <;> trivial

theorem After.bind {p : Script σ ε (Part χ) α} {f : α → Script σ ε (Part χ) β}
    (hp : p.After Good R) (hf : ∀ a, (f a).After Good R) : (p >>= f).After Good R := by
  induction p with
  | done a => exact hf a
  | stop e => trivial
  | call tag x k ih => exact ⟨hp.1, hp.2.1, fun b => ih b (hp.2.2 b)⟩

/-- Looking for the record. -/
theorem Before.look [DecidablePred R] {f : Bool → Script σ ε (Part χ) α}
    (hrepeated : (f true).After Good R) (hnew : (f false).Pending Good R []) :
    (ofAction (.look : Part χ) (peek fun s => decide (R s)) >>= f).Before Good R := by
  intro s _
  refine ⟨decide (R s), rfl, fun h => ?_, fun h => ?_⟩
  · rw [decide_eq_true h]
    exact hrepeated
  · rw [decide_eq_false h]
    exact hnew

theorem Changing.of_after {p : Script σ ε (Part χ) α} (h : p.After Good R) (allowed : List χ) :
    p.Changing Good R allowed := by
  induction p with
  | done a => trivial
  | stop e => trivial
  | call tag x k ih =>
    obtain ⟨rfl, hx, hk⟩ := h
    exact ⟨hx, fun b => ih b (hk b)⟩

/-- One change. -/
theorem Changing.change {c : χ} {x : Action σ ε α} (hx : Calm Good R x) :
    (ofAction (.change c) x).Changing Good R [c] :=
  ⟨hx, [], List.Sublist.refl _, fun _ => trivial⟩

theorem Changing.attempt {c : χ} {x : Action σ ε α} (hx : Calm Good R x) :
    (ofAction (.attempt c) x).Changing Good R [c] :=
  ⟨hx, [], List.Sublist.refl _, fun _ => trivial⟩

theorem Changing.weaken {allowed more : List χ} {p : Script σ ε (Part χ) α}
    (h : p.Changing Good R allowed) (hmore : allowed.Sublist more) : p.Changing Good R more := by
  induction p generalizing allowed more with
  | done a => trivial
  | stop e => trivial
  | call tag x k ih =>
    cases tag with
    | other => exact ⟨h.1, fun b => ih b (h.2 b) hmore⟩
    | look => exact h
    | change c | attempt c =>
      obtain ⟨hx, rest, hrest, hk⟩ := h
      exact ⟨hx, rest, hrest.trans hmore, hk⟩

theorem Changing.bind {first second : List χ} {p : Script σ ε (Part χ) α}
    {f : α → Script σ ε (Part χ) β} (hp : p.Changing Good R first)
    (hf : ∀ a, (f a).Changing Good R second) : (p >>= f).Changing Good R (first ++ second) := by
  induction p generalizing first with
  | done a => exact (hf a).weaken (List.sublist_append_right _ _)
  | stop e => trivial
  | call tag x k ih =>
    cases tag with
    | other => exact ⟨hp.1, fun b => ih b (hp.2 b)⟩
    | look => exact hp
    | change c | attempt c =>
      obtain ⟨hx, rest, hrest, hk⟩ := hp
      refine ⟨hx, rest ++ second, ?_, fun b => ih b (hk b)⟩
      have happend := List.Sublist.append_right hrest second
      rwa [List.cons_append] at happend

/-- Changes before the last one. -/
theorem Pending.after_changes {allowed passed : List χ} {p : Script σ ε (Part χ) α}
    {f : α → Script σ ε (Part χ) β} (hp : p.Changing Good R allowed) (hallowed : allowed.Nodup)
    (hnew : ∀ c ∈ allowed, c ∉ passed)
    (hf : ∀ a passed', (∀ c ∈ passed', c ∈ passed ∨ c ∈ allowed) →
      (f a).Pending Good R passed') : (p >>= f).Pending Good R passed := by
  induction p generalizing allowed passed with
  | done a => exact hf a passed fun c hc => Or.inl hc
  | stop e => trivial
  | call tag x k ih =>
    have hgo : ∀ (c : χ) (rest : List χ), (c :: rest).Sublist allowed →
        (∀ b, (k b).Changing Good R rest) → ∀ b, (k b >>= f).Pending Good R (passed ++ [c]) := by
      intro c rest hrest hk b
      have hdistinct := hallowed.sublist hrest
      rw [List.nodup_cons] at hdistinct
      refine ih b (hk b) hdistinct.2 (fun d hd hmem => ?_) fun a passed' hpassed => ?_
      · rw [List.mem_append, List.mem_singleton] at hmem
        rcases hmem with hmem | rfl
        · exact hnew d (hrest.subset (List.mem_cons_of_mem c hd)) hmem
        · exact hdistinct.1 hd
      · refine hf a passed' fun d hd => ?_
        rcases hpassed d hd with hmem | hmem
        · rw [List.mem_append, List.mem_singleton] at hmem
          refine hmem.imp_right fun hdc => ?_
          rw [hdc]
          exact hrest.subset List.mem_cons_self
        · exact Or.inr (hrest.subset (List.mem_cons_of_mem c hmem))
    cases tag with
    | other => exact ⟨hp.1, fun b => ih b (hp.2 b) hallowed hnew hf⟩
    | look => exact hp.elim
    | attempt c =>
      obtain ⟨hx, rest, hrest, hk⟩ := hp
      exact ⟨hnew c (hrest.subset List.mem_cons_self), hx, hgo c rest hrest hk⟩
    | change c =>
      obtain ⟨hx, rest, hrest, hk⟩ := hp
      refine ⟨hnew c (hrest.subset List.mem_cons_self), fun s hs hR => ?_⟩
      have hrecord := (not_congr (hx.record hs)).2 hR
      exact ⟨hx.good hs, fun _ _ => hrecord, fun b _ => Or.inr ⟨hrecord, hgo c rest hrest hk b⟩⟩

/-- The last change. -/
theorem Pending.last {passed : List χ} {c : χ} {x : Action σ ε α}
    {f : α → Script σ ε (Part χ) β} (hc : c ∉ passed) (hx : Records Good R x)
    (hf : ∀ a, (f a).After Good R) : (ofAction (.change c) x >>= f).Pending Good R passed := by
  refine ⟨hc, fun s hs hR => ?_⟩
  obtain ⟨hgood, hrecord⟩ := hx s hs hR
  refine ⟨hgood, fun e he => ?_, fun b hb => Or.inl ⟨?_, hf b⟩⟩
  · rw [hrecord, he]
    exact Bool.false_ne_true
  · rw [hrecord, hb]
    rfl

theorem After.before {p : Script σ ε (Part χ) α} (h : p.After Good R) : p.Before Good R := by
  induction p with
  | done a => trivial
  | stop e => trivial
  | call tag x k ih =>
    obtain ⟨rfl, hx, hk⟩ := h
    exact ⟨hx, fun b => ih b (hk b)⟩

end Rules

def isDone : Script σ ε (Part χ) α → Bool
  | .done _ => true
  | _ => false

/-- The next call looks for the record. -/
def looks : Script σ ε (Part χ) α → Bool
  | .call .look _ _ => true
  | _ => false

end Script

/-! ## Requests on one state -/

variable {ι σ ε χ : Type}

/-- A request: the calls that are left, and the changes it has made since it found no record. -/
structure Request (σ ε χ : Type) where
  script : Script σ ε (Part χ) Unit
  passed : Option (List χ)

def Request.idle : Request σ ε χ := ⟨.done (), none⟩

/-- Where a request is in the pattern. -/
def Request.Follows (Good R : σ → Prop) (request : Request σ ε χ) : Prop :=
  match request.passed with
  | none => request.script.Before Good R
  | some passed => request.script.Pending Good R passed

/-- `changes` are the changes made so far, and `torn` says that a request has stopped after it
began to change the state and before it left the record. -/
structure Requests (ι σ ε χ : Type) where
  store : σ
  requests : ι → Request σ ε χ
  changes : List χ
  torn : Bool

namespace Requests

/-- No request has come in. -/
def quiet (store : σ) : Requests ι σ ε χ where
  store := store
  requests _ := .idle
  changes := []
  torn := false

section Calls

variable [DecidableEq ι] (R : σ → Prop) [DecidablePred R]

def receive (sys : Requests ι σ ε χ) (j : ι) (script : Script σ ε (Part χ) Unit) :
    Requests ι σ ε χ :=
  { sys with requests := Function.update sys.requests j ⟨script, none⟩ }

/-- Request `j` stops, with the given changes made by then. -/
def stop (sys : Requests ι σ ε χ) (j : ι) (store : σ) (changes : List χ) : Requests ι σ ε χ where
  store := store
  requests := Function.update sys.requests j .idle
  changes := changes
  torn := sys.torn || ((sys.requests j).passed.isSome && !changes.isEmpty)

/-- What a request has changed after a call that returned. -/
def passedAfter (before after : σ) (passed : Option (List χ)) : Part χ → Option (List χ)
  | .look => if R before then none else some []
  | tag => if R after then none else passed.map fun passed => passed ++ tag.made true

/-- The next call of request `j`. -/
def call (sys : Requests ι σ ε χ) (j : ι) : Requests ι σ ε χ :=
  match (sys.requests j).script with
  | .done _ => sys
  | .stop _ => sys.stop j sys.store sys.changes
  | .call tag x k =>
    match x sys.store with
    | (.error _, store) => sys.stop j store (sys.changes ++ tag.made false)
    | (.ok b, store) =>
      { sys with
        store := store
        requests := Function.update sys.requests j
          ⟨k b, passedAfter R sys.store store (sys.requests j).passed tag⟩
        changes := sys.changes ++ tag.made true }

theorem call_done {sys : Requests ι σ ε χ} {j : ι} {u : Unit}
    (h : (sys.requests j).script = .done u) : sys.call R j = sys := by
  unfold call
  rw [h]

theorem call_stop {sys : Requests ι σ ε χ} {j : ι} {e : ε}
    (h : (sys.requests j).script = .stop e) :
    sys.call R j = sys.stop j sys.store (sys.changes ++ []) := by
  unfold call
  rw [h, List.append_nil]

section Call

variable {sys : Requests ι σ ε χ} {j : ι} {β : Type} {tag : Part χ} {x : Action σ ε β}
  {k : β → Script σ ε (Part χ) Unit}

theorem call_error {e : ε} {store : σ} (h : (sys.requests j).script = .call tag x k)
    (hr : x sys.store = (.error e, store)) :
    sys.call R j = sys.stop j store (sys.changes ++ tag.made false) := by
  unfold call
  rw [h]
  dsimp only
  rw [hr]

theorem call_ok {b : β} {store : σ} (h : (sys.requests j).script = .call tag x k)
    (hr : x sys.store = (.ok b, store)) : sys.call R j = { sys with
      store := store
      requests := Function.update sys.requests j
        ⟨k b, passedAfter R sys.store store (sys.requests j).passed tag⟩
      changes := sys.changes ++ tag.made true } := by
  unfold call
  rw [h]
  dsimp only
  rw [hr]

end Call

/-- A call of a request is a call of its script. -/
theorem call_advances (sys : Requests ι σ ε χ) (j : ι) :
    (((sys.call R j).requests j).script, (sys.call R j).store) =
      (sys.requests j).script.advance sys.store := by
  cases hscript : (sys.requests j).script with
  | done a =>
    rw [call_done R hscript, hscript]
    rfl
  | stop e =>
    rw [call_stop R hscript]
    refine Prod.ext ?_ rfl
    change (Function.update sys.requests j Request.idle j).script = _
    rw [Function.update_self]
    rfl
  | call tag x k =>
    unfold Script.advance
    rcases hr : x sys.store with ⟨e | b, store⟩
    · rw [call_error R hscript hr]
      simp only [hr]
      refine Prod.ext ?_ rfl
      change (Function.update sys.requests j Request.idle j).script = _
      rw [Function.update_self]
      rfl
    · rw [call_ok R hscript hr]
      simp only [hr, Function.update_self]

/-- **A request that nobody interrupts does what its script does.** -/
theorem call_finishes (sys : Requests ι σ ε χ) (j : ι) :
    ∃ n, ((fun sys : Requests ι σ ε χ => sys.call R j)^[n] sys).store =
      ((sys.requests j).script.run sys.store).2 := by
  obtain ⟨n, hn⟩ := (sys.requests j).script.advances sys.store
  have hview : Function.Semiconj
      (fun sys : Requests ι σ ε χ => ((sys.requests j).script, sys.store))
      (fun sys => sys.call R j) fun a => a.1.advance a.2 := fun sys => call_advances R sys j
  have hfinal := hview.iterate_right n sys
  rw [hn] at hfinal
  exact ⟨n, congrArg Prod.snd hfinal⟩

/-- Request `j` finds no record although another one is between its look and its record, or has
stopped there. -/
def Overlaps (sys : Requests ι σ ε χ) (j : ι) : Prop :=
  (sys.requests j).script.looks = true ∧ ¬ R sys.store ∧
    (sys.torn = true ∨ ∃ k, (sys.requests k).passed.isSome = true)

end Calls

/-! ## Once -/

section Invariant

variable (Good R : σ → Prop)

/-- At most one request is between its look and its record. -/
structure Once (sys : Requests ι σ ε χ) : Prop where
  good : Good sys.store
  follows : ∀ j, (sys.requests j).Follows Good R
  single : ∀ j k, (sys.requests j).passed ≠ none → (sys.requests k).passed ≠ none → j = k
  pending : ∀ j passed, (sys.requests j).passed = some passed →
    ¬ R sys.store ∧ sys.torn = false ∧ ∀ c ∈ sys.changes, c ∈ passed
  fresh : (∀ j, (sys.requests j).passed = none) → ¬ R sys.store → sys.torn = false →
    sys.changes = []
  nodup : sys.changes.Nodup

variable {Good R} {sys : Requests ι σ ε χ}

theorem Once.quiet {store : σ} (h : Good store) :
    Once Good R (Requests.quiet store : Requests ι σ ε χ) where
  good := h
  follows _ := trivial
  single _ _ h := absurd rfl h
  pending _ _ h := by cases h
  fresh _ _ _ := rfl
  nodup := List.nodup_nil

/-- The state changes and the record does not. -/
theorem Once.elsewhere (h : Once Good R sys) {store : σ} (hgood : Good store)
    (hrecord : R store ↔ R sys.store) : Once Good R { sys with store := store } where
  good := hgood
  follows := h.follows
  single := h.single
  pending j passed hj := by
    obtain ⟨hR, hrest⟩ := h.pending j passed hj
    exact ⟨fun hR' => hR (hrecord.1 hR'), hrest⟩
  fresh hquiet hR := h.fresh hquiet fun hR' => hR (hrecord.2 hR')
  nodup := h.nodup

variable [DecidableEq ι]

/-- A request goes on, and neither the record nor what it may have changed is touched. -/
theorem Once.still (h : Once Good R sys) {j : ι} {t : Requests ι σ ε χ} {r : Request σ ε χ}
    (hrequests : t.requests = Function.update sys.requests j r)
    (hsame : r.passed = (sys.requests j).passed) (hfollows : r.Follows Good R)
    (hgood : Good t.store) (hrecord : R t.store ↔ R sys.store)
    (hrest : t.changes = sys.changes ∧ t.torn = sys.torn) : Once Good R t := by
  have hpassed : ∀ k, (t.requests k).passed = (sys.requests k).passed := by
    intro k
    rw [hrequests]
    by_cases hk : k = j
    · rw [hk, Function.update_self, hsame]
    · rw [Function.update_of_ne hk]
  refine ⟨hgood, fun k => ?_, fun k l hk hl => ?_, fun k passed hk => ?_, fun hquiet hR htorn => ?_,
    hrest.1 ▸ h.nodup⟩
  · rw [hrequests]
    by_cases hk : k = j
    · rw [hk, Function.update_self]
      exact hfollows
    · rw [Function.update_of_ne hk]
      exact h.follows k
  · rw [hpassed] at hk hl
    exact h.single k l hk hl
  · rw [hpassed] at hk
    rw [hrecord, hrest.1, hrest.2]
    exact h.pending k passed hk
  · rw [hrest.1]
    exact h.fresh (fun k => (hpassed k).symm.trans (hquiet k)) (fun hR' => hR (hrecord.2 hR'))
      (hrest.2 ▸ htorn)

/-- A request that is done leaves its place to another one. -/
theorem Once.receive (h : Once Good R sys) {j : ι} {script : Script σ ε (Part χ) Unit}
    (hidle : (sys.requests j).script.isDone = true) (hscript : script.Before Good R) :
    Once Good R (sys.receive j script) := by
  refine h.still (j := j) rfl ?_ hscript h.good Iff.rfl ⟨rfl, rfl⟩
  have hfollows := h.follows j
  unfold Request.Follows at hfollows
  cases hpassed : (sys.requests j).passed with
  | none => rfl
  | some passed =>
    rw [hpassed] at hfollows
    cases hdone : (sys.requests j).script with
    | done a =>
      rw [hdone] at hfollows
      exact hfollows.elim
    | stop e =>
      rw [hdone] at hidle
      cases hidle
    | call tag x k =>
      rw [hdone] at hidle
      cases hidle

omit [DecidableEq ι] in
/-- While a request is between its look and its record, all others are not. -/
theorem Once.others (h : Once Good R sys) {j : ι} (hj : (sys.requests j).passed ≠ none) {k : ι}
    (hk : k ≠ j) : (sys.requests k).passed = none := by
  by_contra hne
  exact hk (h.single k j hne hj)

/-- A request finds no record, and no other one is under way. -/
theorem Once.begins (h : Once Good R sys) {j : ι} {t : Requests ι σ ε χ}
    {script : Script σ ε (Part χ) Unit}
    (hrequests : t.requests = Function.update sys.requests j ⟨script, some []⟩)
    (hscript : script.Pending Good R []) (hquiet : ∀ k, (sys.requests k).passed = none)
    (hR : ¬ R sys.store) (htorn : sys.torn = false)
    (hrest : t.store = sys.store ∧ t.changes = sys.changes ∧ t.torn = sys.torn) :
    Once Good R t := by
  have hnone : sys.changes = [] := h.fresh hquiet hR htorn
  have hother : ∀ k, k ≠ j → (t.requests k).passed = none := by
    intro k hk
    rw [hrequests, Function.update_of_ne hk]
    exact hquiet k
  have hself : t.requests j = ⟨script, some []⟩ := by rw [hrequests, Function.update_self]
  obtain ⟨hstore, hchanges, htorn'⟩ := hrest
  have honly : ∀ k, (t.requests k).passed ≠ none → k = j := fun k hk => by
    by_contra hne
    exact hk (hother k hne)
  refine ⟨hstore ▸ h.good, fun k => ?_, fun k l hk hl => (honly k hk).trans (honly l hl).symm,
    fun k passed hk => ?_, fun hall => ?_, hchanges ▸ h.nodup⟩
  · by_cases hk : k = j
    · rw [hk, hself]
      exact hscript
    · rw [hrequests, Function.update_of_ne hk]
      exact h.follows k
  · rw [hstore, hchanges, htorn', hnone]
    exact ⟨hR, htorn, fun c hc => by cases hc⟩
  · have hj := hall j
    rw [hself] at hj
    cases hj

/-- The request that is under way goes on, with the changes `made`. -/
theorem Once.goes (h : Once Good R sys) {j : ι} {passed made : List χ}
    (hpassed : (sys.requests j).passed = some passed) (hmade : made.Nodup ∧ ∀ c ∈ made, c ∉ passed)
    {t : Requests ι σ ε χ} {r : Request σ ε χ}
    (hrequests : t.requests = Function.update sys.requests j r)
    (hfollows : r.Follows Good R) (hgood : Good t.store)
    (hchanges : t.changes = sys.changes ++ made)
    (hon : ∀ passed', r.passed = some passed' →
      passed' = passed ++ made ∧ ¬ R t.store ∧ t.torn = false)
    (hend : r.passed = none → ¬ R t.store → t.torn = false → t.changes = []) :
    Once Good R t := by
  obtain ⟨-, -, hbound⟩ := h.pending j passed hpassed
  have hself : t.requests j = r := by rw [hrequests, Function.update_self]
  have honly : ∀ k, (t.requests k).passed ≠ none → k = j := fun k hk => by
    by_contra hne
    rw [hrequests, Function.update_of_ne hne] at hk
    exact hk (h.others (by simp [hpassed]) hne)
  refine ⟨hgood, fun k => ?_, fun k l hk hl => (honly k hk).trans (honly l hl).symm,
    fun k passed' hk => ?_, fun hall => ?_, ?_⟩
  · by_cases hk : k = j
    · rw [hk, hself]
      exact hfollows
    · rw [hrequests, Function.update_of_ne hk]
      exact h.follows k
  · have hkj : k = j := honly k (by simp [hk])
    rw [hkj, hself] at hk
    obtain ⟨rfl, hR, htorn⟩ := hon passed' hk
    refine ⟨hR, htorn, fun c hc => ?_⟩
    rw [hchanges, List.mem_append] at hc
    rw [List.mem_append]
    exact hc.imp_left (hbound c)
  · exact hend (hself ▸ hall j)
  · rw [hchanges]
    exact h.nodup.append hmade.1 fun c hc hc' => hmade.2 c hc' (hbound c hc)

/-- A request stops. -/
theorem Once.stop (h : Once Good R sys) (j : ι) {store : σ} {made : List χ} (hgood : Good store)
    (hmade : ∀ passed, (sys.requests j).passed = some passed →
      made.Nodup ∧ ∀ c ∈ made, c ∉ passed)
    (hnone : (sys.requests j).passed = none → made = [] ∧ (R store ↔ R sys.store)) :
    Once Good R (sys.stop j store (sys.changes ++ made)) := by
  cases hpassed : (sys.requests j).passed with
  | none =>
    obtain ⟨rfl, hsame⟩ := hnone hpassed
    refine h.still (j := j) (r := .idle) rfl hpassed.symm trivial hgood hsame ⟨?_, ?_⟩
    · exact List.append_nil _
    · change (sys.torn || _) = _
      rw [hpassed]
      simp
  | some passed =>
    refine h.goes hpassed (hmade passed hpassed) (r := .idle) rfl trivial hgood rfl
      (fun passed' hnot => by cases hnot) fun _ hR htorn => ?_
    change (sys.torn || _) = false at htorn
    rw [hpassed] at htorn
    have hempty := (Bool.or_eq_false_iff.1 htorn).2
    rw [Option.isSome_some, Bool.true_and, Bool.not_eq_false'] at hempty
    exact List.isEmpty_iff.1 hempty

variable [DecidablePred R]

/-- A call of a request that is not between its look and its record. -/
theorem Once.callBefore (h : Once Good R sys) {j : ι} (hguard : ¬ sys.Overlaps R j)
    (hpassed : (sys.requests j).passed = none) : Once Good R (sys.call R j) := by
  have hfollows : (sys.requests j).script.Before Good R := by
    have hj := h.follows j
    unfold Request.Follows at hj
    rwa [hpassed] at hj
  have hstop : ∀ {store : σ}, Good store → (R store ↔ R sys.store) →
      Once Good R (sys.stop j store (sys.changes ++ [])) := by
    intro store hgood hrecord
    refine h.stop j hgood (fun passed hsome => ?_) fun _ => ⟨rfl, hrecord⟩
    rw [hpassed] at hsome
    cases hsome
  have hstill : ∀ {store : σ} {script : Script σ ε (Part χ) Unit}, Good store →
      (R store ↔ R sys.store) → script.Before Good R → Once Good R { sys with
        store := store
        requests := Function.update sys.requests j ⟨script, none⟩
        changes := sys.changes ++ [] } := fun hgood hrecord hscript =>
    h.still (j := j) rfl hpassed.symm hscript hgood hrecord ⟨List.append_nil _, rfl⟩
  cases hscript : (sys.requests j).script with
  | done a =>
    rw [call_done R hscript]
    exact h
  | stop e =>
    rw [call_stop R hscript]
    exact hstop h.good Iff.rfl
  | call tag x k =>
    rw [hscript] at hfollows
    cases tag with
    | change c => exact hfollows.elim
    | attempt c => exact hfollows.elim
    | other =>
      obtain ⟨hcalm, hk⟩ := hfollows
      have hgood := hcalm.good h.good
      have hrecord := hcalm.record h.good
      rcases hr : x sys.store with ⟨e | b, store⟩
      · rw [hr] at hgood hrecord
        rw [call_error R hscript hr]
        exact hstop hgood hrecord
      · rw [hr] at hgood hrecord
        rw [call_ok R hscript hr, hpassed]
        simp only [passedAfter, Option.map_none, ite_self]
        exact hstill hgood hrecord (hk b)
    | look =>
      obtain ⟨b, hb, hrepeated, hnew⟩ := hfollows sys.store h.good
      rw [call_ok R hscript hb]
      by_cases hR : R sys.store
      · simp only [passedAfter, if_pos hR]
        exact hstill h.good Iff.rfl (hrepeated hR).before
      · simp only [passedAfter, if_neg hR]
        have hfree : ¬ (sys.torn = true ∨ ∃ k, (sys.requests k).passed.isSome = true) :=
          fun hbusy => hguard ⟨by rw [hscript]; rfl, hR, hbusy⟩
        rw [not_or, not_exists] at hfree
        exact h.begins (j := j) rfl (hnew hR)
          (fun k => Option.not_isSome_iff_eq_none.1 (hfree.2 k)) hR (Bool.eq_false_iff.2 hfree.1)
          ⟨rfl, List.append_nil _, rfl⟩

/-- A call of the request that is between its look and its record. -/
theorem Once.callPending (h : Once Good R sys) {j : ι} {passed : List χ}
    (hpassed : (sys.requests j).passed = some passed) : Once Good R (sys.call R j) := by
  obtain ⟨hR, htorn, -⟩ := h.pending j passed hpassed
  have hfollows : (sys.requests j).script.Pending Good R passed := by
    have hj := h.follows j
    unfold Request.Follows at hj
    rwa [hpassed] at hj
  have hstop : ∀ {store : σ} {made : List χ}, Good store → made.Nodup ∧ (∀ c ∈ made, c ∉ passed) →
      Once Good R (sys.stop j store (sys.changes ++ made)) := by
    intro store made hgood hmade
    refine h.stop j hgood (fun passed' hsome => ?_) fun hnone => ?_
    · rw [hpassed] at hsome
      cases hsome
      exact hmade
    · rw [hpassed] at hnone
      cases hnone
  have hempty : ([] : List χ).Nodup ∧ ∀ c ∈ ([] : List χ), c ∉ passed :=
    ⟨List.nodup_nil, fun c hc => by cases hc⟩
  have hgoes : ∀ {store : σ} {made : List χ} {script : Script σ ε (Part χ) Unit}, Good store →
      ¬ R store → made.Nodup ∧ (∀ c ∈ made, c ∉ passed) →
      script.Pending Good R (passed ++ made) → Once Good R { sys with
        store := store
        requests := Function.update sys.requests j ⟨script, some (passed ++ made)⟩
        changes := sys.changes ++ made } := by
    intro store made script hgood hnone hmade hscript
    refine h.goes hpassed hmade (r := ⟨script, some (passed ++ made)⟩) rfl hscript hgood rfl
      (fun passed' hsome => ?_) fun hnot => by cases hnot
    cases hsome
    exact ⟨rfl, hnone, htorn⟩
  cases hscript : (sys.requests j).script with
  | done a =>
    rw [call_done R hscript]
    exact h
  | stop e =>
    rw [call_stop R hscript]
    exact hstop h.good hempty
  | call tag x k =>
    rw [hscript] at hfollows
    cases tag with
    | look => exact hfollows.elim
    | other =>
      obtain ⟨hcalm, hk⟩ := hfollows
      have hgood := hcalm.good h.good
      have hrecord := (not_congr (hcalm.record h.good)).2 hR
      rcases hr : x sys.store with ⟨e | b, store⟩
      · rw [hr] at hgood
        rw [call_error R hscript hr]
        exact hstop hgood hempty
      · rw [hr] at hgood hrecord
        rw [call_ok R hscript hr, hpassed]
        simp only [passedAfter, if_neg hrecord, Option.map_some]
        have hpending : (k b).Pending Good R (passed ++ []) := by
          rw [List.append_nil]
          exact hk b
        exact hgoes hgood hrecord hempty hpending
    | attempt c =>
      obtain ⟨hc, hcalm, hk⟩ := hfollows
      have hmade : [c].Nodup ∧ ∀ d ∈ [c], d ∉ passed := by simpa using hc
      have hgood := hcalm.good h.good
      have hrecord := (not_congr (hcalm.record h.good)).2 hR
      rcases hr : x sys.store with ⟨e | b, store⟩
      · rw [hr] at hgood
        rw [call_error R hscript hr]
        exact hstop hgood hmade
      · rw [hr] at hgood hrecord
        rw [call_ok R hscript hr, hpassed]
        simp only [passedAfter, if_neg hrecord, Option.map_some]
        exact hgoes hgood hrecord hmade (hk b)
    | change c =>
      obtain ⟨hc, hx⟩ := hfollows
      have hmade : [c].Nodup ∧ ∀ d ∈ [c], d ∉ passed := by simpa using hc
      obtain ⟨hgood, -, hok⟩ := hx sys.store h.good hR
      rcases hr : x sys.store with ⟨e | b, store⟩
      · rw [hr] at hgood
        rw [call_error R hscript hr]
        exact hstop hgood hempty
      · rw [hr] at hgood hok
        rw [call_ok R hscript hr, hpassed]
        rcases hok b rfl with ⟨hrecord, hafter⟩ | ⟨hrecord, hpending⟩
        · simp only [passedAfter, if_pos hrecord]
          exact h.goes hpassed hmade (r := ⟨k b, none⟩) rfl hafter.before hgood rfl
            (fun passed' hnot => by cases hnot) fun _ hnot => absurd hrecord hnot
        · simp only [passedAfter, if_neg hrecord, Option.map_some]
          exact hgoes hgood hrecord hmade hpending

/-- **A call that does not overlap.** -/
theorem Once.call (h : Once Good R sys) (j : ι) (hguard : ¬ sys.Overlaps R j) :
    Once Good R (sys.call R j) := by
  cases hpassed : (sys.requests j).passed with
  | none => exact h.callBefore hguard hpassed
  | some passed => exact h.callPending hpassed

end Invariant

end Requests

-- from here on the rules are used, and unification is not to run a script
attribute [irreducible] Script.After Script.Changing Script.Pending Script.Before

end Effects
