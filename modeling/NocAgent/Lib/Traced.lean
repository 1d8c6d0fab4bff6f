import Mathlib.Data.List.Forall2
import Mathlib.Data.List.Induction

/-!
# Computations that log what they do and may raise

`Traced ω ε α` is a log of events and either a value or an exception.  Once something has
raised, nothing later is logged.

* `mapT` — a loop over a list, one computation an item; `mapT_result` and `mapT_log` describe a
  loop that returns by its items.
* `Logs` — every logged event satisfies a predicate, with a rule for each way to build a
  computation.
* `Yields` — whatever is returned satisfies a predicate, with the same rules.
* `Justified` — every logged event is allowed by the event immediately before it.
  `justified_flatMap` splits it over a log made of segments of which none leans on the segment
  before it.
-/

set_option autoImplicit false

namespace Effects

universe u v w x

variable {ω : Type u} {ε : Type v} {α : Type w} {β : Type w}

/-- What a computation logged and how it ended. -/
structure Traced (ω : Type u) (ε : Type v) (α : Type w) where
  log : List ω
  result : Except ε α

namespace Traced

/-- Continue with the value, if there is one. -/
def andThen (m : Traced ω ε α) (f : α → Traced ω ε β) : Traced ω ε β :=
  match m.result with
  | .error e => ⟨m.log, .error e⟩
  | .ok a => ⟨m.log ++ (f a).log, (f a).result⟩

instance : Monad (Traced ω ε) where
  pure a := ⟨[], .ok a⟩
  bind := andThen

/-- Log one event. -/
def tell (e : ω) : Traced ω ε PUnit := ⟨[e], .ok ⟨⟩⟩

/-- A step that logs nothing. -/
def orRaise (r : Except ε α) : Traced ω ε α := ⟨[], r⟩

/-- The computation ends without an exception. -/
def Returns (m : Traced ω ε α) : Prop := ∃ a, m.result = .ok a

@[simp] theorem log_pure (a : α) : (pure a : Traced ω ε α).log = [] := rfl

@[simp] theorem result_pure (a : α) : (pure a : Traced ω ε α).result = .ok a := rfl

@[simp] theorem log_tell (e : ω) : (tell e : Traced ω ε PUnit).log = [e] := rfl

@[simp] theorem result_tell (e : ω) : (tell e : Traced ω ε PUnit).result = .ok ⟨⟩ := rfl

@[simp] theorem log_orRaise (r : Except ε α) : (orRaise r : Traced ω ε α).log = [] := rfl

@[simp] theorem result_orRaise (r : Except ε α) : (orRaise r : Traced ω ε α).result = r := rfl

theorem bind_ok {m : Traced ω ε α} {f : α → Traced ω ε β} {a : α} (h : m.result = .ok a) :
    m >>= f = ⟨m.log ++ (f a).log, (f a).result⟩ := by
  change andThen m f = _
  unfold andThen
  rw [h]

theorem bind_error {m : Traced ω ε α} {f : α → Traced ω ε β} {e : ε} (h : m.result = .error e) :
    m >>= f = ⟨m.log, .error e⟩ := by
  change andThen m f = _
  unfold andThen
  rw [h]

instance : LawfulMonad (Traced ω ε) := LawfulMonad.mk' _
  (fun m => by
    change andThen m _ = m
    unfold andThen
    cases h : m.result with
    | error e => cases m; simp_all
    | ok a => cases m; simp_all)
  (fun a f => by rw [bind_ok (result_pure a)]; rfl)
  (fun m f g => by
    cases h : m.result with
    | error e => rw [bind_error h, bind_error h, bind_error rfl]
    | ok a =>
      rw [bind_ok h, bind_ok h]
      cases h' : (f a).result with
      | error e => rw [bind_error h', bind_error (e := e) rfl]
      | ok b => rw [bind_ok h', bind_ok (a := b) rfl, List.append_assoc])

@[simp] theorem log_map (f : α → β) (m : Traced ω ε α) : (f <$> m).log = m.log := by
  rw [← bind_pure_comp]
  cases h : m.result with
  | error e => rw [bind_error h]
  | ok a => rw [bind_ok h]; simp

@[simp] theorem result_map (f : α → β) (m : Traced ω ε α) :
    (f <$> m).result = m.result.map f := by
  rw [← bind_pure_comp]
  cases h : m.result with
  | error e => rw [bind_error h]; rfl
  | ok a => rw [bind_ok h]; rfl

@[simp] theorem log_tell_bind (e : ω) (f : PUnit → Traced ω ε β) :
    (tell e >>= f).log = e :: (f ⟨⟩).log := by
  rw [bind_ok (result_tell e)]; rfl

@[simp] theorem result_tell_bind (e : ω) (f : PUnit → Traced ω ε β) :
    (tell e >>= f).result = (f ⟨⟩).result := by
  rw [bind_ok (result_tell e)]

@[simp] theorem orRaise_bind_ok (a : α) (f : α → Traced ω ε β) :
    (orRaise (.ok a) >>= f) = f a := bind_ok rfl

@[simp] theorem orRaise_bind_error (e : ε) (f : α → Traced ω ε β) :
    (orRaise (.error e) >>= f) = orRaise (.error e) := bind_error rfl

theorem result_bind_eq_ok {m : Traced ω ε α} {f : α → Traced ω ε β} {b : β} :
    (m >>= f).result = .ok b ↔ ∃ a, m.result = .ok a ∧ (f a).result = .ok b := by
  cases h : m.result with
  | error e => simp [bind_error h]
  | ok a => simp [bind_ok h]

theorem returns_bind {m : Traced ω ε α} {f : α → Traced ω ε β} :
    (m >>= f).Returns ↔ ∃ a, m.result = .ok a ∧ (f a).Returns := by
  unfold Returns
  constructor
  · rintro ⟨b, hb⟩
    obtain ⟨a, ha, hfa⟩ := result_bind_eq_ok.1 hb
    exact ⟨a, ha, b, hfa⟩
  · rintro ⟨a, ha, b, hb⟩
    exact ⟨b, result_bind_eq_ok.2 ⟨a, ha, hb⟩⟩

/-- The two log the same and end both well or both badly. -/
def SameOutcome {γ : Type w} (m : Traced ω ε α) (n : Traced ω ε γ) : Prop :=
  m.log = n.log ∧ (m.Returns ↔ n.Returns)

theorem SameOutcome.bind {γ : Type w} (m : Traced ω ε α) {f : α → Traced ω ε β}
    {g : α → Traced ω ε γ} (h : ∀ a, SameOutcome (f a) (g a)) :
    SameOutcome (m >>= f) (m >>= g) := by
  unfold SameOutcome Returns
  cases hm : m.result with
  | error e => simp [bind_error hm]
  | ok a =>
    obtain ⟨hlog, hret⟩ := h a
    rw [bind_ok hm, bind_ok hm]
    exact ⟨by rw [hlog], hret⟩

end Traced

open Traced

/-! ## Loops -/

section Loop

variable {γ : Type x} (f : γ → Traced ω ε α)

/-- `for x in xs: results.append(f(x))`. -/
def mapT : List γ → Traced ω ε (List α)
  | [] => pure []
  | x :: xs => f x >>= fun y => mapT xs >>= fun ys => pure (y :: ys)

theorem mapT_result : ∀ {xs : List γ} {ys : List α},
    (mapT f xs).result = .ok ys ↔ List.Forall₂ (fun x y => (f x).result = .ok y) xs ys
  | [], ys => by
    cases ys <;> simp [mapT]
  | x :: xs, ys => by
    unfold mapT
    rw [result_bind_eq_ok]
    constructor
    · rintro ⟨y, hy, h⟩
      obtain ⟨zs, hzs, h⟩ := result_bind_eq_ok.1 h
      cases h
      exact List.Forall₂.cons hy (mapT_result.1 hzs)
    · intro h
      cases h with
      | cons hy htail =>
        exact ⟨_, hy, result_bind_eq_ok.2 ⟨_, mapT_result.2 htail, rfl⟩⟩

theorem mapT_returns {xs : List γ} : (mapT f xs).Returns ↔ ∀ x ∈ xs, (f x).Returns := by
  induction xs with
  | nil => simp [mapT, Returns]
  | cons x xs ih =>
    unfold mapT
    rw [returns_bind, List.forall_mem_cons, ← ih]
    constructor
    · rintro ⟨y, hy, h⟩
      obtain ⟨ys, hys, -⟩ := returns_bind.1 h
      exact ⟨⟨y, hy⟩, ⟨ys, hys⟩⟩
    · rintro ⟨⟨y, hy⟩, ⟨ys, hys⟩⟩
      exact ⟨y, hy, returns_bind.2 ⟨ys, hys, ⟨_, rfl⟩⟩⟩

/-- A loop all of whose results satisfy `P`. -/
theorem mapT_result_all (P : α → Prop) : ∀ xs : List γ,
    (∃ ys, (mapT f xs).result = .ok ys ∧ ∀ y ∈ ys, P y) ↔
      ∀ x ∈ xs, ∃ y, (f x).result = .ok y ∧ P y
  | [] => by simp [mapT]
  | x :: xs => by
    rw [List.forall_mem_cons, ← mapT_result_all P xs]
    simp only [mapT_result]
    constructor
    · rintro ⟨ys, h, hP⟩
      cases h with
      | cons hy htail =>
        rw [List.forall_mem_cons] at hP
        exact ⟨⟨_, hy, hP.1⟩, _, htail, hP.2⟩
    · rintro ⟨⟨y, hy, hPy⟩, ys, hys, hP⟩
      exact ⟨y :: ys, List.Forall₂.cons hy hys, List.forall_mem_cons.2 ⟨hPy, hP⟩⟩

/-- **A loop that returns has logged what its items logged, in order.** -/
theorem mapT_log {xs : List γ} (h : ∀ x ∈ xs, (f x).Returns) :
    (mapT f xs).log = xs.flatMap fun x => (f x).log := by
  induction xs with
  | nil => rfl
  | cons x xs ih =>
    obtain ⟨y, hy⟩ := h x List.mem_cons_self
    have htail : ∀ z ∈ xs, (f z).Returns := fun z hz => h z (List.mem_cons_of_mem _ hz)
    obtain ⟨ys, hys⟩ := (mapT_returns f).2 htail
    unfold mapT
    rw [bind_ok hy, bind_ok hys, List.flatMap_cons, ih htail]
    simp

end Loop

/-! ## What every event satisfies -/

/-- Every logged event satisfies `P`, however the computation ends. -/
def Logs (P : ω → Prop) (m : Traced ω ε α) : Prop := ∀ e ∈ m.log, P e

section Events

variable {P : ω → Prop}

theorem Logs.pure (a : α) : Logs P (pure a : Traced ω ε α) := nofun

theorem Logs.orRaise (r : Except ε α) : Logs P (orRaise r : Traced ω ε α) := nofun

theorem Logs.tell {e : ω} (h : P e) : Logs P (tell e : Traced ω ε PUnit) := by
  intro e' he
  rw [log_tell, List.mem_singleton] at he
  rwa [he]

/-- **A sequence logs what its parts log.** -/
theorem Logs.bind {m : Traced ω ε α} {f : α → Traced ω ε β} (hm : Logs P m)
    (hf : ∀ a, Logs P (f a)) : Logs P (m >>= f) := by
  intro e he
  cases h : m.result with
  | error x =>
    rw [bind_error h] at he
    exact hm e he
  | ok a =>
    rw [bind_ok h] at he
    rcases List.mem_append.1 he with he | he
    · exact hm e he
    · exact hf a e he

theorem Logs.mapT {γ : Type x} {f : γ → Traced ω ε α} : ∀ {xs : List γ},
    (∀ x ∈ xs, Logs P (f x)) → Logs P (mapT f xs)
  | [], _ => Logs.pure _
  | x :: _, h => (h x List.mem_cons_self).bind fun _ =>
      (Logs.mapT fun z hz => h z (List.mem_cons_of_mem x hz)).bind fun _ => Logs.pure _

end Events

/-! ## What is returned -/

/-- Whatever is returned satisfies `Q`. -/
def Yields (Q : α → Prop) (m : Traced ω ε α) : Prop := ∀ a, m.result = .ok a → Q a

section Results

variable {Q : α → Prop}

theorem Yields.pure {a : α} (h : Q a) : Yields Q (pure a : Traced ω ε α) := by
  intro b hb
  cases hb
  exact h

theorem Yields.raise (e : ε) : Yields Q (orRaise (.error e) : Traced ω ε α) := nofun

/-- **A sequence returns what its last part does**, from a value that the first part returned. -/
theorem Yields.bind {γ : Type w} {m : Traced ω ε γ} {f : γ → Traced ω ε α}
    (h : ∀ c, m.result = .ok c → Yields Q (f c)) : Yields Q (m >>= f) := by
  intro a ha
  obtain ⟨c, hc, hf⟩ := result_bind_eq_ok.1 ha
  exact h c hc a hf

theorem Yields.map {γ : Type w} {m : Traced ω ε γ} {g : γ → α}
    (h : Yields (fun c => Q (g c)) m) : Yields Q (g <$> m) := by
  intro a ha
  rw [result_map] at ha
  cases hm : m.result with
  | error e =>
    rw [hm] at ha
    cases ha
  | ok c =>
    rw [hm] at ha
    cases ha
    exact h c hm

end Results

/-! ## Loops whose items only may raise -/

section Pure

variable {σ : Type w} {γ : Type x}

/-- `for x in xs: state = f(state, x)`. -/
def foldE (f : σ → γ → Except ε σ) (s : σ) : List γ → Except ε σ
  | [] => .ok s
  | x :: xs =>
    match f s x with
    | .error e => .error e
    | .ok t => foldE f t xs

/-- `[f(x) for x in xs]`. -/
def collectE (f : γ → Except ε α) : List γ → Except ε (List α)
  | [] => .ok []
  | x :: xs =>
    match f x with
    | .error e => .error e
    | .ok y =>
      match collectE f xs with
      | .error e => .error e
      | .ok ys => .ok (y :: ys)

/-- A loop ends well when every item does, if an item's own end does not depend on the state. -/
theorem foldE_ok_iff {f : σ → γ → Except ε σ} {P : γ → Prop}
    (hf : ∀ s x, (∃ t, f s x = .ok t) ↔ P x) : ∀ (xs : List γ) (s : σ),
    (∃ t, foldE f s xs = .ok t) ↔ ∀ x ∈ xs, P x
  | [], s => by simp [foldE]
  | x :: xs, s => by
    rw [List.forall_mem_cons, ← hf s x, foldE]
    cases f s x with
    | error e => simp
    | ok t => simp [foldE_ok_iff hf xs t]

theorem collectE_ok_iff {f : γ → Except ε α} {P : γ → Prop}
    (hf : ∀ x, (∃ y, f x = .ok y) ↔ P x) : ∀ xs : List γ,
    (∃ ys, collectE f xs = .ok ys) ↔ ∀ x ∈ xs, P x
  | [] => by simp [collectE]
  | x :: xs => by
    rw [List.forall_mem_cons, ← hf x, ← collectE_ok_iff hf xs, collectE]
    cases f x with
    | error e => simp
    | ok y => cases collectE f xs <;> simp

end Pure

/-- A relation between the numbered items of one list and the items of another. -/
theorem forall₂_zipIdx {γ : Type x} {R : γ × Nat → α → Prop} {xs : List γ} {ys : List α} :
    List.Forall₂ R xs.zipIdx ys ↔ xs.length = ys.length ∧
      ∀ i x y, xs[i]? = some x → ys[i]? = some y → R (x, i) y := by
  rw [List.forall₂_iff_get]
  refine and_congr (by rw [List.length_zipIdx])
    ⟨fun h i x y hx hy => ?_, fun h i h₁ h₂ => ?_⟩
  · obtain ⟨hi, rfl⟩ := List.getElem?_eq_some_iff.1 hx
    obtain ⟨hj, rfl⟩ := List.getElem?_eq_some_iff.1 hy
    simpa using h i (by simpa using hi) hj
  · have hi : i < xs.length := by simpa using h₁
    simpa using h i xs[i] ys[i] (List.getElem?_eq_getElem hi) (List.getElem?_eq_getElem h₂)

theorem forall₂_exists_right {γ : Type x} {R : γ → α → Prop} {xs : List γ} {ys : List α}
    (h : List.Forall₂ R xs ys) {a : γ} (ha : a ∈ xs) : ∃ y ∈ ys, R a y := by
  induction h with
  | nil => cases ha
  | cons hr _ ih =>
    rcases List.mem_cons.1 ha with rfl | ha
    · exact ⟨_, List.mem_cons_self, hr⟩
    · obtain ⟨y, hy, hR⟩ := ih ha
      exact ⟨y, List.mem_cons_of_mem _ hy, hR⟩

/-! ## Logs whose events are allowed by the event before -/

variable {good : Option ω → ω → Prop}

/-- Every event of the log is allowed by the one before it; `prev` is the event before the log. -/
def Justified (good : Option ω → ω → Prop) : Option ω → List ω → Prop
  | _, [] => True
  | prev, e :: es => good prev e ∧ Justified good (some e) es

/-- The log does not lean on what came before it. -/
def SelfStanding (good : Option ω → ω → Prop) (l : List ω) : Prop :=
  ∀ p, Justified good p l ↔ Justified good none l

theorem justified_append : ∀ (l : List ω) (p : Option ω) (l' : List ω),
    Justified good p (l ++ l') ↔
      Justified good p l ∧ Justified good ((p.toList ++ l).getLast?) l'
  | [], p, l' => by cases p <;> simp [Justified]
  | e :: es, p, l' => by
    simp only [List.cons_append, Justified, justified_append es (some e) l', and_assoc]
    cases p <;> simp

/-- **A log of self-standing segments is justified when each segment is.** -/
theorem justified_flatMap {γ : Type x} {f : γ → List ω} {xs : List γ}
    (h : ∀ x ∈ xs, SelfStanding good (f x)) (p : Option ω) :
    Justified good p (xs.flatMap f) ↔ ∀ x ∈ xs, Justified good none (f x) := by
  induction xs generalizing p with
  | nil => simp [Justified]
  | cons x xs ih =>
    rw [List.flatMap_cons, justified_append, List.forall_mem_cons,
      ih (fun y hy => h y (List.mem_cons_of_mem _ hy)), h x List.mem_cons_self p]

end Effects
