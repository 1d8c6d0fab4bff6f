import Mathlib.Data.List.Basic

/-!
# Disks that forget what was not synced

A disk keeps its state of the last sync and the operations since then, oldest first.  What a
program reads is the state after all of them.  A crash keeps any of them, in their order, and may
damage what it keeps.

* `Disk.write`, `Disk.sync`, `Disk.Crash` — the moves of a disk.
* `Lasting I S` — the durable state has `I`, and every operation since is one that keeps it.
* `Lasting.current`, `Lasting.write`, `Lasting.sync`, `Lasting.crash` — what lasts survives every
  move, and `lasting_sync` — what is synced lasts.
-/

set_option autoImplicit false

namespace Storage

universe u v

variable {σ : Type u} {ω : Type v}

/-- What is durable, and what a crash may lose. -/
structure Disk (σ : Type u) (ω : Type v) where
  durable : σ
  /-- the operations since the last sync, oldest first -/
  pending : List ω := []

namespace Disk

variable (apply : σ → ω → σ)

/-- What is read. -/
def current (d : Disk σ ω) : σ := d.pending.foldl apply d.durable

def write (d : Disk σ ω) (o : ω) : Disk σ ω := { d with pending := d.pending ++ [o] }

def sync (d : Disk σ ω) : Disk σ ω := { durable := d.current apply }

/-- The disk after a crash: some of the operations were carried out, and `damage` was done. -/
def crashed (damage : σ → σ) (d : Disk σ ω) (kept : List ω) : Disk σ ω :=
  { durable := damage (kept.foldl apply d.durable) }

@[simp] theorem current_mk_nil (s : σ) : (⟨s, []⟩ : Disk σ ω).current apply = s := rfl

@[simp] theorem current_sync (d : Disk σ ω) : (d.sync apply).current apply = d.current apply := rfl

@[simp] theorem current_write (d : Disk σ ω) (o : ω) :
    (d.write o).current apply = apply (d.current apply) o := by
  unfold current write
  rw [List.foldl_append]
  rfl

@[simp] theorem current_crashed (damage : σ → σ) (d : Disk σ ω) (kept : List ω) :
    (d.crashed apply damage kept).current apply = damage (kept.foldl apply d.durable) := rfl

end Disk

/-- The durable state has `I`, and the operations since are safe. -/
structure Lasting (I : σ → Prop) (S : ω → Prop) (d : Disk σ ω) : Prop where
  durable : I d.durable
  pending : ∀ o ∈ d.pending, S o

section Lasting

variable {apply : σ → ω → σ} {I : σ → Prop} {S : ω → Prop} {d : Disk σ ω}

theorem foldl_safe (hsafe : ∀ s o, I s → S o → I (apply s o)) :
    ∀ {os : List ω} {s : σ}, I s → (∀ o ∈ os, S o) → I (os.foldl apply s)
  | [], _, hs, _ => hs
  | o :: os, s, hs, hos => by
    have hnext := hsafe s o hs (hos o List.mem_cons_self)
    rw [List.foldl_cons]
    exact foldl_safe hsafe hnext fun o ho => hos o (List.mem_cons_of_mem _ ho)

theorem Lasting.current (h : Lasting I S d) (hsafe : ∀ s o, I s → S o → I (apply s o)) :
    I (d.current apply) := foldl_safe hsafe h.durable h.pending

theorem Lasting.write (h : Lasting I S d) {o : ω} (ho : S o) : Lasting I S (d.write o) := by
  refine ⟨h.durable, fun o' ho' => ?_⟩
  rcases List.mem_append.1 ho' with ho' | ho'
  · exact h.pending o' ho'
  · rw [List.mem_singleton.1 ho']
    exact ho

/-- **What is synced lasts.** -/
theorem lasting_sync (h : I (d.current apply)) : Lasting I S (d.sync apply) :=
  ⟨h, fun _ ho => by cases ho⟩

/-- **What lasts survives a crash that does not damage it.** -/
theorem Lasting.crash (h : Lasting I S d) (hsafe : ∀ s o, I s → S o → I (apply s o))
    {damage : σ → σ} (hdamage : ∀ s, I s → I (damage s)) {kept : List ω}
    (hkept : kept.Sublist d.pending) : Lasting I S (d.crashed apply damage kept) := by
  refine ⟨hdamage _ (foldl_safe hsafe h.durable fun o ho => ?_), fun _ ho => by cases ho⟩
  exact h.pending o (hkept.subset ho)

theorem Lasting.mono {J : σ → Prop} {T : ω → Prop} (h : Lasting I S d) (hI : ∀ s, I s → J s)
    (hS : ∀ o, S o → T o) : Lasting J T d :=
  ⟨hI _ h.durable, fun o ho => hS o (h.pending o ho)⟩

end Lasting

end Storage
