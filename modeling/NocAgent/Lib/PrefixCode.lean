import Mathlib.Data.List.Basic
import Mathlib.Logic.Function.Basic

/-!
# Texts that can be read back from the front

* `ReadsBack enc stops x` — the text of `x` is told apart from every other, and its end is found,
  whatever follows it, as long as what follows starts with a stop.
* `SelfDelimiting` — the same with nothing asked of what follows.
* `terminated`, `sepItems` — the characters of a word up to a closing mark, and items with a
  separator between them.

Principal results: `SelfDelimiting.terminated`, `readsBack_of_avoids`, `sepItems_reads`.
-/

set_option autoImplicit false

namespace PrefixCode

universe u v w

variable {α : Type u} {β : Type v} {σ : Type w}

/-- The text ends here, or a stop follows. -/
def StopsAt (stops : σ → Prop) (rest : List σ) : Prop := ∀ c ∈ rest.head?, stops c

@[simp] theorem stopsAt_nil (stops : σ → Prop) : StopsAt stops [] := by
  simp [StopsAt]

@[simp] theorem stopsAt_cons {stops : σ → Prop} {c : σ} {rest : List σ} :
    StopsAt stops (c :: rest) ↔ stops c := by
  simp [StopsAt]

/-- The text of `x` can be read back from the front of any text in which a stop follows it. -/
def ReadsBack (enc : α → List σ) (stops : σ → Prop) (x : α) : Prop :=
  ∀ ⦃y : α⦄ ⦃r r' : List σ⦄, StopsAt stops r → StopsAt stops r' →
    enc x ++ r = enc y ++ r' → x = y ∧ r = r'

/-- No text is the beginning of another. -/
def SelfDelimiting (enc : α → List σ) : Prop :=
  ∀ ⦃x y : α⦄ ⦃r r' : List σ⦄, enc x ++ r = enc y ++ r' → x = y ∧ r = r'

theorem SelfDelimiting.readsBack {enc : α → List σ} (h : SelfDelimiting enc) (stops : σ → Prop)
    (x : α) : ReadsBack enc stops x := fun _ _ _ _ _ heq => h heq

/-- **Texts that can be read back are different.** -/
theorem injective_of_readsBack {enc : α → List σ} {stops : σ → Prop}
    (h : ∀ x, ReadsBack enc stops x) : Function.Injective enc := fun x _ heq =>
  (h x (stopsAt_nil stops) (stopsAt_nil stops) (congrArg (· ++ []) heq)).1

/-- What is read up to the first stop. -/
theorem eq_of_append_stops {stops : σ → Prop} : ∀ {a b r r' : List σ},
    (∀ c ∈ a, ¬ stops c) → (∀ c ∈ b, ¬ stops c) → StopsAt stops r → StopsAt stops r' →
      a ++ r = b ++ r' → a = b ∧ r = r'
  | [], [], _, _, _, _, _, _, h => ⟨rfl, h⟩
  | [], c :: b, r, _, _, hb, hr, _, h => by
    obtain rfl : r = c :: (b ++ _) := h
    exact absurd (stopsAt_cons.1 hr) (hb c List.mem_cons_self)
  | c :: a, [], _, r', ha, _, _, hr', h => by
    obtain rfl : r' = c :: (a ++ _) := h.symm
    exact absurd (stopsAt_cons.1 hr') (ha c List.mem_cons_self)
  | c :: a, d :: b, _, _, ha, hb, hr, hr', h => by
    obtain ⟨rfl, hrest⟩ := List.cons.inj h
    obtain ⟨rfl, rfl⟩ := eq_of_append_stops (fun x hx => ha x (List.mem_cons_of_mem _ hx))
      (fun x hx => hb x (List.mem_cons_of_mem _ hx)) hr hr' hrest
    exact ⟨rfl, rfl⟩

/-- **Different texts without a stop in them can be read back.** -/
theorem readsBack_of_avoids {enc : α → List σ} {stops : σ → Prop} (hinj : Function.Injective enc)
    (havoid : ∀ x, ∀ c ∈ enc x, ¬ stops c) (x : α) : ReadsBack enc stops x := by
  intro y r r' hr hr' h
  obtain ⟨heq, hrest⟩ := eq_of_append_stops (havoid x) (havoid y) hr hr' h
  exact ⟨hinj heq, hrest⟩

/-! ## Composition -/

/-- One text after another, the first self-delimiting. -/
theorem ReadsBack.after {enc : α → List σ} {enc' : β → List σ} {stops : σ → Prop}
    (henc : SelfDelimiting enc) {x : α} {y : β} (h : ReadsBack enc' stops y) :
    ReadsBack (fun p : α × β => enc p.1 ++ enc' p.2) stops (x, y) := by
  rintro ⟨x', y'⟩ r r' hr hr' heq
  simp only [List.append_assoc] at heq
  obtain ⟨rfl, hrest⟩ := henc heq
  obtain ⟨rfl, rfl⟩ := h hr hr' hrest
  exact ⟨rfl, rfl⟩

/-- A text that starts with something else. -/
theorem append_ne_cons {a : List σ} {d : σ} (h : ∃ c ∈ a.head?, c ≠ d) (r r' : List σ) :
    a ++ r ≠ d :: r' := by
  obtain ⟨c, hc, hne⟩ := h
  cases a with
  | nil => simp at hc
  | cons x a =>
    obtain rfl : x = c := by simpa using hc
    exact fun heq => hne (List.cons.inj heq).1

/-! ## Words between marks -/

/-- The characters of a word, each in its own text, and the closing mark. -/
def terminated (enc : α → List σ) (close : σ) (xs : List α) : List σ := xs.flatMap enc ++ [close]

@[simp] theorem terminated_nil (enc : α → List σ) (close : σ) : terminated enc close [] = [close] :=
  rfl

@[simp] theorem terminated_cons (enc : α → List σ) (close : σ) (x : α) (xs : List α) :
    terminated enc close (x :: xs) = enc x ++ terminated enc close xs := by
  simp [terminated]

/-- **A word up to a mark can be read back** when no character's text starts with the mark. -/
theorem SelfDelimiting.terminated {enc : α → List σ} {close : σ} (henc : SelfDelimiting enc)
    (hstart : ∀ x, ∃ c ∈ (enc x).head?, c ≠ close) :
    SelfDelimiting (terminated enc close) := by
  intro xs
  induction xs with
  | nil =>
    intro ys r r' h
    cases ys with
    | nil => exact ⟨rfl, (List.cons.inj h).2⟩
    | cons y ys =>
      rw [terminated_cons, List.append_assoc] at h
      exact absurd h.symm (append_ne_cons (hstart y) _ _)
  | cons x xs ih =>
    intro ys r r' h
    cases ys with
    | nil =>
      rw [terminated_cons, List.append_assoc] at h
      exact absurd h (append_ne_cons (hstart x) _ _)
    | cons y ys =>
      rw [terminated_cons, terminated_cons, List.append_assoc, List.append_assoc] at h
      obtain ⟨rfl, hrest⟩ := henc h
      obtain ⟨rfl, rfl⟩ := ih hrest
      exact ⟨rfl, rfl⟩

/-! ## Items with a separator -/

/-- The items after the first: a separator before each, and the closing mark. -/
def sepTail (enc : α → List σ) (sep close : σ) : List α → List σ
  | [] => [close]
  | x :: xs => sep :: (enc x ++ sepTail enc sep close xs)

/-- The items with separators between them, up to the closing mark. -/
def sepItems (enc : α → List σ) (sep close : σ) : List α → List σ
  | [] => [close]
  | x :: xs => enc x ++ sepTail enc sep close xs

variable {enc : α → List σ} {sep close : σ} {stops : σ → Prop}

theorem stopsAt_sepTail (hsep : stops sep) (hclose : stops close) (xs : List α) (r : List σ) :
    StopsAt stops (sepTail enc sep close xs ++ r) := by
  cases xs with
  | nil => exact stopsAt_cons.2 hclose
  | cons x xs => exact stopsAt_cons.2 hsep

theorem sepTail_reads (hne : sep ≠ close) (hsep : stops sep) (hclose : stops close) :
    ∀ {xs ys : List α} {r r' : List σ}, (∀ x ∈ xs, ReadsBack enc stops x) →
      sepTail enc sep close xs ++ r = sepTail enc sep close ys ++ r' → xs = ys ∧ r = r'
  | [], [], _, _, _, h => ⟨rfl, (List.cons.inj h).2⟩
  | [], _ :: _, _, _, _, h => absurd (List.cons.inj h).1.symm hne
  | _ :: _, [], _, _, _, h => absurd (List.cons.inj h).1 hne
  | x :: xs, y :: ys, r, r', hxs, h => by
    have h : enc x ++ sepTail enc sep close xs ++ r = enc y ++ sepTail enc sep close ys ++ r' :=
      (List.cons.inj h).2
    rw [List.append_assoc, List.append_assoc] at h
    obtain ⟨rfl, hrest⟩ := hxs x List.mem_cons_self (stopsAt_sepTail hsep hclose xs r)
      (stopsAt_sepTail hsep hclose ys r') h
    obtain ⟨rfl, rfl⟩ := sepTail_reads hne hsep hclose
      (fun z hz => hxs z (List.mem_cons_of_mem _ hz)) hrest
    exact ⟨rfl, rfl⟩

/-- **Items between separators can be read back**, up to the closing mark, when each item can and no
item starts with that mark. -/
theorem sepItems_reads (hne : sep ≠ close) (hsep : stops sep) (hclose : stops close)
    (hstart : ∀ x, ∃ c ∈ (enc x).head?, c ≠ close) {xs ys : List α} {r r' : List σ}
    (hxs : ∀ x ∈ xs, ReadsBack enc stops x)
    (h : sepItems enc sep close xs ++ r = sepItems enc sep close ys ++ r') : xs = ys ∧ r = r' := by
  cases xs with
  | nil =>
    cases ys with
    | nil => exact ⟨rfl, (List.cons.inj h).2⟩
    | cons y ys =>
      rw [sepItems, sepItems, List.append_assoc] at h
      exact absurd h.symm (append_ne_cons (hstart y) _ _)
  | cons x xs =>
    cases ys with
    | nil =>
      rw [sepItems, sepItems, List.append_assoc] at h
      exact absurd h (append_ne_cons (hstart x) _ _)
    | cons y ys =>
      rw [sepItems, sepItems, List.append_assoc, List.append_assoc] at h
      obtain ⟨rfl, hrest⟩ := hxs x List.mem_cons_self (stopsAt_sepTail hsep hclose xs r)
        (stopsAt_sepTail hsep hclose ys r') h
      obtain ⟨rfl, rfl⟩ := sepTail_reads hne hsep hclose
        (fun z hz => hxs z (List.mem_cons_of_mem _ hz)) hrest
      exact ⟨rfl, rfl⟩

end PrefixCode
