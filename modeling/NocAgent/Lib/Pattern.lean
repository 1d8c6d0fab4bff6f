import NocAgent.Lib.Regex

/-!
# Searching for a pattern, and replacing it

* `Pattern` — an expression, perhaps behind a word boundary; `Pattern.Found`, where it matches.
* `Pattern.search` — the places one after the other: `search_iff`.
* `Pattern.sub` — every match replaced; a text without one is left alone: `sub_of_not_found`.
-/

set_option autoImplicit false

namespace Patterns

universe u

variable {α : Type u}

/-- A pattern, which may start with `\b`. -/
structure Pattern (α : Type u) where
  bounded : Bool
  body : Regex α

namespace Pattern

section Definitions

variable (word : α → Bool) (p : Pattern α)

/-- `\b`: of the letters around the place one is of a word, the other is not. -/
def Boundary (previous : Option α) (after : List α) : Prop :=
  previous.any word ≠ after.head?.any word

instance (previous : Option α) (after : List α) : Decidable (Boundary word previous after) := by
  unfold Boundary
  infer_instance

/-- The pattern matches between what is before and what is after. -/
def MatchAt (before w after : List α) : Prop :=
  (p.bounded = true → Boundary word before.getLast? (w ++ after)) ∧ w ∈ p.body.lang

/-- The pattern matches somewhere in the text. -/
def Found (xs : List α) : Prop :=
  ∃ before w after, xs = before ++ w ++ after ∧ p.MatchAt word before w after

/-- What is left of the text behind a match at its start. -/
def matchEnd (previous : Option α) (xs : List α) : Option (List α) :=
  if p.bounded = true → Boundary word previous xs then (p.body.endsOf xs).head? else none

def searchFrom : Option α → List α → Bool
  | previous, [] => (p.matchEnd word previous []).isSome
  | previous, c :: xs => (p.matchEnd word previous (c :: xs)).isSome || searchFrom (some c) xs

/-- `pattern.search(text)` finds something. -/
def search (xs : List α) : Bool := p.searchFrom word none xs

/-- `pattern.sub(replacement, text)` of a pattern that matches no empty text. -/
def subFrom (replacement : List α) : Nat → Option α → List α → List α
  | 0, _, xs => xs
  | _ + 1, _, [] => []
  | n + 1, previous, c :: xs =>
    match p.matchEnd word previous (c :: xs) with
    | some rest =>
      replacement ++
        subFrom replacement n ((c :: xs).take ((c :: xs).length - rest.length)).getLast? rest
    | none => c :: subFrom replacement n (some c) xs

def sub (replacement xs : List α) : List α := p.subFrom word replacement xs.length none xs

end Definitions

section Laws

variable {word : α → Bool} {p : Pattern α}

theorem isSome_matchEnd {previous : Option α} {xs : List α} :
    (p.matchEnd word previous xs).isSome = true ↔
      (p.bounded = true → Boundary word previous xs) ∧
        ∃ w ∈ p.body.lang, ∃ rest, xs = w ++ rest := by
  unfold matchEnd
  split
  · next hbound =>
    rw [List.isSome_head?]
    constructor
    · intro hne
      obtain ⟨rest, hrest⟩ := List.exists_mem_of_ne_nil _ hne
      obtain ⟨w, hw, hsplit⟩ := (Regex.mem_endsOf_iff p.body xs rest).1 hrest
      exact ⟨hbound, w, hw, rest, hsplit⟩
    · rintro ⟨-, w, hw, rest, hsplit⟩
      exact List.ne_nil_of_mem ((Regex.mem_endsOf_iff p.body xs rest).2 ⟨w, hw, hsplit⟩)
  · next hbound => exact iff_of_false Bool.false_ne_true fun h => hbound h.1

theorem getLast?_cons_or (c : α) (xs : List α) (previous : Option α) :
    ((c :: xs).getLast?).or previous = xs.getLast?.or (some c) := by
  cases xs with
  | nil => rfl
  | cons d xs =>
    rw [List.getLast?_cons_cons, Option.or_of_isSome (by simp), Option.or_of_isSome (by simp)]

theorem searchFrom_iff : ∀ {xs : List α} {previous : Option α},
    p.searchFrom word previous xs = true ↔ ∃ before w after, xs = before ++ w ++ after ∧
      (p.bounded = true → Boundary word (before.getLast?.or previous) (w ++ after)) ∧
        w ∈ p.body.lang
  | [], previous => by
    rw [searchFrom, isSome_matchEnd]
    constructor
    · rintro ⟨hbound, w, hw, rest, hsplit⟩
      exact ⟨[], w, rest, hsplit, hsplit ▸ hbound, hw⟩
    · rintro ⟨before, w, after, hsplit, hbound, hw⟩
      obtain ⟨hfront, rfl⟩ := List.append_eq_nil_iff.1 hsplit.symm
      obtain ⟨rfl, rfl⟩ := List.append_eq_nil_iff.1 hfront
      exact ⟨hbound, [], hw, [], rfl⟩
  | c :: xs, previous => by
    rw [searchFrom, Bool.or_eq_true, isSome_matchEnd, searchFrom_iff]
    constructor
    · rintro (⟨hbound, w, hw, rest, hsplit⟩ | ⟨before, w, after, rfl, hbound, hw⟩)
      · exact ⟨[], w, rest, hsplit, hsplit ▸ hbound, hw⟩
      · refine ⟨c :: before, w, after, rfl, fun hb => ?_, hw⟩
        rw [getLast?_cons_or]
        exact hbound hb
    · rintro ⟨before, w, after, hsplit, hbound, hw⟩
      cases before with
      | nil => exact Or.inl ⟨hsplit ▸ hbound, w, hw, after, hsplit⟩
      | cons d before =>
        rw [List.cons_append, List.cons_append] at hsplit
        obtain ⟨rfl, rfl⟩ := List.cons.inj hsplit
        refine Or.inr ⟨before, w, after, rfl, fun hb => ?_, hw⟩
        rw [← getLast?_cons_or]
        exact hbound hb

/-- **The search finds what there is.** -/
theorem search_iff {xs : List α} : p.search word xs = true ↔ p.Found word xs := by
  unfold search
  rw [searchFrom_iff]
  simp only [Option.or_none]
  rfl

instance (xs : List α) : Decidable (p.Found word xs) := decidable_of_iff _ search_iff

/-- **Where there is no match, nothing is replaced.** -/
theorem sub_of_not_found {xs : List α} (h : ¬ p.Found word xs) (replacement : List α) :
    p.sub word replacement xs = xs := by
  have hkeep : ∀ (n : Nat) (xs : List α) (previous : Option α),
      p.searchFrom word previous xs = false → p.subFrom word replacement n previous xs = xs := by
    intro n
    induction n with
    | zero => exact fun _ _ _ => rfl
    | succ n ih =>
      intro xs previous hnone
      cases xs with
      | nil => rfl
      | cons c xs =>
        unfold searchFrom at hnone
        obtain ⟨hhere, hlater⟩ := Bool.or_eq_false_iff.1 hnone
        rw [subFrom, Option.isSome_eq_false_iff.1 hhere |> Option.isNone_iff_eq_none.1]
        exact congrArg (c :: ·) (ih xs (some c) hlater)
  rw [← search_iff, Bool.not_eq_true] at h
  exact hkeep xs.length xs none h

end Laws

end Pattern

end Patterns
