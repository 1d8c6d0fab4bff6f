import Mathlib.Computability.Language

/-!
# Regular expressions over classes of letters

* `Regex.lang` — the words an expression matches.
* `Regex.endsOf` — what a backtracking matcher finds at the start of a text: `mem_endsOf_iff`.
* `Regex.starts`, `Regex.ends`, `Regex.tight` — what can be read off an expression about one letter
  in its words.  An expression is tight in a letter when two of it in a row may be written as one:
  `merges_of_tight`.
-/

set_option autoImplicit false

namespace Patterns

open Computability

universe u

variable {α : Type u}

inductive Regex (α : Type u) where
  | empty
  | eps
  /-- one letter of a class -/
  | letter (p : α → Bool)
  | seq (r s : Regex α)
  | alt (r s : Regex α)
  | star (r : Regex α)

namespace Regex

/-- `r+` -/
def plus (r : Regex α) : Regex α := .seq r (.star r)

/-- `r?` -/
def opt (r : Regex α) : Regex α := .alt r .eps

/-- One letter of each class, in their order. -/
def word : List (α → Bool) → Regex α
  | [] => .eps
  | p :: ps => .seq (.letter p) (word ps)

/-- The words that are matched. -/
def lang : Regex α → Language α
  | .empty => 0
  | .eps => 1
  | .letter p => {w : List α | ∃ c, p c = true ∧ w = [c]}
  | .seq r s => r.lang * s.lang
  | .alt r s => r.lang + s.lang
  | .star r => r.lang∗

/-- The empty word is matched. -/
def nullable : Regex α → Bool
  | .empty => false
  | .eps => true
  | .letter _ => false
  | .seq r s => r.nullable && s.nullable
  | .alt r s => r.nullable || s.nullable
  | .star _ => true

theorem mem_letter {p : α → Bool} {w : List α} :
    w ∈ (letter p).lang ↔ ∃ c, p c = true ∧ w = [c] := Iff.rfl

theorem mem_seq {r s : Regex α} {w : List α} :
    w ∈ (seq r s).lang ↔ ∃ u ∈ r.lang, ∃ v ∈ s.lang, u ++ v = w := Language.mem_mul

theorem mem_alt {r s : Regex α} {w : List α} :
    w ∈ (alt r s).lang ↔ w ∈ r.lang ∨ w ∈ s.lang := Iff.rfl

theorem mem_star {r : Regex α} {w : List α} :
    w ∈ (star r).lang ↔ ∃ ws : List (List α), w = ws.flatten ∧ ∀ u ∈ ws, u ∈ r.lang :=
  Language.mem_kstar

theorem nil_mem_star (r : Regex α) : [] ∈ (star r).lang := Language.nil_mem_kstar r.lang

/-- A repeated word starts with one that is not empty. -/
theorem cons_mem_star {r : Regex α} {c : α} {w : List α} : c :: w ∈ (star r).lang ↔
    ∃ u v, w = u ++ v ∧ c :: u ∈ r.lang ∧ v ∈ (star r).lang := by
  constructor
  · intro h
    obtain ⟨ws, heq, hws⟩ := mem_star.1 h
    induction ws with
    | nil => cases heq
    | cons x ws ih =>
      have hx := hws x List.mem_cons_self
      have hrest : ∀ u ∈ ws, u ∈ r.lang := fun u hu => hws u (List.mem_cons_of_mem x hu)
      cases x with
      | nil => exact ih heq hrest
      | cons d u =>
        rw [List.flatten_cons, List.cons_append] at heq
        obtain ⟨rfl, rfl⟩ := List.cons.inj heq
        exact ⟨u, ws.flatten, rfl, hx, mem_star.2 ⟨ws, rfl, hrest⟩⟩
  · rintro ⟨u, v, rfl, hu, hv⟩
    obtain ⟨ws, rfl, hws⟩ := mem_star.1 hv
    exact mem_star.2 ⟨(c :: u) :: ws, rfl, List.forall_mem_cons.2 ⟨hu, hws⟩⟩

theorem nullable_iff (r : Regex α) : r.nullable = true ↔ [] ∈ r.lang := by
  induction r with
  | empty => exact iff_of_false Bool.false_ne_true (Language.notMem_zero [])
  | eps => exact iff_of_true rfl Language.nil_mem_one
  | letter p =>
    refine iff_of_false Bool.false_ne_true ?_
    rintro ⟨c, -, hc⟩
    cases hc
  | seq r s ihr ihs =>
    rw [nullable, Bool.and_eq_true, ihr, ihs, mem_seq]
    constructor
    · rintro ⟨hr, hs⟩
      exact ⟨[], hr, [], hs, rfl⟩
    · rintro ⟨u, hu, v, hv, huv⟩
      obtain ⟨rfl, rfl⟩ := List.append_eq_nil_iff.1 huv
      exact ⟨hu, hv⟩
  | alt r s ihr ihs => rw [nullable, Bool.or_eq_true, ihr, ihs, mem_alt]
  | star r => exact iff_of_true rfl (nil_mem_star r)

theorem cons_mem_seq {r s : Regex α} {c : α} {w : List α} : c :: w ∈ (seq r s).lang ↔
    (∃ u v, w = u ++ v ∧ c :: u ∈ r.lang ∧ v ∈ s.lang) ∨ [] ∈ r.lang ∧ c :: w ∈ s.lang := by
  rw [mem_seq]
  constructor
  · rintro ⟨u, hu, v, hv, huv⟩
    cases u with
    | nil => exact Or.inr ⟨hu, huv ▸ hv⟩
    | cons d u =>
      rw [List.cons_append] at huv
      obtain ⟨rfl, rfl⟩ := List.cons.inj huv
      exact Or.inl ⟨u, v, rfl, hu, hv⟩
  · rintro (⟨u, v, rfl, hu, hv⟩ | ⟨hr, hs⟩)
    · exact ⟨c :: u, hu, v, hv, rfl⟩
    · exact ⟨[], hr, c :: w, hs, rfl⟩

/-! ## Matching at the start of a text -/

/-- A repetition, as often as it goes and then less often; every turn takes something. -/
def starEnds (f : List α → List (List α)) : Nat → List α → List (List α)
  | 0, xs => [xs]
  | n + 1, xs => ((f xs).filter fun rest => rest.length < xs.length).flatMap (starEnds f n) ++ [xs]

/-- What may be left of a text behind a match at its start, in the order of a backtracking matcher:
the first alternative first, repetitions greedy. -/
def endsOf : Regex α → List α → List (List α)
  | .empty, _ => []
  | .eps, xs => [xs]
  | .letter _, [] => []
  | .letter p, c :: xs => if p c then [xs] else []
  | .seq r s, xs => (r.endsOf xs).flatMap s.endsOf
  | .alt r s, xs => r.endsOf xs ++ s.endsOf xs
  | .star r, xs => starEnds r.endsOf xs.length xs

/-- **The matcher finds what is matched.** -/
theorem mem_starEnds_iff {r : Regex α} (hr : ∀ xs rest : List α, rest ∈ r.endsOf xs ↔
    ∃ w ∈ r.lang, xs = w ++ rest) (rest : List α) : ∀ (n : Nat) (xs : List α), xs.length ≤ n →
      (rest ∈ starEnds r.endsOf n xs ↔ ∃ w ∈ (star r).lang, xs = w ++ rest)
  | 0, xs, hn => by
    obtain rfl := List.eq_nil_of_length_eq_zero (Nat.le_zero.1 hn)
    rw [starEnds, List.mem_singleton]
    constructor
    · rintro rfl
      exact ⟨[], nil_mem_star r, rfl⟩
    · rintro ⟨w, -, hw⟩
      exact (List.append_eq_nil_iff.1 hw.symm).2
  | n + 1, xs, hn => by
    rw [starEnds, List.mem_append, List.mem_flatMap, List.mem_singleton]
    constructor
    · rintro (⟨mid, hmid, hrest⟩ | rfl)
      · obtain ⟨hends, hless⟩ := List.mem_filter.1 hmid
        have hless := of_decide_eq_true hless
        obtain ⟨u, hu, rfl⟩ := (hr xs mid).1 hends
        obtain ⟨v, hv, rfl⟩ := (mem_starEnds_iff hr rest n mid (by omega)).1 hrest
        obtain ⟨ws, rfl, hws⟩ := mem_star.1 hv
        exact ⟨u ++ ws.flatten, mem_star.2 ⟨u :: ws, rfl, List.forall_mem_cons.2 ⟨hu, hws⟩⟩,
          (List.append_assoc _ _ _).symm⟩
      · exact ⟨[], nil_mem_star r, rfl⟩
    · rintro ⟨w, hw, rfl⟩
      cases w with
      | nil => exact Or.inr rfl
      | cons c w =>
        obtain ⟨u, v, rfl, hu, hv⟩ := cons_mem_star.1 hw
        have hlength : (v ++ rest).length < (c :: (u ++ v) ++ rest).length := by
          simp only [List.length_append, List.length_cons]
          omega
        refine Or.inl ⟨v ++ rest, List.mem_filter.2 ⟨(hr _ _).2 ⟨c :: u, hu, ?_⟩,
          decide_eq_true hlength⟩, (mem_starEnds_iff hr rest n _ (by omega)).2 ⟨v, hv, rfl⟩⟩
        simp

theorem mem_endsOf_iff (r : Regex α) : ∀ xs rest : List α,
    rest ∈ r.endsOf xs ↔ ∃ w ∈ r.lang, xs = w ++ rest := by
  induction r with
  | empty =>
    exact fun xs rest => iff_of_false List.not_mem_nil fun ⟨w, hw, _⟩ => Language.notMem_zero w hw
  | eps =>
    intro xs rest
    rw [endsOf, List.mem_singleton]
    constructor
    · rintro rfl
      exact ⟨[], Language.nil_mem_one, rfl⟩
    · rintro ⟨w, hw, rfl⟩
      rw [(Language.mem_one w).1 hw, List.nil_append]
  | letter p =>
    intro xs rest
    constructor
    · intro h
      cases xs with
      | nil => cases h
      | cons c xs =>
        unfold endsOf at h
        split at h
        · obtain rfl := List.mem_singleton.1 h
          exact ⟨[c], ⟨c, ‹_›, rfl⟩, rfl⟩
        · cases h
    · rintro ⟨w, ⟨c, hc, rfl⟩, rfl⟩
      rw [List.singleton_append, endsOf, if_pos hc]
      exact List.mem_singleton_self rest
  | seq r s ihr ihs =>
    intro xs rest
    rw [endsOf, List.mem_flatMap]
    constructor
    · rintro ⟨mid, hmid, hrest⟩
      obtain ⟨u, hu, rfl⟩ := (ihr xs mid).1 hmid
      obtain ⟨v, hv, rfl⟩ := (ihs mid rest).1 hrest
      exact ⟨u ++ v, mem_seq.2 ⟨u, hu, v, hv, rfl⟩, (List.append_assoc _ _ _).symm⟩
    · rintro ⟨w, hw, rfl⟩
      obtain ⟨u, hu, v, hv, rfl⟩ := mem_seq.1 hw
      exact ⟨v ++ rest, (ihr _ _).2 ⟨u, hu, List.append_assoc _ _ _⟩, (ihs _ _).2 ⟨v, hv, rfl⟩⟩
  | alt r s ihr ihs =>
    intro xs rest
    rw [endsOf, List.mem_append, ihr, ihs]
    simp only [mem_alt, or_and_right, exists_or]
  | star r ih => exact fun xs rest => mem_starEnds_iff ih rest xs.length xs le_rfl

/-! ## One letter in the words of an expression -/

/-- A word may start with the letter. -/
def starts (a : α) : Regex α → Bool
  | .empty => false
  | .eps => false
  | .letter p => p a
  | .seq r s => r.starts a || r.nullable && s.starts a
  | .alt r s => r.starts a || s.starts a
  | .star r => r.starts a

/-- A word may end with the letter. -/
def ends (a : α) : Regex α → Bool
  | .empty => false
  | .eps => false
  | .letter p => p a
  | .seq r s => s.ends a || s.nullable && r.ends a
  | .alt r s => r.ends a || s.ends a
  | .star r => r.ends a

/-- A word that starts with the letter is matched without it, too. -/
def absorbs (a : α) : Regex α → Bool
  | .star (.letter _) => true
  | .seq r s => r.absorbs a && !(r.nullable && s.starts a)
  | r => !r.starts a

/-- Two of the letter in a row may be written as one. -/
def tight (a : α) : Regex α → Bool
  | .seq r s => r.tight a && s.tight a && (!(r.ends a && s.starts a) || s.absorbs a)
  | .alt r s => r.tight a && s.tight a
  | .star (.letter _) => true
  | .star _ => false
  | _ => true

variable {a : α}

theorem starts_of_mem : ∀ {r : Regex α} {w : List α}, a :: w ∈ r.lang → r.starts a = true
  | .empty, _, h => absurd h (Language.notMem_zero _)
  | .eps, _, h => by cases (Language.mem_one _).1 h
  | .letter p, _, h => by
    obtain ⟨c, hc, heq⟩ := h
    obtain ⟨rfl, -⟩ := List.cons.inj heq
    exact hc
  | .seq r s, _, h => by
    rw [starts, Bool.or_eq_true, Bool.and_eq_true]
    rcases cons_mem_seq.1 h with ⟨u, v, -, hu, -⟩ | ⟨hnil, hs⟩
    · exact Or.inl (starts_of_mem hu)
    · exact Or.inr ⟨(nullable_iff r).2 hnil, starts_of_mem hs⟩
  | .alt r s, _, h => by
    rw [starts, Bool.or_eq_true]
    exact (mem_alt.1 h).imp starts_of_mem starts_of_mem
  | .star r, _, h => by
    obtain ⟨u, v, -, hu, -⟩ := cons_mem_star.1 h
    exact starts_of_mem (r := r) hu

theorem ends_of_mem : ∀ {r : Regex α} {w : List α}, w ++ [a] ∈ r.lang → r.ends a = true
  | .empty, _, h => absurd h (Language.notMem_zero _)
  | .eps, w, h => absurd ((Language.mem_one _).1 h) (by simp)
  | .letter p, w, h => by
    obtain ⟨c, hc, heq⟩ := h
    have hlast : some a = some c := by simpa using congrArg List.getLast? heq
    rw [ends, Option.some.inj hlast, hc]
  | .seq r s, w, h => by
    rw [ends, Bool.or_eq_true, Bool.and_eq_true]
    obtain ⟨u, hu, v, hv, huv⟩ := mem_seq.1 h
    rcases List.eq_nil_or_concat' v with rfl | ⟨v, b, rfl⟩
    · rw [List.append_nil] at huv
      exact Or.inr ⟨(nullable_iff s).2 hv, ends_of_mem (huv ▸ hu)⟩
    · rw [← List.append_assoc] at huv
      obtain ⟨-, hb⟩ := List.append_singleton_inj.1 huv
      exact Or.inl (ends_of_mem (hb ▸ hv))
  | .alt r s, w, h => by
    rw [ends, Bool.or_eq_true]
    exact (mem_alt.1 h).imp ends_of_mem ends_of_mem
  | .star r, w, h => by
    obtain ⟨ws, heq, hws⟩ := mem_star.1 h
    induction ws using List.reverseRecOn with
    | nil => exact absurd heq (by simp)
    | append_singleton ws x ih =>
      have hx := hws x (List.mem_append_right _ (List.mem_singleton_self x))
      rw [List.flatten_append, List.flatten_singleton] at heq
      rcases List.eq_nil_or_concat' x with rfl | ⟨x, b, rfl⟩
      · rw [List.append_nil] at heq
        exact ih heq fun u hu => hws u (List.mem_append_left _ hu)
      · rw [← List.append_assoc] at heq
        obtain ⟨-, hb⟩ := List.append_singleton_inj.1 heq
        exact ends_of_mem (r := r) (hb ▸ hx)

/-- A repeated class matches the words of its letters. -/
theorem mem_star_letter {p : α → Bool} : ∀ {w : List α},
    w ∈ (star (letter p)).lang ↔ ∀ c ∈ w, p c = true
  | [] => iff_of_true (nil_mem_star _) fun _ hc => absurd hc List.not_mem_nil
  | c :: w => by
    rw [cons_mem_star, List.forall_mem_cons]
    constructor
    · rintro ⟨u, v, rfl, ⟨d, hd, heq⟩, hv⟩
      obtain ⟨rfl, rfl⟩ := List.cons.inj heq
      exact ⟨hd, mem_star_letter.1 hv⟩
    · rintro ⟨hc, hw⟩
      exact ⟨[], w, rfl, ⟨c, hc, rfl⟩, mem_star_letter.2 hw⟩

theorem mem_of_absorbs : ∀ {r : Regex α} {w : List α}, r.absorbs a = true → a :: w ∈ r.lang →
    w ∈ r.lang
  | .star (.letter p), _, _, h =>
    mem_star_letter.2 fun c hc => mem_star_letter.1 h c (List.mem_cons_of_mem _ hc)
  | .seq r s, w, habs, h => by
    unfold absorbs at habs
    rw [Bool.and_eq_true, Bool.not_eq_true', Bool.and_eq_false_iff] at habs
    obtain ⟨hr, hapart⟩ := habs
    rcases cons_mem_seq.1 h with ⟨u, v, rfl, hu, hv⟩ | ⟨hnil, hs⟩
    · exact mem_seq.2 ⟨u, mem_of_absorbs hr hu, v, hv, rfl⟩
    · rw [(nullable_iff r).2 hnil, starts_of_mem hs] at hapart
      rcases hapart with h | h
      · cases h
      · cases h
  | .empty, _, habs, h
  | .eps, _, habs, h
  | .letter _, _, habs, h
  | .alt _ _, _, habs, h
  | .star .empty, _, habs, h
  | .star .eps, _, habs, h
  | .star (.seq _ _), _, habs, h
  | .star (.alt _ _), _, habs, h
  | .star (.star _), _, habs, h => by
    unfold absorbs at habs
    rw [starts_of_mem h] at habs
    cases habs

/-- **In the words of a tight expression two of the letter in a row may be written as one.** -/
theorem merges_of_tight : ∀ {r : Regex α} {u v : List α}, r.tight a = true →
    u ++ a :: a :: v ∈ r.lang → u ++ a :: v ∈ r.lang
  | .empty, _, _, _, h => absurd h (Language.notMem_zero _)
  | .eps, u, v, _, h => absurd ((Language.mem_one _).1 h) (by simp)
  | .letter p, u, v, _, h => by
    obtain ⟨c, -, heq⟩ := h
    have hlength := congrArg List.length heq
    rw [List.length_append, List.length_cons, List.length_cons, List.length_singleton] at hlength
    omega
  | .alt r s, _, _, htight, h => by
    unfold tight at htight
    rw [Bool.and_eq_true] at htight
    exact (mem_alt.1 h).imp (merges_of_tight htight.1) (merges_of_tight htight.2)
  | .star (.letter p), u, v, _, h => by
    refine mem_star_letter.2 fun c hc => mem_star_letter.1 h c ?_
    rcases List.mem_append.1 hc with hu | hv
    · exact List.mem_append_left _ hu
    · exact List.mem_append_right _ (List.mem_cons_of_mem a hv)
  | .seq r s, u, v, htight, h => by
    unfold tight at htight
    simp only [Bool.and_eq_true, Bool.or_eq_true, Bool.not_eq_true', Bool.and_eq_false_iff]
      at htight
    obtain ⟨⟨hr, hs⟩, hapart⟩ := htight
    obtain ⟨x, hx, y, hy, hxy⟩ := mem_seq.1 h
    -- the two letters are both in the first part, both in the second, or one in each
    rcases List.append_eq_append_iff.1 hxy with ⟨z, rfl, rfl⟩ | ⟨z, rfl, hz⟩
    · rw [List.append_assoc]
      exact mem_seq.2 ⟨x, hx, _, merges_of_tight hs hy, rfl⟩
    · rcases z with _ | ⟨b, _ | ⟨d, z⟩⟩
      · rw [List.nil_append] at hz
        rw [List.append_nil] at hx
        refine mem_seq.2 ⟨u, hx, a :: v, ?_, rfl⟩
        exact merges_of_tight (u := []) hs (hz ▸ hy)
      · obtain ⟨rfl, rfl⟩ := List.cons.inj hz
        refine mem_seq.2 ⟨u ++ [a], hx, v, ?_, by simp⟩
        rcases hapart with hone | habs
        · rw [ends_of_mem hx, starts_of_mem hy] at hone
          rcases hone with h | h
          · cases h
          · cases h
        · exact mem_of_absorbs habs hy
      · rw [List.cons_append, List.cons_append] at hz
        obtain ⟨hb, hz⟩ := List.cons.inj hz
        obtain ⟨hd, rfl⟩ := List.cons.inj hz
        rw [← hb, ← hd] at hx
        exact mem_seq.2 ⟨u ++ a :: z, merges_of_tight hr hx, y, hy, by simp⟩

end Regex

end Patterns
