import Mathlib.Data.List.Infix

/-!
# Where a word occurs in a text

* `firstAt w xs` — the position of the first occurrence of `w` in `xs`.
* `splitLast d xs` — what is in front of the last `d` in `xs`, and what is behind it.
* `prefix_drop_cut`, `infix_cut` — no occurrence reaches over a letter that is not in the word.
* `infix_flatMap`, `prefix_flatMap` — occurrences in a text that is written letter by letter.
-/

set_option autoImplicit false

namespace Occurrence

universe u v

variable {α : Type u} {β : Type v}

/-! ## The first occurrence -/

/-- `xs.index(w)`, when there is one. -/
def firstAt [DecidableEq α] (w : List α) : List α → Option Nat
  | [] => if w = [] then some 0 else none
  | x :: xs => if w <+: x :: xs then some 0 else (firstAt w xs).map (· + 1)

section First

variable [DecidableEq α] {w : List α}

theorem firstAt_eq_none_iff : ∀ {xs : List α}, firstAt w xs = none ↔ ¬ w <:+: xs
  | [] => by
    unfold firstAt
    rw [List.infix_nil]
    split
    · simp_all
    · simp_all
  | x :: xs => by
    unfold firstAt
    rw [List.infix_cons_iff]
    by_cases h : w <+: x :: xs
    · rw [if_pos h]
      simp [h]
    · rw [if_neg h, Option.map_eq_none_iff, firstAt_eq_none_iff]
      simp [h]

/-- **The first occurrence is one, and there is none before it.** -/
theorem firstAt_eq_some_iff : ∀ {xs : List α} {i : Nat},
    firstAt w xs = some i ↔ i ≤ xs.length ∧ w <+: xs.drop i ∧ ∀ j < i, ¬ w <+: xs.drop j
  | [], i => by
    unfold firstAt
    constructor
    · intro h
      split at h
      · rename_i hw
        cases h
        exact ⟨le_rfl, by simp [hw], fun j hj => absurd hj (Nat.not_lt_zero j)⟩
      · cases h
    · rintro ⟨hle, hpre, -⟩
      have hi : i = 0 := by simpa using hle
      have hw : w = [] := by simpa [hi] using hpre
      rw [if_pos hw, hi]
  | x :: xs, i => by
    unfold firstAt
    by_cases h : w <+: x :: xs
    · rw [if_pos h]
      constructor
      · intro hi
        cases hi
        exact ⟨Nat.zero_le _, h, fun j hj => absurd hj (Nat.not_lt_zero j)⟩
      · rintro ⟨-, -, hbefore⟩
        rcases Nat.eq_zero_or_pos i with rfl | hpos
        · rfl
        · exact absurd h (hbefore 0 hpos)
    · rw [if_neg h]
      cases i with
      | zero => simp [h]
      | succ i =>
        have ih : firstAt w xs = some i ↔
            i ≤ xs.length ∧ w <+: xs.drop i ∧ ∀ j < i, ¬ w <+: xs.drop j := firstAt_eq_some_iff
        constructor
        · intro hi
          obtain ⟨k, hk, hki⟩ := Option.map_eq_some_iff.1 hi
          obtain rfl : k = i := Nat.succ_injective hki
          obtain ⟨hle, hpre, hbefore⟩ := ih.1 hk
          refine ⟨Nat.succ_le_succ hle, hpre, fun j hj => ?_⟩
          cases j with
          | zero => exact h
          | succ j => exact hbefore j (Nat.lt_of_succ_lt_succ hj)
        · rintro ⟨hle, hpre, hbefore⟩
          rw [ih.2 ⟨Nat.le_of_succ_le_succ hle, hpre, fun j hj =>
            hbefore (j + 1) (Nat.succ_lt_succ hj)⟩]
          rfl

omit [DecidableEq α] in
/-- Letters that are not in the word do not matter. -/
theorem prefix_map_iff {f : α → α} : ∀ {w xs : List α}, (∀ c ∈ w, ∀ x, f x = c ↔ x = c) →
    (w <+: xs.map f ↔ w <+: xs)
  | [], _, _ => by simp
  | c :: w, [], _ => by simp
  | c :: w, x :: xs, hf => by
    rw [List.map_cons, List.cons_prefix_cons, List.cons_prefix_cons,
      prefix_map_iff fun d hd => hf d (List.mem_cons_of_mem _ hd), eq_comm,
      hf c List.mem_cons_self x, eq_comm]

theorem firstAt_map {f : α → α} (hf : ∀ c ∈ w, ∀ x, f x = c ↔ x = c) :
    ∀ xs : List α, firstAt w (xs.map f) = firstAt w xs
  | [] => rfl
  | x :: xs => by
    have hpre : w <+: f x :: xs.map f ↔ w <+: x :: xs := by
      rw [← List.map_cons, prefix_map_iff hf]
    rw [List.map_cons]
    unfold firstAt
    rw [firstAt_map hf xs]
    simp only [hpre]

omit [DecidableEq α] in
/-- An occurrence ends within the text. -/
theorem add_length_le_of_prefix_drop {xs : List α} {i : Nat} (hi : i ≤ xs.length)
    (h : w <+: xs.drop i) : i + w.length ≤ xs.length := by
  have hle := h.length_le
  rw [List.length_drop] at hle
  omega

/-- **A text has the first occurrence of a longer one if it reaches beyond it.** -/
theorem firstAt_of_append {xs ys : List α} {i : Nat} (h : firstAt w (xs ++ ys) = some i)
    (hlen : i + w.length ≤ xs.length) (zs : List α) : firstAt w (xs ++ zs) = some i := by
  obtain ⟨-, hpre, hbefore⟩ := firstAt_eq_some_iff.1 h
  have hdrop : ∀ j ≤ i, ∀ rest : List α, w <+: (xs ++ rest).drop j ↔ w <+: xs.drop j := by
    intro j hj rest
    rw [List.drop_append_of_le_length (by omega)]
    constructor
    · intro hw
      exact List.prefix_of_prefix_length_le hw (List.prefix_append _ _) (by
        rw [List.length_drop]
        omega)
    · intro hw
      exact hw.trans (List.prefix_append _ _)
  refine firstAt_eq_some_iff.2 ⟨?_, (hdrop i le_rfl zs).2 ((hdrop i le_rfl ys).1 hpre),
    fun j hj hw => ?_⟩
  · rw [List.length_append]
    omega
  · exact hbefore j hj ((hdrop j hj.le ys).2 ((hdrop j hj.le zs).1 hw))

end First

/-! ## A letter that is not in the word -/

section Cut

variable {w : List α} {d : α}

theorem prefix_of_prefix_cut : ∀ {w xs ys : List α}, d ∉ w → w <+: xs ++ d :: ys → w <+: xs
  | [], _, _, _, _ => List.nil_prefix
  | c :: w, [], ys, hd, h => by
    obtain ⟨hc, -⟩ := List.cons_prefix_cons.1 h
    exact absurd (hc ▸ List.mem_cons_self) hd
  | c :: w, x :: xs, ys, hd, h => by
    obtain ⟨hc, hrest⟩ := List.cons_prefix_cons.1 h
    exact List.cons_prefix_cons.2 ⟨hc, prefix_of_prefix_cut (fun hm => hd
      (List.mem_cons_of_mem _ hm)) hrest⟩

/-- A text with a letter in it is split before the letter or behind it. -/
theorem append_cons_split {xs ys before after : List α} (h : xs ++ d :: ys = before ++ after) :
    (∃ t, xs = before ++ t ∧ after = t ++ d :: ys) ∨
      ∃ b, before = xs ++ d :: b ∧ ys = b ++ after := by
  rcases List.append_eq_append_iff.1 h with ⟨t, rfl, ht⟩ | ⟨t, rfl, rfl⟩
  · rcases List.cons_eq_append_iff.1 ht with ⟨rfl, rfl⟩ | ⟨b, rfl, rfl⟩
    · exact Or.inl ⟨[], by simp, rfl⟩
    · exact Or.inr ⟨b, rfl, rfl⟩
  · exact Or.inl ⟨t, rfl, rfl⟩

/-- **An occurrence lies before the letter or behind it.** -/
theorem prefix_drop_cut {xs ys : List α} {j : Nat} (hd : d ∉ w)
    (h : w <+: (xs ++ d :: ys).drop j) :
    w <+: xs.drop j ∨ xs.length < j ∧ w <+: ys.drop (j - (xs.length + 1)) := by
  by_cases hj : j ≤ xs.length
  · rw [List.drop_append_of_le_length hj] at h
    exact Or.inl (prefix_of_prefix_cut hd h)
  · refine Or.inr ⟨not_le.1 hj, ?_⟩
    have hsplit : (xs ++ d :: ys).drop j = ys.drop (j - (xs.length + 1)) := by
      rw [List.drop_append, List.drop_eq_nil_of_le (by omega), List.nil_append]
      obtain ⟨k, hk⟩ : ∃ k, j - xs.length = k + 1 := ⟨j - xs.length - 1, by omega⟩
      rw [hk, List.drop_succ_cons]
      congr 1
      omega
    rwa [hsplit] at h

theorem infix_iff_prefix_drop {xs : List α} : w <:+: xs ↔ ∃ i ≤ xs.length, w <+: xs.drop i := by
  constructor
  · rintro ⟨before, after, rfl⟩
    refine ⟨before.length, by simp, ?_⟩
    rw [List.append_assoc, List.drop_left]
    exact List.prefix_append _ _
  · rintro ⟨i, -, h⟩
    exact h.isInfix.trans (List.drop_suffix i xs).isInfix

/-- **A word occurs in a text that a letter not in it cuts if it occurs in one of the parts.** -/
theorem infix_cut (hd : d ∉ w) (xs ys : List α) :
    w <:+: xs ++ d :: ys ↔ w <:+: xs ∨ w <:+: ys := by
  constructor
  · intro h
    obtain ⟨i, -, hi⟩ := infix_iff_prefix_drop.1 h
    rcases prefix_drop_cut hd hi with hleft | ⟨-, hright⟩
    · exact Or.inl (hleft.isInfix.trans (List.drop_suffix i xs).isInfix)
    · exact Or.inr (hright.isInfix.trans (List.drop_suffix _ ys).isInfix)
  · rintro (h | h)
    · exact h.trans (List.prefix_append _ _).isInfix
    · exact h.trans ((List.suffix_cons d ys).trans (List.suffix_append _ _)).isInfix

end Cut

/-! ## Texts that are written letter by letter -/

section Written

variable {f : α → List β} {w : List β}

/-- An occurrence starts within what is written for one of the letters. -/
theorem infix_flatMap (hw : w ≠ []) : ∀ {xs : List α}, w <:+: xs.flatMap f →
    ∃ before x after tail, xs = before ++ x :: after ∧ tail ≠ [] ∧ tail <:+ f x ∧
      w <+: tail ++ after.flatMap f
  | [], h => absurd (List.infix_nil.1 h) hw
  | x :: xs, h => by
    rw [List.flatMap_cons] at h
    obtain ⟨i, -, hi⟩ := infix_iff_prefix_drop.1 h
    by_cases hlt : i < (f x).length
    · refine ⟨[], x, xs, (f x).drop i, rfl, ?_, List.drop_suffix i _, ?_⟩
      · intro hnil
        have hle := List.drop_eq_nil_iff.1 hnil
        omega
      · rwa [List.drop_append_of_le_length hlt.le] at hi
    · have hrest : w <:+: xs.flatMap f := by
        rw [List.drop_append, List.drop_eq_nil_of_le (not_lt.1 hlt), List.nil_append] at hi
        exact hi.isInfix.trans (List.drop_suffix _ _).isInfix
      obtain ⟨before, y, after, tail, rfl, htail, hsuffix, hpre⟩ := infix_flatMap hw hrest
      exact ⟨x :: before, y, after, tail, rfl, htail, hsuffix, hpre⟩

end Written

/-! ## The last occurrence of a letter -/

/-- `xs.rsplit(d, 1)`, when `d` is in `xs`. -/
def splitLast [DecidableEq α] (d : α) : List α → Option (List α × List α)
  | [] => none
  | x :: xs =>
    match splitLast d xs with
    | some (front, back) => some (x :: front, back)
    | none => if x = d then some ([], xs) else none

section Last

variable [DecidableEq α] {d : α}

theorem splitLast_eq_none_iff : ∀ {xs : List α}, splitLast d xs = none ↔ d ∉ xs
  | [] => by simp [splitLast]
  | x :: xs => by
    have ih : splitLast d xs = none ↔ d ∉ xs := splitLast_eq_none_iff
    unfold splitLast
    cases h : splitLast d xs with
    | none =>
      simp only [h, true_iff] at ih
      by_cases hx : x = d
      · simp [hx]
      · simp [hx, Ne.symm hx, ih]
    | some parts =>
      simp only [h, reduceCtorEq, false_iff, not_not] at ih
      simp [ih]

/-- **The text is split at the last `d`.** -/
theorem splitLast_eq_some_iff : ∀ {xs front back : List α},
    splitLast d xs = some (front, back) ↔ xs = front ++ d :: back ∧ d ∉ back
  | [], front, back => by simp [splitLast]
  | x :: xs, front, back => by
    unfold splitLast
    cases h : splitLast d xs with
    | none =>
      have hnone : d ∉ xs := splitLast_eq_none_iff.1 h
      constructor
      · intro hsome
        by_cases hx : x = d
        · simp only [if_pos hx, Option.some.injEq, Prod.mk.injEq] at hsome
          obtain ⟨rfl, rfl⟩ := hsome
          exact ⟨by rw [hx, List.nil_append], hnone⟩
        · simp [hx] at hsome
      · rintro ⟨heq, hback⟩
        cases front with
        | nil =>
          obtain ⟨rfl, rfl⟩ := List.cons.inj heq
          simp
        | cons y front =>
          obtain ⟨-, rfl⟩ := List.cons.inj heq
          exact absurd (List.mem_append_right _ List.mem_cons_self) hnone
    | some parts =>
      obtain ⟨hsplit, hparts⟩ := splitLast_eq_some_iff.1 h
      constructor
      · intro hsome
        simp only [Option.some.injEq, Prod.mk.injEq] at hsome
        obtain ⟨rfl, rfl⟩ := hsome
        exact ⟨by rw [hsplit, List.cons_append], hparts⟩
      · rintro ⟨heq, hback⟩
        cases front with
        | nil =>
          obtain ⟨-, rfl⟩ := List.cons.inj heq
          exact absurd (by rw [hsplit]; simp) hback
        | cons y front =>
          obtain ⟨rfl, hrest⟩ := List.cons.inj heq
          have hother := splitLast_eq_some_iff.2 ⟨hrest, hback⟩
          rw [h] at hother
          obtain rfl := Option.some.inj hother
          rfl

end Last

end Occurrence
