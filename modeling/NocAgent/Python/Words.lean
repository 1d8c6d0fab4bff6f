import NocAgent.Lib.Squeeze
import NocAgent.Python.Value
import Mathlib.Data.List.SplitBy

/-!
# The words of a text

* `words` — the words of `s.split()`, as lists of characters.
* `collapseSpace_take` — a prefix of collapsed text is collapsed, unless it ends with a space.
* `toList_collapseSpace_squeeze` — collapsed text, letter by letter.
-/

set_option autoImplicit false

namespace NocAgent

theorem toList_takeChars (n : Nat) (s : String) : (takeChars n s).toList = s.toList.take n :=
  String.toList_ofList

theorem takeChars_of_length_le {n : Nat} {s : String} (h : s.toList.length ≤ n) :
    takeChars n s = s := by
  rw [← String.toList_inj, toList_takeChars, List.take_of_length_le h]

theorem length_takeChars_le (n : Nat) (s : String) : (takeChars n s).toList.length ≤ n := by
  rw [toList_takeChars]
  exact List.length_take_le _ _

theorem takeChars_nonempty {n : Nat} {s : String} (hn : n ≠ 0) (hs : s ≠ "") :
    takeChars n s ≠ "" := by
  intro h
  have htake := congrArg String.toList h
  rw [toList_takeChars, String.toList_empty, List.take_eq_nil_iff] at htake
  rcases htake with h | h
  · exact hn h
  · exact hs (String.toList_eq_nil_iff.1 h)

/-- A nonempty run of characters without whitespace. -/
structure IsWord (w : List Char) : Prop where
  ne_nil : w ≠ []
  solid : ∀ c ∈ w, isSpace c = false

/-- `s.split()`. -/
def words (s : List Char) : List (List Char) :=
  (s.splitBy fun a b => !isSpace a && !isSpace b).filter fun w => !w.any isSpace

/-- `" ".join(ws)`. -/
def joinWords (ws : List (List Char)) : List Char := [' '].intercalate ws

@[simp] theorem joinWords_nil : joinWords [] = [] := rfl

@[simp] theorem joinWords_singleton (w : List Char) : joinWords [w] = w := by
  simp [joinWords]

theorem joinWords_cons {ws : List (List Char)} (w : List Char) (h : ws ≠ []) :
    joinWords (w :: ws) = w ++ ' ' :: joinWords ws := by
  unfold joinWords
  rw [List.intercalate_cons_of_ne_nil h, List.append_assoc]
  rfl

theorem toList_collapseSpace (s : String) : (collapseSpace s).toList = joinWords (words s.toList) := by
  unfold collapseSpace joinWords words
  rw [String.toList_intercalate, List.map_filterMap]
  refine congrArg₂ List.intercalate rfl ?_
  rw [← List.filterMap_eq_filter]
  refine List.filterMap_congr fun w _ => ?_
  by_cases h : w.any isSpace
  · simp [h, Option.guard]
  · simp [h, Option.guard]

theorem isWord_of_mem_words {s w : List Char} (h : w ∈ words s) : IsWord w := by
  unfold words at h
  obtain ⟨hmem, hsolid⟩ := List.mem_filter.1 h
  refine ⟨List.ne_nil_of_mem_splitBy hmem, fun c hc => ?_⟩
  simp only [Bool.not_eq_true', List.any_eq_false] at hsolid
  simpa using hsolid c hc

/-- Whitespace in front does not count. -/
theorem words_cons_space {c : Char} (hc : isSpace c = true) (s : List Char) :
    words (c :: s) = words s := by
  have hsplit : (c :: s).splitBy (fun a b => !isSpace a && !isSpace b) =
      [[c]] ++ s.splitBy fun a b => !isSpace a && !isSpace b := by
    refine List.splitBy_append (l := [c]) fun x hx y _ => ?_
    have hx : c = x := by simpa using hx
    rw [← hx, hc]
    rfl
  unfold words
  rw [hsplit, List.filter_append, List.filter_singleton]
  simp [hc]

/-- A word in front of whitespace is the first one. -/
theorem words_append {w s : List Char} (hw : IsWord w) (hs : ∀ c ∈ s.head?, isSpace c = true) :
    words (w ++ s) = w :: words s := by
  have hchain : w.splitBy (fun a b => !isSpace a && !isSpace b) = [w] := by
    refine List.splitBy_of_isChain hw.ne_nil (List.Pairwise.isChain ?_)
    refine List.pairwise_of_forall_mem_list fun a ha b hb => ?_
    rw [hw.solid a ha, hw.solid b hb]
    rfl
  have hsolid : (!w.any isSpace) = true := by simpa using hw.solid
  unfold words
  rw [List.splitBy_append fun x _ y hy => by rw [hs y hy]; simp, hchain,
    List.singleton_append, List.filter_cons, if_pos hsolid]

/-! ## Splitting what was joined -/

theorem filter_intersperse {ws : List (List Char)} (h : ∀ w ∈ ws, IsWord w) :
    (ws.intersperse [' ']).filter (fun w => !w.any isSpace) = ws := by
  have hword : ∀ w, IsWord w → (!w.any isSpace) = true := by
    intro w hw
    simpa using hw.solid
  induction ws with
  | nil => rfl
  | cons w ws ih =>
    have ih := ih fun x hx => h x (List.mem_cons_of_mem w hx)
    have hw := hword w (h w List.mem_cons_self)
    cases ws with
    | nil => simp [hw]
    | cons v ws =>
      rw [List.intersperse_cons_cons, List.filter_cons, if_pos hw, List.filter_cons, ih]
      rfl

/-- Words, with a space after each word but perhaps the last. -/
structure Spaced (gs : List (List Char)) : Prop where
  parts : ∀ g ∈ gs, IsWord g ∨ g = [' ']
  apart : gs.IsChain fun a b => a = [' '] ∨ b = [' ']

theorem Spaced.splitBy {groups : List (List Char)} (h : Spaced groups) :
    groups.flatten.splitBy (fun a b => !isSpace a && !isSpace b) = groups := by
  have hne : ∀ g ∈ groups, g ≠ [] := by
    intro g hg
    rcases h.parts g hg with hword | rfl
    · exact hword.ne_nil
    · exact List.cons_ne_nil _ _
  refine List.splitBy_flatten (fun hnil => hne [] hnil rfl) (fun g hg => ?_) ?_
  · rcases h.parts g hg with hword | rfl
    · refine List.Pairwise.isChain (List.pairwise_of_forall_mem_list fun a ha b hb => ?_)
      rw [hword.solid a ha, hword.solid b hb]
      rfl
    · exact List.isChain_singleton _
  · refine List.IsChain.imp_of_mem_imp (fun a b ha hb hab => ⟨hne a ha, hne b hb, ?_⟩) h.apart
    rcases hab with rfl | rfl
    · simp [show isSpace ' ' = true from rfl]
    · simp [show isSpace ' ' = true from rfl]

theorem spaced_intersperse {ws : List (List Char)} (h : ∀ w ∈ ws, IsWord w) :
    Spaced (ws.intersperse [' ']) := by
  induction ws with
  | nil => exact ⟨fun _ hg => absurd hg (by simp), List.isChain_nil⟩
  | cons w ws ih =>
    have ih := ih fun x hx => h x (List.mem_cons_of_mem w hx)
    have hw := h w List.mem_cons_self
    cases ws with
    | nil =>
      refine ⟨fun g hg => Or.inl ?_, List.isChain_singleton _⟩
      rw [List.mem_singleton.1 hg]
      exact hw
    | cons v ws =>
      rw [List.intersperse_cons_cons]
      constructor
      · intro g hg
        rcases List.mem_cons.1 hg with rfl | hg
        · exact Or.inl hw
        · rcases List.mem_cons.1 hg with rfl | hg
          · exact Or.inr rfl
          · exact ih.parts g hg
      · have hrest : ([' '] :: (v :: ws).intersperse [' ']).IsChain
            fun a b => a = [' '] ∨ b = [' '] :=
          List.isChain_cons.2 ⟨fun _ _ => Or.inl rfl, ih.apart⟩
        exact List.isChain_cons.2 ⟨fun b hb => Or.inr (Option.some.inj hb).symm, hrest⟩

/-- **Splitting gives back what was joined.** -/
theorem words_joinWords {ws : List (List Char)} (h : ∀ w ∈ ws, IsWord w) :
    words (joinWords ws) = ws := by
  unfold words joinWords List.intercalate
  rw [(spaced_intersperse h).splitBy, filter_intersperse h]

/-- A space at the end is not a word. -/
theorem words_joinWords_space {ws : List (List Char)} (h : ∀ w ∈ ws, IsWord w) :
    words (joinWords ws ++ [' ']) = ws := by
  have hspaced : Spaced (ws.intersperse [' '] ++ [[' ']]) := by
    have hbase := spaced_intersperse h
    constructor
    · intro g hg
      rcases List.mem_append.1 hg with hg | hg
      · exact hbase.parts g hg
      · exact Or.inr (List.mem_singleton.1 hg)
    · refine List.isChain_append.2 ⟨hbase.apart, List.isChain_singleton _, fun a _ b hb => ?_⟩
      exact Or.inr (Option.some.inj hb).symm
  have hflatten : joinWords ws ++ [' '] = (ws.intersperse [' '] ++ [[' ']]).flatten := by
    simp [joinWords, List.intercalate]
  unfold words
  rw [hflatten, hspaced.splitBy, List.filter_append, filter_intersperse h]
  simp [show isSpace ' ' = true from rfl]

/-! ## Cutting what was joined -/

theorem joinWords_eq_nil {ws : List (List Char)} (h : ∀ w ∈ ws, IsWord w)
    (hnil : joinWords ws = []) : ws = [] := by
  rw [← words_joinWords h, hnil]
  rfl

/-- Joined text does not start with whitespace. -/
theorem head?_joinWords {ws : List (List Char)} (h : ∀ w ∈ ws, IsWord w) :
    ∀ c ∈ (joinWords ws).head?, isSpace c = false := by
  cases ws with
  | nil => simp
  | cons w ws =>
    have hw := h w List.mem_cons_self
    have hhead : (joinWords (w :: ws)).head? = w.head? := by
      by_cases hws : ws = []
      · rw [hws, joinWords_singleton]
      · rw [joinWords_cons w hws, List.head?_append_of_ne_nil _ hw.ne_nil]
    rw [hhead]
    exact fun c hc => hw.solid c (List.mem_of_mem_head? hc)

/-- Joined text, cut anywhere, is joined text, perhaps with a space after it. -/
theorem take_joinWords {ws : List (List Char)} (h : ∀ w ∈ ws, IsWord w) (n : Nat) :
    ∃ vs : List (List Char), (∀ v ∈ vs, IsWord v) ∧ ((joinWords ws).take n = joinWords vs ∨
      (joinWords ws).take n = joinWords vs ++ [' ']) := by
  have hprefix : ∀ {w : List Char} {k : Nat}, IsWord w → ∃ vs : List (List Char),
      (∀ v ∈ vs, IsWord v) ∧ w.take k = joinWords vs := by
    intro w k hw
    by_cases hk : w.take k = []
    · exact ⟨[], by simp, hk⟩
    · refine ⟨[w.take k], fun v hv => ?_, (joinWords_singleton _).symm⟩
      rw [List.mem_singleton.1 hv]
      exact ⟨hk, fun c hc => hw.solid c (List.mem_of_mem_take hc)⟩
  induction ws generalizing n with
  | nil => exact ⟨[], by simp, Or.inl (by simp)⟩
  | cons w ws ih =>
    have hw := h w List.mem_cons_self
    by_cases hws : ws = []
    · subst hws
      rw [joinWords_singleton]
      obtain ⟨vs, hvs, heq⟩ := hprefix (k := n) hw
      exact ⟨vs, hvs, Or.inl heq⟩
    · rw [joinWords_cons w hws]
      by_cases hn : n ≤ w.length
      · rw [List.take_append_of_le_length hn]
        obtain ⟨vs, hvs, heq⟩ := hprefix (k := n) hw
        exact ⟨vs, hvs, Or.inl heq⟩
      · obtain ⟨m, rfl⟩ : ∃ m, n = w.length + (m + 1) := ⟨n - w.length - 1, by omega⟩
        rw [List.take_length_add_append, List.take_succ_cons]
        obtain ⟨vs, hvs, heq⟩ := ih (fun x hx => h x (List.mem_cons_of_mem w hx)) m
        by_cases hnil : vs = []
        · subst hnil
          rcases heq with heq | heq
          · rw [heq]
            refine ⟨[w], fun v hv => ?_, Or.inr (by simp)⟩
            rw [List.mem_singleton.1 hv]
            exact hw
          · -- the text after the space does not start with one
            exfalso
            have hhead := head?_joinWords fun x hx => h x (List.mem_cons_of_mem w hx)
            cases m with
            | zero => simp at heq
            | succ m =>
              have htake := congrArg List.head? heq
              rw [List.head?_take, if_neg (Nat.succ_ne_zero m)] at htake
              exact absurd (hhead ' ' (by rw [htake]; rfl)) (by decide)
        · refine ⟨w :: vs, fun v hv => ?_, ?_⟩
          · rcases List.mem_cons.1 hv with rfl | hv
            · exact hw
            · exact hvs v hv
          · rw [joinWords_cons w hnil]
            rcases heq with heq | heq
            · exact Or.inl (by rw [heq])
            · exact Or.inr (by rw [heq, List.append_assoc, List.cons_append])

/-- Joined text does not end with whitespace. -/
theorem getLast?_joinWords {ws : List (List Char)} (h : ∀ w ∈ ws, IsWord w) :
    ∀ c ∈ (joinWords ws).getLast?, isSpace c = false := by
  induction ws with
  | nil => simp
  | cons w ws ih =>
    have ih := ih fun x hx => h x (List.mem_cons_of_mem w hx)
    by_cases hws : ws = []
    · subst hws
      rw [joinWords_singleton]
      exact fun c hc => (h w List.mem_cons_self).solid c (List.mem_of_getLast? hc)
    · rw [joinWords_cons w hws]
      have hne : joinWords ws ≠ [] := fun hnil =>
        hws (joinWords_eq_nil (fun x hx => h x (List.mem_cons_of_mem w hx)) hnil)
      rw [List.getLast?_append_of_ne_nil _ (List.cons_ne_nil _ _), List.getLast?_cons_of_ne_nil hne]
      exact ih

/-- **Cut text is still collapsed, unless the cut is after a space**, which is then lost. -/
theorem collapseSpace_take (s : String) (n : Nat) :
    let t := takeChars n (collapseSpace s)
    (t.toList.getLast? ≠ some ' ' ∧ collapseSpace t = t) ∨
      (t.toList.getLast? = some ' ' ∧ t.toList = (collapseSpace t).toList ++ [' ']) := by
  have hwords : ∀ w ∈ words s.toList, IsWord w := fun _ => isWord_of_mem_words
  obtain ⟨vs, hvs, hcut⟩ := take_joinWords hwords n
  have ht : (takeChars n (collapseSpace s)).toList = (joinWords (words s.toList)).take n := by
    rw [toList_takeChars, toList_collapseSpace]
  intro t
  rw [← String.toList_inj, toList_collapseSpace, ht]
  rcases hcut with hcut | hcut
  · rw [hcut, words_joinWords hvs]
    refine Or.inl ⟨fun hlast => ?_, rfl⟩
    exact absurd (getLast?_joinWords hvs ' ' hlast) (by decide)
  · rw [hcut, words_joinWords_space hvs]
    exact Or.inr ⟨by simp, rfl⟩

/-- Collapsed text does not start with whitespace. -/
theorem head?_collapseSpace (s : String) : ∀ c ∈ (collapseSpace s).toList.head?, isSpace c = false := by
  rw [toList_collapseSpace]
  exact head?_joinWords fun _ => isWord_of_mem_words

/-- Text that does not start with whitespace is not blank. -/
theorem strip_ne_empty {s : String} (hne : s ≠ "") (h : ∀ c ∈ s.toList.head?, isSpace c = false) :
    strip s ≠ "" := by
  obtain ⟨c, rest, heq⟩ := List.exists_cons_of_ne_nil fun hnil =>
    hne (String.toList_eq_nil_iff.1 hnil)
  have hc : isSpace c = false := h c (by rw [heq]; rfl)
  unfold strip
  rw [heq, List.dropWhile_cons_of_neg (by rw [hc]; decide)]
  intro hnil
  have hall := List.rdropWhile_eq_nil_iff.1 (String.ofList_eq_empty_iff.1 hnil)
  rw [hall c List.mem_cons_self] at hc
  cases hc

/-! ## What collapsing keeps -/

/-- Nothing is counted twice, and the joining spaces do not count. -/
theorem countP_collapseSpace {p : Char → Bool} (hp : p ' ' = false) (s : String) :
    (collapseSpace s).toList.countP p ≤ s.toList.countP p := by
  have hjoin : ∀ ws : List (List Char), (joinWords ws).countP p = ws.flatten.countP p := by
    intro ws
    induction ws with
    | nil => rfl
    | cons w ws ih =>
      by_cases hws : ws = []
      · simp [hws]
      · rw [joinWords_cons w hws, List.countP_append, List.countP_cons, ih, List.flatten_cons,
          List.countP_append]
        simp [hp]
  rw [toList_collapseSpace, hjoin]
  have hsub : (words s.toList).flatten.Sublist s.toList := by
    have h := List.Sublist.flatten (List.filter_sublist (p := fun w => !w.any isSpace)
      (l := s.toList.splitBy fun a b => !isSpace a && !isSpace b))
    rwa [List.flatten_splitBy] at h
  exact hsub.countP_le

theorem mem_collapseSpace {s : String} {c : Char} (h : c ∈ (collapseSpace s).toList) :
    c ∈ s.toList ∨ c = ' ' := by
  by_contra hc
  rw [not_or] at hc
  have hcount := countP_collapseSpace (p := fun d => d == c) (by simpa using Ne.symm hc.2) s
  have hpos : 0 < (collapseSpace s).toList.countP fun d => d == c :=
    List.countP_pos_iff.2 ⟨c, h, by simp⟩
  obtain ⟨d, hd, heq⟩ := List.countP_pos_iff.1 (lt_of_lt_of_le hpos hcount)
  exact hc.1 (by rwa [beq_iff_eq.1 heq] at hd)

/-! ## Letter by letter -/

section Letters

open Patterns

/-- Joining the words of a text squeezes its whitespace; a word in front of it goes on. -/
theorem joinWords_words : ∀ xs : List Char,
    joinWords (words xs) = squeeze isSpace ' ' xs ∧
      ∀ w, IsWord w → joinWords (words (w ++ xs)) = w ++ squeezeFrom isSpace ' ' .inWord xs
  | [] => by
    refine ⟨rfl, fun w hw => ?_⟩
    rw [words_append hw (by simp)]
    simp [words, squeezeFrom]
  | c :: xs => by
    obtain ⟨hstart, hword⟩ := joinWords_words xs
    unfold squeeze at hstart ⊢
    cases hc : isSpace c with
    | true =>
      rw [words_cons_space hc, squeezeFrom_gap hc]
      refine ⟨hstart, fun w hw => ?_⟩
      rw [words_append hw (by simpa using hc), words_cons_space hc, squeezeFrom_gap hc]
      change _ = w ++ squeezeFrom isSpace ' ' .inGap xs
      rw [squeezeFrom_inGap, ← hstart]
      by_cases hws : words xs = []
      · rw [hws]
        simp
      · have hne : joinWords (words xs) ≠ [] := fun hnil =>
          hws (joinWords_eq_nil (fun _ => isWord_of_mem_words) hnil)
        rw [joinWords_cons w hws, if_neg hne]
    | false =>
      rw [squeezeFrom_solid hc, squeezeFrom_solid hc]
      refine ⟨?_, fun w hw => ?_⟩
      · exact hword [c] ⟨List.cons_ne_nil c [], List.forall_mem_singleton.2 hc⟩
      · have hmore := hword (w ++ [c]) ⟨by simp, List.forall_mem_append.2
          ⟨hw.solid, List.forall_mem_singleton.2 hc⟩⟩
        simpa [Stage.sep] using hmore

/-- **Collapsing squeezes the whitespace of a text.** -/
theorem toList_collapseSpace_squeeze (s : String) :
    (collapseSpace s).toList = squeeze isSpace ' ' s.toList := by
  rw [toList_collapseSpace]
  exact (joinWords_words s.toList).1

end Letters

end NocAgent
