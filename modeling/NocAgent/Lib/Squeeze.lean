import NocAgent.Lib.Pattern

/-!
# Searching a text whose gaps were squeezed

Letters that are a `gap` are dropped from both ends of a text, and every other run of them becomes
one `sp`.

* `squeezeFrom` — the text, letter by letter; `squeezeFrom_append`, `exists_of_squeezeFrom`.
* `Reads` — a text is read with one `sp` for some runs of gaps; `Regex.mem_loosen_iff`.
* `Pattern.found_take_squeeze_iff` — a tight pattern is in the first letters of a squeezed text
  exactly when it is, with any run of gaps for its `sp`, in a part of the text that fits in there.
-/

set_option autoImplicit false

namespace Patterns

universe u

variable {α : Type u}

/-! ## Squeezing -/

/-- Where in the text: before its first word, behind a letter of a word, in a gap behind a word. -/
inductive Stage where
  | start
  | inWord
  | inGap
  deriving DecidableEq

def Stage.onGap : Stage → Stage
  | .start => .start
  | .inWord => .inGap
  | .inGap => .inGap

/-- What is written in front of the next letter. -/
def Stage.sep (sp : α) : Stage → List α
  | .inGap => [sp]
  | _ => []

section Squeeze

variable (gap : α → Bool) (sp : α)

def squeezeFrom : Stage → List α → List α
  | _, [] => []
  | stage, c :: cs =>
    if gap c then squeezeFrom stage.onGap cs else stage.sep sp ++ c :: squeezeFrom .inWord cs

def squeeze (xs : List α) : List α := squeezeFrom gap sp .start xs

def stageAfter (stage : Stage) (xs : List α) : Stage :=
  xs.foldl (fun stage c => if gap c then stage.onGap else .inWord) stage

end Squeeze

section Laws

variable {gap : α → Bool} {sp : α}

theorem squeezeFrom_gap {c : α} (hc : gap c = true) (stage : Stage) (cs : List α) :
    squeezeFrom gap sp stage (c :: cs) = squeezeFrom gap sp stage.onGap cs := if_pos hc

theorem squeezeFrom_solid {c : α} (hc : gap c = false) (stage : Stage) (cs : List α) :
    squeezeFrom gap sp stage (c :: cs) = stage.sep sp ++ c :: squeezeFrom gap sp .inWord cs :=
  if_neg (Bool.not_eq_true _ ▸ hc)

/-- **A text is squeezed part by part.** -/
theorem squeezeFrom_append (xs ys : List α) : ∀ stage : Stage, squeezeFrom gap sp stage (xs ++ ys) =
    squeezeFrom gap sp stage xs ++ squeezeFrom gap sp (stageAfter gap stage xs) ys := by
  induction xs with
  | nil => exact fun stage => rfl
  | cons c xs ih =>
    intro stage
    rw [List.cons_append]
    unfold stageAfter at ih ⊢
    rw [List.foldl_cons]
    cases hc : gap c with
    | true =>
      rw [squeezeFrom_gap hc, squeezeFrom_gap hc, ih]
      rfl
    | false =>
      rw [squeezeFrom_solid hc, squeezeFrom_solid hc, ih, List.append_assoc, List.cons_append]
      rfl

/-- A text whose gaps are replaced by others squeezes as before. -/
theorem squeezeFrom_map {gap' : α → Bool} {f : α → α} (hgap : ∀ c, gap' (f c) = gap c)
    (hsolid : ∀ c, gap c = false → f c = c) : ∀ (stage : Stage) (xs : List α),
    squeezeFrom gap' sp stage (xs.map f) = squeezeFrom gap sp stage xs
  | _, [] => rfl
  | stage, c :: xs => by
    rw [List.map_cons]
    cases hc : gap c with
    | true =>
      rw [squeezeFrom_gap ((hgap c).trans hc), squeezeFrom_gap hc]
      exact squeezeFrom_map hgap hsolid _ xs
    | false =>
      rw [squeezeFrom_solid ((hgap c).trans hc), squeezeFrom_solid hc, hsolid c hc,
        squeezeFrom_map hgap hsolid _ xs]

theorem prefix_squeeze (xs ys : List α) : squeeze gap sp xs <+: squeeze gap sp (xs ++ ys) := by
  unfold squeeze
  rw [squeezeFrom_append]
  exact List.prefix_append _ _

theorem stageAfter_append (xs ys : List α) (stage : Stage) :
    stageAfter gap stage (xs ++ ys) = stageAfter gap (stageAfter gap stage xs) ys :=
  List.foldl_append

/-- What is in squeezed text. -/
theorem mem_squeezeFrom : ∀ {xs : List α} {stage : Stage} {c : α},
    c ∈ squeezeFrom gap sp stage xs → c ∈ xs ∧ gap c = false ∨ c = sp
  | [], _, _, h => absurd h List.not_mem_nil
  | x :: xs, stage, c, h => by
    cases hx : gap x with
    | true =>
      rw [squeezeFrom_gap hx] at h
      exact (mem_squeezeFrom h).imp_left (And.imp_left (List.mem_cons_of_mem x))
    | false =>
      rw [squeezeFrom_solid hx] at h
      rcases List.mem_append.1 h with hsep | hrest
      · refine Or.inr ?_
        cases stage with
        | inGap => exact List.mem_singleton.1 hsep
        | _ => exact absurd hsep List.not_mem_nil
      · rcases List.mem_cons.1 hrest with rfl | hrest
        · exact Or.inl ⟨List.mem_cons_self, hx⟩
        · exact (mem_squeezeFrom hrest).imp_left (And.imp_left (List.mem_cons_of_mem x))

/-- **A letter of squeezed text comes from one of the text, and so do the parts around it.** -/
theorem exists_of_squeezeFrom (hsp : gap sp = true) {c : α} (hc : gap c = false) :
    ∀ {xs : List α} {stage : Stage} {front back : List α},
      squeezeFrom gap sp stage xs = front ++ c :: back → ∃ before after, xs = before ++ c :: after ∧
        front = squeezeFrom gap sp stage before ++ (stageAfter gap stage before).sep sp ∧
        back = squeezeFrom gap sp .inWord after
  | [], _, front, _, h => absurd h.symm (by simp [squeezeFrom])
  | x :: xs, stage, front, back, h => by
    cases hx : gap x with
    | true =>
      rw [squeezeFrom_gap hx] at h
      obtain ⟨before, after, rfl, hfront, hback⟩ := exists_of_squeezeFrom hsp hc h
      refine ⟨x :: before, after, rfl, ?_, hback⟩
      rw [squeezeFrom_gap hx, hfront]
      unfold stageAfter
      rw [List.foldl_cons, if_pos hx]
    | false =>
      rw [squeezeFrom_solid hx] at h
      rcases List.append_eq_append_iff.1 h with ⟨more, rfl, hmore⟩ | ⟨more, hsep, hmore⟩
      · cases more with
        | nil =>
          obtain ⟨rfl, rfl⟩ := List.cons.inj hmore
          exact ⟨[], xs, rfl, by simp [squeezeFrom, stageAfter], rfl⟩
        | cons d more =>
          obtain ⟨rfl, hrest⟩ := List.cons.inj hmore
          obtain ⟨before, after, rfl, hfront, hback⟩ := exists_of_squeezeFrom hsp hc hrest
          refine ⟨x :: before, after, rfl, ?_, hback⟩
          rw [squeezeFrom_solid hx, hfront, List.append_assoc, List.cons_append]
          unfold stageAfter
          rw [List.foldl_cons, if_neg (by rw [hx]; decide)]
      · -- the letter is in what is written in front of it: only when nothing is
        cases more with
        | nil =>
          obtain ⟨rfl, rfl⟩ := List.cons.inj hmore
          exact ⟨[], xs, rfl, by simpa [squeezeFrom, stageAfter] using hsep.symm, rfl⟩
        | cons d more =>
          obtain ⟨rfl, -⟩ := List.cons.inj hmore
          have hmem : c ∈ stage.sep sp := by
            rw [hsep]
            exact List.mem_append_right _ List.mem_cons_self
          cases stage with
          | inGap =>
            rw [List.mem_singleton.1 hmem, hsp] at hc
            cases hc
          | _ => exact absurd hmem List.not_mem_nil

/-- A text that starts with a letter does not see what is in front of it. -/
theorem squeezeFrom_of_solid {c : α} (hc : gap c = false) (stage : Stage) (cs : List α) :
    squeezeFrom gap sp stage (c :: cs) = stage.sep sp ++ squeezeFrom gap sp .inWord (c :: cs) := by
  rw [squeezeFrom_solid hc, squeezeFrom_solid hc]
  rfl

/-- In a gap the space is written only if a word follows. -/
theorem squeezeFrom_inGap (xs : List α) : squeezeFrom gap sp .inGap xs =
    if squeezeFrom gap sp .start xs = [] then [] else sp :: squeezeFrom gap sp .start xs := by
  induction xs with
  | nil => rfl
  | cons c xs ih =>
    cases hc : gap c with
    | true =>
      rw [squeezeFrom_gap hc, squeezeFrom_gap hc]
      exact ih
    | false =>
      rw [squeezeFrom_solid hc, squeezeFrom_solid hc]
      exact (if_neg (List.cons_ne_nil _ _)).symm

/-- Behind a word a gap is written if another word follows. -/
theorem squeezeFrom_inWord (xs : List α) : squeezeFrom gap sp .inWord xs =
    (if xs.head?.any gap && !(squeezeFrom gap sp .start xs).isEmpty then [sp] else []) ++
      squeezeFrom gap sp .start xs := by
  cases xs with
  | nil => simp [squeezeFrom]
  | cons c xs =>
    cases hc : gap c with
    | true =>
      rw [squeezeFrom_gap hc, squeezeFrom_gap hc]
      change squeezeFrom gap sp .inGap xs = _
      rw [squeezeFrom_inGap]
      by_cases hnil : squeezeFrom gap sp .start xs = []
      · simp [hnil, Stage.onGap]
      · simp [hnil, hc, Stage.onGap]
    | false =>
      rw [squeezeFrom_solid hc, squeezeFrom_solid hc, if_neg]
      · rfl
      · rw [List.head?_cons, Option.any_some, hc]
        exact Bool.false_ne_true

/-- **In squeezed text no two gaps are next to each other.** -/
theorem isChain_squeeze (xs : List α) :
    (squeeze gap sp xs).IsChain fun a b => ¬ (gap a = true ∧ gap b = true) := by
  have hbehind : ∀ (xs : List α) (d : α), gap d = false →
      (d :: squeezeFrom gap sp .inWord xs).IsChain (fun a b => ¬ (gap a = true ∧ gap b = true)) ∧
        (d :: squeezeFrom gap sp .inGap xs).IsChain
          fun a b => ¬ (gap a = true ∧ gap b = true) := by
    intro xs
    induction xs with
    | nil => exact fun d _ => ⟨.singleton d, .singleton d⟩
    | cons c xs ih =>
      intro d hd
      cases hc : gap c with
      | true =>
        rw [squeezeFrom_gap hc, squeezeFrom_gap hc]
        exact ⟨(ih d hd).2, (ih d hd).2⟩
      | false =>
        rw [squeezeFrom_solid hc, squeezeFrom_solid hc]
        exact ⟨List.isChain_cons_cons.2 ⟨by simp [hd], (ih c hc).1⟩,
          List.isChain_cons_cons.2 ⟨by simp [hd],
            List.isChain_cons_cons.2 ⟨by simp [hc], (ih c hc).1⟩⟩⟩
  unfold squeeze
  induction xs with
  | nil => exact .nil
  | cons c xs ih =>
    cases hc : gap c with
    | true =>
      rw [squeezeFrom_gap hc]
      exact ih
    | false =>
      rw [squeezeFrom_solid hc]
      exact (hbehind xs c hc).1

/-- Before the first word nothing is written. -/
theorem squeezeFrom_of_start : ∀ {xs : List α}, stageAfter gap .start xs = .start →
    squeezeFrom gap sp .start xs = []
  | [], _ => rfl
  | x :: xs, h => by
    have hword : ∀ (ys : List α) (stage : Stage), stage ≠ .start →
        stageAfter gap stage ys ≠ .start := by
      intro ys
      induction ys with
      | nil => exact fun _ h => h
      | cons y ys ih =>
        intro stage hstage
        unfold stageAfter at ih ⊢
        rw [List.foldl_cons]
        refine ih _ ?_
        split
        · cases stage with
          | start => exact absurd rfl hstage
          | _ => exact Stage.noConfusion
        · exact Stage.noConfusion
    unfold stageAfter at h
    rw [List.foldl_cons] at h
    cases hx : gap x with
    | true =>
      rw [hx] at h
      rw [squeezeFrom_gap hx]
      exact squeezeFrom_of_start h
    | false =>
      rw [hx] at h
      exact absurd h (hword xs .inWord Stage.noConfusion)

/-- The last letter in front of a word, as far as letters of words go. -/
theorem getLast?_squeeze {word : α → Bool} (hsp : gap sp = true)
    (hword : ∀ c, gap c = true → word c = false) (xs : List α) :
    ((squeeze gap sp xs ++ (stageAfter gap .start xs).sep sp).getLast?.any word) =
      xs.getLast?.any word := by
  rcases List.eq_nil_or_concat' xs with rfl | ⟨xs, c, rfl⟩
  · rfl
  · have hnone : ∀ stage : Stage, (stage.sep sp).getLast?.any word = false := by
      intro stage
      cases stage with
      | inGap => exact hword sp hsp
      | _ => rfl
    unfold squeeze
    rw [squeezeFrom_append, stageAfter_append, List.getLast?_concat]
    cases hc : gap c with
    | false =>
      have hstage : stageAfter gap (stageAfter gap .start xs) [c] = .inWord := if_neg (by simp [hc])
      rw [hstage, squeezeFrom_solid hc]
      simp [Stage.sep, squeezeFrom]
    | true =>
      have hstage : stageAfter gap (stageAfter gap .start xs) [c] =
        (stageAfter gap .start xs).onGap := if_pos hc
      rw [hstage, squeezeFrom_gap hc, Option.any_some, hword c hc]
      cases hbefore : stageAfter gap .start xs with
      | start =>
        rw [squeezeFrom_of_start hbefore]
        rfl
      | _ =>
        change ((squeezeFrom gap sp .start xs ++ [] ++ [sp]).getLast?.any word) = false
        rw [List.getLast?_concat, Option.any_some, hword sp hsp]

end Laws

/-! ## Reading a text with its gaps squeezed, or not all of them into one -/

section Reads

variable (gap : α → Bool) (sp : α)

/-- The letters of the text in their order, with one `sp` for each of the runs its gaps are made
of. -/
inductive Reads : List α → List α → Prop where
  | nil : Reads [] []
  | solid {c : α} {xs ys : List α} (hc : gap c = false) (hrest : Reads xs ys) :
      Reads (c :: xs) (c :: ys)
  | run {g xs ys : List α} (hne : g ≠ []) (hgap : ∀ c ∈ g, gap c = true) (hrest : Reads xs ys) :
      Reads (g ++ xs) (sp :: ys)

end Reads

section Laws

variable {gap : α → Bool} {sp : α}

theorem Reads.append {xs xs' ys ys' : List α} (h : Reads gap sp xs ys) (h' : Reads gap sp xs' ys') :
    Reads gap sp (xs ++ xs') (ys ++ ys') := by
  induction h with
  | nil => exact h'
  | solid hc _ ih => exact .solid hc ih
  | run hne hgap _ ih =>
    rw [List.append_assoc, List.cons_append]
    exact .run hne hgap ih

theorem Reads.split : ∀ {ys xs ys' : List α}, Reads gap sp xs (ys ++ ys') →
    ∃ u v, xs = u ++ v ∧ Reads gap sp u ys ∧ Reads gap sp v ys'
  | [], xs, _, h => ⟨[], xs, rfl, .nil, h⟩
  | y :: ys, _, _, h => by
    rw [List.cons_append] at h
    cases h with
    | solid hc hrest =>
      obtain ⟨u, v, rfl, hu, hv⟩ := Reads.split hrest
      exact ⟨_ :: u, v, rfl, .solid hc hu, hv⟩
    | run hne hgap hrest =>
      obtain ⟨u, v, rfl, hu, hv⟩ := Reads.split hrest
      exact ⟨_ ++ u, v, (List.append_assoc _ _ _).symm, .run hne hgap hu, hv⟩

theorem Reads.singleton {xs : List α} {d : α} (h : Reads gap sp xs [d]) (hd : d ≠ sp) :
    xs = [d] ∧ gap d = false := by
  cases h with
  | solid hc hrest =>
    cases hrest
    exact ⟨rfl, hc⟩
  | run => exact absurd rfl hd

/-- The last letter of a text is read as it is. -/
theorem Reads.concat {xs ys : List α} {d : α} (h : Reads gap sp xs (ys ++ [d])) (hd : d ≠ sp) :
    ∃ u, xs = u ++ [d] ∧ gap d = false := by
  obtain ⟨u, v, rfl, -, hv⟩ := h.split
  obtain ⟨rfl, hc⟩ := hv.singleton hd
  exact ⟨u, rfl, hc⟩

/-- And so is the first. -/
theorem Reads.cons {xs ys : List α} {d : α} (h : Reads gap sp xs (d :: ys)) (hd : d ≠ sp) :
    ∃ v, xs = d :: v ∧ gap d = false := by
  rw [← List.singleton_append] at h
  obtain ⟨u, v, rfl, hu, -⟩ := h.split
  obtain ⟨rfl, hc⟩ := hu.singleton hd
  exact ⟨v, rfl, hc⟩

/-- A run of gaps behind a word is one gap. -/
theorem squeezeFrom_run (xs : List α) : ∀ {g : List α} {stage : Stage}, g ≠ [] →
    (∀ c ∈ g, gap c = true) → stage ≠ .start →
      squeezeFrom gap sp stage (g ++ xs) = squeezeFrom gap sp .inGap xs
  | [], _, hne, _, _ => absurd rfl hne
  | c :: g, stage, _, hgap, hstage => by
    have hnext : stage.onGap = .inGap := by
      cases stage with
      | start => exact absurd rfl hstage
      | _ => rfl
    rw [List.cons_append, squeezeFrom_gap (hgap c List.mem_cons_self), hnext]
    by_cases hg : g = []
    · rw [hg, List.nil_append]
    · exact squeezeFrom_run xs hg (fun d hd => hgap d (List.mem_cons_of_mem c hd))
        Stage.noConfusion

/-- **A text that ends in a word is read as it is squeezed.** -/
theorem reads_squeezeFrom {d : α} (hd : gap d = false) : ∀ xs : List α,
    Reads gap sp (xs ++ [d]) (squeezeFrom gap sp .inWord (xs ++ [d])) ∧
      ∀ g : List α, g ≠ [] → (∀ c ∈ g, gap c = true) →
        Reads gap sp (g ++ (xs ++ [d])) (squeezeFrom gap sp .inGap (xs ++ [d]))
  | [] => by
    rw [List.nil_append, squeezeFrom_solid hd, squeezeFrom_solid hd]
    exact ⟨.solid hd .nil, fun g hne hgap => .run hne hgap (.solid hd .nil)⟩
  | c :: xs => by
    obtain ⟨hword, hgaps⟩ := reads_squeezeFrom hd xs
    rw [List.cons_append]
    cases hc : gap c with
    | true =>
      have hone : ∀ x ∈ [c], gap x = true := List.forall_mem_singleton.2 hc
      rw [squeezeFrom_gap hc, squeezeFrom_gap hc]
      refine ⟨hgaps [c] (List.cons_ne_nil c []) hone, fun g hne hgap => ?_⟩
      have hmore := hgaps (g ++ [c]) (by simp) (List.forall_mem_append.2 ⟨hgap, hone⟩)
      rwa [List.append_assoc] at hmore
    | false =>
      rw [squeezeFrom_solid hc, squeezeFrom_solid hc]
      exact ⟨.solid hc hword, fun g hne hgap => .run hne hgap (.solid hc hword)⟩

/-- **A way to read a text is squeezed further where two `sp` in a row may be written as one.** -/
theorem Reads.mem_squeezeFrom {L : Language α}
    (hmerge : ∀ u v : List α, u ++ sp :: sp :: v ∈ L → u ++ sp :: v ∈ L) {xs ys : List α}
    (h : Reads gap sp xs ys) (hlast : ∀ u c, xs = u ++ [c] → gap c = false) :
    (∀ u, u ++ ys ∈ L → u ++ squeezeFrom gap sp .inWord xs ∈ L) ∧
      (xs ≠ [] → ∀ u, u ++ sp :: ys ∈ L → u ++ squeezeFrom gap sp .inGap xs ∈ L) := by
  induction h with
  | nil => exact ⟨fun _ h => h, fun hne => absurd rfl hne⟩
  | @solid c xs ys hc _ ih =>
    obtain ⟨ih, -⟩ := ih fun u d hu => hlast (c :: u) d (by rw [hu, List.cons_append])
    rw [squeezeFrom_solid hc, squeezeFrom_solid hc]
    constructor
    · intro u hu
      have hnext := ih (u ++ [c]) (by simpa using hu)
      simpa [Stage.sep] using hnext
    · intro _ u hu
      have hnext := ih (u ++ [sp, c]) (by simpa using hu)
      simpa [Stage.sep] using hnext
  | @run g xs ys hne hgap _ ih =>
    have hxs : xs ≠ [] := by
      rintro rfl
      obtain ⟨u, c, rfl⟩ := (List.eq_nil_or_concat' g).resolve_left hne
      have hsolid := hlast u c (List.append_nil _)
      rw [hgap c (by simp)] at hsolid
      cases hsolid
    obtain ⟨-, ih⟩ := ih fun u d hu => hlast (g ++ u) d (by rw [hu, List.append_assoc])
    rw [squeezeFrom_run xs hne hgap Stage.noConfusion,
      squeezeFrom_run xs hne hgap Stage.noConfusion]
    exact ⟨ih hxs, fun _ u hu => ih hxs u (hmerge u ys hu)⟩

end Laws

/-! ## Patterns -/

namespace Regex

variable (gap : α → Bool) (sp : α)

/-- The expression with any run of gaps for an `sp`, and no gaps else. -/
def loosen : Regex α → Regex α
  | .empty => .empty
  | .eps => .eps
  | .letter p =>
    .alt (.letter fun c => p c && !gap c) (if p sp then plus (.letter gap) else .empty)
  | .seq r s => .seq r.loosen s.loosen
  | .alt r s => .alt r.loosen s.loosen
  | .star r => .star r.loosen

variable {gap sp}

theorem mem_plus_letter {p : α → Bool} {w : List α} :
    w ∈ (plus (letter p)).lang ↔ w ≠ [] ∧ ∀ c ∈ w, p c = true := by
  unfold plus
  rw [mem_seq]
  constructor
  · rintro ⟨u, ⟨c, hc, rfl⟩, v, hv, rfl⟩
    exact ⟨List.cons_ne_nil c v, List.forall_mem_cons.2 ⟨hc, mem_star_letter.1 hv⟩⟩
  · rintro ⟨hne, hw⟩
    obtain ⟨c, v, rfl⟩ := List.exists_cons_of_ne_nil hne
    obtain ⟨hc, hv⟩ := List.forall_mem_cons.1 hw
    exact ⟨[c], ⟨c, hc, rfl⟩, v, mem_star_letter.2 hv, rfl⟩

theorem loosen_letter_of_not {p : α → Bool} {w : List α}
    (h : w ∈ (if p sp then plus (letter gap) else empty).lang) :
    p sp = true ∧ w ≠ [] ∧ ∀ c ∈ w, gap c = true := by
  by_cases hp : p sp = true
  · rw [if_pos hp] at h
    exact ⟨hp, mem_plus_letter.1 h⟩
  · rw [if_neg hp] at h
    exact absurd h (Language.notMem_zero w)

/-- A repetition is read word by word. -/
theorem mem_star_loosen_iff {r : Regex α} (hr : ∀ w : List α,
    w ∈ (r.loosen gap sp).lang ↔ ∃ ys, Reads gap sp w ys ∧ ys ∈ r.lang) {w : List α} :
    w ∈ (star (r.loosen gap sp)).lang ↔ ∃ ys, Reads gap sp w ys ∧ ys ∈ (star r).lang := by
  constructor
  · intro h
    obtain ⟨ws, rfl, hws⟩ := mem_star.1 h
    clear h
    induction ws with
    | nil => exact ⟨[], .nil, nil_mem_star r⟩
    | cons u ws ih =>
      obtain ⟨hu, hws⟩ := List.forall_mem_cons.1 hws
      obtain ⟨ys, hreads, hys⟩ := (hr u).1 hu
      obtain ⟨ys', hreads', hys'⟩ := ih hws
      obtain ⟨vs, rfl, hvs⟩ := mem_star.1 hys'
      exact ⟨ys ++ vs.flatten, hreads.append hreads',
        mem_star.2 ⟨ys :: vs, rfl, List.forall_mem_cons.2 ⟨hys, hvs⟩⟩⟩
  · rintro ⟨ys, hreads, hys⟩
    obtain ⟨vs, rfl, hvs⟩ := mem_star.1 hys
    clear hys
    induction vs generalizing w with
    | nil =>
      cases hreads
      exact nil_mem_star _
    | cons y vs ih =>
      obtain ⟨hy, hvs⟩ := List.forall_mem_cons.1 hvs
      obtain ⟨u, v, rfl, hu, hv⟩ := hreads.split
      obtain ⟨ws, rfl, hws⟩ := mem_star.1 (ih hvs hv)
      exact mem_star.2 ⟨u :: ws, rfl, List.forall_mem_cons.2 ⟨(hr u).2 ⟨y, hu, hy⟩, hws⟩⟩

/-- **The loose expression matches what can be read as a word of the expression.** -/
theorem mem_loosen_iff : ∀ {r : Regex α} {w : List α},
    w ∈ (r.loosen gap sp).lang ↔ ∃ ys, Reads gap sp w ys ∧ ys ∈ r.lang
  | .empty, w => by
    refine iff_of_false (Language.notMem_zero w) ?_
    rintro ⟨ys, -, hys⟩
    exact Language.notMem_zero ys hys
  | .eps, w => by
    unfold loosen lang
    rw [Language.mem_one]
    constructor
    · rintro rfl
      exact ⟨[], .nil, Language.nil_mem_one⟩
    · rintro ⟨ys, hreads, hys⟩
      rw [(Language.mem_one ys).1 hys] at hreads
      cases hreads
      rfl
  | .letter p, w => by
    unfold loosen
    rw [mem_alt]
    constructor
    · rintro (⟨c, hc, rfl⟩ | hrun)
      · rw [Bool.and_eq_true, Bool.not_eq_true'] at hc
        exact ⟨[c], .solid hc.2 .nil, c, hc.1, rfl⟩
      · obtain ⟨hp, hne, hgap⟩ := loosen_letter_of_not hrun
        have hreads : Reads gap sp (w ++ []) [sp] := .run hne hgap .nil
        rw [List.append_nil] at hreads
        exact ⟨[sp], hreads, sp, hp, rfl⟩
    · rintro ⟨ys, hreads, c, hc, rfl⟩
      cases hreads with
      | solid hsolid hrest =>
        cases hrest
        exact Or.inl ⟨c, by simp [hc, hsolid], rfl⟩
      | run hne hgap hrest =>
        cases hrest
        rw [List.append_nil, if_pos hc]
        exact Or.inr (mem_plus_letter.2 ⟨hne, hgap⟩)
  | .seq r s, w => by
    unfold loosen
    rw [mem_seq]
    constructor
    · rintro ⟨u, hu, v, hv, rfl⟩
      obtain ⟨ys, hreads, hys⟩ := mem_loosen_iff.1 hu
      obtain ⟨ys', hreads', hys'⟩ := mem_loosen_iff.1 hv
      exact ⟨ys ++ ys', hreads.append hreads', mem_seq.2 ⟨ys, hys, ys', hys', rfl⟩⟩
    · rintro ⟨ys, hreads, hys⟩
      obtain ⟨y, hy, y', hy', rfl⟩ := mem_seq.1 hys
      obtain ⟨u, v, rfl, hu, hv⟩ := hreads.split
      exact ⟨u, mem_loosen_iff.2 ⟨y, hu, hy⟩, v, mem_loosen_iff.2 ⟨y', hv, hy'⟩, rfl⟩
  | .alt r s, w => by
    unfold loosen
    rw [mem_alt, mem_loosen_iff, mem_loosen_iff]
    simp only [mem_alt, and_or_left, exists_or]
  | .star r, w => mem_star_loosen_iff fun _ => mem_loosen_iff

end Regex

namespace Pattern

def loosen (gap : α → Bool) (sp : α) (p : Pattern α) : Pattern α :=
  ⟨p.bounded, p.body.loosen gap sp⟩

/-- What can be read off a pattern: its matches start and end with letters of words, and two `sp` in
a row may be written as one. -/
structure Tight (sp : α) (p : Pattern α) : Prop where
  nonempty : p.body.nullable = false
  starts : p.body.starts sp = false
  ends : p.body.ends sp = false
  merges : p.body.tight sp = true

section Found

variable {gap word : α → Bool} {sp : α} {p : Pattern α}

/-- A match has a first letter and a last one, and they are no `sp`. -/
theorem Tight.framed (hp : p.Tight sp) {w : List α} (h : w ∈ p.body.lang) :
    (∃ c v, w = c :: v ∧ c ≠ sp) ∧ ∃ u d, w = u ++ [d] ∧ d ≠ sp := by
  have hne : w ≠ [] := by
    rintro rfl
    have hnull := (Regex.nullable_iff p.body).2 h
    rw [hp.nonempty] at hnull
    cases hnull
  constructor
  · obtain ⟨c, v, rfl⟩ := List.exists_cons_of_ne_nil hne
    refine ⟨c, v, rfl, ?_⟩
    rintro rfl
    have hstarts := Regex.starts_of_mem h
    rw [hp.starts] at hstarts
    cases hstarts
  · obtain ⟨u, d, rfl⟩ := (List.eq_nil_or_concat' w).resolve_left hne
    refine ⟨u, d, rfl, ?_⟩
    rintro rfl
    have hends := Regex.ends_of_mem h
    rw [hp.ends] at hends
    cases hends

variable (hsp : gap sp = true) (hword : ∀ c, gap c = true → word c = false)

include hsp hword

/-- The place in front of a word is a boundary in the squeezed text if it is one in the text. -/
theorem boundary_squeeze (before : List α) (c : α) (after after' : List α) :
    Boundary word (squeeze gap sp before ++ (stageAfter gap .start before).sep sp).getLast?
        (c :: after') ↔
      Boundary word before.getLast? (c :: after) := by
  unfold Boundary
  rw [getLast?_squeeze hsp hword]
  rfl

omit hword in
/-- **A word of the squeezed text that starts and ends with letters comes from a part of the text
that is read as it.** -/
theorem exists_of_squeeze_word {xs front back u v : List α} {c d : α} (hc : gap c = false)
    (hd : gap d = false) (hcv : c :: v = u ++ [d])
    (hsplit : squeeze gap sp xs = front ++ (c :: v) ++ back) :
    ∃ before tail after, xs = before ++ c :: tail ++ after ∧ Reads gap sp (c :: tail) (c :: v) ∧
      front = squeeze gap sp before ++ (stageAfter gap .start before).sep sp ∧
      squeeze gap sp (before ++ c :: tail) = front ++ (c :: v) := by
  -- where the last letter comes from, and then where the first one does
  have hlast : squeezeFrom gap sp .start xs = (front ++ u) ++ d :: back := by
    change squeeze gap sp xs = _
    rw [hsplit, hcv]
    simp
  obtain ⟨q, after, rfl, hq, -⟩ := exists_of_squeezeFrom hsp hd hlast
  have hqd : squeeze gap sp (q ++ [d]) = front ++ (c :: v) := by
    unfold squeeze
    rw [squeezeFrom_append, squeezeFrom_solid hd, hcv, ← List.append_assoc front, hq]
    simp [squeezeFrom]
  obtain ⟨before, tail, htext, hbefore, htail⟩ := exists_of_squeezeFrom hsp hc hqd
  have hend : ∃ t, c :: tail = t ++ [d] := by
    rcases List.eq_nil_or_concat' (c :: tail) with hnil | ⟨t, e, ht⟩
    · cases hnil
    · rw [ht, ← List.append_assoc] at htext
      obtain ⟨-, rfl⟩ := List.append_singleton_inj.1 htext
      exact ⟨t, ht⟩
  obtain ⟨t, ht⟩ := hend
  refine ⟨before, tail, after, ?_, ?_, hbefore, htext ▸ hqd⟩
  · rw [← htext, List.append_assoc, List.singleton_append]
  · have hreads : Reads gap sp (t ++ [d]) (squeezeFrom gap sp .inWord (t ++ [d])) :=
      (reads_squeezeFrom hd t).1
    rwa [← ht, squeezeFrom_solid hc, ← htail] at hreads

/-- What is found in the first letters of a squeezed text comes from a loose match that fits. -/
theorem loose_of_found (hp : p.Tight sp) {xs : List α} {n : Nat}
    (h : p.Found word ((squeeze gap sp xs).take n)) : ∃ before w after,
      xs = before ++ w ++ after ∧ (p.loosen gap sp).MatchAt word before w after ∧
        (squeeze gap sp (before ++ w)).length ≤ n := by
  obtain ⟨front, w, back, htake, hbound, hw⟩ := h
  obtain ⟨⟨c, v, rfl, hc⟩, u, d, hud, hd⟩ := hp.framed hw
  obtain ⟨rest, hrest⟩ := List.take_prefix n (squeeze gap sp xs)
  rw [htake, List.append_assoc] at hrest
  have hsolid : ∀ x ∈ c :: v, x ≠ sp → gap x = false := by
    intro x hx hne
    have hmem : x ∈ squeeze gap sp xs := by
      rw [← hrest]
      exact List.mem_append_left _ (List.mem_append_right _ hx)
    exact (mem_squeezeFrom hmem).elim And.right fun h => absurd h hne
  have hcsolid := hsolid c List.mem_cons_self hc
  have hdsolid := hsolid d (by rw [hud]; exact List.mem_append_right _ List.mem_cons_self) hd
  obtain ⟨before, tail, after, rfl, hreads, hfront, hkept⟩ :=
    exists_of_squeeze_word hsp hcsolid hdsolid hud hrest.symm
  refine ⟨before, c :: tail, after, rfl, ⟨fun hb => ?_, Regex.mem_loosen_iff.2 ⟨_, hreads, hw⟩⟩, ?_⟩
  · have hb := hbound hb
    rw [hfront, List.cons_append] at hb
    exact (boundary_squeeze hsp hword before c _ _).1 hb
  · have hle := List.length_take_le n (squeeze gap sp (before ++ c :: tail ++ after))
    rw [htake, List.length_append] at hle
    rw [hkept]
    omega

/-- A loose match that fits is found in the first letters of the squeezed text. -/
theorem found_of_loose (hp : p.Tight sp) {before w after : List α} {n : Nat}
    (hmatch : (p.loosen gap sp).MatchAt word before w after)
    (hfits : (squeeze gap sp (before ++ w)).length ≤ n) :
    p.Found word ((squeeze gap sp (before ++ w ++ after)).take n) := by
  obtain ⟨hbound, hw⟩ := hmatch
  obtain ⟨ys, hreads, hys⟩ := Regex.mem_loosen_iff.1 hw
  obtain ⟨⟨c, v, rfl, hc⟩, u, d, hud, hd⟩ := hp.framed hys
  obtain ⟨tail, rfl, hcsolid⟩ := hreads.cons hc
  have hend : ∃ t, c :: tail = t ++ [d] ∧ gap d = false := Reads.concat (hud ▸ hreads) hd
  obtain ⟨t, ht, hdsolid⟩ := hend
  have hmem : squeezeFrom gap sp .inWord (c :: tail) ∈ p.body.lang := by
    refine (hreads.mem_squeezeFrom (fun _ _ => Regex.merges_of_tight hp.merges) ?_).1 [] hys
    intro t' d' ht'
    rw [ht] at ht'
    obtain ⟨-, rfl⟩ := List.append_singleton_inj.1 ht'
    exact hdsolid
  have hfront : squeeze gap sp (before ++ c :: tail) =
      squeeze gap sp before ++ (stageAfter gap .start before).sep sp ++
        squeezeFrom gap sp .inWord (c :: tail) := by
    unfold squeeze
    rw [squeezeFrom_append, squeezeFrom_of_solid hcsolid, List.append_assoc]
  have hprefix : squeeze gap sp (before ++ c :: tail) <+:
      (squeeze gap sp (before ++ c :: tail ++ after)).take n :=
    List.prefix_take_iff.2 ⟨prefix_squeeze _ after, hfits⟩
  obtain ⟨rest, hrest⟩ := hprefix
  refine ⟨_, _, rest, by rw [← hrest, hfront], fun hb => ?_, hmem⟩
  rw [squeezeFrom_solid hcsolid]
  exact (boundary_squeeze hsp hword before c _ _).2 (hbound hb)

/-- **A tight pattern is in the first letters of a squeezed text exactly when it is, with any run
of gaps for its `sp`, in a part of the text that fits in there.** -/
theorem found_take_squeeze_iff (hp : p.Tight sp) (xs : List α) (n : Nat) :
    p.Found word ((squeeze gap sp xs).take n) ↔ ∃ before w after, xs = before ++ w ++ after ∧
      (p.loosen gap sp).MatchAt word before w after ∧
        (squeeze gap sp (before ++ w)).length ≤ n := by
  constructor
  · exact loose_of_found hsp hword hp
  · rintro ⟨before, w, after, rfl, hmatch, hfits⟩
    exact found_of_loose hsp hword hp hmatch hfits

end Found

end Pattern

end Patterns
