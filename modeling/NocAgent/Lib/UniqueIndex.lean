import NocAgent.Lib.Table

/-!
# Partial unique indexes

An index over a table is a partial key `f : ρ → Option α`: a row without a key is not indexed.

* `Table.UniqueBy f` — no two rows are indexed under one key.
* `Table.Accepts f` — the index lets a row be written: nobody else is indexed under its key.
* `Table.indexed` — the row that the index finds.
* `Table.uniqueBy_put_iff` — a write keeps uniqueness exactly when the index accepts it.
* `Mirrors f` — a stored index has for each key the row that is indexed under it;
  `Mirrors.uniqueBy`, `Mirrors.indexed_eq`, and what keeps it: `put_same`, `put_unindexed`,
  `put_new`, `put_all_iff`, `retire`.
-/

set_option autoImplicit false

namespace Keyed

universe u v w

variable {κ : Type u} {ρ : Type v} {α : Type w} {key : ρ → κ}

namespace Table

/-- No two rows are indexed under one key. -/
def UniqueBy (f : ρ → Option α) (t : Table key) : Prop :=
  ∀ r ∈ t.rows, ∀ y ∈ t.rows, (f r).isSome → f y = f r → key y = key r

/-- Nobody else is indexed under the key of `r`. -/
def Accepts (f : ρ → Option α) (t : Table key) (r : ρ) : Prop :=
  ∀ y ∈ t.rows, (f r).isSome → f y = f r → key y = key r

/-- The first row that is indexed under `a`. -/
def indexed [DecidableEq α] (f : ρ → Option α) (t : Table key) (a : α) : Option ρ :=
  t.rows.find? fun r => f r = some a

variable {f : ρ → Option α}

instance [DecidableEq κ] [DecidableEq α] (t : Table key) : Decidable (t.UniqueBy f) := by
  unfold UniqueBy; infer_instance

instance [DecidableEq κ] [DecidableEq α] (t : Table key) (r : ρ) : Decidable (t.Accepts f r) := by
  unfold Accepts; infer_instance

/-- An index over tables with the same rows. -/
theorem accepts_congr [DecidableEq κ] {t u : Table key} (h : t.get? = u.get?) {r r' : ρ}
    (hkey : key r = key r') (hf : f r = f r') : t.Accepts f r ↔ u.Accepts f r' := by
  unfold Accepts
  rw [hf, hkey]
  simp only [mem_rows_iff, h]

theorem get?_put_congr [DecidableEq κ] {t u : Table key} (h : t.get? = u.get?) (r : ρ) :
    (t.put r).get? = (u.put r).get? :=
  funext fun k => by rw [get?_put, get?_put, h]

theorem uniqueBy_empty : (empty : Table key).UniqueBy f := by
  intro r hr
  cases hr

/-- A row that is not indexed is always accepted. -/
theorem accepts_of_none {t : Table key} {r : ρ} (h : f r = none) : t.Accepts f r := by
  intro y _ hsome
  rw [h] at hsome
  cases hsome

/-- A row indexed as a stored row with its key is accepted. -/
theorem UniqueBy.accepts {t : Table key} (ht : t.UniqueBy f) {old r : ρ}
    (hold : old ∈ t.rows) (hkey : key r = key old) (hf : f r = f old) : t.Accepts f r := by
  intro y hy hsome heq
  rw [hf] at hsome heq
  rw [hkey]
  exact ht old hold y hy hsome heq

/-- **A write keeps uniqueness exactly when the index accepts it.** -/
theorem uniqueBy_put_iff [DecidableEq κ] {t : Table key} (ht : t.UniqueBy f) {r : ρ} :
    (t.put r).UniqueBy f ↔ t.Accepts f r := by
  constructor
  · intro h y hy hsome heq
    by_cases hk : key y = key r
    · exact hk
    · exact h r (mem_put.2 (Or.inl rfl)) y (mem_put.2 (Or.inr ⟨hy, hk⟩)) hsome heq
  · intro h x hx y hy hsome heq
    rcases mem_put.1 hx with rfl | ⟨hx', -⟩
    · rcases mem_put.1 hy with rfl | ⟨hy', -⟩
      · rfl
      · exact h y hy' hsome heq
    · rcases mem_put.1 hy with rfl | ⟨hy', -⟩
      · have hsome' : (f y).isSome := by rw [heq]; exact hsome
        exact (h x hx' hsome' heq.symm).symm
      · exact ht x hx' y hy' hsome heq

theorem get?_foldl_put_of_not_mem [DecidableEq κ] {k : κ} : ∀ {rows : List ρ} {t : Table key},
    k ∉ rows.map key → (rows.foldl put t).get? k = t.get? k
  | [], _, _ => rfl
  | x :: rows, t, hk => by
    rw [List.map_cons, List.mem_cons, not_or] at hk
    rw [List.foldl_cons, get?_foldl_put_of_not_mem hk.2, get?_put_of_ne _ fun h => hk.1 h.symm]

theorem mem_foldl_put [DecidableEq κ] {y : ρ} : ∀ {rows : List ρ} {t : Table key},
    y ∈ (rows.foldl put t).rows → y ∈ rows ∨ y ∈ t.rows
  | [], _, h => Or.inr h
  | x :: rows, t, h => by
    rcases mem_foldl_put (rows.foldl_cons ▸ h) with h | h
    · exact Or.inl (List.mem_cons_of_mem _ h)
    · rcases mem_put.1 h with rfl | ⟨h, -⟩
      · exact Or.inl List.mem_cons_self
      · exact Or.inr h

/-- Every one of a list of rows with different keys is there after they were written. -/
theorem get?_foldl_put [DecidableEq κ] : ∀ {rows : List ρ} {t : Table key},
    (rows.map key).Nodup → ∀ r ∈ rows, (rows.foldl put t).get? (key r) = some r
  | x :: rows, t, hkeys, r, hr => by
    rw [List.map_cons, List.nodup_cons] at hkeys
    rcases List.mem_cons.1 hr with rfl | hr
    · rw [List.foldl_cons, get?_foldl_put_of_not_mem hkeys.1, get?_put_self]
    · exact get?_foldl_put hkeys.2 r hr

end Table

/-- The stored index `ix` has for each key the row of `t` that is indexed under it. -/
def Mirrors (f : ρ → Option α) (t : Table key) [DecidableEq κ] (ix : Index α κ) : Prop :=
  ∀ a k, ix a = some k ↔ ∃ r, t.get? k = some r ∧ f r = some a

namespace Mirrors

variable [DecidableEq κ] {f : ρ → Option α} {t : Table key} {ix : Index α κ}

theorem empty (f : ρ → Option α) : Mirrors f (Table.empty : Table key) fun _ => none := by
  intro a k
  refine iff_of_false (fun h => by cases h) ?_
  rintro ⟨r, hr, -⟩
  cases hr

/-- **A mirrored key is unique.** -/
theorem uniqueBy (h : Mirrors f t ix) : t.UniqueBy f := by
  intro r hr y hy hsome heq
  obtain ⟨a, ha⟩ := Option.isSome_iff_exists.1 hsome
  have hr' := (h a (key r)).2 ⟨r, Table.mem_rows_iff.1 hr, ha⟩
  have hy' := (h a (key y)).2 ⟨y, Table.mem_rows_iff.1 hy, heq.trans ha⟩
  exact Option.some.inj (hy'.symm.trans hr')

/-- A table has one mirror. -/
theorem eq (h : Mirrors f t ix) {other : Index α κ} (hother : Mirrors f t other) : ix = other := by
  refine funext fun a => Option.ext fun k => ?_
  exact (h a k).trans (hother a k).symm

/-- A row that is replaced by one with its key. -/
theorem put_same (h : Mirrors f t ix) {old r : ρ} (hold : t.get? (key r) = some old)
    (hf : f r = f old) : Mirrors f (t.put r) ix := by
  intro a k
  rw [h a k, Table.get?_put]
  split
  · rename_i hk
    subst hk
    rw [hold]
    constructor
    · rintro ⟨y, hy, ha⟩
      cases hy
      exact ⟨r, rfl, hf.trans ha⟩
    · rintro ⟨y, hy, ha⟩
      cases hy
      exact ⟨old, rfl, hf.symm.trans ha⟩
  · exact Iff.rfl

/-- **A mirrored key is looked up in the table as in the index.** -/
theorem indexed_eq [DecidableEq α] (h : Mirrors f t ix) (a : α) :
    t.indexed f a = (ix a).bind t.get? := by
  refine Option.ext fun r => ?_
  rw [Option.bind_eq_some_iff]
  constructor
  · intro hfound
    have hmem := Table.mem_rows_iff.1 (List.mem_of_find?_eq_some hfound)
    have hkey : f r = some a := by simpa using List.find?_some hfound
    exact ⟨key r, (h a (key r)).2 ⟨r, hmem, hkey⟩, hmem⟩
  · rintro ⟨k, hk, hr⟩
    obtain ⟨r', hr', hkey⟩ := (h a k).1 hk
    obtain rfl := Option.some.inj (hr.symm.trans hr')
    cases hfound : t.indexed f a with
    | none =>
      have hno := List.find?_eq_none.1 hfound r (Table.mem_of_get? hr)
      exact absurd (decide_eq_true hkey) hno
    | some y =>
      have hy := List.mem_of_find?_eq_some hfound
      have hykey : f y = some a := by simpa using List.find?_some hfound
      have hsame := h.uniqueBy r (Table.mem_of_get? hr) y hy (by rw [hkey]; rfl)
        (hykey.trans hkey.symm)
      rw [Table.mem_rows_iff, hsame, Table.get?_key hr] at hy
      rw [Option.some.inj hy]

/-- A new row that is not indexed. -/
theorem put_unindexed (h : Mirrors f t ix) {r : ρ} (hnew : t.get? (key r) = none)
    (hf : f r = none) : Mirrors f (t.put r) ix := by
  intro a k
  rw [h a k, Table.get?_put]
  split
  · rename_i hk
    subst hk
    constructor
    · rintro ⟨y, hy, -⟩
      cases hnew.symm.trans hy
    · rintro ⟨y, hy, ha⟩
      cases hy
      cases hf.symm.trans ha
  · exact Iff.rfl

variable [DecidableEq α]

/-- A new row under a key that the index does not have. -/
theorem put_new (h : Mirrors f t ix) {r : ρ} {a : α} (hnew : t.get? (key r) = none)
    (hf : f r = some a) (hfree : ix a = none) : Mirrors f (t.put r) (ix.set a (key r)) := by
  intro b k
  rw [Index.set_apply, Table.get?_put]
  by_cases hk : key r = k
  · subst hk
    rw [if_pos rfl]
    by_cases hb : b = a
    · subst hb
      simp [hf]
    · rw [if_neg hb, h b]
      constructor
      · rintro ⟨y, hy, -⟩
        cases hnew.symm.trans hy
      · rintro ⟨y, hy, hb'⟩
        cases hy
        exact absurd (Option.some.inj (hb'.symm.trans hf)) hb
  · rw [if_neg hk]
    by_cases hb : b = a
    · subst hb
      rw [if_pos rfl]
      constructor
      · intro heq
        exact absurd (Option.some.inj heq) hk
      · intro hex
        have hsome := (h b k).2 hex
        cases hfree.symm.trans hsome
    · rw [if_neg hb]
      exact h b k

/-- A row that is no longer indexed leaves the index. -/
theorem retire (h : Mirrors f t ix) {old r : ρ} {a : α} (hold : t.get? (key r) = some old)
    (ha : f old = some a) (hf : f r = none) : Mirrors f (t.put r) (ix.pop a) := by
  intro b k
  rw [Index.pop_apply, Table.get?_put]
  have hix : ix a = some (key r) := (h a (key r)).2 ⟨old, hold, ha⟩
  by_cases hb : b = a
  · subst hb
    rw [if_pos rfl]
    refine iff_of_false (by simp) ?_
    rintro ⟨y, hy, hfy⟩
    split at hy
    · cases hy
      cases hf.symm.trans hfy
    · rename_i hk
      have hk' := (h b k).2 ⟨y, hy, hfy⟩
      exact hk (Option.some.inj (hix.symm.trans hk'))
  · rw [if_neg hb, h b k]
    by_cases hk : key r = k
    · subst hk
      rw [if_pos rfl]
      constructor
      · rintro ⟨y, hy, hfy⟩
        cases hold.symm.trans hy
        exact absurd (Option.some.inj (hfy.symm.trans ha)) hb
      · rintro ⟨y, hy, hfy⟩
        cases hy
        cases hf.symm.trans hfy
    · rw [if_neg hk]

/-- New rows under different keys that the index does not have. -/
theorem put_all (g : ρ → α) : ∀ {rows : List ρ} {t : Table key} {ix : Index α κ},
    Mirrors f t ix → (rows.map key).Nodup → (rows.map g).Nodup →
    (∀ r ∈ rows, t.get? (key r) = none ∧ f r = some (g r) ∧ ix (g r) = none) →
    Mirrors f (rows.foldl Table.put t) (rows.foldl (fun ix r => ix.set (g r) (key r)) ix)
  | [], _, _, h, _, _, _ => h
  | r :: rows, t, ix, h, hkeys, hg, hnew => by
    rw [List.map_cons, List.nodup_cons] at hkeys hg
    obtain ⟨hfresh, hf, hfree⟩ := hnew r List.mem_cons_self
    rw [List.foldl_cons, List.foldl_cons]
    refine put_all g (h.put_new hfresh hf hfree) hkeys.2 hg.2 fun y hy => ?_
    obtain ⟨hyfresh, hyf, hyfree⟩ := hnew y (List.mem_cons_of_mem _ hy)
    refine ⟨?_, hyf, ?_⟩
    · rw [Table.get?_put_of_ne]
      · exact hyfresh
      · intro heq
        exact hkeys.1 (heq ▸ List.mem_map_of_mem hy)
    · rw [Index.set_apply, if_neg]
      · exact hyfree
      · intro heq
        exact hg.1 (heq ▸ List.mem_map_of_mem hy)

/-- **New rows are mirrored exactly when their keys differ.** -/
theorem put_all_iff (g : ρ → α) {rows : List ρ} (h : Mirrors f t ix)
    (hkeys : (rows.map key).Nodup)
    (hnew : ∀ r ∈ rows, t.get? (key r) = none ∧ f r = some (g r) ∧ ix (g r) = none) :
    Mirrors f (rows.foldl Table.put t) (rows.foldl (fun ix r => ix.set (g r) (key r)) ix) ↔
      (rows.map g).Nodup := by
  refine ⟨fun hmirrors => ?_, fun hg => h.put_all g hkeys hg hnew⟩
  have hrows : rows.Nodup := hkeys.of_map key
  refine List.Nodup.map_on (fun r hr y hy heq => ?_) hrows
  have hr' := Table.mem_of_get? (Table.get?_foldl_put (t := t) hkeys r hr)
  have hy' := Table.mem_of_get? (Table.get?_foldl_put (t := t) hkeys y hy)
  have hkey := hmirrors.uniqueBy y hy' r hr' (by rw [(hnew y hy).2.1]; rfl)
    (by rw [(hnew r hr).2.1, (hnew y hy).2.1, heq])
  exact List.inj_on_of_nodup_map hkeys hr hy hkey

end Mirrors

end Keyed
