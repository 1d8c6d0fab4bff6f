import Mathlib.Data.Finset.Card
import Mathlib.Data.List.Sort
import Mathlib.Order.Interval.Finset.Basic

/-!
# Scanning by pages

Rows come in pages of at most `limit`, in the order of their keys, starting after a cursor.  A
full page moves the cursor to its last key, a shorter one moves it back to `bottom`, and the rows
may have changed by the next page.

* `page`, `nextCursor` — one page, and the cursor it leaves.
* `mem_page_of_short`, `le_last_of_full` — what a page leaves out.
* `wait` — how many pages a key may have to wait for; `wait_le` — its bound.
* `wait_nextCursor` — **a page without the key brings it nearer.**
* `nextCursor_lt` — a page without the key does not go past it.
-/

set_option autoImplicit false

namespace Paging

variable {ρ κ : Type} [LinearOrder κ] {key : ρ → κ} {limit : Nat} {bottom cursor c : κ}

/-! ## Pages -/

/-- The next rows after the cursor, in the order of their keys. -/
def page (key : ρ → κ) (limit : Nat) (cursor : κ) (rows : List ρ) : List ρ :=
  ((rows.filter (cursor < key ·)).insertionSort fun a b => key a ≤ key b).take limit

/-- A full page is followed by another; a shorter one ends the scan. -/
def nextCursor (key : ρ → κ) (bottom : κ) (limit : Nat) (found : List ρ) : κ :=
  if found.length = limit then (found.getLast?.map key).getD bottom else bottom

instance keyLe_isTrans : IsTrans ρ fun a b => key a ≤ key b := ⟨fun _ _ _ => le_trans⟩

instance keyLe_total : Std.Total fun a b : ρ => key a ≤ key b := ⟨fun _ _ => le_total _ _⟩

theorem mem_sorted {rows : List ρ} {r : ρ} :
    r ∈ (rows.filter (cursor < key ·)).insertionSort (fun a b => key a ≤ key b) ↔
      r ∈ rows ∧ cursor < key r := by
  simp [List.mem_insertionSort]

theorem mem_of_mem_page {rows : List ρ} {r : ρ} (h : r ∈ page key limit cursor rows) :
    r ∈ rows ∧ cursor < key r :=
  mem_sorted.1 (List.mem_of_mem_take h)

theorem page_length_le (rows : List ρ) : (page key limit cursor rows).length ≤ limit := by
  unfold page
  rw [List.length_take]
  exact min_le_left _ _

theorem page_sorted (key : ρ → κ) (limit : Nat) (cursor : κ) (rows : List ρ) :
    (page key limit cursor rows).Pairwise fun a b => key a ≤ key b :=
  (List.pairwise_insertionSort (fun a b : ρ => key a ≤ key b) _).sublist (List.take_sublist _ _)

theorem page_nodup (limit : Nat) (cursor : κ) {rows : List ρ} (h : (rows.map key).Nodup) :
    ((page key limit cursor rows).map key).Nodup := by
  have hsub : ((rows.filter (cursor < key ·)).map key).Nodup :=
    h.sublist (List.filter_sublist.map key)
  have hperm := (List.perm_insertionSort (fun a b : ρ => key a ≤ key b)
    (rows.filter (cursor < key ·))).map key
  exact (hperm.nodup_iff.2 hsub).sublist ((List.take_sublist _ _).map key)

/-- A page that is not full has everything after the cursor. -/
theorem mem_page_of_short {rows : List ρ} {r : ρ} (hr : r ∈ rows) (hafter : cursor < key r)
    (hshort : (page key limit cursor rows).length ≠ limit) : r ∈ page key limit cursor rows := by
  have hle : (page key limit cursor rows).length ≤ limit := page_length_le rows
  unfold page at hshort hle ⊢
  rw [List.length_take] at hshort hle
  rw [List.take_of_length_le (by omega)]
  exact mem_sorted.2 ⟨hr, hafter⟩

/-- What a page leaves out comes after it. -/
theorem le_of_not_mem_page {rows : List ρ} {r x : ρ} (hr : r ∈ rows) (hafter : cursor < key r)
    (hout : r ∉ page key limit cursor rows) (hx : x ∈ page key limit cursor rows) :
    key x ≤ key r := by
  have hsorted := List.pairwise_insertionSort (fun a b : ρ => key a ≤ key b)
    (rows.filter (cursor < key ·))
  have hmem := mem_sorted.2 ⟨hr, hafter⟩
  unfold page at hout hx
  rw [← List.take_append_drop limit ((rows.filter (cursor < key ·)).insertionSort _)]
    at hsorted hmem
  rcases List.mem_append.1 hmem with h | h
  · exact absurd h hout
  · exact (List.pairwise_append.1 hsorted).2.2 x hx r h

omit [LinearOrder κ] in
theorem nextCursor_short {found : List ρ} (h : found.length ≠ limit) :
    nextCursor key bottom limit found = bottom := if_neg h

omit [LinearOrder κ] in
/-- The last row of a full page. -/
theorem nextCursor_full (key : ρ → κ) (bottom : κ) {found : List ρ} (hlimit : 0 < limit)
    (h : found.length = limit) :
    ∃ x ∈ found, nextCursor key bottom limit found = key x ∧ found.getLast? = some x := by
  have hne : found ≠ [] := by
    rintro rfl
    simp at h
    omega
  refine ⟨found.getLast hne, List.getLast_mem hne, ?_, List.getLast?_eq_some_getLast hne⟩
  unfold nextCursor
  rw [if_pos h, List.getLast?_eq_some_getLast hne]
  rfl

theorem le_nextCursor {found : List ρ} (hsorted : found.Pairwise fun a b => key a ≤ key b)
    {x y : ρ} (hlast : found.getLast? = some x) (hy : y ∈ found) : key y ≤ key x := by
  obtain ⟨init, rfl⟩ := List.getLast?_eq_some_iff.1 hlast
  rcases List.mem_append.1 hy with h | h
  · exact (List.pairwise_append.1 hsorted).2.2 y h x List.mem_cons_self
  · rw [List.mem_singleton.1 h]

/-! ## How long a key waits -/

/-- The keys strictly between two. -/
def between (keys : Finset κ) (a b : κ) : Finset κ := keys.filter fun k => a < k ∧ k < b

/-- The keys after one. -/
def above (keys : Finset κ) (a : κ) : Finset κ := keys.filter fun k => a < k

/-- How many pages may pass until one has the key `c`. -/
def wait (keys : Finset κ) (bottom : κ) (limit : Nat) (cursor c : κ) : Nat :=
  if cursor < c then (between keys cursor c).card / limit + 1
  else (above keys cursor).card / limit + (between keys bottom c).card / limit + 2

theorem wait_pos (keys : Finset κ) : 0 < wait keys bottom limit cursor c := by
  unfold wait
  split <;> exact Nat.succ_pos _

/-- **The bound depends on the number of keys only.** -/
theorem wait_le {keys : Finset κ} (hc : c ∈ keys) :
    wait keys bottom limit cursor c ≤ (keys.card - 1) / limit + 2 := by
  have hpos : 0 < keys.card := Finset.card_pos.2 ⟨c, hc⟩
  unfold wait
  split
  · have hsub : between keys cursor c ⊆ keys.erase c := by
      intro k hk
      obtain ⟨hk, -, hlt⟩ := Finset.mem_filter.1 hk
      exact Finset.mem_erase.2 ⟨ne_of_lt hlt, hk⟩
    have hcard := Finset.card_le_card hsub
    rw [Finset.card_erase_of_mem hc] at hcard
    have := Nat.div_le_div_right (c := limit) hcard
    omega
  · rename_i hle
    have hdisj : Disjoint (above keys cursor) (between keys bottom c) := by
      rw [Finset.disjoint_left]
      intro k ha hb
      exact hle (lt_trans (Finset.mem_filter.1 ha).2 (Finset.mem_filter.1 hb).2.2)
    have hsub : above keys cursor ∪ between keys bottom c ⊆ keys.erase c := by
      intro k hk
      rcases Finset.mem_union.1 hk with hk | hk
      · obtain ⟨hk, hlt⟩ := Finset.mem_filter.1 hk
        exact Finset.mem_erase.2 ⟨fun h => hle (h ▸ hlt), hk⟩
      · obtain ⟨hk, -, hlt⟩ := Finset.mem_filter.1 hk
        exact Finset.mem_erase.2 ⟨ne_of_lt hlt, hk⟩
    have hcard := Finset.card_le_card hsub
    rw [Finset.card_union_of_disjoint hdisj, Finset.card_erase_of_mem hc] at hcard
    have hdiv := Nat.div_le_div_right (c := limit) hcard
    have := Nat.div_add_div_le_add_div (x := (above keys cursor).card)
      (y := (between keys bottom c).card) (z := limit)
    omega

/-- The keys of a page leave the keys after the cursor. -/
theorem above_page (keys : Finset κ) {found : List ρ} {last : κ} (hnodup : (found.map key).Nodup)
    (hkeys : ∀ r ∈ found, key r ∈ keys ∧ cursor < key r ∧ key r ≤ last) (hlast : cursor < last) :
    (above keys last).card + found.length ≤ (above keys cursor).card := by
  have hcard : (found.map key).toFinset.card = found.length := by
    rw [List.toFinset_card_of_nodup hnodup, List.length_map]
  rw [← hcard, ← Finset.card_union_of_disjoint]
  · apply Finset.card_le_card
    intro k hk
    rcases Finset.mem_union.1 hk with hk | hk
    · obtain ⟨hk, hlt⟩ := Finset.mem_filter.1 hk
      exact Finset.mem_filter.2 ⟨hk, lt_trans hlast hlt⟩
    · obtain ⟨r, hr, rfl⟩ := List.mem_map.1 (List.mem_toFinset.1 hk)
      exact Finset.mem_filter.2 ⟨(hkeys r hr).1, (hkeys r hr).2.1⟩
  · rw [Finset.disjoint_left]
    intro k hk hk'
    obtain ⟨r, hr, rfl⟩ := List.mem_map.1 (List.mem_toFinset.1 hk')
    exact absurd (Finset.mem_filter.1 hk).2 (not_lt_of_ge (hkeys r hr).2.2)

/-- The same below a bound that is past the page. -/
theorem between_page {keys : Finset κ} {found : List ρ} {last : κ}
    (hnodup : (found.map key).Nodup)
    (hkeys : ∀ r ∈ found, key r ∈ keys ∧ cursor < key r ∧ key r ≤ last) (hlast : cursor < last)
    (hc : last < c) :
    (between keys last c).card + found.length ≤ (between keys cursor c).card := by
  have h := above_page (keys.filter (· < c)) hnodup
    (fun r hr => ⟨Finset.mem_filter.2 ⟨(hkeys r hr).1, lt_of_le_of_lt (hkeys r hr).2.2 hc⟩,
      (hkeys r hr).2⟩) hlast
  have heq : ∀ a, above (keys.filter (· < c)) a = between keys a c := by
    intro a
    unfold above between
    rw [Finset.filter_filter]
    exact Finset.filter_congr fun k _ => and_comm
  rwa [heq, heq] at h

/-- **A page that does not go up to the key stops before it.** -/
theorem nextCursor_lt {rows : List ρ} (hlimit : 0 < limit) (hbottom : bottom < c)
    (hcursor : cursor < c) (hc : c ∈ rows.map key)
    (hout : c ∉ (page key limit cursor rows).map key) :
    nextCursor key bottom limit (page key limit cursor rows) < c := by
  obtain ⟨r, hr, rfl⟩ := List.mem_map.1 hc
  have hout' : r ∉ page key limit cursor rows := fun h => hout (List.mem_map_of_mem h)
  by_cases hfull : (page key limit cursor rows).length = limit
  · obtain ⟨x, hx, hnext, -⟩ := nextCursor_full key bottom hlimit hfull
    rw [hnext]
    refine lt_of_le_of_ne (le_of_not_mem_page hr hcursor hout' hx) ?_
    intro h
    exact hout (h ▸ List.mem_map_of_mem hx)
  · rw [nextCursor_short hfull]
    exact hbottom

/-- **A page without the key brings it nearer.** -/
theorem wait_nextCursor {keys : Finset κ} {rows : List ρ} (hlimit : 0 < limit)
    (hbottom : bottom < c) (hnodup : (rows.map key).Nodup) (hkeys : ∀ r ∈ rows, key r ∈ keys)
    (hc : cursor < c → c ∈ rows.map key) (hout : c ∉ (page key limit cursor rows).map key) :
    wait keys bottom limit (nextCursor key bottom limit (page key limit cursor rows)) c <
      wait keys bottom limit cursor c := by
  have hfound : ∀ x, (page key limit cursor rows).getLast? = some x →
      ∀ r ∈ page key limit cursor rows, key r ∈ keys ∧ cursor < key r ∧ key r ≤ key x := by
    intro x hx r hr
    obtain ⟨hmem, hlt⟩ := mem_of_mem_page hr
    exact ⟨hkeys r hmem, hlt, le_nextCursor (page_sorted key limit cursor rows) hx hr⟩
  have hpage := page_nodup limit cursor hnodup
  by_cases hcursor : cursor < c
  · -- the key is ahead: the page is full, and ends before it
    have hlt := nextCursor_lt hlimit hbottom hcursor (hc hcursor) hout
    have hfull : (page key limit cursor rows).length = limit := by
      by_contra hshort
      obtain ⟨r, hr, rfl⟩ := List.mem_map.1 (hc hcursor)
      exact hout (List.mem_map_of_mem (mem_page_of_short hr hcursor hshort))
    obtain ⟨x, hx, hnext, hlast⟩ := nextCursor_full key bottom hlimit hfull
    rw [hnext] at hlt ⊢
    have hcard := between_page hpage (hfound x hlast) (mem_of_mem_page hx).2 hlt
    rw [hfull] at hcard
    unfold wait
    rw [if_pos hlt, if_pos hcursor]
    have := Nat.div_le_div_right (c := limit) hcard
    rw [Nat.add_div_right _ hlimit] at this
    omega
  · by_cases hfull : (page key limit cursor rows).length = limit
    · obtain ⟨x, hx, hnext, hlast⟩ := nextCursor_full key bottom hlimit hfull
      rw [hnext]
      have hx' := (mem_of_mem_page hx).2
      have hcard := above_page _ hpage (hfound x hlast) hx'
      rw [hfull] at hcard
      have hpast : ¬ key x < c := fun h => hcursor (lt_trans hx' h)
      unfold wait
      rw [if_neg hpast, if_neg hcursor]
      have := Nat.div_le_div_right (c := limit) hcard
      rw [Nat.add_div_right _ hlimit] at this
      omega
    · -- the scan starts again, before the key
      rw [nextCursor_short hfull]
      unfold wait
      rw [if_pos hbottom, if_neg hcursor]
      have := Nat.zero_le ((above keys cursor).card / limit)
      omega

end Paging
