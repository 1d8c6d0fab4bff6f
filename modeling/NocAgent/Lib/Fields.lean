import Mathlib.Data.List.Nodup

/-!
# Records of validated fields

* `construct` — a record from keyword arguments: extra ones are refused, an omitted field takes its
  default as it is, and a given one goes through its validator.
* `readAll_eq_some_iff` — the record it makes, field by field.
* `construct_congr` — defaults are not asked for when every field is given.

Principal results: `construct_self_iff` — what a record needs to be read back, and
`construct_again_iff` — what its arguments need.
-/

set_option autoImplicit false

namespace NocAgent.Fields

/-- A field of a record: its name, its default and its kind. -/
structure Field (κ V : Type) where
  name : String
  /-- `none`: the field is required. -/
  default : Option V
  kind : κ

section Construct

variable {κ V : Type} (validate : κ → V → Option V)

def Field.read (f : Field κ V) (args : List (String × V)) : Option V :=
  match args.lookup f.name with
  | some value => validate f.kind value
  | none => f.default

def readAll (args : List (String × V)) : List (Field κ V) → Option (List (String × V))
  | [] => some []
  | f :: fields =>
    match f.read validate args, readAll args fields with
    | some value, some rest => some ((f.name, value) :: rest)
    | _, _ => none

/-- A record has the fields of its model and no others. -/
def construct (fields : List (Field κ V)) (args : List (String × V)) : Option (List (String × V)) :=
  if ∀ kv ∈ args, kv.1 ∈ fields.map Field.name then readAll validate args fields else none

variable {validate} {fields : List (Field κ V)} {args r : List (String × V)}

theorem readAll_names (h : readAll validate args fields = some r) :
    r.map Prod.fst = fields.map Field.name := by
  induction fields generalizing r with
  | nil =>
    cases h
    rfl
  | cons f fields ih =>
    rw [readAll] at h
    split at h
    · next value rest _ hrest =>
      cases h
      rw [List.map_cons, List.map_cons, ih hrest]
    · cases h

/-- Every field holds what was read for it. -/
theorem readAll_eq_some_iff (hnames : r.map Prod.fst = fields.map Field.name)
    (hn : (fields.map Field.name).Nodup) : readAll validate args fields = some r ↔
      ∀ f ∈ fields, ∃ v, r.lookup f.name = some v ∧ f.read validate args = some v := by
  induction fields generalizing r with
  | nil =>
    rw [List.map_nil, List.map_eq_nil_iff] at hnames
    rw [hnames]
    exact iff_of_true rfl fun _ h => absurd h List.not_mem_nil
  | cons f fields ih =>
    cases r with
    | nil => exact absurd hnames.symm (List.cons_ne_nil _ _)
    | cons kv rest =>
      rw [List.map_cons, List.map_cons, List.cons.injEq] at hnames
      rw [List.map_cons, List.nodup_cons] at hn
      have hrest : ∀ g ∈ fields, (kv :: rest).lookup g.name = rest.lookup g.name := by
        intro g hg
        have hne : g.name ≠ kv.1 := by
          intro heq
          exact hn.1 (hnames.1 ▸ heq ▸ List.mem_map_of_mem hg)
        rw [List.lookup_cons, beq_false_of_ne hne]
      have hhead : (kv :: rest).lookup f.name = some kv.2 := by
        rw [List.lookup_cons, hnames.1, beq_self_eq_true]
      rw [List.forall_mem_cons, hhead, readAll]
      constructor
      · intro h
        split at h
        · next value other hvalue hother =>
          cases h
          refine ⟨⟨value, rfl, hvalue⟩, fun g hg => ?_⟩
          rw [hrest g hg]
          exact (ih hnames.2 hn.2).1 hother g hg
        · cases h
      · rintro ⟨⟨value, hvalue, hread⟩, hall⟩
        have hother : readAll validate args fields = some rest := by
          refine (ih hnames.2 hn.2).2 fun g hg => ?_
          rw [← hrest g hg]
          exact hall g hg
        rw [hread, hother, ← hnames.1, ← Option.some.inj hvalue]

theorem construct_readAll (h : construct validate fields args = some r) :
    readAll validate args fields = some r := by
  unfold construct at h
  split at h
  · exact h
  · cases h

theorem construct_names (h : construct validate fields args = some r) :
    r.map Prod.fst = fields.map Field.name := readAll_names (construct_readAll h)

theorem read_of_construct (h : construct validate fields args = some r)
    (hn : (fields.map Field.name).Nodup) {f : Field κ V} (hf : f ∈ fields) :
    ∃ v, r.lookup f.name = some v ∧ f.read validate args = some v :=
  (readAll_eq_some_iff (construct_names h) hn).1 (construct_readAll h) f hf

/-- Every value of a record was read for a field. -/
theorem mem_of_readAll (h : readAll validate args fields = some r) :
    ∀ kv ∈ r, ∃ f ∈ fields, f.read validate args = some kv.2 := by
  induction fields generalizing r with
  | nil =>
    cases h
    exact fun kv hkv => absurd hkv List.not_mem_nil
  | cons f fields ih =>
    rw [readAll] at h
    split at h
    · next value rest hvalue hrest =>
      cases h
      intro kv hkv
      rcases List.mem_cons.1 hkv with rfl | hkv
      · exact ⟨f, List.mem_cons_self, hvalue⟩
      · obtain ⟨g, hg, hread⟩ := ih hrest kv hkv
        exact ⟨g, List.mem_cons_of_mem f hg, hread⟩
    · cases h

/-- A record with one value set is made from the arguments with that value given, if its validator
leaves it alone. -/
theorem construct_put (h : construct validate fields args = some r)
    (hn : (fields.map Field.name).Nodup) {f : Field κ V} (hf : f ∈ fields) {v : V}
    (hv : validate f.kind v = some v) {put : List (String × V)}
    (hnames : put.map Prod.fst = r.map Prod.fst) (hself : put.lookup f.name = some v)
    (hother : ∀ name, name ≠ f.name → put.lookup name = r.lookup name) :
    construct validate fields ((f.name, v) :: args) = some put := by
  have hextra : ∀ kv ∈ (f.name, v) :: args, kv.1 ∈ fields.map Field.name := by
    unfold construct at h
    split at h
    · next hargs => exact List.forall_mem_cons.2 ⟨List.mem_map_of_mem hf, hargs⟩
    · cases h
  unfold construct
  rw [if_pos hextra, readAll_eq_some_iff (hnames.trans (construct_names h)) hn]
  intro g hg
  by_cases hname : g.name = f.name
  · obtain rfl : g = f := List.inj_on_of_nodup_map hn hg hf hname
    refine ⟨v, hself, ?_⟩
    unfold Field.read
    rw [List.lookup_cons, beq_self_eq_true]
    exact hv
  · obtain ⟨w, hw, hread⟩ := read_of_construct h hn hg
    refine ⟨w, (hother g.name hname).trans hw, ?_⟩
    unfold Field.read at hread ⊢
    rwa [List.lookup_cons, beq_false_of_ne hname]

/-- **A record is read back exactly when every validator leaves its field alone.** -/
theorem construct_self_iff (hnames : r.map Prod.fst = fields.map Field.name)
    (hn : (fields.map Field.name).Nodup) : construct validate fields r = some r ↔
      ∀ f ∈ fields, ∀ v, r.lookup f.name = some v → validate f.kind v = some v := by
  have hextra : ∀ kv ∈ r, kv.1 ∈ fields.map Field.name := by
    intro kv hkv
    rw [← hnames]
    exact List.mem_map_of_mem hkv
  have hfound : ∀ f ∈ fields, ∃ v, r.lookup f.name = some v := by
    intro f hf
    have hmem : f.name ∈ r.map Prod.fst := hnames ▸ List.mem_map_of_mem hf
    obtain ⟨kv, hkv, hname⟩ := List.mem_map.1 hmem
    exact Option.isSome_iff_exists.1 (List.lookup_isSome_iff.2 ⟨kv, hkv, beq_iff_eq.2 hname.symm⟩)
  unfold construct
  rw [if_pos hextra, readAll_eq_some_iff hnames hn]
  refine forall₂_congr fun f hf => ?_
  obtain ⟨v, hv⟩ := hfound f hf
  unfold Field.read
  rw [hv]
  constructor
  · rintro ⟨w, hw, hread⟩ u hu
    rw [← Option.some.inj hu, ← Option.some.inj hw] at *
    exact hread
  · exact fun h => ⟨v, rfl, h v rfl⟩

/-- **A constructed record is read back exactly when every validator leaves alone what it
returned.** -/
theorem construct_again_iff (h : construct validate fields args = some r)
    (hn : (fields.map Field.name).Nodup) : construct validate fields r = some r ↔
      ∀ f ∈ fields, ∀ v, f.read validate args = some v → validate f.kind v = some v := by
  rw [construct_self_iff (construct_names h) hn]
  refine forall₂_congr fun f hf => ?_
  obtain ⟨v, hv, hread⟩ := read_of_construct h hn hf
  rw [hv, hread]

variable (validate) in
/-- Defaults are not asked for when every field is given. -/
theorem construct_congr {other : List (Field κ V)}
    (hsame : fields.map (fun f => (f.name, f.kind)) = other.map fun f => (f.name, f.kind))
    (hgiven : ∀ f ∈ fields, (args.lookup f.name).isSome = true) :
    construct validate fields args = construct validate other args := by
  have hread : ∀ fields other : List (Field κ V),
      fields.map (fun f => (f.name, f.kind)) = other.map (fun f => (f.name, f.kind)) →
      (∀ f ∈ fields, (args.lookup f.name).isSome = true) →
      readAll validate args fields = readAll validate args other := by
    intro fields
    induction fields with
    | nil =>
      intro other hsame _
      rw [List.map_eq_nil_iff.1 hsame.symm]
    | cons f fields ih =>
      intro other hsame hgiven
      cases other with
      | nil => exact absurd hsame (List.cons_ne_nil _ _)
      | cons g other =>
        rw [List.map_cons, List.map_cons, List.cons.injEq, Prod.mk.injEq] at hsame
        obtain ⟨⟨hname, hkind⟩, hrest⟩ := hsame
        obtain ⟨v, hv⟩ := Option.isSome_iff_exists.1 (hgiven f List.mem_cons_self)
        have hhead : f.read validate args = g.read validate args := by
          unfold Field.read
          rw [← hname, ← hkind, hv]
        rw [readAll, readAll, hhead, hname,
          ih other hrest fun f hf => hgiven f (List.mem_cons_of_mem _ hf)]
  have hnames : fields.map Field.name = other.map Field.name := by
    have h := congrArg (List.map Prod.fst) hsame
    rwa [List.map_map, List.map_map] at h
  unfold construct
  rw [hnames, hread fields other hsame hgiven]

end Construct

end NocAgent.Fields
