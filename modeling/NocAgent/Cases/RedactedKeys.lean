import NocAgent.Cases.PayloadBounds
import Mathlib.Data.List.Forall2

/-!
# What is stored under a redacted key

A key with a forbidden marker is renamed to `redacted_key`.

* `SameOutside` — two payloads that differ only in what is stored under such keys.
* `keptPlaces` — which item of a mapping is kept under each key.
* `KeysHidden` — no such item is one with a marked key.
* `Unmarked` — there is no marked key at all.

Principal result: `sanitizeLhpPayload_hides`.
-/

set_option autoImplicit false

namespace NocAgent.Cases

/-- The key is renamed. -/
def markedKey (py : Python) (key : String) : Bool :=
  _FORBIDDEN_TEXT_MARKERS.any fun marker =>
    hasText marker (py.lower (sanitizeLhpToken py key 80))

mutual

/-- Two payloads that differ only in what is stored under marked keys. -/
inductive SameOutside (py : Python) : Json → Json → Prop where
  | scalar {v : Json} (h : Json.isScalar v = true) : SameOutside py v v
  | text (s : String) : SameOutside py (.str s) (.str s)
  | list {xs ys : List Json} (h : List.Forall₂ (SameOutside py) xs ys) :
      SameOutside py (.list xs) (.list ys)
  | mapping {kvs others : JsonDict} (h : List.Forall₂ (SameField py) kvs others) :
      SameOutside py (.dict kvs) (.dict others)

/-- The same for an item of a mapping. -/
inductive SameField (py : Python) : String × Json → String × Json → Prop where
  | marked {k : String} (h : markedKey py k = true) (v w : Json) : SameField py (k, v) (k, w)
  | kept (k : String) {v w : Json} (h : SameOutside py v w) : SameField py (k, v) (k, w)

end

/-- The place of the item that a mapping keeps under each key. -/
def keptPlaces (py : Python) (keys : List String) : List (String × Nat) :=
  (keys.take 100).zipIdx.foldl (fun kept key => dictPut kept (safeKey py key.1) key.2) []

/-- No item that is kept has a marked key, and the values at the depth limit have `P`. -/
def KeysHidden (py : Python) (P : Json → Prop) : Nat → Json → Prop
  | 0, value => P value
  | depth + 1, value =>
    match value with
    | .list xs => ∀ x ∈ xs.take 50, KeysHidden py P depth x
    | .dict kvs => ∀ place ∈ keptPlaces py (kvs.map Prod.fst), ∀ kv, kvs[place.2]? = some kv →
        markedKey py kv.1 = false ∧ KeysHidden py P depth kv.2
    | _ => True

/-- No mapping inside has a marked key. -/
inductive Unmarked (py : Python) : Json → Prop where
  | scalar {v : Json} (h : Json.isScalar v = true) : Unmarked py v
  | text (s : String) : Unmarked py (.str s)
  | list {xs : List Json} (h : ∀ x ∈ xs, Unmarked py x) : Unmarked py (.list xs)
  | mapping {kvs : JsonDict} (hkeys : ∀ kv ∈ kvs, markedKey py kv.1 = false)
      (h : ∀ kv ∈ kvs, Unmarked py kv.2) : Unmarked py (.dict kvs)

theorem KeysHidden.mono {py : Python} {P Q : Json → Prop} (hPQ : ∀ v, P v → Q v) :
    ∀ {depth : Nat} {value : Json}, KeysHidden py P depth value → KeysHidden py Q depth value
  | 0, _, h => hPQ _ h
  | _ + 1, .list _, h => fun x hx => (h x hx).mono hPQ
  | _ + 1, .dict _, h => fun place hplace kv hkv =>
    ⟨(h place hplace kv hkv).1, (h place hplace kv hkv).2.mono hPQ⟩
  | _ + 1, .null, _ | _ + 1, .bool _, _ | _ + 1, .int _, _ | _ + 1, .float _, _
  | _ + 1, .str _, _ => trivial

section Places

variable {py : Python}

/-- **A mapping keeps the items at its places.** -/
theorem keptItems_places (py : Python) (kvs : JsonDict) :
    keptItems py kvs = (keptPlaces py (kvs.map Prod.fst)).map
      fun place => (place.1, ((kvs[place.2]?).getD default).2) := by
  have hitems : kvs.take 100 = ((kvs.map Prod.fst).take 100).zipIdx.map
      fun key => (key.1, ((kvs[key.2]?).getD default).2) := by
    refine List.ext_getElem? fun i => ?_
    rw [List.getElem?_map, List.getElem?_zipIdx, List.getElem?_take, List.getElem?_take,
      List.getElem?_map]
    split
    · cases hi : kvs[i]? with
      | none => rfl
      | some kv => simp [hi]
    · rfl
  unfold keptItems keptPlaces
  rw [hitems, List.foldl_map]
  exact foldl_dictPut_map (fun key : String × Nat => safeKey py key.1) Prod.snd
    (fun i => ((kvs[i]?).getD default).2) _

/-! ## Changing one item -/

mutual

theorem SameOutside.refl (py : Python) : ∀ v : Json, SameOutside py v v
  | .null | .bool _ | .int _ | .float _ => .scalar rfl
  | .str s => .text s
  | .list xs => .list (sameItems_refl py xs)
  | .dict kvs => .mapping (sameFields_refl py kvs)

theorem sameItems_refl (py : Python) : ∀ xs : List Json, List.Forall₂ (SameOutside py) xs xs
  | [] => .nil
  | x :: xs => .cons (SameOutside.refl py x) (sameItems_refl py xs)

theorem sameFields_refl (py : Python) : ∀ kvs : JsonDict, List.Forall₂ (SameField py) kvs kvs
  | [] => .nil
  | (k, v) :: kvs => .cons (.kept k (SameOutside.refl py v)) (sameFields_refl py kvs)

end

/-- A list with one item changed. -/
theorem forall₂_set {α : Type} {R : α → α → Prop} (hrefl : ∀ a, R a a) :
    ∀ {xs : List α} {i : Nat} {x y : α}, xs[i]? = some x → R x y →
      List.Forall₂ R xs (xs.set i y)
  | x :: xs, 0, _, y, hi, h => by
    cases hi
    exact .cons h (List.forall₂_same.2 fun a _ => hrefl a)
  | x :: xs, i + 1, _, y, hi, h => .cons (hrefl x) (forall₂_set hrefl hi h)

theorem SameField.refl (py : Python) (kv : String × Json) : SameField py kv kv :=
  .kept kv.1 (SameOutside.refl py kv.2)

/-- Related lists have related items. -/
theorem forall₂_getElem? {α β : Type} {R : α → β → Prop} {xs : List α} {ys : List β}
    (h : List.Forall₂ R xs ys) {i : Nat} {x : α} (hi : xs[i]? = some x) :
    ∃ y, ys[i]? = some y ∧ R x y := by
  induction h generalizing i with
  | nil => cases hi
  | cons hxy _ ih =>
    cases i with
    | zero =>
      cases hi
      exact ⟨_, rfl, hxy⟩
    | succ i => exact ih hi

theorem map_eq_of_forall₂ {α β : Type} {R : α → α → Prop} {f : α → β} {xs ys : List α}
    (h : List.Forall₂ R xs ys) (hf : ∀ x ∈ xs, ∀ y, R x y → f y = f x) : ys.map f = xs.map f := by
  induction h with
  | nil => rfl
  | @cons x y xs ys hxy _ ih =>
    rw [List.map_cons, List.map_cons, hf x List.mem_cons_self y hxy,
      ih fun a ha => hf a (List.mem_cons_of_mem x ha)]

/-- The keys are the same. -/
theorem keys_eq {kvs others : JsonDict} (h : List.Forall₂ (SameField py) kvs others) :
    others.map Prod.fst = kvs.map Prod.fst := by
  induction h with
  | nil => rfl
  | cons hfield _ ih =>
    rw [List.map_cons, List.map_cons, ih]
    cases hfield with
    | marked => rfl
    | kept => rfl

/-- An item that is not under a marked key. -/
theorem SameField.outside {kv other : String × Json} (h : SameField py kv other)
    (hkey : markedKey py kv.1 = false) : SameOutside py kv.2 other.2 := by
  cases h with
  | marked hmarked => exact absurd hmarked (by simpa using hkey)
  | kept _ hsame => exact hsame

end Places

/-! ## What a payload shows -/

section Payloads

variable {py : Python} {limit : Nat} {value : Json}

theorem foldl_fixed {α β : Type} {f : α → β → α} {a : α} :
    ∀ {bs : List β}, (∀ b ∈ bs, f a b = a) → bs.foldl f a = a
  | [], _ => rfl
  | b :: bs, h => by
    rw [List.foldl_cons, h b List.mem_cons_self]
    exact foldl_fixed fun c hc => h c (List.mem_cons_of_mem b hc)

/-- A text of one letter that no pattern redacts. -/
theorem sanitizeLhpText_letter {text : String} (hredact : redactSecrets py text = text)
    (hletter : text = "a" ∨ text = "c") : sanitizeLhpText py (.str text) limit = text := by
  have hrendered : renderedText py (.str text) = text := by
    unfold renderedText
    rw [textOf_str, hredact]
    rcases hletter with rfl | rfl <;> decide
  rw [sanitizeLhpText_eq, hrendered, if_neg (by rcases hletter with rfl | rfl <;> decide)]
  refine takeChars_of_length_le (le_trans ?_ (le_max_left 1 limit))
  rcases hletter with rfl | rfl <;> decide

/-- Whatever is stored, something else shows. -/
theorem exists_shown (limit : Nat) (hshort : ∀ pattern ∈ _SECRET_TEXT_PATTERNS, ∀ c : Char,
    py.redact pattern (String.singleton c) = String.singleton c) (depth : Nat) (v : Json) :
    ∃ w, sanitizeLhpPayload py limit depth w ≠ sanitizeLhpPayload py limit depth v := by
  have hpair : ∀ a b : Json, sanitizeLhpPayload py limit depth a ≠ sanitizeLhpPayload py limit depth b →
      ∃ w, sanitizeLhpPayload py limit depth w ≠ sanitizeLhpPayload py limit depth v := by
    intro a b hne
    by_cases ha : sanitizeLhpPayload py limit depth a = sanitizeLhpPayload py limit depth v
    · exact ⟨b, fun hb => hne (ha.trans hb.symm)⟩
    · exact ⟨a, ha⟩
  cases depth with
  | succ depth => exact hpair .null (.bool true) (by simp [sanitizeLhpPayload])
  | zero =>
    have ha : redactSecrets py "a" = "a" := foldl_fixed fun pattern h => hshort pattern h 'a'
    have hc : redactSecrets py "c" = "c" := foldl_fixed fun pattern h => hshort pattern h 'c'
    refine hpair (.str "a") (.str "c") fun heq => ?_
    simp only [sanitizeLhpPayload, Json.str.injEq] at heq
    rw [sanitizeLhpText_letter ha (Or.inl rfl), sanitizeLhpText_letter hc (Or.inr rfl)] at heq
    exact absurd heq (by decide)

/-- Payloads that differ only in what is stored under marked keys are sanitized to the same. -/
def HidesMarked (py : Python) (limit depth : Nat) (value : Json) : Prop :=
  ∀ other, SameOutside py value other →
    sanitizeLhpPayload py limit depth other = sanitizeLhpPayload py limit depth value

theorem list_hides_iff {depth : Nat}
    (ih : ∀ value, HidesMarked py limit depth value ↔
      KeysHidden py (HidesMarked py limit 0) depth value) (xs : List Json) :
    HidesMarked py limit (depth + 1) (.list xs) ↔
      KeysHidden py (HidesMarked py limit 0) (depth + 1) (.list xs) := by
  constructor
  · intro h x hx
    obtain ⟨i, hi⟩ := List.mem_iff_getElem?.1 hx
    refine (ih x).1 fun y hxy => ?_
    rw [List.getElem?_take] at hi
    split at hi
    · next hlt =>
      have hsame := h (.list (xs.set i y)) (.list (forall₂_set (SameOutside.refl py) hi hxy))
      rw [sanitizeLhpPayload_list, sanitizeLhpPayload_list, Json.list.injEq] at hsame
      have hat := congrArg (·[i]?) hsame
      have hset : (xs.set i y)[i]? = some y :=
        List.getElem?_set_self (List.getElem?_eq_some_iff.1 hi).1
      simp only [List.getElem?_map, List.getElem?_take, if_pos hlt, hi, hset, Option.map_some,
        Option.some.injEq] at hat
      exact hat
    · cases hi
  · intro h other hsame
    cases hsame with
    | scalar hscalar => cases hscalar
    | @list _ ys hitems =>
      rw [sanitizeLhpPayload_list, sanitizeLhpPayload_list, Json.list.injEq]
      exact map_eq_of_forall₂ (List.forall₂_take 50 hitems) fun x hx y hxy =>
        (ih x).2 (h x hx) y hxy

/-- Two mappings with the same keys come out the same when the items that are kept do. -/
theorem sanitizeLhpPayload_dict_iff {depth : Nat} {kvs others : JsonDict}
    (hkeys : others.map Prod.fst = kvs.map Prod.fst) :
    sanitizeLhpPayload py limit (depth + 1) (.dict others) =
        sanitizeLhpPayload py limit (depth + 1) (.dict kvs) ↔
      ∀ place ∈ keptPlaces py (kvs.map Prod.fst),
        sanitizeLhpPayload py limit depth ((others[place.2]?).getD default).2 =
          sanitizeLhpPayload py limit depth ((kvs[place.2]?).getD default).2 := by
  rw [sanitizeLhpPayload_dict, sanitizeLhpPayload_dict, keptItems_places, keptItems_places, hkeys,
    List.map_map, List.map_map, Json.dict.injEq, List.map_inj_left]
  refine forall₂_congr fun place _ => ?_
  simp only [Function.comp, Prod.mk.injEq, true_and]

theorem mapping_hides_iff {depth : Nat}
    (hshort : ∀ pattern ∈ _SECRET_TEXT_PATTERNS, ∀ c : Char,
      py.redact pattern (String.singleton c) = String.singleton c)
    (ih : ∀ value, HidesMarked py limit depth value ↔
      KeysHidden py (HidesMarked py limit 0) depth value) (kvs : JsonDict) :
    HidesMarked py limit (depth + 1) (.dict kvs) ↔
      KeysHidden py (HidesMarked py limit 0) (depth + 1) (.dict kvs) := by
  constructor
  · intro h place hplace kv hi
    -- what comes out of the item when another value is stored in its place
    have hshown : ∀ w, SameField py kv (kv.1, w) →
        sanitizeLhpPayload py limit depth w = sanitizeLhpPayload py limit depth kv.2 := by
      intro w hfield
      have hfields := forall₂_set (SameField.refl py) hi hfield
      have hsame := (sanitizeLhpPayload_dict_iff (keys_eq hfields)).1 (h _ (.mapping hfields))
        place hplace
      rw [List.getElem?_set_self (List.getElem?_eq_some_iff.1 hi).1, hi] at hsame
      exact hsame
    cases hkey : markedKey py kv.1 with
    | true =>
      obtain ⟨w, hw⟩ := exists_shown limit hshort depth kv.2
      exact absurd (hshown w (.marked hkey kv.2 w)) hw
    | false => exact ⟨rfl, (ih kv.2).1 fun w hw => hshown w (.kept kv.1 hw)⟩
  · intro h other hsame
    cases hsame with
    | scalar hscalar => cases hscalar
    | @mapping _ others hfields =>
      refine (sanitizeLhpPayload_dict_iff (keys_eq hfields)).2 fun place hplace => ?_
      cases hi : kvs[place.2]? with
      | none =>
        have hlen := hfields.length_eq
        rw [List.getElem?_eq_none_iff, hlen, ← List.getElem?_eq_none_iff] at hi
        rw [hi]
      | some kv =>
        obtain ⟨item, hitem, hfield⟩ := forall₂_getElem? hfields hi
        obtain ⟨hkey, hhidden⟩ := h place hplace kv hi
        rw [hitem]
        exact (ih kv.2).2 hhidden item.2 (hfield.outside hkey)

/-- **What is stored under marked keys does not show exactly when these keys are hidden**, and no value
at the depth limit shows it. -/
theorem hidesMarked_iff (hshort : ∀ pattern ∈ _SECRET_TEXT_PATTERNS, ∀ c : Char,
      py.redact pattern (String.singleton c) = String.singleton c) (depth : Nat) (value : Json) :
    HidesMarked py limit depth value ↔ KeysHidden py (HidesMarked py limit 0) depth value := by
  induction depth generalizing value with
  | zero => exact Iff.rfl
  | succ depth ih =>
    cases value with
    | list xs => exact list_hides_iff ih xs
    | dict kvs => exact mapping_hides_iff hshort ih kvs
    | _ =>
      refine iff_of_true (fun other hsame => ?_) trivial
      cases hsame
      all_goals rfl

mutual

/-- Without marked keys there is nothing to differ in. -/
theorem Unmarked.eq_of_same : ∀ {v other : Json}, Unmarked py v → SameOutside py v other → other = v
  | .null, _, _, h | .bool _, _, _, h | .int _, _, _, h | .float _, _, _, h | .str _, _, _, h => by
    cases h <;> rfl
  | .list xs, _, hfree, .list h => by
    have hitems : ∀ x ∈ xs, Unmarked py x := by
      cases hfree with
      | scalar hscalar => cases hscalar
      | list hitems => exact hitems
    rw [eq_of_sameItems hitems h]
  | .dict kvs, _, hfree, .mapping h => by
    obtain ⟨hkeys, hvalues⟩ : (∀ kv ∈ kvs, markedKey py kv.1 = false) ∧
        ∀ kv ∈ kvs, Unmarked py kv.2 := by
      cases hfree with
      | scalar hscalar => cases hscalar
      | mapping hkeys hvalues => exact ⟨hkeys, hvalues⟩
    rw [eq_of_sameFields hkeys hvalues h]

theorem eq_of_sameItems : ∀ {xs ys : List Json}, (∀ x ∈ xs, Unmarked py x) →
    List.Forall₂ (SameOutside py) xs ys → ys = xs
  | [], _, _, .nil => rfl
  | x :: xs, _, hfree, .cons h hs => by
    rw [Unmarked.eq_of_same (hfree x List.mem_cons_self) h,
      eq_of_sameItems (fun y hy => hfree y (List.mem_cons_of_mem x hy)) hs]

theorem eq_of_sameFields : ∀ {kvs others : JsonDict}, (∀ kv ∈ kvs, markedKey py kv.1 = false) →
    (∀ kv ∈ kvs, Unmarked py kv.2) → List.Forall₂ (SameField py) kvs others → others = kvs
  | [], _, _, _, .nil => rfl
  | (k, v) :: kvs, (k', w) :: others, hkeys, hfree, .cons h hs => by
    have hkey := hkeys (k, v) List.mem_cons_self
    have hw : w = v := Unmarked.eq_of_same (hfree (k, v) List.mem_cons_self) (h.outside hkey)
    have hk : k' = k := by
      cases h <;> rfl
    rw [hk, hw, eq_of_sameFields (fun kv hkv => hkeys kv (List.mem_cons_of_mem _ hkv))
      (fun kv hkv => hfree kv (List.mem_cons_of_mem _ hkv)) hs]

end

theorem Unmarked.hides (h : Unmarked py value) (limit depth : Nat) :
    HidesMarked py limit depth value := by
  intro other hsame
  rw [h.eq_of_same hsame]

/-- **What is stored under marked keys does not show** where no item that is kept has one and there is
none inside the values at the depth limit; and it does show where an item that is kept has one. -/
theorem sanitizeLhpPayload_hides (py : Python) (limit : Nat)
    (hshort : ∀ pattern ∈ _SECRET_TEXT_PATTERNS, ∀ c : Char,
      py.redact pattern (String.singleton c) = String.singleton c) (depth : Nat) (value : Json) :
    (KeysHidden py (Unmarked py) depth value → HidesMarked py limit depth value) ∧
      (HidesMarked py limit depth value → KeysHidden py (fun _ => True) depth value) := by
  have hiff : HidesMarked py limit depth value ↔ _ := hidesMarked_iff hshort depth value
  constructor
  · intro hhidden
    exact hiff.2 (hhidden.mono fun _ hfree => hfree.hides limit 0)
  · intro hhides
    exact (hiff.1 hhides).mono fun _ _ => trivial

end Payloads

/-- A password under a marked key. -/
def secretPayload (password : String) : Json := .dict [("secret", .str password)]

/-- **It comes out under the key that replaces the marked one.** -/
theorem redactedKey_leaks :
    SameOutside asciiPython (secretPayload "hunter2") (secretPayload "xyzzy") ∧
      sanitizeLhpPayload asciiPython 2000 6 (secretPayload "hunter2") =
        .dict [("redacted_key", .str "hunter2")] ∧
      sanitizeLhpPayload asciiPython 2000 6 (secretPayload "xyzzy") ≠
        sanitizeLhpPayload asciiPython 2000 6 (secretPayload "hunter2") := by
  have hshown : ∀ password, sanitizeLhpText asciiPython (.str password) 2000 = password →
      sanitizeLhpPayload asciiPython 2000 6 (secretPayload password) =
        .dict [("redacted_key", .str password)] := by
    intro password h
    have hkept : keptItems asciiPython [("secret", .str password)] =
        [("redacted_key", .str password)] := by
      change [(safeKey asciiPython "secret", Json.str password)] = _
      rw [show safeKey asciiPython "secret" = "redacted_key" from by decide]
    unfold secretPayload
    rw [sanitizeLhpPayload_dict, hkept]
    change Json.dict [("redacted_key", .str (sanitizeLhpText asciiPython (.str password) 2000))] = _
    rw [h]
  have hfirst := hshown "hunter2" (by decide)
  refine ⟨.mapping (.cons (.marked (by decide) _ _) .nil), hfirst, ?_⟩
  rw [hfirst, hshown "xyzzy" (by decide)]
  simp

/-- The marked key comes before an item that replaces it. -/
def overriddenPayload : Json := .dict [("secret", .str "hunter2"), ("redacted_key", .str "withheld")]

theorem sanitizeLhpPayload_hides_overridden :
    HidesMarked asciiPython 2000 6 overriddenPayload := by
  refine (sanitizeLhpPayload_hides asciiPython 2000 (fun _ _ _ => rfl) 6 overriddenPayload).1 ?_
  have hplaces : keptPlaces asciiPython ["secret", "redacted_key"] = [("redacted_key", 1)] := by
    decide
  intro place hplace kv hkv
  change place ∈ keptPlaces asciiPython ["secret", "redacted_key"] at hplace
  rw [hplaces, List.mem_singleton] at hplace
  subst hplace
  cases hkv
  exact ⟨by decide, trivial⟩

end NocAgent.Cases
