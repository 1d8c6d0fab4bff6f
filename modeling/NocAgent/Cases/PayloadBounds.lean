import NocAgent.Cases.Sanitizers

/-!
# The bounds of a sanitized payload

* `BoundedText`, `BoundedKey` — the texts and the keys of a sanitized payload.
* `BoundedPayload` — a payload nested only so deep, with short lists and mappings of them.
* `KeptFrom` — what is kept of a payload comes from the same place of the payload.

Principal result: `sanitizeLhpPayload_bounded`.
-/

set_option autoImplicit false

namespace NocAgent.Cases

/-! ## Bounds -/

/-- A text within its limit, without a blocked or a control character. -/
structure BoundedText (limit : Nat) (s : String) : Prop where
  nonempty : 1 ≤ s.toList.length
  short : s.toList.length ≤ limit
  /-- neither blocked nor a control character -/
  clean : ∀ c ∈ s.toList, c ∉ _BLOCKED_TEXT_CHARS ∧ 32 ≤ c.toNat

/-- A key that is a short token without a marker. -/
structure BoundedKey (py : Python) (k : String) : Prop where
  nonempty : 1 ≤ k.toList.length
  short : k.toList.length ≤ 80
  token : ∀ c ∈ k.toList, tokenChar py c = true
  /-- in whatever case -/
  unmarked : ∀ marker ∈ _FORBIDDEN_TEXT_MARKERS,
    hasText marker k = false ∧ hasText marker (py.lower k) = false

/-- A number, a boolean or null. -/
def Json.isScalar : Json → Bool
  | .null | .bool _ | .int _ | .float _ => true
  | _ => false

/-- Containers are nested at most `depth` deep. -/
inductive BoundedPayload (py : Python) (limit : Nat) : Nat → Json → Prop where
  | scalar {depth : Nat} {v : Json} (h : Json.isScalar v = true) : BoundedPayload py limit depth v
  | text {depth : Nat} {s : String} (h : BoundedText limit s) : BoundedPayload py limit depth (.str s)
  | list {depth : Nat} {xs : List Json} (hlen : xs.length ≤ 50)
      (h : ∀ x ∈ xs, BoundedPayload py limit depth x) : BoundedPayload py limit (depth + 1) (.list xs)
  | mapping {depth : Nat} {kvs : JsonDict} (hlen : kvs.length ≤ 100)
      (hnodup : (kvs.map Prod.fst).Nodup) (hkeys : ∀ kv ∈ kvs, BoundedKey py kv.1)
      (h : ∀ kv ∈ kvs, BoundedPayload py limit depth kv.2) :
      BoundedPayload py limit (depth + 1) (.dict kvs)

/-- What the second holds of the first: a number, a boolean or null as it is, from the same place. -/
inductive KeptFrom (py : Python) : Json → Json → Prop where
  | scalar {v : Json} (h : Json.isScalar v = true) : KeptFrom py v v
  | text (v : Json) (s : String) : KeptFrom py v (.str s)
  | list {xs ys : List Json} (hlen : ys.length ≤ xs.length)
      (h : ∀ (i : Nat) (x y : Json), xs[i]? = some x → ys[i]? = some y → KeptFrom py x y) :
      KeptFrom py (.list xs) (.list ys)
  | mapping {kvs kept : JsonDict} (source : String × Json → String × Json)
      (hsource : ∀ kv ∈ kept, source kv ∈ kvs ∧ safeKey py (source kv).1 = kv.1)
      (h : ∀ kv ∈ kept, KeptFrom py (source kv).2 kv.2) :
      KeptFrom py (.dict kvs) (.dict kept)

/-! ## Texts and keys -/

section Texts

variable {py : Python} {limit : Nat}

/-- A collapsed text that was cleaned has nothing else. -/
theorem clean_renderedText (value : Json) : ∀ c ∈ (renderedText py value).toList,
    c ∉ _BLOCKED_TEXT_CHARS ∧ 32 ≤ c.toNat := by
  intro c hc
  rcases mem_collapseSpace hc with hclean | rfl
  · unfold cleanText at hclean
    rw [String.toList_ofList] at hclean
    obtain ⟨d, -, rfl⟩ := List.mem_map.1 hclean
    split
    · decide
    · next h =>
      rw [not_or, not_lt] at h
      exact h
  · decide

theorem sanitizeLhpText_bounded (hlimit : 1 ≤ limit) (value : Json) :
    BoundedText limit (sanitizeLhpText py value limit) := by
  rw [sanitizeLhpText_eq, max_eq_right hlimit]
  have hne : (if renderedText py value = "" then "—" else renderedText py value) ≠ "" := by
    split
    · decide
    · assumption
  constructor
  · refine List.length_pos_iff.2 fun hnil => ?_
    exact takeChars_nonempty (by omega) hne (String.toList_inj.1 hnil)
  · exact length_takeChars_le _ _
  · intro c hc
    rw [toList_takeChars] at hc
    have hc := List.mem_of_mem_take hc
    split at hc
    · have hdash : "—".toList = ['—'] := by decide
      rw [hdash, List.mem_singleton] at hc
      subst hc
      decide
    · exact clean_renderedText value c hc

theorem sanitizeLhpToken_bounded (keyLaws : KeyLaws py) (key : String) :
    1 ≤ (sanitizeLhpToken py key 80).toList.length ∧ (sanitizeLhpToken py key 80).toList.length ≤ 80 ∧
      ∀ c ∈ (sanitizeLhpToken py key 80).toList, tokenChar py c = true := by
  refine ⟨List.length_pos_iff.2 fun hnil => ?_, length_takeChars_le _ _,
    tokenChars_sanitizeLhpToken keyLaws key 80⟩
  exact sanitizeLhpToken_ne_empty py key 80 (String.toList_inj.1 hnil)

theorem markerChars {marker : String} (h : marker ∈ _FORBIDDEN_TEXT_MARKERS) :
    marker.toList.all markerChar = true := by
  have hall : (_FORBIDDEN_TEXT_MARKERS.all fun marker => marker.toList.all markerChar) = true := by
    decide
  exact List.all_eq_true.1 hall marker h

/-- What has no marker in lower case has none at all. -/
theorem hasText_of_lower (keyLaws : KeyLaws py) {marker k : String}
    (hmarker : marker ∈ _FORBIDDEN_TEXT_MARKERS) (h : hasText marker (py.lower k) = false) :
    hasText marker k = false := by
  by_contra hhas
  have hwithin := keyLaws.within k marker (markerChars hmarker)
    (of_decide_eq_true (eq_true_of_ne_false hhas))
  exact absurd hwithin (of_decide_eq_false h)

theorem safeKey_bounded (keyLaws : KeyLaws py) (key : String) : BoundedKey py (safeKey py key) := by
  rw [safeKey_eq]
  split
  · refine ⟨by decide, by decide, tokenChars_redacted keyLaws, fun marker hmarker => ?_⟩
    have hfree := List.any_eq_false.1 (hasText_lower_redacted keyLaws) marker hmarker
    exact ⟨hasText_of_lower keyLaws hmarker (by simpa using hfree), by simpa using hfree⟩
  · next hfree =>
    obtain ⟨hne, hshort, htoken⟩ := sanitizeLhpToken_bounded keyLaws key
    refine ⟨hne, hshort, htoken, fun marker hmarker => ?_⟩
    have hfree := List.any_eq_false.1 (eq_false_of_ne_true hfree) marker hmarker
    exact ⟨hasText_of_lower keyLaws hmarker (by simpa using hfree), by simpa using hfree⟩

end Texts

/-! ## Payloads -/

section Payloads

variable {py : Python} {limit : Nat}

/-- **A sanitized payload keeps the bounds.** -/
theorem boundedPayload (keyLaws : KeyLaws py) (hlimit : 1 ≤ limit) (depth : Nat) : ∀ value : Json,
    BoundedPayload py limit depth (sanitizeLhpPayload py limit depth value) := by
  induction depth with
  | zero => exact fun value => .text (sanitizeLhpText_bounded hlimit value)
  | succ depth ih =>
    intro value
    cases value with
    | str s => exact .text (sanitizeLhpText_bounded hlimit (.str s))
    | list xs =>
      rw [sanitizeLhpPayload_list]
      refine .list ?_ fun x hx => ?_
      · rw [List.length_map]
        exact List.length_take_le _ _
      · obtain ⟨item, -, rfl⟩ := List.mem_map.1 hx
        exact ih item
    | dict kvs =>
      rw [sanitizeLhpPayload_dict]
      refine .mapping ?_ ?_ (fun kv hkv => ?_) fun kv hkv => ?_
      · rw [List.length_map]
        exact length_keptItems_le py kvs
      · rw [List.map_map]
        exact (keptItems_spec py kvs).1
      · obtain ⟨item, hitem, rfl⟩ := List.mem_map.1 hkv
        obtain ⟨source, -, rfl⟩ := mem_keptItems hitem
        exact safeKey_bounded keyLaws source.1
      · obtain ⟨item, -, rfl⟩ := List.mem_map.1 hkv
        exact ih item.2
    | _ => exact .scalar rfl

/-- **What it keeps comes from the payload.** -/
theorem keptFrom (depth : Nat) : ∀ value : Json,
    KeptFrom py value (sanitizeLhpPayload py limit depth value) := by
  induction depth with
  | zero => exact fun value => .text value _
  | succ depth ih =>
    intro value
    cases value with
    | str s => exact .text (.str s) _
    | list xs =>
      rw [sanitizeLhpPayload_list]
      refine .list ?_ fun i x y hx hy => ?_
      · rw [List.length_map]
        exact List.length_take_le' _ _
      · rw [List.getElem?_map] at hy
        obtain ⟨item, hitem, rfl⟩ := Option.map_eq_some_iff.1 hy
        rw [List.getElem?_take] at hitem
        split at hitem
        · rw [hx] at hitem
          cases hitem
          exact ih x
        · cases hitem
    | dict kvs =>
      rw [sanitizeLhpPayload_dict]
      have hitems : ∀ kv ∈ (keptItems py kvs).map
          (fun kv => (kv.1, sanitizeLhpPayload py limit depth kv.2)), ∃ item : String × Json,
            item ∈ kvs ∧ safeKey py item.1 = kv.1 ∧
              kv.2 = sanitizeLhpPayload py limit depth item.2 := by
        intro kv hkv
        obtain ⟨kept, hkept, rfl⟩ := List.mem_map.1 hkv
        obtain ⟨item, hitem, rfl⟩ := mem_keptItems hkept
        exact ⟨item, hitem, rfl, rfl⟩
      choose! source hmem hkey hvalue using hitems
      refine .mapping source (fun kv hkv => ⟨hmem kv hkv, hkey kv hkv⟩) fun kv hkv => ?_
      rw [hvalue kv hkv]
      exact ih (source kv).2
    | _ => exact .scalar rfl

/-- **The bounds of a sanitized payload**, and where it comes from. -/
theorem sanitizeLhpPayload_bounded (py : Python) (keyLaws : KeyLaws py) (limit depth : Nat)
    (hlimit : 1 ≤ limit) (value : Json) :
    BoundedPayload py limit depth (sanitizeLhpPayload py limit depth value) ∧
      KeptFrom py value (sanitizeLhpPayload py limit depth value) :=
  ⟨boundedPayload keyLaws hlimit depth value, keptFrom depth value⟩

end Payloads

/-- What is lower-case in ASCII stays. -/
theorem toLower_markerChar {c : Char} (h : markerChar c = true) : c.toLower = c := by
  simp only [markerChar, Bool.or_eq_true, beq_iff_eq, isLower_iff] at h
  have hupper : ¬ (c.val ≥ 'A'.val ∧ c.val ≤ 'Z'.val) := by
    intro hrange
    have hle : c.toNat ≤ 90 := hrange.2
    rcases h with hlower | rfl
    · omega
    · exact absurd hle (by decide)
  unfold Char.toLower
  rw [dif_neg hupper]

theorem keyLaws_ascii : KeyLaws asciiPython where
  alnum _ h := h
  lower s h := by
    change String.ofList (s.toList.map Char.toLower) = s
    conv_rhs => rw [← String.ofList_toList (s := s)]
    refine congrArg String.ofList ((List.map_congr_left fun c hc => ?_).trans (List.map_id _))
    exact toLower_markerChar (List.all_eq_true.1 h c hc)
  within s t h hwithin := by
    have ht : t.toList.map Char.toLower = t.toList :=
      (List.map_congr_left fun c hc => toLower_markerChar (List.all_eq_true.1 h c hc)).trans
        (List.map_id _)
    change t.toList <:+: (String.ofList (s.toList.map Char.toLower)).toList
    rw [String.toList_ofList, ← ht]
    exact hwithin.map Char.toLower

/-- A mapping with a key to hide and a list. -/
def ticketPayload : Json :=
  .dict [("Client-Secret", .str "hunter2"), ("hosts", .list [.str "<fra1>", .int 7, .null])]

theorem sanitizeLhpPayload_ticketPayload :
    BoundedPayload asciiPython 4 2 (sanitizeLhpPayload asciiPython 4 2 ticketPayload) ∧
      KeptFrom asciiPython ticketPayload (sanitizeLhpPayload asciiPython 4 2 ticketPayload) :=
  sanitizeLhpPayload_bounded asciiPython keyLaws_ascii 4 2 (by decide) ticketPayload

end NocAgent.Cases
