import NocAgent.Cases.Lhp
import NocAgent.Python.Words

/-!
# Running the sanitizers again

* `SanitizerLaws` — what is used of the interpreter, and of the patterns for secrets.
* `TextSettled`, `PayloadSettled` — values that a sanitizer, having run once, leaves alone.

Principal results: `sanitizeLhpToken_idem`, `sanitizeLhpText_iff`, `sanitizeLhpPayload_iff`,
`sanitizeLhpPayload_less_iff` (with one level less).
-/

set_option autoImplicit false

namespace NocAgent.Cases

/-- A letter or a digit of a hexadecimal digest. -/
def HexText (s : String) : Prop := ∀ c ∈ s.toList, c ∈ "0123456789abcdef".toList

/-- Every secret has one of these characters, and `[redacted]` has none. -/
def secretMark (c : Char) : Bool := c == ':' || c == '=' || c == '-' || c == 'b' || c == 'B'

/-- The number of them. -/
def secretMarks (s : String) : Nat := s.toList.countP secretMark

/-- A lower-case letter of ASCII, or an underscore. -/
def markerChar (c : Char) : Bool := c.isLower || c == '_'

/-- `str.isalnum` and `str.lower` on ASCII: what is lower-case stays, also within a text. -/
structure KeyLaws (py : Python) : Prop where
  alnum : ∀ c : Char, c.isAlphanum = true → py.isAlnum c = true
  lower : ∀ s : String, s.toList.all markerChar = true → py.lower s = s
  within : ∀ s t : String, t.toList.all markerChar = true → t.toList <:+: s.toList →
    t.toList <:+: (py.lower s).toList

/-- What the sanitizers rely on of the interpreter. -/
structure SanitizerLaws (py : Python) : Prop extends KeyLaws py where
  solid : ∀ c : Char, py.isAlnum c = true → isSpace c = false
  redact : ∀ pattern ∈ _SECRET_TEXT_PATTERNS, ∀ text : String,
    py.redact pattern text = text ∨ secretMarks (py.redact pattern text) < secretMarks text
  digest : ∀ text : String, HexText (py.sha256 text) ∧ (py.sha256 text).length = 64

/-! ## Tokens -/

section Tokens

variable {py : Python} (keyLaws : KeyLaws py) (laws : SanitizerLaws py)

theorem sanitizeLhpToken_eq (py : Python) (text : String) (limit : Nat) :
    sanitizeLhpToken py text limit = takeChars (max 1 limit)
      (if String.ofList (text.toList.filter (tokenChar py)) = "" then "unknown"
        else String.ofList (text.toList.filter (tokenChar py))) := rfl

theorem safeKey_eq (py : Python) (key : String) : safeKey py key =
    if _FORBIDDEN_TEXT_MARKERS.any fun marker =>
        hasText marker (py.lower (sanitizeLhpToken py key 80)) then "redacted_key"
    else sanitizeLhpToken py key 80 := rfl

/-- A text of allowed characters that is short enough is its own token. -/
theorem sanitizeLhpToken_of_token {s : String} {limit : Nat}
    (hchars : ∀ c ∈ s.toList, tokenChar py c = true) (hne : s ≠ "") (hlen : s.toList.length ≤ limit) :
    sanitizeLhpToken py s limit = s := by
  rw [sanitizeLhpToken_eq, List.filter_eq_self.2 hchars, String.ofList_toList, if_neg hne,
    takeChars_of_length_le (hlen.trans (le_max_right 1 limit))]

include keyLaws in
theorem tokenChar_of_alphanum {c : Char} (h : c.isAlphanum = true) : tokenChar py c = true := by
  unfold tokenChar
  rw [keyLaws.alnum c h]
  rfl

include laws in
theorem isSpace_of_tokenChar {c : Char} (h : tokenChar py c = true) : isSpace c = false := by
  unfold tokenChar at h
  simp only [Bool.or_eq_true, beq_iff_eq] at h
  rcases h with ((((h | rfl) | rfl) | rfl) | rfl) | rfl
  · exact laws.solid c h
  all_goals decide

include keyLaws in
theorem tokenChars_sanitizeLhpToken (text : String) (limit : Nat) :
    ∀ c ∈ (sanitizeLhpToken py text limit).toList, tokenChar py c = true := by
  intro c hc
  rw [sanitizeLhpToken_eq, toList_takeChars] at hc
  have hc := List.mem_of_mem_take hc
  split at hc
  · refine tokenChar_of_alphanum keyLaws ?_
    have hall : "unknown".toList.all Char.isAlphanum = true := by decide
    exact List.all_eq_true.1 hall c hc
  · rw [String.toList_ofList] at hc
    exact (List.mem_filter.1 hc).2

theorem sanitizeLhpToken_ne_empty (py : Python) (text : String) (limit : Nat) :
    sanitizeLhpToken py text limit ≠ "" := by
  rw [sanitizeLhpToken_eq]
  refine takeChars_nonempty (by omega) ?_
  split
  · decide
  · assumption

include laws in
/-- **A token is its own token.** -/
theorem sanitizeLhpToken_idem (text : String) (limit : Nat) :
    sanitizeLhpToken py (sanitizeLhpToken py text limit) limit = sanitizeLhpToken py text limit := by
  have hchars := tokenChars_sanitizeLhpToken laws.toKeyLaws text limit
  have hne := sanitizeLhpToken_ne_empty py text limit
  have hlen : (sanitizeLhpToken py text limit).toList.length ≤ max 1 limit :=
    length_takeChars_le _ _
  have hmax : ∀ s, sanitizeLhpToken py s limit = sanitizeLhpToken py s (max 1 limit) := by
    intro s
    rw [sanitizeLhpToken_eq, sanitizeLhpToken_eq, max_eq_right (le_max_left 1 limit)]
  rw [hmax (sanitizeLhpToken py text limit)]
  exact sanitizeLhpToken_of_token hchars hne hlen

include laws in
/-- A required token passes the check a second time. -/
theorem requireLhpToken_idem (text : String) (limit : Nat) :
    requireLhpToken py (sanitizeLhpToken py text limit) limit =
      some (sanitizeLhpToken py text limit) := by
  have hchars := tokenChars_sanitizeLhpToken laws.toKeyLaws text limit
  have hstrip : strip (sanitizeLhpToken py text limit) ≠ "" := by
    have hdrop : (sanitizeLhpToken py text limit).toList.dropWhile isSpace =
        (sanitizeLhpToken py text limit).toList := by
      rw [List.dropWhile_eq_self_iff]
      intro hpos
      simpa using isSpace_of_tokenChar laws (hchars _ (List.getElem_mem hpos))
    have hrdrop : (sanitizeLhpToken py text limit).toList.rdropWhile isSpace =
        (sanitizeLhpToken py text limit).toList := by
      rw [List.rdropWhile_eq_self_iff]
      intro hne
      simpa using isSpace_of_tokenChar laws (hchars _ (List.getLast_mem hne))
    unfold strip
    rw [hdrop, hrdrop, String.ofList_toList]
    exact sanitizeLhpToken_ne_empty py text limit
  unfold requireLhpToken
  rw [if_neg hstrip, sanitizeLhpToken_idem laws]

include keyLaws in
theorem hasText_lower_redacted :
    (_FORBIDDEN_TEXT_MARKERS.any fun marker => hasText marker (py.lower "redacted_key")) = false := by
  rw [keyLaws.lower "redacted_key" (by decide)]
  decide

include keyLaws in
theorem tokenChars_redacted : ∀ c ∈ "redacted_key".toList, tokenChar py c = true := by
  intro c hc
  have hchars : ("redacted_key".toList.all fun c => c.isAlphanum || c == '_') = true := by decide
  have hc : c.isAlphanum = true ∨ c = '_' := by simpa using List.all_eq_true.1 hchars c hc
  rcases hc with hc | rfl
  · exact tokenChar_of_alphanum keyLaws hc
  · simp [tokenChar]

include laws in
/-- **The keys of a sanitized mapping stay.** -/
theorem safeKey_idem (key : String) : safeKey py (safeKey py key) = safeKey py key := by
  have hredacted : sanitizeLhpToken py "redacted_key" 80 = "redacted_key" :=
    sanitizeLhpToken_of_token (tokenChars_redacted laws.toKeyLaws) (by decide) (by decide)
  by_cases h : (_FORBIDDEN_TEXT_MARKERS.any fun marker =>
      hasText marker (py.lower (sanitizeLhpToken py key 80))) = true
  · have hkey : safeKey py key = "redacted_key" := if_pos h
    rw [hkey, safeKey_eq, hredacted, hasText_lower_redacted laws.toKeyLaws]
    rfl
  · have hkey : safeKey py key = sanitizeLhpToken py key 80 := if_neg h
    rw [hkey, safeKey_eq, sanitizeLhpToken_idem laws, if_neg h]

end Tokens

/-! ## Text -/

/-- The text with its secrets redacted, one pattern after the other. -/
def redactSecrets (py : Python) (text : String) : String :=
  _SECRET_TEXT_PATTERNS.foldl (fun text pattern => py.redact pattern text) text

/-- Blocked and control characters become spaces. -/
def cleanText (text : String) : String :=
  String.ofList (text.toList.map fun c => if c ∈ _BLOCKED_TEXT_CHARS ∨ c.toNat < 32 then ' ' else c)

/-- The whole text, before it is cut to its limit. -/
def renderedText (py : Python) (value : Json) : String :=
  collapseSpace (cleanText (redactSecrets py (textOf py value)))

theorem sanitizeLhpText_eq (py : Python) (value : Json) (limit : Nat) :
    sanitizeLhpText py value limit = takeChars (max 1 limit)
      (if renderedText py value = "" then "—" else renderedText py value) := rfl

/-- A text that is not cut after a space, and whose kept part holds no secret. -/
structure TextSettled (py : Python) (value : Json) (limit : Nat) : Prop where
  whole : (takeChars (max 1 limit) (renderedText py value)).toList.getLast? ≠ some ' '
  harmless : ∀ pattern ∈ _SECRET_TEXT_PATTERNS,
    py.redact pattern (takeChars (max 1 limit) (renderedText py value)) =
      takeChars (max 1 limit) (renderedText py value)

section Text

variable {py : Python} (laws : SanitizerLaws py)

include laws in
/-- Redaction leaves a text alone when every pattern does, and loses a mark otherwise. -/
theorem redactSecrets_cases (text : String) :
    ((∀ pattern ∈ _SECRET_TEXT_PATTERNS, py.redact pattern text = text) ∧
      redactSecrets py text = text) ∨
    (¬ (∀ pattern ∈ _SECRET_TEXT_PATTERNS, py.redact pattern text = text) ∧
      secretMarks (redactSecrets py text) < secretMarks text) := by
  have hfold : ∀ patterns : List String, (∀ p ∈ patterns, p ∈ _SECRET_TEXT_PATTERNS) → ∀ text,
      ((∀ p ∈ patterns, py.redact p text = text) ∧
        patterns.foldl (fun text p => py.redact p text) text = text) ∨
      (¬ (∀ p ∈ patterns, py.redact p text = text) ∧
        secretMarks (patterns.foldl (fun text p => py.redact p text) text) < secretMarks text) := by
    intro patterns
    induction patterns with
    | nil => exact fun _ _ => Or.inl ⟨fun _ hp => absurd hp List.not_mem_nil, rfl⟩
    | cons p patterns ih =>
      intro hsub text
      have ih := ih fun q hq => hsub q (List.mem_cons_of_mem p hq)
      rw [List.foldl_cons, List.forall_mem_cons]
      rcases laws.redact p (hsub p List.mem_cons_self) text with heq | hlt
      · rw [heq]
        rcases ih text with ⟨hall, hfix⟩ | ⟨hnot, hlt⟩
        · exact Or.inl ⟨⟨rfl, hall⟩, hfix⟩
        · exact Or.inr ⟨fun h => hnot h.2, hlt⟩
      · have hne : py.redact p text ≠ text := by
          intro heq
          rw [heq] at hlt
          exact lt_irrefl _ hlt
        refine Or.inr ⟨fun h => hne h.1, ?_⟩
        rcases ih (py.redact p text) with ⟨-, hfix⟩ | ⟨-, hless⟩
        · rw [hfix]
          exact hlt
        · exact hless.trans hlt
  exact hfold _SECRET_TEXT_PATTERNS (fun _ hp => hp) text

theorem secretMarks_clean (text : String) : secretMarks (collapseSpace (cleanText text)) ≤
    secretMarks text := by
  refine (countP_collapseSpace (by decide) _).trans ?_
  unfold secretMarks cleanText
  rw [String.toList_ofList, List.countP_map]
  refine List.countP_mono_left fun c _ hc => ?_
  simp only [Function.comp] at hc
  split at hc
  · exact absurd hc (by decide)
  · exact hc

theorem secretMarks_take (n : Nat) (text : String) : secretMarks (takeChars n text) ≤
    secretMarks text := by
  unfold secretMarks
  rw [toList_takeChars]
  exact (List.take_sublist n text.toList).countP_le

/-- Collapsed text has no blocked characters left. -/
theorem cleanText_of_mem {t : String} (text : String) (h : ∀ c ∈ t.toList, c ∈ (collapseSpace
    (cleanText text)).toList) : cleanText t = t := by
  unfold cleanText
  conv_rhs => rw [← String.ofList_toList (s := t)]
  refine congrArg String.ofList ((List.map_congr_left fun c hc => ?_).trans (List.map_id _))
  refine if_neg fun hblocked => ?_
  rcases mem_collapseSpace (h c hc) with hclean | rfl
  · unfold cleanText at hclean
    rw [String.toList_ofList] at hclean
    obtain ⟨d, -, hd⟩ := List.mem_map.1 hclean
    split at hd
    · subst hd
      exact absurd hblocked (by decide)
    · subst hd
      contradiction
  · exact absurd hblocked (by decide)

include laws in
/-- The text that stands for no text stays. -/
theorem sanitizeLhpText_dash {limit : Nat} : sanitizeLhpText py (.str "—") limit = "—" := by
  have hfix : redactSecrets py "—" = "—" := by
    rcases redactSecrets_cases laws "—" with ⟨-, hfix⟩ | ⟨-, hlt⟩
    · exact hfix
    · exact absurd hlt (by simp [show secretMarks "—" = 0 from by decide])
  have hrendered : renderedText py (.str "—") = "—" := by
    unfold renderedText
    rw [textOf_str, hfix]
    decide
  rw [sanitizeLhpText_eq, hrendered, if_neg (by decide),
    takeChars_of_length_le (le_trans (by decide) (le_max_left 1 limit))]

/-- A text that was cleaned, collapsed and cut to the limit. -/
structure CutText (limit : Nat) (t : String) : Prop where
  ne_empty : t ≠ ""
  short : t.toList.length ≤ max 1 limit
  clean : cleanText t = t
  /-- collapsed, but for a space that the cut left at the end -/
  collapsed : (t.toList.getLast? ≠ some ' ' ∧ collapseSpace t = t) ∨
    (t.toList.getLast? = some ' ' ∧ t.toList = (collapseSpace t).toList ++ [' '])

theorem cutText_rendered {value : Json} (limit : Nat) (hne : renderedText py value ≠ "") :
    CutText limit (takeChars (max 1 limit) (renderedText py value)) where
  ne_empty := takeChars_nonempty (by omega) hne
  short := length_takeChars_le _ _
  clean := by
    refine cleanText_of_mem (redactSecrets py (textOf py value)) fun c hc => ?_
    rw [toList_takeChars] at hc
    exact List.mem_of_mem_take hc
  collapsed := collapseSpace_take (cleanText (redactSecrets py (textOf py value))) (max 1 limit)

variable (py) in
/-- Sanitizing adds no mark to what redaction leaves. -/
theorem secretMarks_sanitizeLhpText (t : String) (limit : Nat) :
    secretMarks (sanitizeLhpText py (.str t) limit) ≤ secretMarks (redactSecrets py t) := by
  rw [sanitizeLhpText_eq]
  unfold renderedText
  rw [textOf_str]
  refine (secretMarks_take _ _).trans ?_
  split
  · simp [show secretMarks "—" = 0 from by decide]
  · exact secretMarks_clean _

include laws in
/-- Such a text stays exactly when it does not end in a space and no pattern changes it. -/
theorem CutText.sanitize_iff {limit : Nat} {t : String} (h : CutText limit t) :
    sanitizeLhpText py (.str t) limit = t ↔ t.toList.getLast? ≠ some ' ' ∧
      ∀ pattern ∈ _SECRET_TEXT_PATTERNS, py.redact pattern t = t := by
  rcases redactSecrets_cases laws t with ⟨hall, hfix⟩ | ⟨hnot, hlt⟩
  · -- no secret is left: only the collapsing can change the text
    have hrendered : renderedText py (.str t) = collapseSpace t := by
      unfold renderedText
      rw [textOf_str, hfix, h.clean]
    rw [sanitizeLhpText_eq, hrendered]
    have hlength := h.short
    rcases h.collapsed with ⟨hlast, hcollapse⟩ | ⟨hlast, hcollapse⟩
    · refine iff_of_true ?_ ⟨hlast, hall⟩
      rw [hcollapse, if_neg h.ne_empty, takeChars_of_length_le hlength]
    · refine iff_of_false (fun heq => ?_) fun h => h.1 hlast
      split at heq
      · rw [← heq, takeChars_of_length_le (le_trans (by decide) (le_max_left 1 limit))] at hlast
        exact absurd hlast (by decide)
      · have hshort : (collapseSpace t).toList.length ≤ max 1 limit := by
          rw [hcollapse, List.length_append] at hlength
          omega
        rw [takeChars_of_length_le hshort] at heq
        rw [heq] at hcollapse
        exact absurd (List.self_eq_append_right.1 hcollapse) (List.cons_ne_nil _ _)
  · have hmarks := secretMarks_sanitizeLhpText py t limit
    refine iff_of_false (fun heq => ?_) fun h => hnot h.2
    rw [heq] at hmarks
    exact absurd (lt_of_le_of_lt hmarks hlt) (lt_irrefl _)

include laws in
/-- **A text stays exactly when it is settled.** -/
theorem sanitizeLhpText_iff (value : Json) (limit : Nat) :
    sanitizeLhpText py (.str (sanitizeLhpText py value limit)) limit =
      sanitizeLhpText py value limit ↔ TextSettled py value limit := by
  by_cases hempty : renderedText py value = ""
  · rw [sanitizeLhpText_eq py value, if_pos hempty,
      takeChars_of_length_le (s := "—") (le_trans (by decide) (le_max_left 1 limit))]
    refine iff_of_true (sanitizeLhpText_dash laws) ?_
    have hnil : takeChars (max 1 limit) (renderedText py value) = "" := by
      rw [hempty]
      simp [takeChars]
    constructor
    · rw [hnil]
      decide
    · rw [hnil]
      rcases redactSecrets_cases laws "" with ⟨hall, -⟩ | ⟨-, hlt⟩
      · exact hall
      · exact absurd hlt (by simp [show secretMarks "" = 0 from by decide])
  · rw [sanitizeLhpText_eq py value, if_neg hempty,
      (cutText_rendered limit hempty).sanitize_iff laws]
    exact ⟨fun h => ⟨h.1, h.2⟩, fun h => ⟨h.whole, h.harmless⟩⟩

end Text

/-! ## Mappings -/

section Mappings

variable {α β : Type}

theorem dictPut_cons (kv : String × α) (d : List (String × α)) (k : String) (v : α) :
    dictPut (kv :: d) k v = if kv.1 = k then (k, v) :: d else kv :: dictPut d k v := rfl

theorem keys_dictPut (d : List (String × α)) (k : String) (v : α) :
    (dictPut d k v).map Prod.fst =
      if k ∈ d.map Prod.fst then d.map Prod.fst else d.map Prod.fst ++ [k] := by
  induction d with
  | nil => rfl
  | cons kv d ih =>
    rw [dictPut_cons]
    by_cases h : kv.1 = k
    · simp [h]
    · rw [if_neg h, List.map_cons, ih, List.map_cons]
      by_cases hk : k ∈ d.map Prod.fst
      · rw [if_pos hk, if_pos (List.mem_cons_of_mem _ hk)]
      · rw [if_neg hk, if_neg (by simp [Ne.symm h, hk]), List.cons_append]

theorem map_dictPut (f : α → β) (d : List (String × α)) (k : String) (v : α) :
    (dictPut d k v).map (fun kv => (kv.1, f kv.2)) =
      dictPut (d.map fun kv => (kv.1, f kv.2)) k (f v) := by
  induction d with
  | nil => rfl
  | cons kv d ih =>
    rw [List.map_cons, dictPut_cons, dictPut_cons]
    by_cases h : kv.1 = k
    · rw [if_pos h, if_pos h]
      rfl
    · rw [if_neg h, if_neg h, List.map_cons, ih]

/-- A new key comes last. -/
theorem dictPut_of_not_mem {d : List (String × α)} {k : String} (h : k ∉ d.map Prod.fst) (v : α) :
    dictPut d k v = d ++ [(k, v)] := by
  induction d with
  | nil => rfl
  | cons kv d ih =>
    rw [List.map_cons, List.mem_cons, not_or] at h
    rw [dictPut_cons, if_neg (Ne.symm h.1), ih h.2, List.cons_append]

/-- The values of a dict may be mapped before or after it is built. -/
theorem foldl_dictPut_map {γ : Type} (f : γ → String) (g : γ → α) (h : α → β) (items : List γ) :
    items.foldl (fun d c => dictPut d (f c) (h (g c))) [] =
      (items.foldl (fun d c => dictPut d (f c) (g c)) []).map fun kv => (kv.1, h kv.2) := by
  induction items using List.reverseRecOn with
  | nil => rfl
  | append_singleton items c ih =>
    rw [List.foldl_append, List.foldl_append, ih]
    exact (map_dictPut h _ _ _).symm

theorem length_dictPut_le (d : List (String × α)) (k : String) (v : α) :
    (dictPut d k v).length ≤ d.length + 1 := by
  rw [← List.length_map (f := Prod.fst), keys_dictPut]
  split
  · rw [List.length_map]
    exact Nat.le_succ _
  · rw [List.length_append, List.length_map, List.length_singleton]

theorem nodup_dictPut {d : List (String × α)} (h : (d.map Prod.fst).Nodup) (k : String) (v : α) :
    ((dictPut d k v).map Prod.fst).Nodup := by
  rw [keys_dictPut]
  split
  · exact h
  · next hnew =>
    refine List.nodup_append.2 ⟨h, List.nodup_singleton _, fun a ha b hb hab => hnew ?_⟩
    rw [List.mem_singleton] at hb
    rw [← hb, ← hab]
    exact ha

theorem mem_dictPut {d : List (String × α)} {k : String} {v : α} {kv : String × α}
    (h : kv ∈ dictPut d k v) : kv ∈ d ∨ kv = (k, v) := by
  induction d with
  | nil => exact Or.inr (List.mem_singleton.1 h)
  | cons item d ih =>
    rw [dictPut_cons] at h
    split at h
    · rcases List.mem_cons.1 h with hnew | hold
      · exact Or.inr hnew
      · exact Or.inl (List.mem_cons_of_mem _ hold)
    · rcases List.mem_cons.1 h with hitem | hrest
      · exact Or.inl (List.mem_cons.2 (Or.inl hitem))
      · exact (ih hrest).imp (List.mem_cons_of_mem _) id

/-- **A dict that is built item by item.** -/
theorem foldl_dictPut (f : β → String) (g : β → α) (items : List β) :
    ((items.foldl (fun d b => dictPut d (f b) (g b)) []).map Prod.fst).Nodup ∧
      (items.foldl (fun d b => dictPut d (f b) (g b)) []).length ≤ items.length ∧
        ∀ kv ∈ items.foldl (fun d b => dictPut d (f b) (g b)) [], ∃ b ∈ items, kv = (f b, g b) := by
  induction items using List.reverseRecOn with
  | nil => exact ⟨List.nodup_nil, le_refl 0, fun _ h => absurd h List.not_mem_nil⟩
  | append_singleton items b ih =>
    obtain ⟨hnodup, hlen, hmem⟩ := ih
    rw [List.foldl_append, List.foldl_cons, List.foldl_nil]
    refine ⟨nodup_dictPut hnodup _ _, ?_, fun kv hkv => ?_⟩
    · rw [List.length_append, List.length_singleton]
      exact (length_dictPut_le _ _ _).trans (Nat.succ_le_succ hlen)
    · rcases mem_dictPut hkv with hold | rfl
      · obtain ⟨c, hc, hkv⟩ := hmem kv hold
        exact ⟨c, List.mem_append_left _ hc, hkv⟩
      · exact ⟨b, List.mem_append_right _ (List.mem_singleton_self b), rfl⟩

end Mappings

/-- The values that a sanitized mapping keeps, under the keys it keeps them. -/
def keptItems (py : Python) (kvs : JsonDict) : JsonDict :=
  (kvs.take 100).foldl (fun kept kv => dictPut kept (safeKey py kv.1) kv.2) []

/-- Its keys differ, it is short, and its items come from the mapping. -/
theorem keptItems_spec (py : Python) (kvs : JsonDict) : ((keptItems py kvs).map Prod.fst).Nodup ∧
    (keptItems py kvs).length ≤ (kvs.take 100).length ∧
      ∀ kv ∈ keptItems py kvs, ∃ item ∈ kvs.take 100, kv = (safeKey py item.1, item.2) :=
  foldl_dictPut (fun kv : String × Json => safeKey py kv.1) Prod.snd (kvs.take 100)

theorem length_keptItems_le (py : Python) (kvs : JsonDict) : (keptItems py kvs).length ≤ 100 :=
  (keptItems_spec py kvs).2.1.trans (List.length_take_le _ _)

theorem mem_keptItems {py : Python} {kvs : JsonDict} {kv : String × Json}
    (h : kv ∈ keptItems py kvs) : ∃ item ∈ kvs, kv = (safeKey py item.1, item.2) := by
  obtain ⟨item, hitem, hkv⟩ := (keptItems_spec py kvs).2.2 kv h
  exact ⟨item, List.mem_of_mem_take hitem, hkv⟩

/-- The keys of a sanitized mapping. -/
structure KeptKeys (py : Python) (d : JsonDict) : Prop where
  nodup : (d.map Prod.fst).Nodup
  safe : ∀ kv ∈ d, safeKey py kv.1 = kv.1
  short : d.length ≤ 100

section Payload

variable {py : Python} (laws : SanitizerLaws py)

theorem sanitizeLhpPayload_dict (stringLimit depth : Nat) (kvs : JsonDict) :
    sanitizeLhpPayload py stringLimit (depth + 1) (.dict kvs) = .dict ((keptItems py kvs).map
      fun kv => (kv.1, sanitizeLhpPayload py stringLimit depth kv.2)) := by
  rw [sanitizeLhpPayload]
  exact congrArg Json.dict (foldl_dictPut_map (fun kv : String × Json => safeKey py kv.1) Prod.snd
    (sanitizeLhpPayload py stringLimit depth) (kvs.take 100))

theorem sanitizeLhpPayload_list (stringLimit depth : Nat) (xs : List Json) :
    sanitizeLhpPayload py stringLimit (depth + 1) (.list xs) =
      .list ((xs.take 50).map (sanitizeLhpPayload py stringLimit depth)) := by
  rw [sanitizeLhpPayload]

include laws in
theorem keptKeys_keptItems (kvs : JsonDict) : KeptKeys py (keptItems py kvs) where
  nodup := (keptItems_spec py kvs).1
  safe kv hkv := by
    obtain ⟨item, -, rfl⟩ := mem_keptItems hkv
    exact safeKey_idem laws item.1
  short := length_keptItems_le py kvs

/-- A mapping with sanitized keys keeps all its items. -/
theorem KeptKeys.keptItems {d : JsonDict} (h : KeptKeys py d) : keptItems py d = d := by
  have hfold : ∀ items kept : JsonDict, ((kept ++ items).map Prod.fst).Nodup →
      (∀ kv ∈ items, safeKey py kv.1 = kv.1) →
      items.foldl (fun kept kv => dictPut kept (safeKey py kv.1) kv.2) kept = kept ++ items := by
    intro items
    induction items with
    | nil => exact fun kept _ _ => (List.append_nil kept).symm
    | cons kv items ih =>
      intro kept hnodup hsafe
      have hnew : kv.1 ∉ kept.map Prod.fst := by
        intro hmem
        rw [List.map_append, List.nodup_append] at hnodup
        exact hnodup.2.2 _ hmem kv.1 (List.mem_map_of_mem List.mem_cons_self) rfl
      rw [List.foldl_cons, hsafe kv List.mem_cons_self, dictPut_of_not_mem hnew]
      have happend : kept ++ kv :: items = (kept ++ [(kv.1, kv.2)]) ++ items := by simp
      rw [happend] at hnodup ⊢
      exact ih _ hnodup fun x hx => hsafe x (List.mem_cons_of_mem kv hx)
  unfold NocAgent.Cases.keptItems
  rw [List.take_of_length_le h.short]
  exact hfold d [] h.nodup h.safe

theorem KeptKeys.map {d : JsonDict} (h : KeptKeys py d) (f : Json → Json) :
    KeptKeys py (d.map fun kv => (kv.1, f kv.2)) where
  nodup := by
    rw [List.map_map]
    exact h.nodup
  safe kv hkv := by
    obtain ⟨item, hitem, rfl⟩ := List.mem_map.1 hkv
    exact h.safe item hitem
  short := by
    rw [List.length_map]
    exact h.short

include laws in
/-- Sanitizing a sanitized mapping sanitizes each of its values. -/
theorem sanitizeLhpPayload_dict_map (stringLimit depth : Nat) (kvs : JsonDict)
    (f : Json → Json) :
    sanitizeLhpPayload py stringLimit (depth + 1)
      (.dict ((keptItems py kvs).map fun kv => (kv.1, f kv.2))) =
    .dict ((keptItems py kvs).map fun kv =>
      (kv.1, sanitizeLhpPayload py stringLimit depth (f kv.2))) := by
  rw [sanitizeLhpPayload_dict, ((keptKeys_keptItems laws kvs).map f).keptItems, List.map_map]
  rfl

end Payload

/-! ## Payloads -/

/-- Every text that is kept in the payload is settled. -/
def PayloadSettled (py : Python) (stringLimit : Nat) : Nat → Json → Prop
  | 0, value => TextSettled py value stringLimit
  | depth + 1, value =>
    match value with
    | .str s => TextSettled py (.str s) stringLimit
    | .list xs => ∀ x ∈ xs.take 50, PayloadSettled py stringLimit depth x
    | .dict kvs => ∀ kv ∈ keptItems py kvs, PayloadSettled py stringLimit depth kv.2
    | _ => True

/-- Nothing but text is nested as deep as the limit. -/
def Fits (py : Python) : Nat → Json → Prop
  | 0, value => ∃ s, value = .str s
  | depth + 1, value =>
    match value with
    | .list xs => ∀ x ∈ xs.take 50, Fits py depth x
    | .dict kvs => ∀ kv ∈ keptItems py kvs, Fits py depth kv.2
    | _ => True

section Payload

variable {py : Python} (laws : SanitizerLaws py)

include laws in
/-- **A payload stays exactly when its texts are settled.** -/
theorem sanitizeLhpPayload_iff (stringLimit depth : Nat) : ∀ value : Json,
    sanitizeLhpPayload py stringLimit depth (sanitizeLhpPayload py stringLimit depth value) =
      sanitizeLhpPayload py stringLimit depth value ↔ PayloadSettled py stringLimit depth value := by
  induction depth with
  | zero =>
    intro value
    simp only [sanitizeLhpPayload, Json.str.injEq]
    exact sanitizeLhpText_iff laws value stringLimit
  | succ depth ih =>
    intro value
    cases value with
    | str s =>
      simp only [sanitizeLhpPayload, Json.str.injEq]
      exact sanitizeLhpText_iff laws (.str s) stringLimit
    | list xs =>
      rw [sanitizeLhpPayload_list, sanitizeLhpPayload_list, ← List.map_take, List.take_take,
        min_self, List.map_map, Json.list.injEq, List.map_inj_left]
      exact forall₂_congr fun x _ => ih x
    | dict kvs =>
      rw [sanitizeLhpPayload_dict, sanitizeLhpPayload_dict_map laws, Json.dict.injEq,
        List.map_inj_left]
      refine forall₂_congr fun kv _ => ?_
      rw [Prod.mk.injEq, eq_self_iff_true, true_and]
      exact ih kv.2
    | _ => exact iff_of_true rfl trivial

include laws in
/-- With one level less, it also has to fit. -/
theorem sanitizeLhpPayload_less_iff (stringLimit depth : Nat) : ∀ value : Json,
    sanitizeLhpPayload py stringLimit depth (sanitizeLhpPayload py stringLimit (depth + 1) value) =
      sanitizeLhpPayload py stringLimit (depth + 1) value ↔
        PayloadSettled py stringLimit (depth + 1) value ∧ Fits py depth value := by
  induction depth with
  | zero =>
    intro value
    cases value with
    | str s =>
      simp only [sanitizeLhpPayload, Json.str.injEq]
      rw [sanitizeLhpText_iff laws]
      exact (and_iff_left ⟨s, rfl⟩).symm
    | _ =>
      refine iff_of_false (fun heq => ?_) fun h => ?_
      · simp [sanitizeLhpPayload] at heq
      · obtain ⟨-, s, hs⟩ := h
        cases hs
  | succ depth ih =>
    intro value
    cases value with
    | str s =>
      simp only [sanitizeLhpPayload, Json.str.injEq]
      rw [sanitizeLhpText_iff laws]
      exact (and_iff_left trivial).symm
    | list xs =>
      rw [sanitizeLhpPayload_list, sanitizeLhpPayload_list, ← List.map_take, List.take_take,
        min_self, List.map_map, Json.list.injEq, List.map_inj_left]
      exact (forall₂_congr fun x _ => ih x).trans (by simp only [forall_and]; rfl)
    | dict kvs =>
      rw [sanitizeLhpPayload_dict, sanitizeLhpPayload_dict_map laws, Json.dict.injEq,
        List.map_inj_left]
      simp only [Prod.mk.injEq, true_and]
      have hitems : ∀ kv ∈ keptItems py kvs, _ := fun (kv : String × Json) _ => ih kv.2
      exact (forall₂_congr hitems).trans (by simp only [forall_and]; rfl)
    | _ => exact iff_of_true rfl ⟨trivial, trivial⟩

end Payload

end NocAgent.Cases
