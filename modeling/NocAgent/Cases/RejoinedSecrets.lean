import NocAgent.Cases.PayloadBounds
import NocAgent.Lib.Squeeze

/-!
# Secrets that cleaning puts together

* `SECRET_PATTERNS` — what `_SECRET_TEXT_PATTERNS` match.
* `TextHidden` — no secret, nothing blocked, no whitespace next to whitespace, and a length in its
  bounds.
* `NothingLoose` — no part of a redacted text is a secret but for the gaps in it.

Principal result: `sanitizeLhpText_hidden_iff`.
-/

set_option autoImplicit false

namespace NocAgent.Cases

open Patterns

/-! ## The patterns -/

/-- A letter of a pattern under `re.IGNORECASE`. -/
def sameLetter (c d : Char) : Bool :=
  c.toLower == d.toLower || (c.toLower == 's' && d == 'ſ') ||
    (c.toLower == 'k' && d == '\u212a') || (c.toLower == 'i' && (d == 'İ' || d == 'ı'))

/-- A text of a pattern under `re.IGNORECASE`. -/
def caseless (text : String) : Regex Char := .word (text.toList.map sameLetter)

/-- `[A-Z]` or `[A-Za-z]` under `re.IGNORECASE`. -/
def anyLetter (c : Char) : Bool := c.isAlpha || c == 'ſ' || c == '\u212a' || c == 'İ' || c == 'ı'

/-- `\s` -/
def whitespace : Regex Char := .letter isSpace

/-- `[^\s]` and `[^\s,;]` -/
def nonSpaceBut (others : List Char) : Regex Char :=
  .letter fun c => !isSpace c && !others.contains c

/-- `-----BEGIN [A-Z0-9 ]*PRIVATE KEY-----` -/
def privateKeyPattern : Pattern Char where
  bounded := false
  body := .seq (caseless "-----BEGIN ")
    (.seq (.star (.letter fun c => anyLetter c || c.isDigit || c == ' '))
      (caseless "PRIVATE KEY-----"))

/-- `\bBearer\s+[A-Za-z0-9._~+/=-]+` -/
def bearerPattern : Pattern Char where
  bounded := true
  body := .seq (caseless "Bearer") (.seq (.plus whitespace)
    (.plus (.letter fun c => anyLetter c || c.isDigit || "._~+/=-".toList.contains c)))

/-- `\bAuthorization\s*:\s*[^\s]+(?:\s+[^\s]+)?` -/
def authorizationPattern : Pattern Char where
  bounded := true
  body := .seq (caseless "Authorization") (.seq (.star whitespace) (.seq (caseless ":")
    (.seq (.star whitespace) (.seq (.plus (nonSpaceBut []))
      (.opt (.seq (.plus whitespace) (.plus (nonSpaceBut []))))))))

/-- `\b(password|passwd|secret|token|credential)\s*[:=]\s*[^\s,;]+` -/
def assignmentPattern : Pattern Char where
  bounded := true
  body := .seq (.alt (caseless "password") (.alt (caseless "passwd") (.alt (caseless "secret")
      (.alt (caseless "token") (caseless "credential")))))
    (.seq (.star whitespace) (.seq (.letter fun c => c == ':' || c == '=')
      (.seq (.star whitespace) (.plus (nonSpaceBut [',', ';'])))))

/-- `_SECRET_TEXT_PATTERNS`, compiled. -/
def SECRET_PATTERNS : List (Pattern Char) :=
  [privateKeyPattern, bearerPattern, authorizationPattern, assignmentPattern]

/-- `\w` -/
def wordChar (py : Python) (c : Char) : Bool := py.isAlnum c || c == '_'

/-- Whitespace, and what is cleaned away. -/
def gapChar (c : Char) : Bool := isSpace c || decide (c ∈ _BLOCKED_TEXT_CHARS ∨ c.toNat < 32)

/-- `pattern.sub("[redacted]", text)` -/
def redactPattern (py : Python) (pattern : Pattern Char) (text : String) : String :=
  String.ofList (pattern.sub (wordChar py) "[redacted]".toList text.toList)

/-- The text behind the redaction pass. -/
def redactAll (py : Python) (text : String) : String :=
  SECRET_PATTERNS.foldl (fun text pattern => redactPattern py pattern text) text

/-- `str.isalnum`, and the compiled patterns of `re`. -/
structure PatternLaws (py : Python) : Prop where
  ascii : ∀ c : Char, c.toNat < 128 → py.isAlnum c = c.isAlphanum
  solid : ∀ c : Char, py.isAlnum c = true → isSpace c = false
  sub : ∀ compiled ∈ _SECRET_TEXT_PATTERNS.zip SECRET_PATTERNS, ∀ text : String,
    py.redact compiled.1 text = redactPattern py compiled.2 text

/-! ## What the text is said to be -/

/-- A text that may be shown.  A limit below one counts as one. -/
structure TextHidden (py : Python) (limit : Int) (text : String) : Prop where
  hidden : ∀ pattern ∈ SECRET_PATTERNS, ¬ pattern.Found (wordChar py) text.toList
  bounded : BoundedText (max 1 limit.toNat) text
  apart : text.toList.IsChain fun a b => ¬ (isSpace a = true ∧ isSpace b = true)

/-- Where a part of the text is a secret but for the gaps in it, any run of them for a space of the
pattern, it reaches beyond what is kept of the text. -/
def NothingLoose (py : Python) (limit : Int) (text : String) : Prop :=
  ∀ pattern ∈ SECRET_PATTERNS, ∀ before secret after,
    text.toList = before ++ secret ++ after →
      (pattern.loosen gapChar ' ').MatchAt (wordChar py) before secret after →
        max 1 limit.toNat < (squeeze gapChar ' ' (before ++ secret)).length

/-! ## Cleaning is squeezing -/

theorem gapChar_space : gapChar ' ' = true := by decide

theorem tight_patterns : ∀ pattern ∈ SECRET_PATTERNS, pattern.Tight ' ' := by
  intro pattern hpattern
  have hall : (SECRET_PATTERNS.all fun p => !p.body.nullable && !p.body.starts ' ' &&
      !p.body.ends ' ' && p.body.tight ' ') = true := by decide
  have hone := List.all_eq_true.1 hall pattern hpattern
  simp only [Bool.and_eq_true, Bool.not_eq_true'] at hone
  exact ⟨hone.1.1.1, hone.1.1.2, hone.1.2, hone.2⟩

theorem not_wordChar {py : Python} (laws : PatternLaws py) {c : Char} (hc : gapChar c = true) :
    wordChar py c = false := by
  unfold gapChar at hc
  rw [Bool.or_eq_true, decide_eq_true_eq] at hc
  have hascii : c ∈ _BLOCKED_TEXT_CHARS ∨ c.toNat < 32 → wordChar py c = false := by
    have hall : ∀ n < 128, (Char.ofNat n ∈ _BLOCKED_TEXT_CHARS ∨ n < 32) →
        ((Char.ofNat n).isAlphanum || Char.ofNat n == '_') = false := by decide +kernel
    have hblocked : (_BLOCKED_TEXT_CHARS.all fun c => c.toNat < 128) = true := by decide
    intro h
    have hlt : c.toNat < 128 := h.elim
      (fun h => of_decide_eq_true (List.all_eq_true.1 hblocked c h)) fun h => h.trans (by decide)
    have hnone := hall c.toNat hlt
    rw [Char.ofNat_toNat] at hnone
    unfold wordChar
    rw [laws.ascii c hlt]
    exact hnone h
  rcases hc with hspace | hother
  · have hunder : c ≠ '_' := by
      rintro rfl
      revert hspace
      decide
    have halnum : py.isAlnum c = false := by
      by_contra h
      rw [laws.solid c (eq_true_of_ne_false h)] at hspace
      cases hspace
    unfold wordChar
    rw [halnum]
    simpa using hunder
  · exact hascii hother

/-- What one character is cleaned to. -/
def cleanChar (c : Char) : Char := if c ∈ _BLOCKED_TEXT_CHARS ∨ c.toNat < 32 then ' ' else c

theorem isSpace_cleanChar (c : Char) : isSpace (cleanChar c) = gapChar c := by
  unfold cleanChar gapChar
  split
  · simp [*, show isSpace ' ' = true from rfl]
  · simp [*]

theorem cleanChar_of_solid {c : Char} (hc : gapChar c = false) : cleanChar c = c := by
  unfold gapChar at hc
  rw [Bool.or_eq_false_iff, decide_eq_false_iff_not] at hc
  exact if_neg hc.2

/-- **Cleaning and collapsing a text squeezes its gaps.** -/
theorem toList_renderedText (py : Python) (value : Json) : (renderedText py value).toList =
    squeeze gapChar ' ' (redactSecrets py (textOf py value)).toList := by
  unfold renderedText cleanText
  rw [toList_collapseSpace_squeeze, String.toList_ofList]
  exact squeezeFrom_map isSpace_cleanChar (fun c => cleanChar_of_solid) _ _

/-- **The redaction pass is the substitution of the patterns.** -/
theorem redactSecrets_eq {py : Python} (laws : PatternLaws py) (text : String) :
    redactSecrets py text = redactAll py text := by
  have hfold : ∀ compiled : List (String × Pattern Char),
      (∀ one ∈ compiled, one ∈ _SECRET_TEXT_PATTERNS.zip SECRET_PATTERNS) → ∀ text : String,
        (compiled.map Prod.fst).foldl (fun text p => py.redact p text) text =
          (compiled.map Prod.snd).foldl (fun text p => redactPattern py p text) text := by
    intro compiled
    induction compiled with
    | nil => exact fun _ _ => rfl
    | cons one compiled ih =>
      intro hall text
      rw [List.map_cons, List.map_cons, List.foldl_cons, List.foldl_cons,
        laws.sub one (hall one List.mem_cons_self)]
      exact ih (fun x hx => hall x (List.mem_cons_of_mem one hx)) _
  exact hfold (_SECRET_TEXT_PATTERNS.zip SECRET_PATTERNS) (fun _ h => h) text

/-- A text in which no pattern is found is left alone. -/
theorem redactAll_of_not_found {py : Python} {text : String}
    (h : ∀ pattern ∈ SECRET_PATTERNS, ¬ pattern.Found (wordChar py) text.toList) :
    redactAll py text = text := by
  have hfold : ∀ patterns : List (Pattern Char), (∀ p ∈ patterns, p ∈ SECRET_PATTERNS) →
      patterns.foldl (fun text pattern => redactPattern py pattern text) text = text := by
    intro patterns
    induction patterns with
    | nil => exact fun _ => rfl
    | cons p patterns ih =>
      intro hall
      rw [List.foldl_cons, redactPattern,
        Pattern.sub_of_not_found (h p (hall p List.mem_cons_self)), String.ofList_toList]
      exact ih fun q hq => hall q (List.mem_cons_of_mem p hq)
  exact hfold SECRET_PATTERNS fun _ hp => hp

/-! ## When no secret is shown -/

section Hidden

variable {py : Python} (laws : PatternLaws py)

/-- The text that stands for no text is none of the secrets. -/
theorem not_found_dash : ∀ pattern ∈ SECRET_PATTERNS,
    ¬ pattern.Found (wordChar py) "—".toList := by
  rintro pattern hpattern ⟨before, w, after, hsplit, -, hw⟩
  have hall : (SECRET_PATTERNS.all fun p => (p.body.endsOf "—".toList).all fun rest =>
      !rest.isEmpty) = true := by decide
  have hnot := List.all_eq_true.1 hall pattern hpattern
  obtain ⟨⟨c, v, rfl, -⟩, -⟩ := (tight_patterns pattern hpattern).framed hw
  have hwhole : c :: v = "—".toList := by
    have hone : "—".toList = ['—'] := by decide
    rw [hone] at hsplit ⊢
    have hmem : ∀ x ∈ before ++ c :: v ++ after, x = '—' := by
      rw [← hsplit]
      simp
    have hlength := congrArg List.length hsplit
    simp only [List.length_append, List.length_cons, List.length_nil] at hlength
    have hv : v = [] := List.eq_nil_of_length_eq_zero (by omega)
    rw [hv, hmem c (by simp)]
  have hend := (Regex.mem_endsOf_iff pattern.body "—".toList []).2 ⟨c :: v, hw, by simp [hwhole]⟩
  exact absurd (List.all_eq_true.1 hnot [] hend) (by decide)

theorem sanitizeLhpText_limit (value : Json) (limit : Nat) :
    sanitizeLhpText py value limit = sanitizeLhpText py value (max 1 limit) := by
  rw [sanitizeLhpText_eq, sanitizeLhpText_eq, max_eq_right (le_max_left 1 limit)]

theorem sanitizeLhpText_apart (value : Json) (limit : Nat) :
    (sanitizeLhpText py value limit).toList.IsChain
      fun a b => ¬ (isSpace a = true ∧ isSpace b = true) := by
  rw [sanitizeLhpText_eq, toList_takeChars]
  refine List.IsChain.take ?_ _
  split
  · decide
  · rw [toList_renderedText]
    refine (isChain_squeeze _).imp fun a b hab hspaces => hab ?_
    unfold gapChar
    rw [hspaces.1, hspaces.2]
    exact ⟨rfl, rfl⟩

include laws in
/-- A pattern is in the sanitized text exactly when it is, but for gaps, in a part of the redacted
text that fits the limit. -/
theorem found_sanitizeLhpText_iff {pattern : Pattern Char} (hpattern : pattern ∈ SECRET_PATTERNS)
    (value : Json) (limit : Nat) :
    pattern.Found (wordChar py) (sanitizeLhpText py value limit).toList ↔
      ∃ before secret after, (redactAll py (textOf py value)).toList = before ++ secret ++ after ∧
        (pattern.loosen gapChar ' ').MatchAt (wordChar py) before secret after ∧
          (squeeze gapChar ' ' (before ++ secret)).length ≤ max 1 limit := by
  rw [← Pattern.found_take_squeeze_iff gapChar_space (fun c => not_wordChar laws)
    (tight_patterns pattern hpattern), ← redactSecrets_eq laws, ← toList_renderedText,
    sanitizeLhpText_eq, toList_takeChars]
  by_cases hempty : renderedText py value = ""
  · rw [if_pos hempty, hempty, List.take_of_length_le (l := "—".toList) (by simp)]
    refine iff_of_false (not_found_dash pattern hpattern) ?_
    rintro ⟨before, w, after, hsplit, -, hw⟩
    obtain ⟨⟨c, v, rfl, -⟩, -⟩ := (tight_patterns pattern hpattern).framed hw
    have hlength := congrArg List.length hsplit
    simp at hlength
  · rw [if_neg hempty]

include laws in
/-- **What may be shown is shown exactly when nothing that is kept of the redacted text is a secret
but for its gaps.** -/
theorem sanitizeLhpText_hidden_iff (value : Json) (limit : Int) :
    TextHidden py limit (sanitizeLhpText py value limit.toNat) ↔
      NothingLoose py limit (redactAll py (textOf py value)) := by
  constructor
  · intro h pattern hpattern before secret after hsplit hmatch
    by_contra hfits
    exact h.hidden pattern hpattern ((found_sanitizeLhpText_iff laws hpattern value limit.toNat).2
      ⟨before, secret, after, hsplit, hmatch, not_lt.1 hfits⟩)
  · intro h
    refine ⟨fun pattern hpattern hfound => ?_, ?_, sanitizeLhpText_apart value limit.toNat⟩
    · obtain ⟨before, secret, after, hsplit, hmatch, hfits⟩ :=
        (found_sanitizeLhpText_iff laws hpattern value limit.toNat).1 hfound
      exact absurd (h pattern hpattern before secret after hsplit hmatch) (not_lt.2 hfits)
    · rw [sanitizeLhpText_limit]
      exact sanitizeLhpText_bounded (le_max_left 1 _) value

end Hidden

/-! ## Credentials that are put together -/

/-- A Python whose `re` knows the four patterns. -/
def regexPython : Python :=
  { asciiPython with
    redact := fun pattern text => ((_SECRET_TEXT_PATTERNS.zip SECRET_PATTERNS).lookup pattern).elim
      text fun compiled => redactPattern asciiPython compiled text }

theorem patternLaws_regex : PatternLaws regexPython where
  ascii _ _ := rfl
  solid c hc := by
    have hall : ∀ n < 128, (Char.ofNat n).isAlphanum = true → isSpace (Char.ofNat n) = false := by
      decide
    have hone := hall c.toNat (toNat_lt_of_isAlphanum hc)
    rw [Char.ofNat_toNat] at hone
    exact hone hc
  sub compiled hcompiled text := by
    have hlookup : ∀ one ∈ _SECRET_TEXT_PATTERNS.zip SECRET_PATTERNS,
        (_SECRET_TEXT_PATTERNS.zip SECRET_PATTERNS).lookup one.1 = some one.2 := by
      refine List.forall_mem_cons.2 ⟨rfl, List.forall_mem_cons.2 ⟨rfl, List.forall_mem_cons.2 ⟨rfl,
        List.forall_mem_cons.2 ⟨rfl, fun _ h => absurd h List.not_mem_nil⟩⟩⟩⟩
    change ((_SECRET_TEXT_PATTERNS.zip SECRET_PATTERNS).lookup compiled.1).elim _ _ = _
    rw [hlookup compiled hcompiled]
    rfl

theorem sanitizeLhpText_hidden_disk :
    TextHidden regexPython 2000
      (sanitizeLhpText regexPython (.str "disk: 93%") (2000 : Int).toNat) := by
  refine (sanitizeLhpText_hidden_iff patternLaws_regex _ _).2 ?_
  have hnone : ∀ pattern ∈ SECRET_PATTERNS,
      ¬ (pattern.loosen gapChar ' ').Found (wordChar regexPython) "disk: 93%".toList := by
    decide +kernel
  have hunseen : ∀ pattern ∈ SECRET_PATTERNS,
      ¬ pattern.Found (wordChar regexPython) "disk: 93%".toList := by
    decide +kernel
  intro pattern hpattern before secret after hsplit hmatch
  rw [textOf_str, redactAll_of_not_found hunseen] at hsplit
  exact absurd ⟨before, secret, after, hsplit, hmatch⟩ (hnone pattern hpattern)

/-- The patterns see nothing in these texts, and one of them is in what is shown. -/
theorem credential_rejoined :
    (∀ text ∈ ["Bearer <abc>", "secret\x01=abc"], ∀ pattern ∈ SECRET_PATTERNS,
      ¬ pattern.Found (wordChar regexPython) text.toList) ∧
    sanitizeLhpText regexPython (.str "Bearer <abc>") 2000 = "Bearer abc" ∧
    sanitizeLhpText regexPython (.str "secret\x01=abc") 2000 = "secret =abc" ∧
    ¬ TextHidden regexPython 2000 "Bearer abc" ∧ ¬ TextHidden regexPython 2000 "secret =abc" := by
  have hunseen : ∀ text ∈ ["Bearer <abc>", "secret\x01=abc"], ∀ pattern ∈ SECRET_PATTERNS,
      ¬ pattern.Found (wordChar regexPython) text.toList := by
    decide +kernel
  have hshown : bearerPattern.Found (wordChar regexPython) "Bearer abc".toList ∧
      assignmentPattern.Found (wordChar regexPython) "secret =abc".toList := by
    decide +kernel
  refine ⟨hunseen, ?_, ?_, fun h => h.hidden bearerPattern (by simp [SECRET_PATTERNS]) hshown.1,
    fun h => h.hidden assignmentPattern (by simp [SECRET_PATTERNS]) hshown.2⟩
  · rw [sanitizeLhpText_eq, renderedText, textOf_str, redactSecrets_eq patternLaws_regex,
      redactAll_of_not_found (hunseen _ (by simp))]
    decide
  · rw [sanitizeLhpText_eq, renderedText, textOf_str, redactSecrets_eq patternLaws_regex,
      redactAll_of_not_found (hunseen _ (by simp))]
    decide

end NocAgent.Cases
