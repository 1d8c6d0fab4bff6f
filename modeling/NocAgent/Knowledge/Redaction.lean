import NocAgent.Cases.Store
import NocAgent.Lib.Chains
import NocAgent.Lib.Occurrence
import NocAgent.Lib.Traced
import Mathlib.Logic.Relation

/-!
# Redacting a lesson

* `RedactLoop.next` — one turn of the loops of `_redact`: the marker is searched for in the
  lower-case text and cut out of the text at the same index.
* `Redacts` — the loops come to an end, with what `_redact` returns.
* `BuildsEvent` — `build_lesson_candidate_event`, with what it writes around the redacted texts.
* `RedactLoop.Safe` — the cut reaches the marker that was found; and at the end no escape of the
  JSON text completes a marker.  `redactionComplete_iff` — this is asked of every turn.
* `Redactable` — few letters that `lower` doubles stand in front of a marker of the text, and no
  escape completes one.
* `redactionComplete_redactable` — for such texts redaction is complete; and where it is, the first
  cut is safe.
-/

set_option autoImplicit false

namespace NocAgent.Knowledge

open Cases Chains Occurrence

def FORBIDDEN_TEXT_MARKERS : List String :=
  ["secret_value", "authorization:", "bearer ", "packet_capture", "raw_log", "credential"]

/-! ## `_redact` -/

/-- The text so far, and the markers that are still searched for. -/
structure RedactLoop where
  redacted : String
  markers : List String

/-- `redacted[:idx] + "[redacted]" + redacted[idx + len(marker) :]`. -/
def cutMarker (redacted marker : String) (idx : Nat) : String :=
  String.ofList (redacted.toList.take idx ++ "[redacted]".toList ++
    redacted.toList.drop (idx + marker.toList.length))

section Loop

variable (py : Python)

/-- The index of the marker in the lower-case text. -/
def RedactLoop.index (s : RedactLoop) (marker : String) : Option Nat :=
  firstAt marker.toList (py.lower s.redacted).toList

def RedactLoop.next (s : RedactLoop) : Option RedactLoop :=
  match s.markers with
  | [] => none
  | marker :: rest =>
    match s.index py marker with
    | some idx => some { s with redacted := cutMarker s.redacted marker idx }
    | none => some { s with markers := rest }

/-- `redacted.strip() or "sanitized NOC learning candidate"`. -/
def RedactLoop.finished (s : RedactLoop) : String :=
  Cases.orText (strip s.redacted) "sanitized NOC learning candidate"

/-- The loops of `_redact` before their first turn. -/
def redactStart (value : String) : RedactLoop := ⟨value, FORBIDDEN_TEXT_MARKERS⟩

/-- `_redact(value)` returns `result`. -/
def Redacts (value result : String) : Prop :=
  ∃ s, Ends (RedactLoop.next py) (redactStart value) s ∧ result = s.finished

/-- The loops come to `t` from `s`. -/
def Turns (s t : RedactLoop) : Prop :=
  Relation.ReflTransGen (fun s t => s.next py = some t) s t

/-- A marker is in the lower-case form of the text. -/
def HasMarker (text : String) : Prop :=
  ∃ marker ∈ FORBIDDEN_TEXT_MARKERS, hasText marker (py.lower text) = true

instance (text : String) : Decidable (HasMarker py text) := by unfold HasMarker; infer_instance

end Loop

/-! ## The event -/

/-- The last four hexadecimal digits of a number. -/
def hex4 (n : Nat) : List Char :=
  [n / 4096, n / 256, n / 16, n].map fun d => Nat.digitChar (d % 16)

/-- A code unit of UTF-16 in the text of `json.dumps`. -/
def unicodeEscape (n : Nat) : List Char := '\\' :: 'u' :: hex4 n

/-- A character in the text of `json.dumps`, which is ASCII. -/
def jsonEscape (c : Char) : List Char :=
  if c = '"' then ['\\', '"']
  else if c = '\\' then ['\\', '\\']
  else if c = '\n' then ['\\', 'n']
  else if c = '\r' then ['\\', 'r']
  else if c = '\t' then ['\\', 't']
  else if c = '\x0c' then ['\\', 'f']
  else if c = '\x08' then ['\\', 'b']
  else if 32 ≤ c.toNat ∧ c.toNat ≤ 126 then [c]
  else if c.toNat < 0x10000 then unicodeEscape c.toNat
  else
    let n := c.toNat - 0x10000
    unicodeEscape (0xd800 + n / 0x400) ++ unicodeEscape (0xdc00 + n % 0x400)

/-- `json.dumps(text)`. -/
def jsonLiteral (text : String) : List Char :=
  '"' :: (text.toList.flatMap jsonEscape ++ ['"'])

/-- A case as `_case_summary` and `_default_lesson` read it; of a meta case also the reason it was
resolved for, and its blast radius. -/
inductive LessonCase where
  | atomic (case : AtomicCaseProjection)
  | storm (case : MetaCaseProjection) (resolutionReason blastRadiusSummary : String)

/-- `_case_summary`. -/
def caseSummary : LessonCase → String
  | .atomic case => Cases.orText case.title case.caseId ++ ": " ++
      Cases.orText (Cases.orText case.summary case.resolutionReason) "case outcome"
  | .storm case resolutionReason _ => Cases.orText case.title case.caseId ++ ": " ++
      Cases.orText (Cases.orText case.summary resolutionReason) "case outcome"

/-- The text that `_default_lesson` redacts. -/
def defaultLesson : LessonCase → String
  | .atomic case => "Review case " ++ case.caseId ++
      " for reusable runbook or suppression guidance: " ++ Cases.orText case.summary case.title
  | .storm case _ blastRadiusSummary => "Review meta-case " ++ case.caseId ++
      " for reusable storm-correlation guidance: " ++ Cases.orText blastRadiusSummary case.summary

/-- The lessons before they are redacted. -/
def lessonTexts (case : LessonCase) (lessons : List String) : List String :=
  if lessons = [] then [defaultLesson case] else lessons

/-- What `json.dumps(event, sort_keys=True)` writes before the first lesson, and between the last
one and the summary, which is the last field. -/
structure EventFrame where
  before : String
  between : String

/-- `json.dumps(event, sort_keys=True)`. -/
def EventFrame.rendered (frame : EventFrame) (lessons : List String) (summary : String) : String :=
  String.ofList (frame.before.toList ++ [',', ' '].intercalate (lessons.map jsonLiteral) ++
    frame.between.toList ++ jsonLiteral summary ++ ['\x7d'])

section Event

variable (py : Python)

/-- Nothing else in the event has a marker. -/
def EventFrame.Clean (frame : EventFrame) : Prop :=
  ¬ HasMarker py frame.before ∧ ¬ HasMarker py frame.between

/-- `_assert_no_forbidden_text`. -/
def assertNoForbiddenText (rendered : String) : Except PyExc Unit :=
  if HasMarker py rendered then .error .valueError else .ok ()

/-- `build_lesson_candidate_event` returns an event with these lessons and this summary. -/
def BuildsEvent (frame : EventFrame) (case : LessonCase) (lessons : List String)
    (redactedLessons : List String) (summary : String) : Prop :=
  Redacts py (caseSummary case) summary ∧
    List.Forall₂ (Redacts py) (lessonTexts case lessons) redactedLessons ∧
    assertNoForbiddenText py (frame.rendered redactedLessons summary) = .ok ()

/-- **Every text is redacted to one that has no marker, and the event is built unless something
else in it has a marker.** -/
structure RedactionComplete (case : LessonCase) (lessons : List String) : Prop where
  redacts : ∀ value ∈ caseSummary case :: lessonTexts case lessons,
    ∃ result, Redacts py value result ∧ result ≠ "" ∧ ¬ HasMarker py result
  builds : ∀ frame : EventFrame, frame.Clean py →
    ∃ redactedLessons summary, BuildsEvent py frame case lessons redactedLessons summary

end Event

/-! ## Safe turns -/

/-- The JSON escape of a character ends in the beginning of the marker, and the text goes on with
the rest of it. -/
def EscapeCompletes (marker text : String) : Prop :=
  ∃ before c after tail rest, text.toList = before ++ c :: after ∧ jsonEscape c ≠ [c] ∧
    tail ≠ [] ∧ tail <:+ jsonEscape c ∧ marker.toList = tail ++ rest ∧
    rest <+: after.map Char.toLower

/-- Where a marker was found, the text that is kept in front of the cut has fewer of the letters
that `lower` doubles than the marker has characters.  At the end, no escape completes a marker. -/
def RedactLoop.Safe (py : Python) (s : RedactLoop) : Prop :=
  match s.markers with
  | [] => ∀ marker ∈ FORBIDDEN_TEXT_MARKERS, ¬ EscapeCompletes marker s.finished
  | marker :: _ => ∀ idx, s.index py marker = some idx →
    (s.redacted.toList.take idx).count 'İ' < marker.toList.length

/-- Wherever the marker stands in the lower-case text, the text in front of it has fewer of the letters
that `lower` doubles than the marker has characters. -/
def FewDotted (py : Python) (marker text : String) : Prop :=
  ∀ before after, text.toList = before ++ after →
    marker.toList <+: (py.lower (String.ofList after)).toList →
      before.count 'İ' < marker.toList.length

/-- What is asked of a text.  Where nothing is cut, only what `strip` leaves is written. -/
def Redactable (py : Python) (text : String) : Prop :=
  ∀ marker ∈ FORBIDDEN_TEXT_MARKERS, FewDotted py marker text ∧
    ¬ EscapeCompletes marker (if HasMarker py text then text else strip text)

/-- The text is safe up to its first cut. -/
def FirstCutSafe (py : Python) (text : String) : Prop :=
  ∀ done rest, FORBIDDEN_TEXT_MARKERS = done ++ rest →
    (∀ marker ∈ done, hasText marker (py.lower text) = false) →
      (⟨text, rest⟩ : RedactLoop).Safe py

/-! ## Lower case -/

/-- The final sigma as any other. -/
def foldSigma (c : Char) : Char := if c = 'ς' then 'σ' else c

/-- What `lower` writes for a character. -/
def lowerImage (lowerOf : Char → Char) (c : Char) : List Char :=
  if c = 'İ' then ['i', '\u0307'] else [lowerOf c]

/-- `str.lower` goes letter by letter, but for the form of a sigma at the end of a word; one letter
becomes two, and ASCII stays ASCII. -/
structure LowersBy (py : Python) (lowerOf : Char → Char) : Prop where
  text : ∀ s : String,
    (py.lower s).toList.map foldSigma = s.toList.flatMap (lowerImage lowerOf)
  ascii : ∀ c : Char, c.toNat < 128 → lowerOf c = c.toLower

/-- The lower-case form of a text, with one sigma. -/
def lowerChars (lowerOf : Char → Char) (xs : List Char) : List Char :=
  xs.flatMap (lowerImage lowerOf)

/-- A character that markers are made of. -/
def plainChar (c : Char) : Bool := c.isLower || c == '_' || c == ':' || c == ' '

theorem plainChars {marker : String} (h : marker ∈ FORBIDDEN_TEXT_MARKERS) :
    ∀ c ∈ marker.toList, plainChar c = true := by
  have hall : (FORBIDDEN_TEXT_MARKERS.all fun marker => marker.toList.all plainChar) = true := by
    decide
  exact List.all_eq_true.1 (List.all_eq_true.1 hall marker h)

theorem not_mem_marker {marker : String} (h : marker ∈ FORBIDDEN_TEXT_MARKERS) {c : Char}
    (hc : plainChar c = false) : c ∉ marker.toList := by
  intro hmem
  rw [plainChars h c hmem] at hc
  cases hc

theorem marker_ne_nil {marker : String} (h : marker ∈ FORBIDDEN_TEXT_MARKERS) :
    marker.toList ≠ [] := by
  revert marker
  decide

theorem length_marker {marker : String} (h : marker ∈ FORBIDDEN_TEXT_MARKERS) :
    7 ≤ marker.toList.length := by
  revert marker
  decide

theorem not_infix_redacted {marker : String} (h : marker ∈ FORBIDDEN_TEXT_MARKERS) :
    ¬ marker.toList <:+: "redacted".toList := by
  revert marker
  decide

section Lower

variable {py : Python} {lowerOf : Char → Char} {marker : String}

theorem lowerChars_append (xs ys : List Char) :
    lowerChars lowerOf (xs ++ ys) = lowerChars lowerOf xs ++ lowerChars lowerOf ys :=
  List.flatMap_append

/-- Every `İ` makes the text longer by one. -/
theorem length_lowerChars : ∀ xs : List Char,
    (lowerChars lowerOf xs).length = xs.length + xs.count 'İ'
  | [] => rfl
  | x :: xs => by
    have ih := length_lowerChars xs
    unfold lowerChars at ih ⊢
    rw [List.flatMap_cons, List.length_append, ih, List.count_cons, List.length_cons]
    unfold lowerImage
    by_cases hx : x = 'İ'
    · simp [hx]
      omega
    · simp [hx]
      omega

/-- What is kept of a text is kept of its lower-case form. -/
theorem infix_lowerChars {xs ys : List Char} (h : xs <:+: ys) :
    lowerChars lowerOf xs <:+: lowerChars lowerOf ys := by
  obtain ⟨before, after, rfl⟩ := h
  rw [lowerChars_append, lowerChars_append]
  exact ⟨_, _, rfl⟩

/-- Markers are longer than what is written between the texts. -/
theorem not_infix_short (hm : marker ∈ FORBIDDEN_TEXT_MARKERS) {xs : List Char}
    (hshort : xs.length ≤ 2) : ¬ marker.toList <:+: lowerChars lowerOf xs := by
  intro h
  have hlong := length_marker hm
  have hle := h.length_le
  have hcount := List.count_le_length (a := 'İ') (l := xs)
  rw [length_lowerChars] at hle
  omega

theorem foldSigma_eq_iff (hm : marker ∈ FORBIDDEN_TEXT_MARKERS) :
    ∀ c ∈ marker.toList, ∀ x, foldSigma x = c ↔ x = c := by
  intro c hc x
  have hsigma : c ≠ 'σ' := fun h => not_mem_marker hm (by decide) (h ▸ hc)
  have hfinal : c ≠ 'ς' := fun h => not_mem_marker hm (by decide) (h ▸ hc)
  unfold foldSigma
  split
  · rename_i hx
    subst hx
    exact iff_of_false hsigma.symm hfinal.symm
  · exact Iff.rfl

variable (hlower : LowersBy py lowerOf)

include hlower

theorem firstAt_lower (hm : marker ∈ FORBIDDEN_TEXT_MARKERS) (text : String) :
    firstAt marker.toList (py.lower text).toList =
      firstAt marker.toList (lowerChars lowerOf text.toList) := by
  rw [← firstAt_map (foldSigma_eq_iff hm), hlower.text]
  rfl

/-- A text has a marker when its lower-case form does. -/
theorem hasMarker_iff (text : String) : HasMarker py text ↔
    ∃ marker ∈ FORBIDDEN_TEXT_MARKERS, marker.toList <:+: lowerChars lowerOf text.toList := by
  refine exists_congr fun marker => and_congr_right fun hm => ?_
  unfold hasText
  rw [decide_eq_true_eq, ← not_iff_not, ← firstAt_eq_none_iff, ← firstAt_eq_none_iff,
    firstAt_lower hlower hm]

omit hlower in
theorem ascii_of_all {xs : List Char} (h : (xs.all fun c => c.toNat < 128) = true) :
    ∀ c ∈ xs, c.toNat < 128 :=
  fun c hc => of_decide_eq_true (List.all_eq_true.1 h c hc)

/-- ASCII is put in lower case letter by letter. -/
theorem lowerChars_ascii {xs : List Char} (h : ∀ c ∈ xs, c.toNat < 128) :
    lowerChars lowerOf xs = xs.map Char.toLower := by
  induction xs with
  | nil => rfl
  | cons x xs ih =>
    have hx := h x List.mem_cons_self
    have hdot : x ≠ 'İ' := by
      rintro rfl
      revert hx
      decide
    have himage : lowerImage lowerOf x = [x.toLower] := by
      rw [lowerImage, if_neg hdot, hlower.ascii x hx]
    unfold lowerChars at ih ⊢
    rw [List.flatMap_cons, himage, ih fun c hc => h c (List.mem_cons_of_mem _ hc)]
    rfl

/-- The lower-case form of a text with a cut. -/
theorem lowerChars_cutMarker (text : String) (idx : Nat) :
    lowerChars lowerOf (cutMarker text marker idx).toList =
      lowerChars lowerOf (text.toList.take idx) ++ '[' :: ("redacted".toList ++ ']' ::
        lowerChars lowerOf (text.toList.drop (idx + marker.toList.length))) := by
  have hword : lowerChars lowerOf "[redacted]".toList = "[redacted]".toList :=
    (lowerChars_ascii hlower (ascii_of_all (by decide))).trans (by decide)
  unfold cutMarker
  rw [String.toList_ofList, lowerChars_append, lowerChars_append, hword]
  simp

/-- **A cut makes no marker.** -/
theorem infix_of_cutMarker {other : String} (hother : other ∈ FORBIDDEN_TEXT_MARKERS)
    {text : String} {idx : Nat}
    (h : other.toList <:+: lowerChars lowerOf (cutMarker text marker idx).toList) :
    other.toList <:+: lowerChars lowerOf text.toList := by
  rw [lowerChars_cutMarker hlower, infix_cut (not_mem_marker hother (by decide)),
    infix_cut (not_mem_marker hother (by decide))] at h
  rcases h with h | h | h
  · exact h.trans (infix_lowerChars (List.take_prefix _ _).isInfix)
  · exact absurd h (not_infix_redacted hother)
  · exact h.trans (infix_lowerChars (List.drop_suffix _ _).isInfix)

end Lower

/-! ## One turn -/

section Turn

variable {py : Python} {lowerOf : Char → Char} (hlower : LowersBy py lowerOf) {marker : String}
  (hm : marker ∈ FORBIDDEN_TEXT_MARKERS) {text : String} {idx : Nat}
  (hidx : firstAt marker.toList (lowerChars lowerOf text.toList) = some idx)

include hidx

/-- The marker that was found ends within the lower-case text. -/
theorem marker_within :
    idx + marker.toList.length ≤ text.toList.length + text.toList.count 'İ' := by
  obtain ⟨hle, hpre, -⟩ := firstAt_eq_some_iff.1 hidx
  have hwithin := add_length_le_of_prefix_drop hle hpre
  rwa [length_lowerChars] at hwithin

/-- Few doubled letters in front of the cut: it lies within the text. -/
theorem idx_lt_of_few (hfew : (text.toList.take idx).count 'İ' < marker.toList.length) :
    idx < text.toList.length := by
  by_contra hge
  have hwithin := marker_within hidx
  rw [List.take_of_length_le (not_lt.1 hge)] at hfew
  omega

/-- Few doubled letters in front of the cut: no marker is left in front of it. -/
theorem not_infix_take (hfew : (text.toList.take idx).count 'İ' < marker.toList.length) :
    ¬ marker.toList <:+: lowerChars lowerOf (text.toList.take idx) := by
  intro hoccurs
  obtain ⟨j, hj, hpre⟩ := infix_iff_prefix_drop.1 hoccurs
  have hwithin := add_length_le_of_prefix_drop hj hpre
  rw [length_lowerChars, List.length_take] at hwithin
  have hsplit : lowerChars lowerOf text.toList = lowerChars lowerOf (text.toList.take idx) ++
      lowerChars lowerOf (text.toList.drop idx) := by
    rw [← lowerChars_append, List.take_append_drop]
  obtain ⟨-, -, hbefore⟩ := firstAt_eq_some_iff.1 hidx
  refine hbefore j (by omega) ?_
  rw [hsplit, List.drop_append_of_le_length hj]
  exact hpre.trans (List.prefix_append _ _)

include hlower

include hm in
/-- **A safe turn leaves less of the text behind the marker that is found next.** -/
theorem remaining_lt (hfew : (text.toList.take idx).count 'İ' < marker.toList.length) {next : Nat}
    (hnext : firstAt marker.toList (lowerChars lowerOf (cutMarker text marker idx).toList) =
      some next) :
    (cutMarker text marker idx).toList.length - next < text.toList.length - idx := by
  have hlt := idx_lt_of_few hidx hfew
  have hpos := List.length_pos_iff.2 (marker_ne_nil hm)
  obtain ⟨-, hpre, -⟩ := firstAt_eq_some_iff.1 hnext
  rw [lowerChars_cutMarker hlower] at hpre
  -- the next one starts neither before the cut nor within the word put in
  have hbehind : idx + 10 ≤ next := by
    rcases prefix_drop_cut (not_mem_marker hm (by decide)) hpre with hbefore | ⟨hpast, hpre⟩
    · exact absurd (hbefore.isInfix.trans (List.drop_suffix _ _).isInfix)
        (not_infix_take hidx hfew)
    · rw [length_lowerChars, List.length_take] at hpast hpre
      rcases prefix_drop_cut (not_mem_marker hm (by decide)) hpre with hword | ⟨hword, -⟩
      · exact absurd (hword.isInfix.trans (List.drop_suffix _ _).isInfix) (not_infix_redacted hm)
      · have hredacted : "redacted".toList.length = 8 := by decide
        omega
  have hlength : (cutMarker text marker idx).toList.length =
      idx + 10 + (text.toList.length - (idx + marker.toList.length)) := by
    unfold cutMarker
    rw [String.toList_ofList, List.length_append, List.length_append, List.length_take,
      List.length_drop, min_eq_left hlt.le]
    rfl
  omega

/-- **A turn that is not safe finds the same marker again, and is not safe again.** -/
theorem stuck_turn (hmany : marker.toList.length ≤ (text.toList.take idx).count 'İ') :
    firstAt marker.toList (lowerChars lowerOf (cutMarker text marker idx).toList) = some idx ∧
      marker.toList.length ≤ ((cutMarker text marker idx).toList.take idx).count 'İ' := by
  have hwithin := marker_within hidx
  have hreach : idx + marker.toList.length ≤
      (lowerChars lowerOf (text.toList.take idx)).length := by
    rw [length_lowerChars]
    rcases le_total text.toList.length idx with hshort | hlong
    · rw [List.take_of_length_le hshort]
      exact hwithin
    · rw [List.length_take, min_eq_left hlong]
      omega
  constructor
  · have hsplit : lowerChars lowerOf text.toList = lowerChars lowerOf (text.toList.take idx) ++
        lowerChars lowerOf (text.toList.drop idx) := by
      rw [← lowerChars_append, List.take_append_drop]
    rw [hsplit] at hidx
    rw [lowerChars_cutMarker hlower]
    exact firstAt_of_append hidx hreach _
  · unfold cutMarker
    rw [String.toList_ofList, List.append_assoc, List.take_append, List.count_append,
      List.take_take, min_self]
    omega

end Turn

/-! ## All turns -/

section Loops

variable {py : Python} {lowerOf : Char → Char} {s t : RedactLoop}

/-- The markers that are searched for are forbidden ones, and the others are gone. -/
structure RedactLoop.Gone (lowerOf : Char → Char) (s : RedactLoop) : Prop where
  left : ∀ marker ∈ s.markers, marker ∈ FORBIDDEN_TEXT_MARKERS
  gone : ∀ marker ∈ FORBIDDEN_TEXT_MARKERS, marker ∉ s.markers →
    ¬ marker.toList <:+: lowerChars lowerOf s.redacted.toList

theorem gone_start (value : String) : (redactStart value).Gone lowerOf :=
  ⟨fun _ hm => hm, fun _ hm hnot => absurd hm hnot⟩

variable (hlower : LowersBy py lowerOf)

include hlower

theorem index_eq {marker : String} (hm : marker ∈ FORBIDDEN_TEXT_MARKERS) (s : RedactLoop) :
    s.index py marker = firstAt marker.toList (lowerChars lowerOf s.redacted.toList) :=
  firstAt_lower hlower hm s.redacted

/-- A turn cuts the first marker, or is done with it. -/
theorem next_cases (hs : s.Gone lowerOf) (hnext : s.next py = some t) :
    ∃ marker rest, s.markers = marker :: rest ∧ marker ∈ FORBIDDEN_TEXT_MARKERS ∧
      ((∃ idx, firstAt marker.toList (lowerChars lowerOf s.redacted.toList) = some idx ∧
          t = ⟨cutMarker s.redacted marker idx, s.markers⟩) ∨
        firstAt marker.toList (lowerChars lowerOf s.redacted.toList) = none ∧
          t = ⟨s.redacted, rest⟩) := by
  obtain ⟨redacted, markers⟩ := s
  cases markers with
  | nil => cases hnext
  | cons marker rest =>
    have hm := hs.left marker List.mem_cons_self
    refine ⟨marker, rest, rfl, hm, ?_⟩
    rw [← index_eq hlower hm ⟨redacted, marker :: rest⟩]
    unfold RedactLoop.next at hnext
    cases hindex : RedactLoop.index py ⟨redacted, marker :: rest⟩ marker with
    | some idx =>
      simp only [hindex, Option.some.injEq] at hnext
      exact Or.inl ⟨idx, rfl, hnext.symm⟩
    | none =>
      simp only [hindex, Option.some.injEq] at hnext
      exact Or.inr ⟨rfl, hnext.symm⟩

/-- **A turn brings no marker back.** -/
theorem RedactLoop.Gone.next (hs : s.Gone lowerOf) (hnext : s.next py = some t) :
    t.Gone lowerOf := by
  obtain ⟨marker, rest, hmarkers, hm, ⟨idx, -, rfl⟩ | ⟨hnone, rfl⟩⟩ := next_cases hlower hs hnext
  · exact ⟨hs.left, fun other hother hnot hoccurs =>
      hs.gone other hother hnot (infix_of_cutMarker hlower hother hoccurs)⟩
  · refine ⟨fun other hother => hs.left other ?_, fun other hother hnot => ?_⟩
    · rw [hmarkers]
      exact List.mem_cons_of_mem _ hother
    · by_cases hself : other = marker
      · rw [hself]
        exact firstAt_eq_none_iff.1 hnone
      · refine hs.gone other hother ?_
        rw [hmarkers, List.mem_cons]
        exact not_or.2 ⟨hself, hnot⟩

theorem RedactLoop.Gone.turns (hs : s.Gone lowerOf) (h : Turns py s t) : t.Gone lowerOf := by
  induction h with
  | refl => exact hs
  | tail _ hnext ih => exact ih.next hlower hnext

/-- How much of a text is behind the first marker. -/
def behindMarker (lowerOf : Char → Char) (marker text : String) : Nat :=
  (firstAt marker.toList (lowerChars lowerOf text.toList)).elim 0 fun idx =>
    text.toList.length - idx

/-- **Loops whose turns are all safe come to an end.** -/
theorem ends_of_safe (hs : s.Gone lowerOf)
    (hsafe : ∀ t, Turns py s t → t.markers ≠ [] → t.Safe py) :
    ∃ r, Ends (RedactLoop.next py) s r := by
  obtain ⟨redacted, markers⟩ := s
  -- over the markers, and for one of them over what is behind it
  induction markers generalizing redacted with
  | nil => exact ⟨_, .here rfl⟩
  | cons marker rest ih =>
    have hm := hs.left marker List.mem_cons_self
    induction hbehind : behindMarker lowerOf marker redacted using Nat.strong_induction_on
      generalizing redacted with
    | _ behind ihBehind =>
      have hstep : ∀ t, RedactLoop.next py ⟨redacted, marker :: rest⟩ = some t →
          t.Gone lowerOf ∧ ∀ u, Turns py t u → u.markers ≠ [] → u.Safe py := fun t hnext =>
        ⟨hs.next hlower hnext, fun u hu => hsafe u (.head hnext hu)⟩
      have hindex := index_eq hlower hm ⟨redacted, marker :: rest⟩
      cases hfirst : firstAt marker.toList (lowerChars lowerOf redacted.toList) with
      | none =>
        have hnext : RedactLoop.next py ⟨redacted, marker :: rest⟩ = some ⟨redacted, rest⟩ := by
          unfold RedactLoop.next
          simp only [hindex, hfirst]
        obtain ⟨hgone, hrest⟩ := hstep _ hnext
        obtain ⟨r, hr⟩ := ih redacted hgone hrest
        exact ⟨r, .step hnext hr⟩
      | some idx =>
        have hnext : RedactLoop.next py ⟨redacted, marker :: rest⟩ =
            some ⟨cutMarker redacted marker idx, marker :: rest⟩ := by
          unfold RedactLoop.next
          simp only [hindex, hfirst]
        have hfew := hsafe _ .refl (List.cons_ne_nil _ _) idx (hindex.trans hfirst)
        obtain ⟨hgone, hrest⟩ := hstep _ hnext
        have hlt := idx_lt_of_few hfirst hfew
        have hless : behindMarker lowerOf marker (cutMarker redacted marker idx) < behind := by
          rw [← hbehind]
          unfold behindMarker
          rw [hfirst]
          cases hagain : firstAt marker.toList
              (lowerChars lowerOf (cutMarker redacted marker idx).toList) with
          | none => exact Nat.sub_pos_of_lt hlt
          | some again => exact remaining_lt hlower hm hfirst hfew hagain
        obtain ⟨r, hr⟩ := ihBehind _ hless _ hgone hrest rfl
        exact ⟨r, .step hnext hr⟩

/-- **Loops with a turn that is not safe never come to an end.** -/
theorem not_ends_of_stuck {marker : String} (hm : marker ∈ FORBIDDEN_TEXT_MARKERS) {idx : Nat}
    {rest : List String} (hmarkers : s.markers = marker :: rest)
    (hidx : firstAt marker.toList (lowerChars lowerOf s.redacted.toList) = some idx)
    (hmany : marker.toList.length ≤ (s.redacted.toList.take idx).count 'İ') (r : RedactLoop) :
    ¬ Ends (RedactLoop.next py) s r := by
  let stuck : RedactLoop → Prop := fun u => u.markers = marker :: rest ∧
    firstAt marker.toList (lowerChars lowerOf u.redacted.toList) = some idx ∧
    marker.toList.length ≤ (u.redacted.toList.take idx).count 'İ'
  refine not_ends_of_closed (S := stuck) ?_ ⟨hmarkers, hidx, hmany⟩
  rintro ⟨redacted, markers⟩ ⟨rfl, hidx, hmany⟩
  refine ⟨⟨cutMarker redacted marker idx, marker :: rest⟩, ?_, rfl, stuck_turn hlower hidx hmany⟩
  have hindex := index_eq hlower hm ⟨redacted, marker :: rest⟩
  unfold RedactLoop.next
  simp only [hindex, hidx]

omit hlower in
theorem ends_of_turns {r : RedactLoop} (h : Ends (RedactLoop.next py) s r) (ht : Turns py s t) :
    Ends (RedactLoop.next py) t r := by
  induction ht with
  | refl => exact h
  | tail _ hnext ih => exact ih.tail hnext

omit hlower in
theorem turns_of_ends {r : RedactLoop} (h : Ends (RedactLoop.next py) s r) : Turns py s r := by
  induction h with
  | here => exact .refl
  | step hnext _ ih => exact .head hnext ih

omit hlower in
theorem markers_of_end {r : RedactLoop} (h : Ends (RedactLoop.next py) s r) : r.markers = [] := by
  have hend := h.isEnd
  obtain ⟨redacted, markers⟩ := r
  cases markers with
  | nil => rfl
  | cons marker rest =>
    unfold RedactLoop.next at hend
    cases hindex : RedactLoop.index py ⟨redacted, marker :: rest⟩ marker with
    | some idx => simp only [hindex, reduceCtorEq] at hend
    | none => simp only [hindex, reduceCtorEq] at hend

omit hlower in
theorem infix_strip (text : String) : (strip text).toList <:+: text.toList := by
  unfold strip
  rw [String.toList_ofList]
  exact (List.rdropWhile_prefix _ _).isInfix.trans (List.dropWhile_suffix _).isInfix

/-- **Where the loops come to an end, the text has no marker and says something.** -/
theorem finished_clean {r : RedactLoop} (hr : r.Gone lowerOf) (hmarkers : r.markers = []) :
    r.finished ≠ "" ∧ ¬ HasMarker py r.finished := by
  unfold RedactLoop.finished Cases.orText
  split
  · refine ⟨by decide, fun hmarker => ?_⟩
    obtain ⟨marker, hm, hoccurs⟩ := (hasMarker_iff hlower _).1 hmarker
    rw [lowerChars_ascii hlower (ascii_of_all (by decide))] at hoccurs
    revert marker
    decide
  · refine ⟨by assumption, fun hmarker => ?_⟩
    obtain ⟨marker, hm, hoccurs⟩ := (hasMarker_iff hlower _).1 hmarker
    exact hr.gone marker hm (by rw [hmarkers]; exact List.not_mem_nil)
      (hoccurs.trans (infix_lowerChars (infix_strip r.redacted)))

end Loops

/-! ## JSON escapes -/

/-- A character of an escape. -/
def escapeChar (c : Char) : Bool := "\\\"nrtfbu0123456789abcdef".toList.contains c

theorem escapeChar_digit (d : Nat) : escapeChar (Nat.digitChar (d % 16)) = true := by
  have hall : ∀ d < 16, escapeChar (Nat.digitChar d) = true := by decide
  exact hall _ (Nat.mod_lt _ (by decide))

theorem escapeChar_unicodeEscape (n : Nat) : (unicodeEscape n).all escapeChar = true := by
  have hstart : escapeChar '\\' = true ∧ escapeChar 'u' = true := by decide
  simp only [unicodeEscape, hex4, List.map_cons, List.map_nil, List.all_cons, List.all_nil, hstart,
    escapeChar_digit, Bool.and_self]

/-- A character stands for itself, or its escape starts with a backslash. -/
theorem jsonEscape_cases (c : Char) : (jsonEscape c = [c] ∧ 32 ≤ c.toNat ∧ c.toNat ≤ 126) ∨
    ∃ rest, jsonEscape c = '\\' :: rest ∧ (jsonEscape c).all escapeChar = true := by
  unfold jsonEscape
  iterate 7 split; · exact Or.inr ⟨_, rfl, by decide⟩
  split
  · rename_i hprintable
    exact Or.inl ⟨rfl, hprintable⟩
  · split
    · exact Or.inr ⟨_, rfl, escapeChar_unicodeEscape _⟩
    · refine Or.inr ⟨_, rfl, ?_⟩
      rw [List.all_append, escapeChar_unicodeEscape, escapeChar_unicodeEscape, Bool.and_self]

/-- What `lower` makes of the escape of a character. -/
def escapeLower (c : Char) : List Char := (jsonEscape c).map Char.toLower

theorem ascii_jsonEscape (c : Char) : ∀ x ∈ jsonEscape c, x.toNat < 128 := by
  intro x hx
  rcases jsonEscape_cases c with ⟨hself, -, hle⟩ | ⟨rest, -, hall⟩
  · rw [hself, List.mem_singleton] at hx
    rw [hx]
    omega
  · have hascii : ("\\\"nrtfbu0123456789abcdef".toList.all fun c => c.toNat < 128) = true := by
      decide
    have hchar := List.all_eq_true.1 hall x hx
    simpa using List.all_eq_true.1 hascii x (List.contains_iff_mem.1 hchar)

/-- An escape is in lower case. -/
theorem escapeLower_of_escape {c : Char} (h : (jsonEscape c).all escapeChar = true) :
    escapeLower c = jsonEscape c := by
  have hlower : ("\\\"nrtfbu0123456789abcdef".toList.all fun c => c.toLower == c) = true := by
    decide
  unfold escapeLower
  refine (List.map_congr_left fun x hx => ?_).trans (List.map_id _)
  have hchar := List.all_eq_true.1 h x hx
  simpa using List.all_eq_true.1 hlower x (List.contains_iff_mem.1 hchar)

theorem plainChar_range {c : Char} (h : plainChar c = true) : 32 ≤ c.toNat ∧ c.toNat ≤ 126 := by
  unfold plainChar at h
  simp only [Bool.or_eq_true, beq_iff_eq] at h
  rcases h with ((hlower | rfl) | rfl) | rfl
  · obtain ⟨hge, hle⟩ := isLower_iff.1 hlower
    omega
  all_goals decide

theorem printable_of_plain {c : Char} (h : plainChar c.toLower = true) :
    32 ≤ c.toNat ∧ c.toNat ≤ 126 := by
  unfold Char.toLower at h
  split at h
  · rename_i hupper
    simp only [ge_iff_le, UInt32.le_iff_toNat_le] at hupper
    obtain ⟨hge, hle⟩ := hupper
    change 65 ≤ c.toNat at hge
    change c.toNat ≤ 90 at hle
    omega
  · exact plainChar_range h

/-- A character whose lower-case form is in a marker stands for itself. -/
theorem jsonEscape_of_plain {c : Char} (h : plainChar c.toLower = true) : jsonEscape c = [c] := by
  have hne : ∀ d : Char, plainChar d.toLower = false → c ≠ d := by
    rintro d hd rfl
    rw [h] at hd
    cases hd
  unfold jsonEscape
  rw [if_neg (hne _ (by decide)), if_neg (hne _ (by decide)), if_neg (hne _ (by decide)),
    if_neg (hne _ (by decide)), if_neg (hne _ (by decide)), if_neg (hne _ (by decide)),
    if_neg (hne _ (by decide)), if_pos (printable_of_plain h)]

/-- **A word of plain characters starts a text in JSON as it starts its lower-case form.** -/
theorem prefix_escapes_iff : ∀ {word xs : List Char}, (∀ c ∈ word, plainChar c = true) →
    (word <+: xs.flatMap escapeLower ↔ word <+: xs.map Char.toLower)
  | [], _, _ => iff_of_true List.nil_prefix List.nil_prefix
  | c :: word, [], _ => Iff.rfl
  | c :: word, x :: xs, hplain => by
    have ih : word <+: xs.flatMap escapeLower ↔ word <+: xs.map Char.toLower :=
      prefix_escapes_iff fun d hd => hplain d (List.mem_cons_of_mem _ hd)
    have hc := hplain c List.mem_cons_self
    rw [List.flatMap_cons, List.map_cons, List.cons_prefix_cons]
    rcases jsonEscape_cases x with ⟨hself, -, -⟩ | ⟨rest, hescape, hall⟩
    · have himage : escapeLower x = [x.toLower] := by rw [escapeLower, hself, List.map_singleton]
      rw [himage, List.singleton_append, List.cons_prefix_cons, ih]
    · rw [escapeLower_of_escape hall, hescape, List.cons_append, List.cons_prefix_cons]
      refine iff_of_false (fun h => ?_) fun h => ?_
      · rw [h.1] at hc
        revert hc
        decide
      · have hself := jsonEscape_of_plain (h.1 ▸ hc)
        rw [hself] at hescape
        obtain ⟨rfl, -⟩ := List.cons.inj hescape
        rw [h.1] at hc
        revert hc
        decide

/-- Every marker has a character that is in no escape. -/
theorem exists_not_escapeChar {marker : String} (hm : marker ∈ FORBIDDEN_TEXT_MARKERS) :
    ∃ c ∈ marker.toList, escapeChar c = false := by
  have hall : (FORBIDDEN_TEXT_MARKERS.all fun marker =>
      marker.toList.any fun c => !escapeChar c) = true := by decide
  obtain ⟨c, hc, hnot⟩ := List.any_eq_true.1 (List.all_eq_true.1 hall marker hm)
  exact ⟨c, hc, by simpa using hnot⟩

section Literals

variable {py : Python} {lowerOf : Char → Char} (hlower : LowersBy py lowerOf) {marker : String}
  (hm : marker ∈ FORBIDDEN_TEXT_MARKERS)

include hlower

theorem lowerChars_jsonEscape (xs : List Char) :
    lowerChars lowerOf (xs.flatMap jsonEscape) = xs.flatMap escapeLower := by
  unfold lowerChars
  rw [List.flatMap_assoc]
  exact congrArg (xs.flatMap ·) (funext fun c => lowerChars_ascii hlower (ascii_jsonEscape c))

/-- The lower-case form of a literal. -/
theorem lowerChars_jsonLiteral (text : String) : lowerChars lowerOf (jsonLiteral text) =
    '"' :: (text.toList.flatMap escapeLower ++ ['"']) := by
  have hquote : lowerChars lowerOf ['"'] = ['"'] :=
    (lowerChars_ascii hlower (ascii_of_all (by decide))).trans (by decide)
  have hsplit : jsonLiteral text = ['"'] ++ (text.toList.flatMap jsonEscape ++ ['"']) := rfl
  rw [hsplit, lowerChars_append, lowerChars_append, hquote, lowerChars_jsonEscape hlower]
  rfl

include hm

/-- A marker in ASCII is a marker in the lower-case form. -/
theorem infix_lowerChars_of_map {xs : List Char} (h : marker.toList <:+: xs.map Char.toLower) :
    marker.toList <:+: lowerChars lowerOf xs := by
  obtain ⟨before, after, hsplit⟩ := h
  obtain ⟨front, back, rfl, hfront, -⟩ := List.map_eq_append_iff.1 hsplit.symm
  obtain ⟨left, word, rfl, -, hword⟩ := List.map_eq_append_iff.1 hfront
  have hascii : ∀ c ∈ word, c.toNat < 128 := by
    intro c hc
    have hplain := plainChars hm c.toLower (hword ▸ List.mem_map_of_mem hc)
    have hrange := printable_of_plain hplain
    omega
  have himage : lowerChars lowerOf word = marker.toList :=
    (lowerChars_ascii hlower hascii).trans hword
  rw [lowerChars_append, lowerChars_append, himage]
  exact ⟨_, _, rfl⟩

/-- **A text without the marker has it in its JSON form exactly when an escape completes it.** -/
theorem infix_escapes_iff {text : String}
    (hclean : ¬ marker.toList <:+: lowerChars lowerOf text.toList) :
    marker.toList <:+: text.toList.flatMap escapeLower ↔ EscapeCompletes marker text := by
  have hplain := plainChars hm
  constructor
  · intro h
    obtain ⟨before, c, after, tail, htext, htail, hsuffix, hpre⟩ :=
      infix_flatMap (marker_ne_nil hm) h
    rcases jsonEscape_cases c with ⟨hself, -, -⟩ | ⟨rest, hescape, hall⟩
    · -- the occurrence starts at a character that stands for itself: it is in the text
      have himage : escapeLower c = [c.toLower] := by rw [escapeLower, hself, List.map_singleton]
      have hwhole : tail = [c.toLower] := by
        rw [himage] at hsuffix
        rcases List.suffix_cons_iff.1 hsuffix with hwhole | hnil
        · exact hwhole
        · exact absurd (List.suffix_nil.1 hnil) htail
      have hfront : tail ++ after.flatMap escapeLower = (c :: after).flatMap escapeLower := by
        rw [List.flatMap_cons, himage, hwhole]
      rw [hfront, prefix_escapes_iff hplain] at hpre
      refine absurd (infix_lowerChars_of_map hlower hm ?_) hclean
      rw [htext, List.map_append]
      exact hpre.isInfix.trans (List.suffix_append _ _).isInfix
    · rw [escapeLower_of_escape hall] at hsuffix
      rcases List.prefix_or_prefix_of_prefix hpre (List.prefix_append tail _) with
        hin | ⟨later, hlater⟩
      · -- no escape has all the characters of a marker
        obtain ⟨x, hx, hnot⟩ := exists_not_escapeChar hm
        have hchar := List.all_eq_true.1 hall x (hsuffix.subset (hin.subset hx))
        rw [hchar] at hnot
        cases hnot
      · refine ⟨before, c, after, tail, later, htext, fun hself => ?_, htail, hsuffix,
          hlater.symm, ?_⟩
        · rw [hself] at hescape
          obtain ⟨rfl, rfl⟩ := List.cons.inj hescape
          have hback : jsonEscape '\\' ≠ ['\\'] := by decide
          exact hback hself
        · rw [← hlater, List.prefix_append_right_inj] at hpre
          refine (prefix_escapes_iff fun x hx => hplain x ?_).1 hpre
          rw [← hlater]
          exact List.mem_append_right _ hx
  · rintro ⟨before, c, after, tail, rest, htext, hescape, -, hsuffix, hmarker, hrest⟩
    have hall : (jsonEscape c).all escapeChar = true := by
      rcases jsonEscape_cases c with ⟨hself, -, -⟩ | ⟨-, -, hall⟩
      · exact absurd hself hescape
      · exact hall
    have hlater : rest <+: after.flatMap escapeLower := by
      refine (prefix_escapes_iff fun x hx => hplain x ?_).2 hrest
      rw [hmarker]
      exact List.mem_append_right _ hx
    obtain ⟨front, hfront⟩ := hsuffix
    obtain ⟨back, hback⟩ := hlater
    rw [htext, List.flatMap_append, List.flatMap_cons, escapeLower_of_escape hall, ← hfront,
      ← hback, hmarker]
    exact ⟨before.flatMap escapeLower ++ front, back, by simp⟩

/-- A marker in an array of literals, with what is written around it. -/
theorem infix_literals_iff (behind : List Char) : ∀ (texts : List String) (front : List Char),
    texts ≠ [] → (marker.toList <:+: lowerChars lowerOf
      (front ++ [',', ' '].intercalate (texts.map jsonLiteral) ++ behind) ↔
        marker.toList <:+: lowerChars lowerOf front ∨
        (∃ text ∈ texts, marker.toList <:+: text.toList.flatMap escapeLower) ∨
        marker.toList <:+: lowerChars lowerOf behind)
  | [], _, hne => absurd rfl hne
  | [text], front, _ => by
    have hquote : '"' ∉ marker.toList := not_mem_marker hm (by decide)
    rw [List.map_singleton, List.intercalate_singleton, lowerChars_append, lowerChars_append,
      lowerChars_jsonLiteral hlower, List.append_assoc, List.cons_append, infix_cut hquote,
      List.append_assoc, List.singleton_append, infix_cut hquote]
    simp
  | text :: next :: texts, front, _ => by
    have hquote : '"' ∉ marker.toList := not_mem_marker hm (by decide)
    have ih := infix_literals_iff behind (next :: texts) [',', ' '] (List.cons_ne_nil _ _)
    have hsplit : front ++ [',', ' '].intercalate ((text :: next :: texts).map jsonLiteral) ++
        behind = front ++ (jsonLiteral text ++ ([',', ' '] ++
          [',', ' '].intercalate ((next :: texts).map jsonLiteral) ++ behind)) := by
      rw [List.map_cons, List.intercalate_cons_of_ne_nil (by simp)]
      simp
    have hcomma : ¬ marker.toList <:+: lowerChars lowerOf [',', ' '] :=
      not_infix_short hm (by decide)
    rw [hsplit, lowerChars_append, lowerChars_append, lowerChars_jsonLiteral hlower,
      List.cons_append, infix_cut hquote, List.append_assoc, List.singleton_append,
      infix_cut hquote, ih]
    simp [hcomma, or_assoc]

omit hm in
/-- **An event that is clean but for its texts has a marker exactly when an escape completes
one.** -/
theorem hasMarker_rendered_iff {frame : EventFrame} (hframe : frame.Clean py)
    {lessons : List String} (hlessons : lessons ≠ []) {summary : String}
    (hclean : ∀ text ∈ summary :: lessons, ¬ HasMarker py text) :
    HasMarker py (frame.rendered lessons summary) ↔
      ∃ marker ∈ FORBIDDEN_TEXT_MARKERS, ∃ text ∈ summary :: lessons,
        EscapeCompletes marker text := by
  rw [hasMarker_iff hlower]
  refine exists_congr fun marker => and_congr_right fun hm => ?_
  have hquote : '"' ∉ marker.toList := not_mem_marker hm (by decide)
  have hnone : ∀ text, ¬ HasMarker py text → ¬ marker.toList <:+: lowerChars lowerOf text.toList :=
    fun text hno hoccurs => hno ((hasMarker_iff hlower text).2 ⟨marker, hm, hoccurs⟩)
  have hbrace : ¬ marker.toList <:+: lowerChars lowerOf ['\x7d'] := not_infix_short hm (by decide)
  have hescapes : ∀ text ∈ summary :: lessons,
      (marker.toList <:+: text.toList.flatMap escapeLower ↔ EscapeCompletes marker text) :=
    fun text htext => infix_escapes_iff hlower hm (hnone text (hclean text htext))
  have hbehind : marker.toList <:+: lowerChars lowerOf
      (frame.between.toList ++ (jsonLiteral summary ++ ['\x7d'])) ↔
        marker.toList <:+: summary.toList.flatMap escapeLower := by
    rw [lowerChars_append, lowerChars_append, lowerChars_jsonLiteral hlower, List.cons_append,
      infix_cut hquote, List.append_assoc, List.singleton_append, infix_cut hquote]
    simp [hnone _ hframe.2, hbrace]
  unfold EventFrame.rendered
  rw [String.toList_ofList, List.append_assoc, List.append_assoc,
    infix_literals_iff hlower hm _ lessons _ hlessons, hbehind,
    hescapes summary List.mem_cons_self]
  simp only [hnone _ hframe.1, false_or, List.mem_cons, exists_eq_or_imp]
  rw [or_comm]
  refine or_congr_right (exists_congr fun text => and_congr_right fun htext => ?_)
  exact hescapes text (List.mem_cons_of_mem _ htext)

end Literals

/-! ## Whether redaction is complete -/

section Complete

variable {py : Python} {lowerOf : Char → Char} (hlower : LowersBy py lowerOf)

theorem redacts_unique {value r r' : String} (h : Redacts py value r) (h' : Redacts py value r') :
    r = r' := by
  obtain ⟨s, hs, rfl⟩ := h
  obtain ⟨t, ht, rfl⟩ := h'
  rw [hs.unique ht]

/-- Every text has its image. -/
theorem exists_forall₂ {R : String → String → Prop} : ∀ {xs : List String},
    (∀ x ∈ xs, ∃ y, R x y) → ∃ ys, List.Forall₂ R xs ys
  | [], _ => ⟨[], .nil⟩
  | x :: xs, h => by
    obtain ⟨y, hy⟩ := h x List.mem_cons_self
    obtain ⟨ys, hys⟩ := exists_forall₂ fun z hz => h z (List.mem_cons_of_mem _ hz)
    exact ⟨y :: ys, .cons hy hys⟩

variable {case : LessonCase} {lessons redacted : List String} {summary : String}

/-- A text of the event is one that was redacted. -/
theorem redacts_of_mem (hsummary : Redacts py (caseSummary case) summary)
    (hall : List.Forall₂ (Redacts py) (lessonTexts case lessons) redacted) {text : String}
    (htext : text ∈ summary :: redacted) :
    ∃ value ∈ caseSummary case :: lessonTexts case lessons, Redacts py value text := by
  rcases List.mem_cons.1 htext with rfl | hlesson
  · exact ⟨_, List.mem_cons_self, hsummary⟩
  · obtain ⟨value, hvalue, hredacts⟩ := Effects.forall₂_exists_right
      (List.Forall₂.flip hall) hlesson
    exact ⟨value, List.mem_cons_of_mem _ hvalue, hredacts⟩

/-- What a text is redacted to is in the event. -/
theorem mem_of_redacts (hsummary : Redacts py (caseSummary case) summary)
    (hall : List.Forall₂ (Redacts py) (lessonTexts case lessons) redacted) {value result : String}
    (hresult : Redacts py value result)
    (hvalue : value ∈ caseSummary case :: lessonTexts case lessons) :
    result ∈ summary :: redacted := by
  rcases List.mem_cons.1 hvalue with rfl | hlesson
  · rw [redacts_unique hresult hsummary]
    exact List.mem_cons_self
  · obtain ⟨text, htext, hredacts⟩ := Effects.forall₂_exists_right hall hlesson
    rw [redacts_unique hresult hredacts]
    exact List.mem_cons_of_mem _ htext

theorem clean_of_complete (h : ∀ value ∈ caseSummary case :: lessonTexts case lessons,
      ∃ result, Redacts py value result ∧ result ≠ "" ∧ ¬ HasMarker py result)
    (hsummary : Redacts py (caseSummary case) summary)
    (hall : List.Forall₂ (Redacts py) (lessonTexts case lessons) redacted) :
    ∀ text ∈ summary :: redacted, ¬ HasMarker py text := by
  intro text htext
  obtain ⟨value, hvalue, hredacts⟩ := redacts_of_mem hsummary hall htext
  obtain ⟨result, hresult, -, hclean⟩ := h value hvalue
  rwa [redacts_unique hredacts hresult]

theorem assertNoForbiddenText_ok {rendered : String} :
    assertNoForbiddenText py rendered = .ok () ↔ ¬ HasMarker py rendered := by
  unfold assertNoForbiddenText
  split
  · exact iff_of_false (by simp) (not_not.2 ‹_›)
  · exact iff_of_true rfl ‹_›

include hlower

/-- **One text: its loops come to an end exactly when they cut where they find.** -/
theorem redacts_iff (value : String) :
    (∃ result, Redacts py value result ∧ result ≠ "" ∧ ¬ HasMarker py result) ↔
      ∀ s, Turns py (redactStart value) s → s.markers ≠ [] → s.Safe py := by
  constructor
  · rintro ⟨result, ⟨r, hr, -⟩, -, -⟩ s hs hmarkers
    have hgone := (gone_start value).turns hlower hs
    obtain ⟨redacted, markers⟩ := s
    cases markers with
    | nil => exact absurd rfl hmarkers
    | cons marker rest =>
      intro idx hidx
      have hm := hgone.left marker List.mem_cons_self
      rw [index_eq hlower hm] at hidx
      by_contra hmany
      exact not_ends_of_stuck hlower hm rfl hidx (not_lt.1 hmany) r (ends_of_turns hr hs)
  · intro hsafe
    obtain ⟨r, hr⟩ := ends_of_safe hlower (gone_start value) hsafe
    have hgone := (gone_start value).turns hlower (turns_of_ends hr)
    exact ⟨r.finished, ⟨r, hr, rfl⟩, finished_clean hlower hgone (markers_of_end hr)⟩

/-- Every turn for a text is safe when it is redacted, and no escape completes a marker in the
result. -/
theorem safeTurns_iff (value : String) : (∀ s, Turns py (redactStart value) s → s.Safe py) ↔
    ∃ result, (Redacts py value result ∧ result ≠ "" ∧ ¬ HasMarker py result) ∧
      ∀ marker ∈ FORBIDDEN_TEXT_MARKERS, ¬ EscapeCompletes marker result := by
  constructor
  · intro hsafe
    obtain ⟨result, hresult, hclean⟩ := (redacts_iff hlower value).2 fun s hs _ => hsafe s hs
    refine ⟨result, ⟨hresult, hclean⟩, ?_⟩
    obtain ⟨r, hr, rfl⟩ := hresult
    have hlast := hsafe r (turns_of_ends hr)
    unfold RedactLoop.Safe at hlast
    rw [markers_of_end hr] at hlast
    exact hlast
  · rintro ⟨result, hresult, hescapes⟩ s hs
    by_cases hmarkers : s.markers = []
    · obtain ⟨r, hr, rfl⟩ := hresult.1
      have hnext : s.next py = none := by
        unfold RedactLoop.next
        rw [hmarkers]
      rw [(ends_of_turns hr hs).eq_of_end hnext] at hescapes
      unfold RedactLoop.Safe
      rw [hmarkers]
      exact hescapes
    · exact (redacts_iff hlower value).1 ⟨result, hresult⟩ s hs hmarkers

omit hlower in
theorem redacted_ne_nil (hall : List.Forall₂ (Redacts py) (lessonTexts case lessons) redacted) :
    redacted ≠ [] := by
  rintro rfl
  have hnil := List.forall₂_nil_right_iff.1 hall
  unfold lessonTexts at hnil
  split at hnil
  · cases hnil
  · contradiction

/-- An event around nothing. -/
theorem clean_emptyFrame : EventFrame.Clean py ⟨"", ""⟩ := by
  have hempty : ¬ HasMarker py "" := by
    intro hmarker
    obtain ⟨marker, hm, hoccurs⟩ := (hasMarker_iff hlower "").1 hmarker
    exact not_infix_short hm (by decide) hoccurs
  exact ⟨hempty, hempty⟩

/-- **Redaction is complete for a case and its lessons exactly when every turn for one of their
texts is safe.** -/
theorem redactionComplete_iff (case : LessonCase) (lessons : List String) :
    RedactionComplete py case lessons ↔
      ∀ value ∈ caseSummary case :: lessonTexts case lessons,
        ∀ s, Turns py (redactStart value) s → s.Safe py := by
  simp only [safeTurns_iff hlower]
  constructor
  · intro h value hvalue
    have hframe := clean_emptyFrame hlower
    obtain ⟨result, hresult⟩ := h.redacts value hvalue
    obtain ⟨redacted, summary, hsummary, hall, hbuilt⟩ := h.builds ⟨"", ""⟩ hframe
    have hclean := clean_of_complete h.redacts hsummary hall
    have hrendered := (hasMarker_rendered_iff hlower hframe (redacted_ne_nil hall) hclean).not.1
      (assertNoForbiddenText_ok.1 hbuilt)
    have hmem := mem_of_redacts hsummary hall hresult.1 hvalue
    exact ⟨result, hresult, fun marker hm hcompletes =>
      hrendered ⟨marker, hm, result, hmem, hcompletes⟩⟩
  · intro h
    have hcomplete : ∀ value ∈ caseSummary case :: lessonTexts case lessons, ∃ result,
        Redacts py value result ∧ result ≠ "" ∧ ¬ HasMarker py result := fun value hvalue =>
      (h value hvalue).imp fun _ h => h.1
    refine ⟨hcomplete, fun frame hframe => ?_⟩
    obtain ⟨summary, hsummary, -⟩ := hcomplete _ List.mem_cons_self
    obtain ⟨redacted, hall⟩ := exists_forall₂ fun value hvalue =>
      (hcomplete value (List.mem_cons_of_mem _ hvalue)).imp fun _ h => h.1
    have hclean := clean_of_complete hcomplete hsummary hall
    refine ⟨redacted, summary, hsummary, hall, assertNoForbiddenText_ok.2 ?_⟩
    rw [hasMarker_rendered_iff hlower hframe (redacted_ne_nil hall) hclean]
    rintro ⟨marker, hm, text, htext, hcompletes⟩
    obtain ⟨value, hvalue, hredacts⟩ := redacts_of_mem hsummary hall htext
    obtain ⟨result, hresult, hnone⟩ := h value hvalue
    rw [redacts_unique hredacts hresult.1] at hcompletes
    exact hnone marker hm hcompletes

end Complete

/-! ## What is asked of a text -/

section Asked

variable {py : Python} {lowerOf : Char → Char} {marker other : String}

/-- A marker starts at a letter of the text. -/
theorem exists_split (hm : marker ∈ FORBIDDEN_TEXT_MARKERS) {xs : List Char}
    (h : marker.toList <:+: lowerChars lowerOf xs) :
    ∃ before after, xs = before ++ after ∧ marker.toList <+: lowerChars lowerOf after := by
  obtain ⟨before, x, after, tail, rfl, htail, hsuffix, hpre⟩ := infix_flatMap (marker_ne_nil hm) h
  refine ⟨before, x :: after, rfl, ?_⟩
  have hwhole : tail = lowerImage lowerOf x := by
    unfold lowerImage at hsuffix ⊢
    split at hsuffix
    · rename_i hx
      rw [if_pos hx]
      rcases List.suffix_cons_iff.1 hsuffix with hwhole | hdot
      · exact hwhole
      · -- no marker starts with the dot above
        rcases List.suffix_cons_iff.1 hdot with rfl | hnil
        · cases hmarker : marker.toList with
          | nil => exact absurd hmarker (marker_ne_nil hm)
          | cons c cs =>
            rw [hmarker] at hpre
            obtain ⟨rfl, -⟩ := List.cons_prefix_cons.1 hpre
            exact absurd (hmarker ▸ List.mem_cons_self) (not_mem_marker hm (by decide))
        · exact absurd (List.suffix_nil.1 hnil) htail
    · rename_i hx
      rw [if_neg hx]
      rcases List.suffix_cons_iff.1 hsuffix with hwhole | hnil
      · exact hwhole
      · exact absurd (List.suffix_nil.1 hnil) htail
  rwa [hwhole] at hpre

/-- But for its last letter, what is read as a plain word has no `İ`. -/
theorem not_mem_take : ∀ {word xs : List Char} {k : Nat}, (∀ c ∈ word, plainChar c = true) →
    word <+: lowerChars lowerOf xs → k < word.length → 'İ' ∉ xs.take k
  | _, _, 0, _, _, _ => by simp
  | _, [], _ + 1, _, _, _ => by simp
  | [], _ :: _, k + 1, _, _, hk => absurd hk (Nat.not_lt_zero _)
  | [_], _ :: _, k + 1, _, _, hk => absurd (Nat.lt_of_succ_lt_succ hk) (Nat.not_lt_zero k)
  | c :: d :: word, x :: xs, k + 1, hplain, h, hk => by
    have hd : plainChar d = true := hplain d (by simp)
    unfold lowerChars lowerImage at h
    rw [List.flatMap_cons] at h
    split at h
    · rw [List.cons_append, List.cons_prefix_cons, List.cons_append, List.cons_prefix_cons] at h
      rw [h.2.1] at hd
      exact absurd hd (by decide)
    · rename_i hx
      rw [List.cons_append, List.nil_append, List.cons_prefix_cons] at h
      have ih := not_mem_take (fun e he => hplain e (List.mem_cons_of_mem c he)) h.2
        (Nat.lt_of_succ_lt_succ hk)
      rw [List.take_succ_cons, List.mem_cons]
      exact not_or.2 ⟨Ne.symm hx, ih⟩

/-- A character of the word put in is written as it is. -/
theorem jsonEscape_redacted {c : Char} (h : c ∈ "redacted".toList) : jsonEscape c = [c] := by
  have hall : ("redacted".toList.all fun c => jsonEscape c == [c]) = true := by decide
  exact eq_of_beq (List.all_eq_true.1 hall c h)

theorem toList_cutMarker (text : String) (idx : Nat) :
    (cutMarker text marker idx).toList = text.toList.take idx ++ '[' :: ("redacted".toList ++ ']' ::
      text.toList.drop (idx + marker.toList.length)) := by
  unfold cutMarker
  rw [String.toList_ofList]
  simp

/-- **A cut brings no escape in front of the rest of a marker.** -/
theorem escapeCompletes_of_cutMarker (hm : other ∈ FORBIDDEN_TEXT_MARKERS) {text : String} {idx : Nat}
    (h : EscapeCompletes other (cutMarker text marker idx)) : EscapeCompletes other text := by
  obtain ⟨before, c, after, tail, rest, htext, hescape, htail, hsuffix, hmarker, hrest⟩ := h
  rw [toList_cutMarker] at htext
  rcases append_cons_split htext with ⟨t, htake, hafter⟩ | ⟨b, -, hback⟩
  · cases t with
    | nil =>
      obtain ⟨rfl, -⟩ := List.cons.inj hafter
      exact absurd (by decide) hescape
    | cons d t =>
      obtain ⟨rfl, rfl⟩ := List.cons.inj hafter
      have hbracket : '[' ∉ rest := fun hmem => not_mem_marker hm (c := '[') (by decide)
        (hmarker ▸ List.mem_append_right tail hmem)
      have hshort : rest <+: t.map Char.toLower := by
        change rest <+: (t ++ '[' :: _).map Char.toLower at hrest
        rw [List.map_append, List.map_cons] at hrest
        exact prefix_of_prefix_cut (d := '[') hbracket hrest
      refine ⟨before, c, t ++ text.toList.drop idx, tail, rest, ?_, hescape, htail, hsuffix, hmarker,
        ?_⟩
      · rw [← List.cons_append, ← List.append_assoc, ← htake, List.take_append_drop]
      · rw [List.map_append]
        exact hshort.trans (List.prefix_append _ _)
  rcases append_cons_split hback with ⟨t, hword, hafter⟩ | ⟨d, -, hdrop⟩
  · cases t with
    | nil =>
      obtain ⟨rfl, -⟩ := List.cons.inj hafter
      exact absurd (by decide) hescape
    | cons e t =>
      obtain ⟨rfl, -⟩ := List.cons.inj hafter
      refine absurd (jsonEscape_redacted ?_) hescape
      rw [hword]
      simp
  · refine ⟨text.toList.take (idx + marker.toList.length) ++ d, c, after, tail, rest, ?_, hescape,
      htail, hsuffix, hmarker, hrest⟩
    rw [List.append_assoc, ← hdrop, List.take_append_drop]

/-- What `strip` leaves is in the text. -/
theorem EscapeCompletes.of_strip {text : String} (h : EscapeCompletes marker (strip text)) :
    EscapeCompletes marker text := by
  obtain ⟨before, c, after, tail, rest, htext, hescape, htail, hsuffix, hmarker, hrest⟩ := h
  obtain ⟨front, back, hsplit⟩ := infix_strip text
  refine ⟨front ++ before, c, after ++ back, tail, rest, ?_, hescape, htail, hsuffix, hmarker, ?_⟩
  · rw [← hsplit, htext]
    simp
  · rw [List.map_append]
    exact hrest.trans (List.prefix_append _ _)

/-- A text that is written as it is has no escape. -/
theorem not_escapeCompletes_of_all {text : String}
    (h : (text.toList.all fun c => jsonEscape c = [c]) = true) : ¬ EscapeCompletes marker text := by
  rintro ⟨before, c, after, tail, rest, htext, hescape, -⟩
  refine hescape (of_decide_eq_true (List.all_eq_true.1 h c ?_))
  rw [htext]
  simp

theorem escapeCompletes_finished_iff {s : RedactLoop} :
    EscapeCompletes marker s.finished ↔ EscapeCompletes marker (strip s.redacted) := by
  unfold RedactLoop.finished Cases.orText
  split
  · rename_i hempty
    refine iff_of_false (not_escapeCompletes_of_all (by decide)) ?_
    rw [hempty]
    exact not_escapeCompletes_of_all (by decide)
  · exact Iff.rfl

variable (hlower : LowersBy py lowerOf)

include hlower

theorem prefix_lower_iff (hm : marker ∈ FORBIDDEN_TEXT_MARKERS) (xs : List Char) :
    marker.toList <+: (py.lower (String.ofList xs)).toList ↔
      marker.toList <+: lowerChars lowerOf xs := by
  rw [← prefix_map_iff (foldSigma_eq_iff hm), hlower.text, String.toList_ofList]
  rfl

/-- **A cut leaves no more of the letters in front of a marker.** -/
theorem FewDotted.cutMarker (hm : other ∈ FORBIDDEN_TEXT_MARKERS) {text : String}
    (h : FewDotted py other text) (idx : Nat) : FewDotted py other (cutMarker text marker idx) := by
  intro before after htext hpre
  rw [prefix_lower_iff hlower hm] at hpre
  have hbracket : ∀ d : Char, d.toNat < 128 → d ≠ 'İ' → plainChar d.toLower = false →
      ∀ xs ys, other.toList <+: lowerChars lowerOf (xs ++ d :: ys) →
        other.toList <+: lowerChars lowerOf xs := by
    intro d hascii hdot hplain xs ys hpre
    have himage : lowerChars lowerOf (d :: ys) = d.toLower :: lowerChars lowerOf ys := by
      unfold lowerChars lowerImage
      rw [List.flatMap_cons, if_neg hdot, hlower.ascii d hascii]
      rfl
    rw [lowerChars_append, himage] at hpre
    exact prefix_of_prefix_cut (not_mem_marker hm hplain) hpre
  rw [toList_cutMarker] at htext
  rcases append_cons_split htext with ⟨t, htake, rfl⟩ | ⟨b, rfl, hback⟩
  · have hshort := hbracket '[' (by decide) (by decide) (by decide) _ _ hpre
    refine h before (t ++ text.toList.drop idx) ?_ ?_
    · rw [← List.append_assoc, ← htake, List.take_append_drop]
    · rw [prefix_lower_iff hlower hm, lowerChars_append]
      exact hshort.trans (List.prefix_append _ _)
  rcases append_cons_split hback with ⟨t, hword, rfl⟩ | ⟨d, rfl, hdrop⟩
  · have hshort := hbracket ']' (by decide) (by decide) (by decide) _ _ hpre
    have hinfix : t <:+: "redacted".toList := hword ▸ (List.suffix_append b t).isInfix
    have hlowered : lowerChars lowerOf "redacted".toList = "redacted".toList :=
      (lowerChars_ascii hlower (ascii_of_all (by decide))).trans (by decide)
    exact absurd (hlowered ▸ hshort.isInfix.trans (infix_lowerChars hinfix)) (not_infix_redacted hm)
  · have hfew := h (text.toList.take (idx + marker.toList.length) ++ d) after
      (by rw [List.append_assoc, ← hdrop, List.take_append_drop])
      ((prefix_lower_iff hlower hm after).2 hpre)
    refine lt_of_le_of_lt ?_ hfew
    have hless : (text.toList.take idx).count 'İ' ≤
        (text.toList.take (idx + marker.toList.length)).count 'İ' :=
      (List.take_sublist_take_left (Nat.le_add_right _ _)).count_le _
    have hnone : "redacted".toList.count 'İ' = 0 := by decide
    simp only [List.count_append, List.count_cons, hnone]
    simpa using hless

/-- **Few such letters are in front of the cut.** -/
theorem FewDotted.take (hm : marker ∈ FORBIDDEN_TEXT_MARKERS) {text : String}
    (h : FewDotted py marker text) {idx : Nat}
    (hidx : firstAt marker.toList (lowerChars lowerOf text.toList) = some idx) :
    (text.toList.take idx).count 'İ' < marker.toList.length := by
  obtain ⟨hle, hpre, hbefore⟩ := firstAt_eq_some_iff.1 hidx
  obtain ⟨before, after, htext, hafter⟩ :=
    exists_split hm (hpre.isInfix.trans (List.drop_suffix _ _).isInfix)
  have hfew := h before after htext ((prefix_lower_iff hlower hm after).2 hafter)
  -- the first occurrence is not behind this one
  have hfirst : idx ≤ before.length + before.count 'İ' := by
    have hlength : (lowerChars lowerOf before).length = _ := length_lowerChars before
    rw [← hlength]
    by_contra hlate
    refine hbefore _ (not_le.1 hlate) ?_
    rw [htext, lowerChars_append, List.drop_left]
    exact hafter
  have hnone := not_mem_take (plainChars hm) hafter hfew
  have hsub := (List.take_sublist_take_left (l := text.toList) hfirst).count_le 'İ'
  rw [htext, List.take_length_add_append, List.count_append, List.count_eq_zero_of_not_mem hnone,
    ← htext] at hsub
  omega

theorem Redactable.cutMarker {text : String} (h : Redactable py text) (hhas : HasMarker py text)
    (idx : Nat) : Redactable py (cutMarker text marker idx) := by
  intro other hm
  obtain ⟨hfew, hescape⟩ := h other hm
  rw [if_pos hhas] at hescape
  refine ⟨hfew.cutMarker hlower hm idx, fun hcompletes => hescape ?_⟩
  split at hcompletes
  · exact escapeCompletes_of_cutMarker hm hcompletes
  · exact escapeCompletes_of_cutMarker hm hcompletes.of_strip

/-- **A text stays redactable.** -/
theorem Redactable.turns {value : String} (h : Redactable py value) {s : RedactLoop}
    (hs : Turns py (redactStart value) s) : Redactable py s.redacted := by
  induction hs with
  | refl => exact h
  | tail ht hnext ih =>
    obtain ⟨marker, rest, -, hm, ⟨idx, hidx, rfl⟩ | ⟨-, rfl⟩⟩ :=
      next_cases hlower ((gone_start value).turns hlower ht) hnext
    · have hoccurs := firstAt_eq_some_iff.1 hidx
      exact ih.cutMarker hlower ((hasMarker_iff hlower _).2
        ⟨marker, hm, hoccurs.2.1.isInfix.trans (List.drop_suffix _ _).isInfix⟩) idx
    · exact ih

/-- **Every turn for a redactable text is safe.** -/
theorem Redactable.safe {value : String} (h : Redactable py value) {s : RedactLoop}
    (hs : Turns py (redactStart value) s) : s.Safe py := by
  have hgone := (gone_start value).turns hlower hs
  have hstays := h.turns hlower hs
  obtain ⟨redacted, markers⟩ := s
  unfold RedactLoop.Safe
  cases markers with
  | nil =>
    intro marker hm hcompletes
    have hstrip := escapeCompletes_finished_iff.1 hcompletes
    refine (hstays marker hm).2 ?_
    split
    · exact hstrip.of_strip
    · exact hstrip
  | cons marker rest =>
    intro idx hidx
    have hm := hgone.left marker List.mem_cons_self
    exact (hstays marker hm).1.take hlower hm ((index_eq hlower hm _).symm.trans hidx)

omit hlower in
/-- Markers that are not there are passed over. -/
theorem turns_over {value : String} : ∀ {done rest : List String},
    (∀ marker ∈ done, hasText marker (py.lower value) = false) →
    Turns py ⟨value, done ++ rest⟩ ⟨value, rest⟩
  | [], _, _ => .refl
  | marker :: done, rest, hnone => by
    have hindex : RedactLoop.index py ⟨value, marker :: (done ++ rest)⟩ marker = none := by
      have hnot := hnone marker List.mem_cons_self
      unfold hasText at hnot
      exact firstAt_eq_none_iff.2 (of_decide_eq_false hnot)
    have hnext : RedactLoop.next py ⟨value, marker :: (done ++ rest)⟩ = some ⟨value, done ++ rest⟩ := by
      unfold RedactLoop.next
      simp only [hindex]
    exact .head hnext (turns_over fun m hmem => hnone m (List.mem_cons_of_mem _ hmem))

omit hlower in
/-- A text that is written as it is has nothing of either. -/
theorem redactable_of_all {text : String}
    (h : (text.toList.all fun c => jsonEscape c = [c]) = true) : Redactable py text := by
  intro marker hm
  refine ⟨fun before after htext _ => ?_, fun hcompletes => ?_⟩
  · have hdot : 'İ' ∉ before := fun hmem => by
      have hself := of_decide_eq_true (List.all_eq_true.1 h 'İ' (htext ▸ List.mem_append_left _ hmem))
      exact absurd hself (by decide)
    rw [List.count_eq_zero_of_not_mem hdot]
    exact List.length_pos_iff.2 (marker_ne_nil hm)
  · split at hcompletes
    · exact not_escapeCompletes_of_all h hcompletes
    · exact not_escapeCompletes_of_all h hcompletes.of_strip

/-- **A text without markers is left as it is.** -/
theorem redacts_of_clean {value : String} (hclean : ¬ HasMarker py value) :
    Redacts py value (Cases.orText (strip value) "sanitized NOC learning candidate") := by
  have hends : ∀ markers : List String, (∀ m ∈ markers, m ∈ FORBIDDEN_TEXT_MARKERS) →
      Ends (RedactLoop.next py) ⟨value, markers⟩ ⟨value, []⟩ := by
    intro markers hmarkers
    induction markers with
    | nil => exact .here rfl
    | cons marker rest ih =>
      have hm := hmarkers marker List.mem_cons_self
      have hnone : RedactLoop.index py ⟨value, marker :: rest⟩ marker = none := by
        rw [index_eq hlower hm, firstAt_eq_none_iff]
        exact fun hoccurs => hclean ((hasMarker_iff hlower value).2 ⟨marker, hm, hoccurs⟩)
      have hnext : RedactLoop.next py ⟨value, marker :: rest⟩ = some ⟨value, rest⟩ := by
        unfold RedactLoop.next
        simp only [hnone]
      exact .step hnext (ih fun m hmem => hmarkers m (List.mem_cons_of_mem _ hmem))
  exact ⟨_, hends _ fun _ hm => hm, rfl⟩

/-- **Redaction is complete for a case and its lessons when their texts are redactable; and when it is
complete, the first cut of each text is safe.** -/
theorem redactionComplete_redactable (case : LessonCase) (lessons : List String) :
    ((∀ value ∈ caseSummary case :: lessonTexts case lessons, Redactable py value) →
        RedactionComplete py case lessons) ∧
      (RedactionComplete py case lessons →
        ∀ value ∈ caseSummary case :: lessonTexts case lessons, FirstCutSafe py value) := by
  have hiff := redactionComplete_iff hlower case lessons
  constructor
  · intro h
    exact hiff.2 fun value hvalue s hs => (h value hvalue).safe hlower hs
  · intro h value hvalue done rest hsplit hnone
    refine hiff.1 h value hvalue _ ?_
    unfold redactStart
    rw [hsplit]
    exact turns_over hnone

end Asked

/-! ## A text that is never done, and one that is refused -/

def dottedLowerOf (c : Char) : Char := foldSigma c.toLower

/-- A Python whose `lower` knows ASCII and `İ`. -/
def dottedPython : Python :=
  { asciiPython with
    lower := fun s => String.ofList (lowerChars dottedLowerOf s.toList) }

theorem lowersBy_dotted : LowersBy dottedPython dottedLowerOf := by
  refine ⟨fun s => ?_, fun c hc => ?_⟩
  · have hfold : ∀ c, foldSigma (foldSigma c) = foldSigma c := by
      intro c
      unfold foldSigma
      split
      · decide
      · rfl
    have himage : ∀ c, (lowerImage dottedLowerOf c).map foldSigma = lowerImage dottedLowerOf c := by
      intro c
      unfold lowerImage
      split
      · decide
      · rw [List.map_singleton, dottedLowerOf, hfold]
    change (String.ofList (lowerChars dottedLowerOf s.toList)).toList.map foldSigma = _
    rw [String.toList_ofList, lowerChars, List.map_flatMap]
    simp only [himage]
  · have hall : ∀ n < 128, foldSigma (Char.ofNat n).toLower = (Char.ofNat n).toLower := by decide
    have hself := hall c.toNat hc
    rwa [Char.ofNat_toNat] at hself

def closedCase (title : String) : LessonCase :=
  .atomic {
    caseId := "case-1", title := title, summary := "closed",
    openedAt := "2026-07-01T00:00:00Z", updatedAt := "2026-07-01T00:00:00Z" }

theorem redactionComplete_bearer :
    RedactionComplete dottedPython (closedCase "Bearer abc") ["Rotate the credential"] := by
  refine (redactionComplete_redactable lowersBy_dotted _ _).1 fun value hvalue => ?_
  have hprinted : ∀ value ∈ caseSummary (closedCase "Bearer abc") ::
      lessonTexts (closedCase "Bearer abc") ["Rotate the credential"],
      (value.toList.all fun c => jsonEscape c = [c]) = true := by
    decide
  exact redactable_of_all (hprinted value hvalue)

/-- Twelve doubled letters in front of a marker of twelve characters: the cut is behind it, and the
loop goes on for ever.  A line end in front of the rest of a marker: it is written `\\r`. -/
theorem redaction_fails :
    (∀ result, ¬ Redacts dottedPython
      (caseSummary (closedCase "İİİİİİİİİİİİsecret_value")) result) ∧
    ¬ HasMarker dottedPython (caseSummary (closedCase "web1\raw_log")) ∧
    ∀ frame lessons redactedLessons summary, ¬ BuildsEvent dottedPython frame
      (closedCase "web1\raw_log") lessons redactedLessons summary := by
  have hclean : ¬ HasMarker dottedPython (caseSummary (closedCase "web1\raw_log")) := by
    decide +kernel
  refine ⟨?_, hclean, ?_⟩
  · rintro result ⟨s, hs, -⟩
    have hmarker : "secret_value" ∈ FORBIDDEN_TEXT_MARKERS := by decide
    have hidx : firstAt "secret_value".toList (lowerChars dottedLowerOf
        (caseSummary (closedCase "İİİİİİİİİİİİsecret_value")).toList) = some 24 := by
      decide +kernel
    exact not_ends_of_stuck lowersBy_dotted hmarker rfl hidx (by decide +kernel) s hs
  · rintro frame lessons redactedLessons summary ⟨hsummary, -, hbuilt⟩
    refine assertNoForbiddenText_ok.1 hbuilt ?_
    rw [redacts_unique hsummary (redacts_of_clean lowersBy_dotted hclean)]
    refine (hasMarker_iff lowersBy_dotted _).2 ⟨"raw_log", by decide, ?_⟩
    have hliteral : "raw_log".toList <:+: lowerChars dottedLowerOf (jsonLiteral (Cases.orText
        (strip (caseSummary (closedCase "web1\raw_log"))) "sanitized NOC learning candidate")) := by
      decide +kernel
    refine hliteral.trans (infix_lowerChars ?_)
    unfold EventFrame.rendered
    rw [String.toList_ofList]
    exact ⟨_, _, rfl⟩

end NocAgent.Knowledge
