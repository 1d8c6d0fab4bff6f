import NocAgent.Python.Words

/-!
# The embed of a report

Discord bounds the texts of an embed, each of them and all of them together.

* `clip`, `budgetReportEmbed` — `_clip` and `_budget_report_embed`.
* `share_left` — who spends at most an equal share of what is left leaves as much to each of the
  others.
* `budgetReportEmbed_fits` — every selected field is shown, no text is empty and none is too long.
-/

set_option autoImplicit false

namespace NocAgent.Cases

/-! ## The code -/

/-- `text[:n]`; a negative index counts from the end. -/
def sliceTo (n : Int) (text : String) : String :=
  takeChars (if 0 ≤ n then n.toNat else (text.toList.length + n).toNat) text

/-- `_clip`. -/
def clip (limit : Int) (value : String) : String :=
  let text := if value = "" then "—" else value
  if (text.toList.length : Int) ≤ limit then text else sliceTo (limit - 1) text ++ "…"

section Code

variable (py : Python)

/-- The loop of `_budget_report_embed`: each field has an equal share of what remains. -/
def budgetFields (remaining : Int) : List JsonDict → List JsonDict
  | [] => []
  | field :: rest =>
    let allowance := remaining / ((field :: rest).length : Int)
    let name := clip (min 256 (allowance / 2)) (pyStr py ((field.get "name").or (.str "Details")))
    let value := clip (min 1024 (allowance - name.toList.length))
      (pyStr py ((field.get "value").or (.str "—")))
    dictPut (dictPut field "name" (.str name)) "value" (.str value) ::
      budgetFields (remaining - (name.toList.length + value.toList.length)) rest

/-- `_budget_report_embed`. -/
def budgetReportEmbed (title description : String) (fields : List JsonDict) :
    String × String × List JsonDict :=
  let title := clip 256 title
  let description := clip 2002 description
  (title, description,
    budgetFields py (5900 - title.toList.length - description.toList.length) (fields.take 10))

end Code

/-! ## The property -/

/-- The characters of a text in an embed. -/
def textLength : Json → Nat
  | .str s => s.toList.length
  | _ => 0

/-- The field is shown, under a name and a value of its own. -/
def Shows (field shown : JsonDict) : Prop :=
  ∃ name value, shown = dictPut (dictPut field "name" (.str name)) "value" (.str value)

/-- The characters of a field. -/
def fieldLength (shown : JsonDict) : Nat :=
  textLength (shown.get "name") + textLength (shown.get "value")

/-- **The fields are shown in order, no name or value is empty or too long, and together they have
at most `remaining` characters.** -/
structure FieldsFit (remaining : Int) (fields shown : List JsonDict) : Prop where
  shows : List.Forall₂ Shows fields shown
  names : ∀ field ∈ shown, 1 ≤ textLength (field.get "name") ∧ textLength (field.get "name") ≤ 256
  values : ∀ field ∈ shown,
    1 ≤ textLength (field.get "value") ∧ textLength (field.get "value") ≤ 1024
  total : ((shown.map fieldLength).sum : Int) ≤ remaining

/-- **What Discord asks of an embed**: the first ten fields in order, every text within its own
bound, and at most 5900 characters in all. -/
structure EmbedFits (fields : List JsonDict) (embed : String × String × List JsonDict) : Prop where
  title : embed.1.toList.length ≤ 256
  description : embed.2.1.toList.length ≤ 2002
  fields : FieldsFit (5900 - embed.1.toList.length - embed.2.1.toList.length) (fields.take 10)
    embed.2.2

/-! ## Shares -/

/-- **Who spends at most an equal share of what is left leaves as much to each of the others.** -/
theorem share_left {remaining spent : Int} {n : Nat}
    (h : spent ≤ remaining / ((n + 1 : Nat) : Int)) :
    remaining / ((n + 1 : Nat) : Int) * n ≤ remaining - spent := by
  have hshares := Int.ediv_mul_le remaining (b := ((n + 1 : Nat) : Int)) (by omega)
  rw [Nat.cast_add, Nat.cast_one, mul_add, mul_one] at hshares
  rw [Nat.cast_add, Nat.cast_one] at h ⊢
  linarith

theorem le_share {remaining least : Int} {n : Nat} (h : least * ((n + 1 : Nat) : Int) ≤ remaining) :
    least ≤ remaining / ((n + 1 : Nat) : Int) :=
  (Int.le_ediv_iff_mul_le (by omega)).2 h

/-! ## Texts -/

theorem length_clip (limit : Int) (hlimit : 1 ≤ limit) (value : String) :
    1 ≤ (clip limit value).toList.length ∧ ((clip limit value).toList.length : Int) ≤ limit := by
  have hne : (if value = "" then "—" else value) ≠ "" := by
    split
    · decide
    · assumption
  unfold clip
  generalize (if value = "" then "—" else value) = text at hne
  have hpos : 0 < text.toList.length := by
    rw [List.length_pos_iff]
    exact fun h => hne (String.toList_eq_nil_iff.1 h)
  dsimp only
  split
  · exact ⟨hpos, by assumption⟩
  · have htail : "…".toList.length = 1 := rfl
    unfold sliceTo
    rw [if_pos (by omega), String.toList_append, toList_takeChars, List.length_append,
      List.length_take, htail]
    omega

/-! ## The budget -/

/-- The texts of a field that is shown. -/
theorem textLength_put (field : JsonDict) (name value : String) :
    let shown : JsonDict := dictPut (dictPut field "name" (.str name)) "value" (.str value)
    textLength (shown.get "name") = name.toList.length ∧
      textLength (shown.get "value") = value.toList.length := by
  simp [get_dictPut, textLength]

theorem budgetFields_fit (py : Python) : ∀ (fields : List JsonDict) (remaining : Int),
    2 * (fields.length : Int) ≤ remaining →
      FieldsFit remaining fields (budgetFields py remaining fields)
  | [], remaining, h => ⟨.nil, by simp [budgetFields], by simp [budgetFields],
      by simpa [budgetFields] using h⟩
  | field :: rest, remaining, h => by
    rw [budgetFields]
    simp only [List.length_cons] at h ⊢
    have hshare : 2 ≤ remaining / ((rest.length + 1 : Nat) : Int) := le_share h
    generalize hallowance : remaining / ((rest.length + 1 : Nat) : Int) = allowance at hshare
    generalize hname : clip (min 256 (allowance / 2))
      (pyStr py ((field.get "name").or (.str "Details"))) = name
    generalize hvalue : clip (min 1024 (allowance - name.toList.length))
      (pyStr py ((field.get "value").or (.str "—"))) = value
    have hnameLength := length_clip (min 256 (allowance / 2)) (by omega)
      (pyStr py ((field.get "name").or (.str "Details")))
    rw [hname] at hnameLength
    have hvalueLength := length_clip (min 1024 (allowance - name.toList.length)) (by omega)
      (pyStr py ((field.get "value").or (.str "—")))
    rw [hvalue] at hvalueLength
    have hspent : ((name.toList.length + value.toList.length : Nat) : Int) ≤ allowance := by omega
    have hleft := share_left (hallowance ▸ hspent)
    rw [hallowance] at hleft
    have hothers : 2 * (rest.length : Int) ≤ allowance * rest.length :=
      mul_le_mul_of_nonneg_right hshare (Int.natCast_nonneg _)
    have ih := budgetFields_fit py rest (remaining -
      (name.toList.length + value.toList.length)) (by push_cast at hleft; linarith)
    obtain ⟨hshownName, hshownValue⟩ := textLength_put field name value
    refine ⟨.cons ⟨name, value, rfl⟩ ih.shows, List.forall_mem_cons.2 ⟨?_, ih.names⟩,
      List.forall_mem_cons.2 ⟨?_, ih.values⟩, ?_⟩
    · rw [hshownName]
      omega
    · rw [hshownValue]
      omega
    · have hfieldLength : fieldLength (dictPut (dictPut field "name" (.str name)) "value"
          (.str value)) = name.toList.length + value.toList.length := by
        unfold fieldLength
        rw [hshownName, hshownValue]
      have htotal := ih.total
      rw [List.map_cons, List.sum_cons, hfieldLength]
      omega

/-- **The embed of a report fits**, whatever the texts are. -/
theorem budgetReportEmbed_fits (py : Python) (title description : String)
    (fields : List JsonDict) :
    EmbedFits fields (budgetReportEmbed py title description fields) := by
  have htitle := length_clip 256 (by decide) title
  have hdescription := length_clip 2002 (by decide) description
  have hlength : (fields.take 10).length ≤ 10 := by
    rw [List.length_take]
    exact Nat.min_le_left _ _
  exact ⟨by exact_mod_cast htitle.2, by exact_mod_cast hdescription.2,
    budgetFields_fit py (fields.take 10) _ (by dsimp only [budgetReportEmbed]; omega)⟩

/-- What is missing is named. -/
example : budgetReportEmbed asciiPython "" "Down" [[("inline", .bool true)]] =
    ("—", "Down", [[("inline", .bool true), ("name", .str "Details"), ("value", .str "—")]]) := rfl

end NocAgent.Cases
