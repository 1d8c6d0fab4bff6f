import NocAgent.Python.Value
import NocAgent.Lib.PrefixCode
import Mathlib.Data.List.Sort
import Mathlib.Data.String.Basic

/-!
# JSON text

* `jsonText` — `json.dumps(x, separators=(",", ":"), ensure_ascii=False)`.
* `sortKeys` — the same value with the keys of every object in order, which is what
  `sort_keys=True` writes.
* `SameJson` — values with the same text once their keys are sorted; `SameJson.get`,
  `SameJson.list`: they have the same parts.

Principal result: `jsonText_injective` — different values have different texts.
-/

set_option autoImplicit false

namespace NocAgent

open PrefixCode

/-! ## Strings -/

/-- The characters with a short escape. -/
def ESCAPE_DCT : List (Char × List Char) :=
  [('\x5c', ['\x5c', '\x5c']), ('\x22', ['\x5c', '\x22']), ('\x08', ['\x5c', 'b']),
    ('\x0c', ['\x5c', 'f']), ('\n', ['\x5c', 'n']), ('\r', ['\x5c', 'r']), ('\t', ['\x5c', 't'])]

def escapeChar (c : Char) : List Char :=
  match ESCAPE_DCT.lookup c with
  | some escaped => escaped
  | none =>
    if c.toNat < 32 then
      ['\x5c', 'u', '0', '0', Nat.digitChar (c.toNat / 16), Nat.digitChar (c.toNat % 16)]
    else [c]

/-- `json.dumps(s, ensure_ascii=False)` of a string. -/
def jsonString (s : String) : List Char := '\x22' :: terminated escapeChar '\x22' s.toList

/-- The characters that are escaped. -/
def escapedChars : List Char := '\x22' :: '\x5c' :: (List.range 32).map Char.ofNat

/-- What is computed of every element of a list, where its type may be finite too. -/
theorem forall_mem_of_all {α : Type} {p : α → Prop} [DecidablePred p] {l : List α}
    (h : l.all (fun a => decide (p a)) = true) : ∀ a ∈ l, p a :=
  fun a ha => of_decide_eq_true (List.all_eq_true.1 h a ha)

theorem escapeChar_of_plain {c : Char} (h : c ∉ escapedChars) : escapeChar c = [c] := by
  have hctl : ¬ c.toNat < 32 := fun hlt => h (List.mem_cons_of_mem _ (List.mem_cons_of_mem _
    (List.mem_map.2 ⟨c.toNat, List.mem_range.2 hlt, Char.ofNat_toNat c⟩)))
  have hshort : ESCAPE_DCT.lookup c = none := by
    rw [List.lookup_eq_none_iff]
    intro entry hentry
    rw [bne_iff_ne]
    rintro rfl
    exact h ((by decide : ∀ entry ∈ ESCAPE_DCT, entry.1 ∈ escapedChars) entry hentry)
  unfold escapeChar
  rw [hshort]
  exact if_neg hctl

theorem escapeChar_of_escaped {c : Char} (hc : c ∈ escapedChars) :
    (escapeChar c).head? = some '\x5c' :=
  forall_mem_of_all (p := fun c => (escapeChar c).head? = some '\x5c') (by decide +kernel) c hc

theorem eq_of_escapeChar_starts {c d : Char} (hc : c ∈ escapedChars) (hd : d ∈ escapedChars) :
    escapeChar c <+: escapeChar d → c = d := by
  have hall := forall_mem_of_all (l := escapedChars)
    (p := fun c => (escapedChars.all fun d => decide (escapeChar c <+: escapeChar d → c = d)) = true)
    (by decide +kernel) c hc
  exact forall_mem_of_all hall d hd

theorem escapeChar_start (c : Char) : ∃ x ∈ (escapeChar c).head?, x ≠ '\x22' := by
  by_cases h : c ∈ escapedChars
  · exact ⟨'\x5c', escapeChar_of_escaped h, by decide⟩
  · refine ⟨c, by rw [escapeChar_of_plain h]; rfl, ?_⟩
    rintro rfl
    exact h List.mem_cons_self

theorem selfDelimiting_escapeChar : SelfDelimiting escapeChar := by
  intro c d r r' h
  -- only an escaped character's text starts with a backslash
  have hplain : ∀ {c d : Char} {r r' : List Char}, c ∉ escapedChars → d ∈ escapedChars →
      escapeChar c ++ r = escapeChar d ++ r' → False := by
    intro c d r r' hc hd h
    have hhead := congrArg List.head? h
    rw [escapeChar_of_plain hc, List.head?_append, List.head?_append, escapeChar_of_escaped hd] at hhead
    obtain rfl : c = '\x5c' := by simpa using hhead
    exact hc (by decide)
  by_cases hc : c ∈ escapedChars
  · by_cases hd : d ∈ escapedChars
    · obtain rfl : c = d := by
        rcases List.prefix_or_prefix_of_prefix (List.prefix_append (escapeChar c) r)
          (h ▸ List.prefix_append (escapeChar d) r') with hpre | hpre
        · exact eq_of_escapeChar_starts hc hd hpre
        · exact (eq_of_escapeChar_starts hd hc hpre).symm
      exact ⟨rfl, List.append_cancel_left h⟩
    · exact (hplain hd hc h.symm).elim
  · by_cases hd : d ∈ escapedChars
    · exact (hplain hc hd h).elim
    · rw [escapeChar_of_plain hc, escapeChar_of_plain hd] at h
      exact List.cons.inj h

theorem selfDelimiting_jsonString : SelfDelimiting jsonString := by
  intro s t r r' h
  obtain ⟨hst, hr⟩ := selfDelimiting_escapeChar.terminated escapeChar_start (List.cons.inj h).2
  exact ⟨String.ext hst, hr⟩

/-! ## Values -/

/-- `float.__repr__`, and the three names of what is no number. -/
def floatText (py : Python) : PyFloat → List Char
  | .nan => ['N', 'a', 'N']
  | .inf true => ['-', 'I', 'n', 'f', 'i', 'n', 'i', 't', 'y']
  | .inf false => ['I', 'n', 'f', 'i', 'n', 'i', 't', 'y']
  | .fin q => (py.repr (.float (.fin q))).toList

/-- The text of what is neither a string nor a container. -/
def scalarText (py : Python) : Json → List Char
  | .bool true => ['t', 'r', 'u', 'e']
  | .bool false => ['f', 'a', 'l', 's', 'e']
  | .int n => (toString n).toList
  | .float x => floatText py x
  | _ => ['n', 'u', 'l', 'l']

mutual

/-- `json.dumps(x, separators=(",", ":"), ensure_ascii=False)`. -/
def jsonText (py : Python) : Json → List Char
  | .str s => jsonString s
  | .list [] => ['[', ']']
  | .list (x :: xs) => '[' :: (jsonText py x ++ itemsText py xs)
  | .dict [] => ['\x7b', '\x7d']
  | .dict ((k, v) :: kvs) => '\x7b' :: (jsonString k ++ ':' :: jsonText py v ++ fieldsText py kvs)
  | x => scalarText py x

/-- The items of an array after the first, and its end. -/
def itemsText (py : Python) : List Json → List Char
  | [] => [']']
  | x :: xs => ',' :: (jsonText py x ++ itemsText py xs)

/-- The fields of an object after the first, and its end. -/
def fieldsText (py : Python) : List (String × Json) → List Char
  | [] => ['\x7d']
  | (k, v) :: kvs => ',' :: (jsonString k ++ ':' :: jsonText py v ++ fieldsText py kvs)

end

mutual

/-- The keys of every object in order. -/
def sortKeys : Json → Json
  | .list xs => .list (sortItems xs)
  | .dict kvs => .dict ((sortFields kvs).insertionSort fun a b => a.1 ≤ b.1)
  | x => x

def sortItems : List Json → List Json
  | [] => []
  | x :: xs => sortKeys x :: sortItems xs

def sortFields : List (String × Json) → List (String × Json)
  | [] => []
  | (k, v) :: kvs => (k, sortKeys v) :: sortFields kvs

end

/-- The same JSON, whatever the order of the keys. -/
def SameJson (a b : Json) : Prop := sortKeys a = sortKeys b

theorem sortItems_eq : ∀ xs : List Json, sortItems xs = xs.map sortKeys
  | [] => rfl
  | x :: xs => by rw [sortItems, sortItems_eq xs, List.map_cons]

theorem sortFields_eq : ∀ kvs : List (String × Json),
    sortFields kvs = kvs.map fun kv => (kv.1, sortKeys kv.2)
  | [] => rfl
  | (k, v) :: kvs => by rw [sortFields, sortFields_eq kvs, List.map_cons]

theorem JsonDict.get_of_mem {k : String} {v : Json} : ∀ {d : JsonDict},
    (d.map Prod.fst).Nodup → (k, v) ∈ d → d.get k = v
  | (k', v') :: d, hn, hmem => by
    rw [List.map_cons, List.nodup_cons] at hn
    rw [JsonDict.get_cons]
    rcases List.mem_cons.1 hmem with heq | hrest
    · cases heq
      exact if_pos rfl
    · have hne : k ≠ k' := by
        rintro rfl
        exact hn.1 (List.mem_map.2 ⟨(k, v), hrest, rfl⟩)
      rw [if_neg hne]
      exact JsonDict.get_of_mem hn.2 hrest

theorem JsonDict.get_of_not_mem {k : String} : ∀ {d : JsonDict},
    k ∉ d.map Prod.fst → d.get k = .null
  | [], _ => rfl
  | (k', v) :: d, hk => by
    rw [List.map_cons, List.mem_cons, not_or] at hk
    rw [JsonDict.get_cons, if_neg hk.1]
    exact JsonDict.get_of_not_mem hk.2

namespace SameJson

theorem refl (a : Json) : SameJson a a := rfl

theorem str {s t : String} (h : SameJson (.str s) (.str t)) : s = t := by
  unfold SameJson sortKeys at h
  cases h
  rfl

/-- The same list has the same items. -/
theorem list {xs ys : List Json} (h : SameJson (.list xs) (.list ys)) :
    List.Forall₂ SameJson xs ys := by
  unfold SameJson at h
  rw [sortKeys, sortKeys, Json.list.injEq, sortItems_eq, sortItems_eq] at h
  have hitems : List.Forall₂ Eq (xs.map sortKeys) (ys.map sortKeys) := List.forall₂_eq_eq_eq ▸ h
  rw [List.forall₂_map_left_iff, List.forall₂_map_right_iff] at hitems
  exact hitems

/-- Their fields are a rearrangement of each other. -/
theorem perm {d d' : JsonDict} (h : SameJson (.dict d) (.dict d')) :
    (sortFields d).Perm (sortFields d') := by
  unfold SameJson at h
  rw [sortKeys, sortKeys, Json.dict.injEq] at h
  have hd := List.perm_insertionSort (fun a b : String × Json => a.1 ≤ b.1) (sortFields d)
  have hd' := List.perm_insertionSort (fun a b : String × Json => a.1 ≤ b.1) (sortFields d')
  rw [h] at hd
  exact hd.symm.trans hd'

theorem keys {d d' : JsonDict} (h : SameJson (.dict d) (.dict d')) :
    (d.map Prod.fst).Perm (d'.map Prod.fst) := by
  have hkeys := h.perm.map Prod.fst
  rw [sortFields_eq, sortFields_eq, List.map_map, List.map_map] at hkeys
  exact hkeys

/-- **The same object has the same value under every key.** -/
theorem get {d d' : JsonDict} (h : SameJson (.dict d) (.dict d')) (hn : (d.map Prod.fst).Nodup)
    (k : String) : SameJson (d.get k) (d'.get k) := by
  have hn' : (d'.map Prod.fst).Nodup := h.keys.nodup_iff.1 hn
  by_cases hk : k ∈ d.map Prod.fst
  · obtain ⟨⟨k', v⟩, hmem, hkey⟩ := List.mem_map.1 hk
    have hkey : k' = k := hkey
    subst hkey
    have hsorted : (k', sortKeys v) ∈ sortFields d' := by
      refine h.perm.subset ?_
      rw [sortFields_eq]
      exact List.mem_map_of_mem (f := fun kv : String × Json => (kv.1, sortKeys kv.2)) hmem
    rw [sortFields_eq] at hsorted
    obtain ⟨⟨_, v'⟩, hmem', heq⟩ := List.mem_map.1 hsorted
    obtain ⟨rfl, hvalue⟩ := Prod.mk.inj heq
    rw [JsonDict.get_of_mem hn hmem, JsonDict.get_of_mem hn' hmem']
    exact hvalue.symm
  · rw [JsonDict.get_of_not_mem hk,
      JsonDict.get_of_not_mem fun hk' => hk (h.keys.mem_iff.2 hk')]
    exact refl _

end SameJson

/-! ## Reading a value back -/

/-- A digit, or another character of a number. -/
def NumeralChar (c : Char) : Prop := c.isDigit = true ∨ c ∈ ['+', '-', '.', 'e']

instance : DecidablePred NumeralChar := fun c =>
  inferInstanceAs (Decidable (c.isDigit = true ∨ c ∈ ['+', '-', '.', 'e']))

/-- `float.__repr__` of a finite number: digits with a point or an exponent, another text for
every number. -/
structure FloatRepr (py : Python) : Prop where
  chars : ∀ q, ∀ c ∈ floatText py (.fin q), NumeralChar c
  marked : ∀ q, ∃ c ∈ floatText py (.fin q), c = '.' ∨ c = 'e'
  injective : ∀ p q, floatText py (.fin p) = floatText py (.fin q) → p = q

theorem intText_ofNat (n : Nat) : (toString (Int.ofNat n)).toList = Nat.toDigits 10 n :=
  Nat.toList_repr

theorem intText_negSucc (n : Nat) :
    (toString (Int.negSucc n)).toList = '-' :: Nat.toDigits 10 (n + 1) := by
  have h : toString (Int.negSucc n) = "-" ++ (n + 1).repr := rfl
  rw [h, String.toList_append, Nat.toList_repr]
  rfl

theorem toDigits_chars (n : Nat) : ∀ c ∈ Nat.toDigits 10 n, c.isDigit = true := fun _ hc =>
  Nat.isDigit_of_mem_toDigits (by decide) (by decide) hc

theorem toDigits_inj {m n : Nat} (h : Nat.toDigits 10 m = Nat.toDigits 10 n) : m = n := by
  have hread := congrArg (fun l => Nat.ofDigitChars 10 l 0) h
  simpa only [Nat.ofDigitChars_ten_toDigits] using hread

theorem intText_chars (n : Int) : ∀ c ∈ (toString n).toList, c.isDigit = true ∨ c = '-' := by
  intro c hc
  cases n with
  | ofNat n =>
    rw [intText_ofNat] at hc
    exact Or.inl (toDigits_chars n c hc)
  | negSucc n =>
    rw [intText_negSucc, List.mem_cons] at hc
    exact hc.elim Or.inr fun hc => Or.inl (toDigits_chars _ c hc)

theorem intText_ne_nil (n : Int) : (toString n).toList ≠ [] := by
  cases n with
  | ofNat n =>
    rw [intText_ofNat]
    exact Nat.toDigits_ne_nil
  | negSucc n =>
    rw [intText_negSucc]
    exact List.cons_ne_nil _ _

theorem intText_injective {m n : Int} (h : (toString m).toList = (toString n).toList) : m = n := by
  have hminus : ∀ k : Nat, '-' ∉ Nat.toDigits 10 k := fun k hk =>
    absurd (toDigits_chars k _ hk) (by decide)
  cases m with
  | ofNat m =>
    cases n with
    | ofNat n =>
      rw [intText_ofNat, intText_ofNat] at h
      exact congrArg Int.ofNat (toDigits_inj h)
    | negSucc n =>
      rw [intText_ofNat, intText_negSucc] at h
      exact absurd (h ▸ List.mem_cons_self) (hminus m)
  | negSucc m =>
    cases n with
    | ofNat n =>
      rw [intText_ofNat, intText_negSucc] at h
      exact absurd (h.symm ▸ List.mem_cons_self) (hminus n)
    | negSucc n =>
      rw [intText_negSucc, intText_negSucc] at h
      exact congrArg Int.negSucc (Nat.succ_injective (toDigits_inj (List.cons.inj h).2))

/-- Neither a string nor a container. -/
def Scalar : Json → Prop
  | .str _ => False
  | .list _ => False
  | .dict _ => False
  | _ => True

/-- A number with a value. -/
def Numeral : Json → Prop
  | .int _ => True
  | .float (.fin _) => True
  | _ => False

/-- The values whose text is a word. -/
def wordValues : List Json :=
  [.null, .bool true, .bool false, .float .nan, .float (.inf true), .float (.inf false)]

theorem Scalar.cases {v : Json} (h : Scalar v) : Numeral v ∨ v ∈ wordValues := by
  cases v with
  | null => exact Or.inr (by simp [wordValues])
  | bool b => exact Or.inr (by cases b <;> simp [wordValues])
  | int n => exact Or.inl trivial
  | float x =>
    cases x with
    | nan => exact Or.inr (by simp [wordValues])
    | inf negative => exact Or.inr (by cases negative <;> simp [wordValues])
    | fin q => exact Or.inl trivial
  | str s => exact h.elim
  | list xs => exact h.elim
  | dict kvs => exact h.elim

section Scalars

variable {py : Python} (hf : FloatRepr py)

include hf in
theorem numeral_chars {v : Json} (h : Numeral v) : ∀ c ∈ scalarText py v, NumeralChar c := by
  cases v with
  | int n => exact fun c hc => (intText_chars n c hc).imp_right fun hminus => by simp [hminus]
  | float x =>
    cases x with
    | fin q => exact hf.chars q
    | _ => exact h.elim
  | _ => exact h.elim

theorem word_chars {v : Json} (h : v ∈ wordValues) : ∃ c ∈ scalarText py v, ¬ NumeralChar c := by
  simp only [wordValues, List.mem_cons, List.not_mem_nil, or_false] at h
  rcases h with rfl | rfl | rfl | rfl | rfl | rfl
  · exact ⟨'u', by simp [scalarText], by decide⟩
  · exact ⟨'u', by simp [scalarText], by decide⟩
  · exact ⟨'l', by simp [scalarText], by decide⟩
  · exact ⟨'N', by simp [scalarText, floatText], by decide⟩
  · exact ⟨'y', by simp [scalarText, floatText], by decide⟩
  · exact ⟨'y', by simp [scalarText, floatText], by decide⟩

theorem word_injective {v w : Json} (hv : v ∈ wordValues) (hw : w ∈ wordValues)
    (h : scalarText py v = scalarText py w) : v = w := by
  simp only [wordValues, List.mem_cons, List.not_mem_nil, or_false] at hv hw
  rcases hv with rfl | rfl | rfl | rfl | rfl | rfl <;>
    rcases hw with rfl | rfl | rfl | rfl | rfl | rfl <;>
      first | rfl | simp [scalarText, floatText] at h

include hf in
theorem numeral_injective {v w : Json} (hv : Numeral v) (hw : Numeral w)
    (h : scalarText py v = scalarText py w) : v = w := by
  -- an integer's text has neither point nor exponent
  have hmixed : ∀ (n : Int) (q : ℚ), (toString n).toList ≠ floatText py (.fin q) := by
    intro n q heq
    obtain ⟨c, hc, hmark⟩ := hf.marked q
    rcases intText_chars n c (heq ▸ hc) with hdigit | hminus
    · rcases hmark with rfl | rfl <;> exact absurd hdigit (by decide)
    · rcases hmark with rfl | rfl <;> exact absurd hminus (by decide)
  match v, w, hv, hw, h with
  | .int m, .int n, _, _, h => exact congrArg Json.int (intText_injective h)
  | .int n, .float (.fin q), _, _, h => exact absurd h (hmixed n q)
  | .float (.fin q), .int n, _, _, h => exact absurd h.symm (hmixed n q)
  | .float (.fin p), .float (.fin q), _, _, h => rw [hf.injective p q h]

include hf in
theorem scalarText_injective {v w : Json} (hv : Scalar v) (hw : Scalar w)
    (h : scalarText py v = scalarText py w) : v = w := by
  have hmixed : ∀ {v w : Json}, Numeral v → w ∈ wordValues →
      scalarText py v ≠ scalarText py w := by
    intro v w hv hw heq
    have hword : ∃ c ∈ scalarText py w, ¬ NumeralChar c := word_chars hw
    obtain ⟨c, hc, hnot⟩ := hword
    exact hnot (numeral_chars hf hv c (heq ▸ hc))
  rcases hv.cases with hv | hv
  · rcases hw.cases with hw | hw
    · exact numeral_injective hf hv hw h
    · exact absurd h (hmixed hv hw)
  · rcases hw.cases with hw | hw
    · exact absurd h.symm (hmixed hw hv)
    · exact word_injective hv hw h

/-- The marks of strings and containers. -/
def MARKS : List Char := ['\x22', '[', '\x7b', ',', ']', '\x7d']

theorem NumeralChar.not_mark {c : Char} (h : NumeralChar c) : c ∉ MARKS := by
  intro hc
  have hnone : ∀ c ∈ MARKS, ¬ NumeralChar c := forall_mem_of_all (by decide)
  exact hnone c hc h

include hf in
theorem scalarText_avoids {v : Json} (h : Scalar v) : ∀ c ∈ scalarText py v, c ∉ MARKS := by
  rcases h.cases with hv | hv
  · exact fun c hc => (numeral_chars hf hv c hc).not_mark
  · simp only [wordValues, List.mem_cons, List.not_mem_nil, or_false] at hv
    rcases hv with rfl | rfl | rfl | rfl | rfl | rfl <;>
      exact forall_mem_of_all (by simp only [scalarText, floatText]; decide)

include hf in
theorem scalarText_ne_nil {v : Json} (h : Scalar v) : scalarText py v ≠ [] := by
  cases v with
  | null => exact List.cons_ne_nil _ _
  | bool b => cases b <;> exact List.cons_ne_nil _ _
  | int n => exact intText_ne_nil n
  | float x =>
    cases x with
    | nan => exact List.cons_ne_nil _ _
    | inf negative => cases negative <;> exact List.cons_ne_nil _ _
    | fin q =>
      obtain ⟨c, hc, -⟩ := hf.marked q
      exact List.ne_nil_of_mem hc
  | str s => exact h.elim
  | list xs => exact h.elim
  | dict kvs => exact h.elim

end Scalars

/-! ## Values as a whole -/

section Values

variable {py : Python}

theorem jsonText_scalar {v : Json} (h : Scalar v) : jsonText py v = scalarText py v := by
  cases v with
  | str s => exact h.elim
  | list xs => exact h.elim
  | dict kvs => exact h.elim
  | _ => rw [jsonText] <;> simp

/-- One field of an object. -/
def fieldText (py : Python) (kv : String × Json) : List Char :=
  (jsonString kv.1 ++ [':']) ++ jsonText py kv.2

theorem itemsText_eq : ∀ xs : List Json, itemsText py xs = sepTail (jsonText py) ',' ']' xs
  | [] => by rw [itemsText, sepTail]
  | x :: xs => by rw [itemsText, sepTail, itemsText_eq xs]

theorem fieldsText_eq : ∀ kvs : List (String × Json),
    fieldsText py kvs = sepTail (fieldText py) ',' '\x7d' kvs
  | [] => by rw [fieldsText, sepTail]
  | (k, v) :: kvs => by
    rw [fieldsText, sepTail, fieldsText_eq kvs, fieldText]
    simp only [List.append_assoc, List.cons_append, List.nil_append]

theorem jsonText_list (xs : List Json) :
    jsonText py (.list xs) = '[' :: sepItems (jsonText py) ',' ']' xs := by
  cases xs with
  | nil => rw [jsonText, sepItems]
  | cons x xs => rw [jsonText, sepItems, itemsText_eq]

theorem jsonText_dict (kvs : List (String × Json)) :
    jsonText py (.dict kvs) = '\x7b' :: sepItems (fieldText py) ',' '\x7d' kvs := by
  cases kvs with
  | nil => rw [jsonText, sepItems]
  | cons kv kvs =>
    rw [jsonText, sepItems, fieldsText_eq, fieldText]
    simp only [List.append_assoc, List.cons_append, List.nil_append]

/-- The mark that a value starts with. -/
def Json.mark : Json → Option Char
  | .str _ => some '\x22'
  | .list _ => some '['
  | .dict _ => some '\x7b'
  | _ => none

variable (hf : FloatRepr py)

include hf in
theorem head_jsonText (v : Json) : ∃ c ∈ (jsonText py v).head?,
    (v.mark = some c ∨ v.mark = none ∧ c ∉ MARKS) := by
  have hscalar : ∀ {v : Json}, Scalar v → v.mark = none →
      ∃ c ∈ (jsonText py v).head?, (v.mark = some c ∨ v.mark = none ∧ c ∉ MARKS) := by
    intro v hv hmark
    rw [jsonText_scalar hv]
    obtain ⟨c, rest, heq⟩ := List.exists_cons_of_ne_nil (scalarText_ne_nil hf hv)
    refine ⟨c, by rw [heq]; rfl, Or.inr ⟨hmark, scalarText_avoids hf hv c ?_⟩⟩
    rw [heq]
    exact List.mem_cons_self
  cases v with
  | str s => exact ⟨'\x22', by rw [jsonText]; rfl, Or.inl rfl⟩
  | list xs => exact ⟨'[', by rw [jsonText_list]; rfl, Or.inl rfl⟩
  | dict kvs => exact ⟨'\x7b', by rw [jsonText_dict]; rfl, Or.inl rfl⟩
  | _ => exact hscalar trivial rfl

/-- A value without a mark is a scalar. -/
theorem Json.scalar_of_mark {v : Json} (h : v.mark = none) : Scalar v := by
  cases v <;> first | exact trivial | cases h

theorem Scalar.mark {v : Json} (h : Scalar v) : v.mark = none := by
  cases v <;> first | rfl | exact h.elim

theorem Json.mark_mem {v : Json} {c : Char} (h : v.mark = some c) : c ∈ MARKS := by
  cases v <;> simp only [Json.mark, Option.some.injEq, reduceCtorEq] at h <;> subst h <;> decide

include hf in
theorem mark_eq {v w : Json} {r r' : List Char} (h : jsonText py v ++ r = jsonText py w ++ r') :
    v.mark = w.mark := by
  obtain ⟨c, hc, hv⟩ := head_jsonText hf v
  obtain ⟨d, hd, hw⟩ := head_jsonText hf w
  have hhead := congrArg List.head? h
  rw [List.head?_append, List.head?_append, hc, hd] at hhead
  obtain rfl : c = d := Option.some.inj hhead
  rcases hv with hv | ⟨hv, hnot⟩
  · rcases hw with hw | ⟨-, hnot⟩
    · rw [hv, hw]
    · exact absurd (Json.mark_mem hv) hnot
  · rcases hw with hw | ⟨hw, -⟩
    · exact absurd (Json.mark_mem hw) hnot
    · rw [hv, hw]

include hf in
theorem jsonText_start (v : Json) : ∃ c ∈ (jsonText py v).head?, c ≠ ']' := by
  obtain ⟨c, hc, hmark⟩ := head_jsonText hf v
  refine ⟨c, hc, ?_⟩
  rintro rfl
  rcases hmark with hmark | ⟨-, hnot⟩
  · cases v <;> simp [Json.mark] at hmark
  · exact hnot (by decide)

/-- The marks that end a value. -/
def EndsValue (c : Char) : Prop := c ∈ [',', ']', '\x7d']

instance : DecidablePred EndsValue := fun c =>
  inferInstanceAs (Decidable (c ∈ [',', ']', '\x7d']))

include hf in
theorem scalar_reads {v : Json} (h : Scalar v) : ReadsBack (jsonText py) EndsValue v := by
  intro w r r' hr hr' heq
  have hw : Scalar w := Json.scalar_of_mark ((mark_eq hf heq).symm.trans h.mark)
  rw [jsonText_scalar h, jsonText_scalar hw] at heq
  have hends : ∀ c, EndsValue c → c ∈ MARKS := by
    intro c hc
    have hsub : ∀ c ∈ [',', ']', '\x7d'], c ∈ MARKS := forall_mem_of_all (by decide)
    exact hsub c hc
  obtain ⟨htext, hrest⟩ := eq_of_append_stops (fun c hc hend => scalarText_avoids hf h c hc (hends c hend))
    (fun c hc hend => scalarText_avoids hf hw c hc (hends c hend)) hr hr' heq
  exact ⟨scalarText_injective hf h hw htext, hrest⟩

theorem fieldText_start (kv : String × Json) : ∃ c ∈ (fieldText py kv).head?, c ≠ '\x7d' :=
  ⟨'\x22', by rfl, by decide⟩

theorem selfDelimiting_key : SelfDelimiting fun k : String => jsonString k ++ [':'] := by
  intro k k' r r' h
  rw [List.append_assoc, List.append_assoc] at h
  obtain ⟨hk, hr⟩ := selfDelimiting_jsonString h
  exact ⟨hk, (List.cons.inj hr).2⟩

mutual

/-- **The text of a value can be read back from the front.** -/
theorem jsonText_reads (hf : FloatRepr py) : ∀ v : Json, ReadsBack (jsonText py) EndsValue v
  | .str s => by
    intro w r r' _ _ h
    match w, mark_eq hf h with
    | .str t, _ =>
      rw [jsonText, jsonText] at h
      obtain ⟨rfl, hr⟩ := selfDelimiting_jsonString h
      exact ⟨rfl, hr⟩
  | .list xs => by
    intro w r r' _ _ h
    match w, mark_eq hf h with
    | .list ys, _ =>
      rw [jsonText_list, jsonText_list] at h
      obtain ⟨rfl, hr⟩ := sepItems_reads (by decide) (by decide) (by decide) (jsonText_start hf)
        (items_read hf xs) (List.cons.inj h).2
      exact ⟨rfl, hr⟩
  | .dict kvs => by
    intro w r r' _ _ h
    match w, mark_eq hf h with
    | .dict other, _ =>
      rw [jsonText_dict, jsonText_dict] at h
      obtain ⟨rfl, hr⟩ := sepItems_reads (by decide) (by decide) (by decide) fieldText_start
        (fields_read hf kvs) (List.cons.inj h).2
      exact ⟨rfl, hr⟩
  | .null => scalar_reads hf trivial
  | .bool _ => scalar_reads hf trivial
  | .int _ => scalar_reads hf trivial
  | .float _ => scalar_reads hf trivial

theorem items_read (hf : FloatRepr py) : ∀ xs : List Json,
    ∀ x ∈ xs, ReadsBack (jsonText py) EndsValue x
  | [] => List.forall_mem_nil _
  | x :: xs => List.forall_mem_cons.2 ⟨jsonText_reads hf x, items_read hf xs⟩

theorem fields_read (hf : FloatRepr py) : ∀ kvs : List (String × Json),
    ∀ kv ∈ kvs, ReadsBack (fieldText py) EndsValue kv
  | [] => List.forall_mem_nil _
  | (_, v) :: kvs => List.forall_mem_cons.2
    ⟨ReadsBack.after selfDelimiting_key (jsonText_reads hf v), fields_read hf kvs⟩

end

include hf in
/-- **Different values have different texts.** -/
theorem jsonText_injective : Function.Injective (jsonText py) :=
  injective_of_readsBack (jsonText_reads hf)

/-- Keys in order, no blanks, and nothing but quotes, backslashes and controls escaped. -/
example : String.ofList (jsonText asciiPython (sortKeys
    (.dict [("b", .list [.int (-1), .null]), ("a", .str "x\ty\x22")]))) =
    "\x7b\x22a\x22:\x22x\\ty\\\x22\x22,\x22b\x22:[-1,null]\x7d" := by decide +kernel

end Values

/-! ## An interpreter that tells all numbers apart -/

/-- Floats are written as fractions, and a text is its own digest. -/
def fractionPython : Python :=
  { asciiPython with
    repr := fun
      | .float (.fin q) => String.ofList ((toString q.num).toList ++ 'e' :: Nat.toDigits 10 q.den)
      | _ => ""
    sha256 := id }

theorem floatText_fractionPython (q : ℚ) : floatText fractionPython (.fin q) =
    (toString q.num).toList ++ 'e' :: Nat.toDigits 10 q.den := by
  unfold floatText fractionPython
  exact String.toList_ofList

theorem floatRepr_fractionPython : FloatRepr fractionPython where
  chars q c hc := by
    rw [floatText_fractionPython, List.mem_append, List.mem_cons] at hc
    rcases hc with hnum | rfl | hden
    · exact (intText_chars q.num c hnum).imp_right fun hminus => by simp [hminus]
    · exact Or.inr (by simp)
    · exact Or.inl (toDigits_chars q.den c hden)
  marked q := ⟨'e', by simp [floatText_fractionPython], Or.inr rfl⟩
  injective p q h := by
    rw [floatText_fractionPython, floatText_fractionPython] at h
    have havoid : ∀ n : Int, ∀ c ∈ (toString n).toList, ¬ c = 'e' := by
      rintro n c hc rfl
      rcases intText_chars n 'e' hc with hdigit | hminus
      · exact absurd hdigit (by decide)
      · exact absurd hminus (by decide)
    obtain ⟨hnum, hden⟩ := eq_of_append_stops (havoid p.num) (havoid q.num)
      (stopsAt_cons.2 rfl) (stopsAt_cons.2 rfl) h
    exact Rat.ext (intText_injective hnum) (toDigits_inj (List.cons.inj hden).2)

end NocAgent
