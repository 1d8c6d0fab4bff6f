import Mathlib.Data.List.DropRight
import Mathlib.Data.List.Infix
import Mathlib.Data.Rat.Floor

/-!
# Python values as the source handles them

JSON-shaped values, truthiness, `a or b`, `dict.get`, iteration, `dict(...)`, `str(...)`,
`float(...)` and `int(...)`, each with the exceptions the interpreter raises.

What depends on the Unicode database, on number parsing or on a hash is not computed here:
it is a field of `Python`, and every result holds for all of them.
-/

set_option autoImplicit false

namespace NocAgent

/-- Exceptions.  `named` is one that comes from outside the modelled code. -/
inductive PyExc where
  | typeError
  | valueError
  | overflowError
  | keyError
  | attributeError
  | validationError
  | named (name text : String)
  deriving DecidableEq, Repr

/-- A Python float: every finite double is a rational. -/
inductive PyFloat where
  | nan
  | inf (negative : Bool)
  | fin (q : ℚ)
  deriving DecidableEq, Repr

inductive Json where
  | null
  | bool (b : Bool)
  | int (n : Int)
  | float (x : PyFloat)
  | str (s : String)
  | list (xs : List Json)
  | dict (kvs : List (String × Json))
  deriving Inhabited, Repr

/-- `dict[str, Any]`, in insertion order. -/
abbrev JsonDict := List (String × Json)

/-- The parts of the interpreter and its standard library that the model leaves open. -/
structure Python where
  /-- `str.lower` -/
  lower : String → String
  /-- `str.upper` -/
  upper : String → String
  /-- `str(x)` for a float or a container -/
  repr : Json → String
  /-- `float(s)` of a string; `none` is `ValueError` -/
  parseFloat : String → Option PyFloat
  /-- `float(n)` of an integer; `none` is `OverflowError` -/
  floatOfInt : Int → Option PyFloat
  /-- `int(s)` of a string; `none` is `ValueError` -/
  parseInt : String → Option Int
  /-- `json.dumps(x, sort_keys=True, separators=(",", ":"))` -/
  dumps : Json → String
  /-- `stable_json` of JSON-native values: the same, not escaping -/
  stableJson : Json → String
  /-- `hmac.new(secret, body, sha256).hexdigest()` -/
  hmac : String → String → String
  /-- `hashlib.sha256(text).hexdigest()` -/
  sha256 : String → String
  /-- `str(round(x * num / den, digits))`; without digits the rounding is to an integer -/
  roundText : PyFloat → Nat → Nat → Option Nat → String
  /-- `re.compile(p, re.IGNORECASE).match`; `none` is `re.error` -/
  reCompile : String → Option (String → Bool)
  /-- `re.compile(p, re.IGNORECASE).sub("[redacted]", text)` -/
  redact : String → String → String
  /-- `urlsplit(s).hostname`; `none` is `None` or `ValueError` -/
  urlHostname : String → Option String
  /-- `json.dumps(s, ensure_ascii=False)` of a string -/
  jsonQuote : String → String
  /-- `str.isprintable` on one character -/
  isPrintable : Char → Bool
  /-- `str.isalnum` on one character -/
  isAlnum : Char → Bool
  /-- `unicodedata.category(c).startswith("C")` of one character -/
  isOther : Char → Bool
  /-- `datetime.fromisoformat(s.replace("Z", "+00:00"))` in microseconds, a naive value read
  as UTC; `none` is `ValueError` -/
  parseIso : String → Option Int
  /-- `datetime.isoformat()` of a UTC instant in microseconds -/
  isoformat : Int → String

/-! ## Truth and lookup -/

/-- `bool(x)`. -/
def Json.truthy : Json → Bool
  | .null => false
  | .bool b => b
  | .int n => n != 0
  | .float (.fin q) => q != 0
  | .float _ => true
  | .str s => s != ""
  | .list xs => !xs.isEmpty
  | .dict kvs => !kvs.isEmpty

@[simp] theorem Json.truthy_bool (b : Bool) : (Json.bool b).truthy = b := rfl

/-- `a or b`. -/
def Json.or (a b : Json) : Json := if a.truthy then a else b

@[simp] theorem Json.dict_or_empty (d : List (String × Json)) :
    (Json.dict d).or (.dict []) = .dict d := by
  unfold Json.or Json.truthy
  cases d <;> rfl

/-- `x is not None`. -/
def Json.notNone : Json → Bool
  | .null => false
  | _ => true

/-- `d.get(k)`. -/
def JsonDict.get (d : JsonDict) (k : String) : Json := (d.lookup k).getD .null

/-- `d.get(k, default)`. -/
def JsonDict.getD (d : JsonDict) (k : String) (default : Json) : Json := (d.lookup k).getD default

@[simp] theorem JsonDict.get_nil (k : String) : JsonDict.get [] k = .null := rfl

@[simp] theorem JsonDict.get_cons (k k' : String) (v : Json) (d : JsonDict) :
    JsonDict.get ((k', v) :: d) k = if k = k' then v else JsonDict.get d k := by
  unfold JsonDict.get
  rw [List.lookup_cons]
  by_cases h : k = k'
  · simp [h]
  · have h' : (k == k') = false := by simpa using h
    simp [h, h']

/-- `k in d`. -/
def JsonDict.has (d : JsonDict) (k : String) : Bool := (d.lookup k).isSome

/-- `x if isinstance(x, dict)`. -/
def Json.dict? : Json → Option JsonDict
  | .dict d => some d
  | _ => none

/-- `x == s` for a string `s`. -/
def Json.isStr (x : Json) (s : String) : Bool :=
  match x with
  | .str t => t == s
  | _ => false

@[simp] theorem Json.isStr_iff {x : Json} {s : String} : x.isStr s = true ↔ x = .str s := by
  cases x <;> simp [Json.isStr]

/-- `hash(x)` succeeds: lists and dicts have no hash. -/
def Json.hashable : Json → Bool
  | .list _ => false
  | .dict _ => false
  | _ => true

/-! ## Iteration and `dict(...)` -/

/-- `for item in x`: a list gives its items, a dict its keys, a string its characters. -/
def pyIter : Json → Except PyExc (List Json)
  | .list xs => .ok xs
  | .dict kvs => .ok (kvs.map fun kv => .str kv.1)
  | .str s => .ok (s.toList.map fun c => .str (String.singleton c))
  | _ => .error .typeError

/-- A dict whose keys may be any hashable value. -/
abbrev PyDict := List (Json × Json)

/-- `d.get(k)` for a string key; a repeated key was overwritten by its last value. -/
def PyDict.get (d : PyDict) (k : String) : Json :=
  (((d.filter fun kv => kv.1.isStr k).getLast?).map Prod.snd).getD .null

/-- `d[k] = v`. -/
def PyDict.set (d : PyDict) (k : String) (v : Json) : PyDict := d ++ [(.str k, v)]

theorem PyDict.get_set (d : PyDict) (k k' : String) (v : Json) :
    (d.set k v).get k' = if k = k' then v else d.get k' := by
  unfold PyDict.get PyDict.set
  rw [List.filter_append]
  by_cases h : k = k'
  · simp [h, Json.isStr]
  · simp [h, Json.isStr]

/-- One element of the sequence `dict(...)` is built from: an iterable of a key and a value. -/
def pyPair (x : Json) : Except PyExc (Json × Json) :=
  match pyIter x with
  | .error e => .error e
  | .ok [k, v] => if k.hashable then .ok (k, v) else .error .typeError
  | .ok _ => .error .valueError

def pyPairs : List Json → Except PyExc PyDict
  | [] => .ok []
  | x :: xs =>
    match pyPair x with
    | .error e => .error e
    | .ok kv =>
      match pyPairs xs with
      | .error e => .error e
      | .ok kvs => .ok (kv :: kvs)

/-- A dict with string keys, seen as one with any keys. -/
def JsonDict.toPy (d : JsonDict) : PyDict := d.map fun kv => (.str kv.1, kv.2)

/-- `dict(x)`. -/
def pyDict : Json → Except PyExc PyDict
  | .dict kvs => .ok (JsonDict.toPy kvs)
  | x =>
    match pyIter x with
    | .error e => .error e
    | .ok xs => pyPairs xs

/-! ## Numbers -/

/-- `int(x)` of a float: towards zero. -/
def PyFloat.toInt : PyFloat → Except PyExc Int
  | .nan => .error .valueError
  | .inf _ => .error .overflowError
  | .fin q => .ok (q.num.tdiv q.den)

/-- `x >= q`; a nan compares false. -/
def PyFloat.ge (x : PyFloat) (q : ℚ) : Bool :=
  match x with
  | .nan => false
  | .inf negative => !negative
  | .fin p => q ≤ p

/-- `x < q`. -/
def PyFloat.lt (x : PyFloat) (q : ℚ) : Bool :=
  match x with
  | .nan => false
  | .inf negative => negative
  | .fin p => p < q

/-- `x > q`. -/
def PyFloat.gt (x : PyFloat) (q : ℚ) : Bool :=
  match x with
  | .nan => false
  | .inf negative => !negative
  | .fin p => q < p

/-- `float(x)`. -/
def pyFloat (py : Python) : Json → Except PyExc PyFloat
  | .bool b => .ok (.fin (if b then 1 else 0))
  | .int n =>
    match py.floatOfInt n with
    | some x => .ok x
    | none => .error .overflowError
  | .float x => .ok x
  | .str s =>
    match py.parseFloat s with
    | some x => .ok x
    | none => .error .valueError
  | _ => .error .typeError

/-! ## Equality -/

/-- The number a value is: a bool is 0 or 1. -/
def Json.number? : Json → Option PyFloat
  | .bool b => some (.fin (if b then 1 else 0))
  | .int n => some (.fin n)
  | .float x => some x
  | _ => none

mutual

/-- `x == y`: numbers by their value, dicts whatever the order of their keys. -/
def Json.eq : Json → Json → Bool
  | .null, .null => true
  | .str s, .str t => s == t
  | .list xs, .list ys => eqItems xs ys
  | .dict kvs, .dict other => eqFields kvs other && other.all fun kv => JsonDict.has kvs kv.1
  | x, y =>
    match x.number?, y.number? with
    | some a, some b => a ≠ .nan && a == b
    | _, _ => false

/-- Two lists are equal item by item. -/
def eqItems : List Json → List Json → Bool
  | [], [] => true
  | x :: xs, y :: ys => Json.eq x y && eqItems xs ys
  | _, _ => false

/-- Every field of the first is in the second. -/
def eqFields : List (String × Json) → JsonDict → Bool
  | [], _ => true
  | (k, v) :: rest, other =>
    (match other.lookup k with
      | some w => Json.eq v w
      | none => false) && eqFields rest other

end

/-! ## Text -/

/-- `str(x)`. -/
def pyStr (py : Python) : Json → String
  | .null => "None"
  | .bool b => if b then "True" else "False"
  | .int n => toString n
  | .str s => s
  | x => py.repr x

@[simp] theorem pyStr_str (py : Python) (s : String) : pyStr py (.str s) = s := rfl

/-- `str(x or "")`. -/
def textOf (py : Python) (x : Json) : String := pyStr py (x.or (.str ""))

@[simp] theorem textOf_str (py : Python) (s : String) : textOf py (.str s) = s := by
  unfold textOf Json.or
  by_cases h : s = ""
  · simp [Json.truthy, h]
  · simp [Json.truthy, h]

/-- The whitespace of `str.strip` and `str.split`. -/
def isSpace (c : Char) : Bool :=
  let n := c.toNat
  (9 ≤ n && n ≤ 13) || (28 ≤ n && n ≤ 32) || n == 0x85 || n == 0xA0 || n == 0x1680 ||
    (0x2000 ≤ n && n ≤ 0x200A) || n == 0x2028 || n == 0x2029 || n == 0x202F || n == 0x205F ||
    n == 0x3000

/-- `s.strip()`. -/
def strip (s : String) : String :=
  String.ofList ((s.toList.dropWhile isSpace).rdropWhile isSpace)

/-- `" ".join(s.split())`. -/
def collapseSpace (s : String) : String :=
  " ".intercalate ((s.toList.splitBy fun a b => !isSpace a && !isSpace b).filterMap fun w =>
    if w.any isSpace then none else some (String.ofList w))

theorem strip_strip (s : String) : strip (strip s) = strip s := by
  have hl : ((s.toList.dropWhile isSpace).rdropWhile isSpace).dropWhile isSpace =
      (s.toList.dropWhile isSpace).rdropWhile isSpace := by
    rw [List.dropWhile_eq_self_iff]
    intro hpos
    have hpre := List.rdropWhile_prefix isSpace (l := s.toList.dropWhile isSpace)
    rw [hpre.getElem hpos]
    exact List.dropWhile_eq_self_iff.1 (List.dropWhile_idempotent isSpace s.toList)
      (lt_of_lt_of_le hpos hpre.length_le)
  unfold strip
  rw [String.toList_ofList, hl, List.rdropWhile_idempotent]

/-- `name.split("!", 1)[1] if "!" in name else name`. -/
def afterBang (name : String) : String :=
  if name.toList.contains '!' then String.ofList ((name.toList.dropWhile (· ≠ '!')).drop 1)
  else name

/-- `text[:limit]`. -/
def takeChars (limit : Nat) (s : String) : String := String.ofList (s.toList.take limit)

/-- `d[k] = v`, in a dict kept as a list: an old key keeps its place. -/
def dictPut {α : Type} (d : List (String × α)) (k : String) (v : α) : List (String × α) :=
  match d with
  | [] => [(k, v)]
  | (k', w) :: rest => if k' = k then (k, v) :: rest else (k', w) :: dictPut rest k v

/-- `{**a, **b}`. -/
def dictMerge {α : Type} (a b : List (String × α)) : List (String × α) :=
  b.foldl (fun d kv => dictPut d kv.1 kv.2) a

/-- `d.setdefault(k, v)`. -/
def dictSetDefault {α : Type} (d : List (String × α)) (k : String) (v : α) : List (String × α) :=
  if (d.lookup k).isSome then d else d ++ [(k, v)]

/-- `{k: v for k, v in d.items() if k != key}`, and `d.pop(key, None)`. -/
def dictWithout {α : Type} (d : List (String × α)) (key : String) : List (String × α) :=
  d.filter fun kv => kv.1 ≠ key

theorem lookup_cons_eq (k k' : String) (v : Json) (d : JsonDict) :
    List.lookup k' ((k, v) :: d) = if k' = k then some v else d.lookup k' := by
  rw [List.lookup_cons]
  by_cases hk : k' = k
  · rw [if_pos hk, beq_iff_eq.2 hk]
  · rw [if_neg hk, beq_eq_false_iff_ne.2 hk]

theorem lookup_dictPut (k k' : String) (v : Json) : ∀ d : JsonDict,
    (dictPut d k v).lookup k' = if k' = k then some v else d.lookup k'
  | [] => lookup_cons_eq k k' v []
  | (k₀, w) :: rest => by
    unfold dictPut
    by_cases hk : k₀ = k
    · rw [if_pos hk, lookup_cons_eq, lookup_cons_eq, hk]
      split <;> rfl
    · rw [if_neg hk, lookup_cons_eq, lookup_cons_eq, lookup_dictPut k k' v rest]
      by_cases hk' : k' = k₀
      · rw [if_pos hk', if_pos hk', if_neg (hk' ▸ hk)]
      · rw [if_neg hk', if_neg hk']

/-- Reading a dict after a write. -/
theorem get_dictPut (k k' : String) (v : Json) (d : JsonDict) :
    JsonDict.get (dictPut d k v) k' = if k' = k then v else d.get k' := by
  unfold JsonDict.get
  rw [lookup_dictPut]
  split <;> rfl

/-- `needle in hay`, for strings. -/
def hasText (needle hay : String) : Bool := decide (needle.toList <:+: hay.toList)

theorem isLower_iff {c : Char} : c.isLower = true ↔ 97 ≤ c.toNat ∧ c.toNat ≤ 122 :=
  Bool.and_eq_true_iff.trans (and_congr decide_eq_true_iff decide_eq_true_iff)

/-- The letters and digits of `Char` are those of ASCII. -/
theorem toNat_lt_of_isAlphanum {c : Char} (h : c.isAlphanum = true) : c.toNat < 128 := by
  rcases Bool.or_eq_true_iff.1 h with halpha | hdigit
  · rcases Bool.or_eq_true_iff.1 halpha with hupper | hlower
    · have hle : c.toNat ≤ 90 := (of_decide_eq_true hupper).2
      omega
    · have hle := (isLower_iff.1 hlower).2
      omega
  · have hle := (Char.isDigit_iff_toNat.1 hdigit).2
    simp at hle
    omega

/-! ## The process and its tools -/

/-- The process environment, as `os.getenv` reads it. -/
abbrev Environ := String → Option String

/-- `os.getenv(name, "0") == "1"`. -/
def flag (env : Environ) (name : String) : Bool := (env name).getD "0" == "1"

inductive ToolReply where
  | returned (value : Json)
  | raised (name text : String)

/-- `except Exception as exc: result = {"ok": False, ...}`. -/
def ToolReply.value : ToolReply → Json
  | .returned v => v
  | .raised name text =>
    .dict [("ok", .bool false), ("error_type", .str name), ("sanitized_error", .str text)]

/-- The number a sequence of digits stands for. -/
def digits? (s : String) : Option Int :=
  if s.toList ≠ [] ∧ s.toList.all Char.isDigit then
    some (s.toList.foldl (fun n c => 10 * n + (c.toNat - '0'.toNat : Nat)) 0)
  else none

/-- The interpreter on ASCII text and plain digits, for concrete runs. -/
def asciiPython : Python where
  lower s := String.ofList (s.toList.map Char.toLower)
  upper s := String.ofList (s.toList.map Char.toUpper)
  repr _ := ""
  parseFloat s := (digits? s).map fun n => .fin n
  floatOfInt n := some (.fin n)
  parseInt s := digits? s
  dumps _ := ""
  stableJson _ := ""
  hmac _ _ := ""
  sha256 _ := ""
  roundText _ _ _ _ := ""
  reCompile _ := some fun _ => false
  redact _ text := text
  urlHostname _ := none
  jsonQuote s := "\"" ++ s ++ "\""
  isPrintable c := 32 ≤ c.toNat && c.toNat ≤ 126
  isAlnum c := c.isAlphanum
  isOther c := c.toNat < 32 || c.toNat == 127
  parseIso _ := none
  isoformat _ := ""

/-- The same with a table of the moments there are, each with its microseconds. -/
def tablePython (moments : List (String × Int)) : Python :=
  { asciiPython with
    parseIso := fun s => moments.lookup s
    isoformat := fun t => ((moments.find? fun moment => moment.2 = t).map Prod.fst).getD "" }

end NocAgent
