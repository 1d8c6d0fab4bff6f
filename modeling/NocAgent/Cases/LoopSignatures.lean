import NocAgent.Cases.OperatorDecisions
import NocAgent.Cases.Sanitizers

/-!
# Signed requests between loops

* `buildLoopSignature`, `verifyLoopSignature` — the signature of a request.
* `lhpTimestampFresh`, `requireLoopRequest` — what a request must show before it is served.
* `LoopRequest` — a request whose timestamp parses and whose path is one line.
* `SpelledApart` — the characters that are signed tell the methods and the timestamps apart.
* `bindsRequest_iff` — a signature is good for two requests that differ exactly when they are not
  spelled apart.
-/

set_option autoImplicit false

namespace NocAgent.Cases

open PrefixCode

/-! ## Signatures -/

/-- `"\n".join(texts)`. -/
def joinLines (texts : List String) : String := String.intercalate "\n" texts

/-- What is signed. -/
def signedMessage (py : Python) (method path timestamp : String) (body : Json) : String :=
  joinLines [sanitizeLhpToken py (py.upper method) 16, path, sanitizeLhpToken py timestamp 80,
    canonicalLhpJson py body]

def buildLoopSignature (py : Python) (secret method path timestamp : String) (body : Json) :
    Except PyExc String :=
  if secret = "" then .error .valueError
  else .ok (py.hmac secret (signedMessage py method path timestamp body))

/-- `hmac.compare_digest` of two strings. -/
def compareDigest (a b : String) : Except PyExc Bool :=
  if (a.toList ++ b.toList).all fun c => c.toNat < 128 then .ok (a == b) else .error .typeError

def verifyLoopSignature (py : Python) (secret method path timestamp : String) (body : Json)
    (signature : Option String) : Except PyExc Bool :=
  match signature with
  | none => .ok false
  | some signature =>
    if signature = "" then .ok false
    else do
      let expected ← buildLoopSignature py secret method path timestamp body
      compareDigest signature expected

/-! ## What a request must show -/

/-- The first and the last microsecond that `datetime` has in UTC. -/
def UTC_MIN : Int := -62135596800000000

def UTC_MAX : Int := 253402300799999999

/-- The moment that `_lhp_timestamp_fresh` reads. -/
def lhpInstant (py : Python) (value : String) : Option Int :=
  if value = "" then none else py.parseIso value

/-- `_lhp_timestamp_fresh`. -/
def lhpTimestampFresh (py : Python) (now : Int) (value : String) (maxSkewS : Int := 300) :
    Except PyExc Bool :=
  match lhpInstant py value with
  | none => .ok false
  | some parsed =>
    -- `astimezone` of a moment that has no date in UTC
    if parsed < UTC_MIN ∨ UTC_MAX < parsed then .error .overflowError
    else .ok (decide (|now - parsed| ≤ maxSkewS * 1000000))

/-- A request, with the headers that are read, empty where they are missing. -/
structure LoopHttpRequest where
  method : String
  path : String
  loopIdentity : String
  loopTimestamp : String
  loopSignature : Option String

/-- The checks that both guards make; `loop` is the name of the other loop in the details. -/
def requireLoopRequest (py : Python) (identity loop unset secret : String) (now : Int)
    (request : LoopHttpRequest) (body : Json) : Except PyExc Unit := do
  let secret := strip secret
  if secret = "" then throw (httpException 503 unset)
  if strip request.loopIdentity ≠ identity then
    throw (httpException 401 ("Invalid " ++ loop ++ " identity"))
  let timestamp := strip request.loopTimestamp
  let fresh ← lhpTimestampFresh py now timestamp
  if !fresh then throw (httpException 401 ("Invalid " ++ loop ++ " timestamp"))
  let verified ← verifyLoopSignature py secret request.method request.path timestamp body
    request.loopSignature
  if !verified then throw (httpException 401 ("Invalid " ++ loop ++ " signature"))

/-- `_require_loop_console_request`. -/
def requireLoopConsoleRequest (py : Python) : String → Int → LoopHttpRequest → Json →
    Except PyExc Unit :=
  requireLoopRequest py "observatory" "loop console" "Loop Console shared secret is not configured"

/-- `_require_lhp_loop_request`. -/
def requireLhpLoopRequest (py : Python) (enabled : Bool) (secret : String) (now : Int)
    (request : LoopHttpRequest) (body : Json) : Except PyExc Unit := do
  if !enabled then throw (httpException 404 "LHP is not enabled")
  requireLoopRequest py "engineering" "loop" "LHP Engineering shared secret is not configured"
    secret now request body

/-! ## What a signature binds -/

/-- A request whose timestamp parses and whose path is one line. -/
structure LoopRequest (py : Python) where
  method : String
  path : String
  timestamp : String
  body : Json
  /-- The moment that the timestamp denotes. -/
  instant : Int
  parses : lhpInstant py timestamp = some instant
  oneLine : '\n' ∉ path.toList

/-- The digest is 64 hexadecimal digits, and a line feed is not alphanumeric. -/
structure SignatureLaws (py : Python) (secret : String) : Prop where
  digest : ∀ text, HexText (py.hmac secret text) ∧ (py.hmac secret text).length = 64
  lineFeed : py.isAlnum '\n' = false

section Binding

variable {py : Python} (secret : String)

def LoopRequest.message (r : LoopRequest py) : String :=
  signedMessage py r.method r.path r.timestamp r.body

def LoopRequest.verify (r : LoopRequest py) (signature : Option String) : Except PyExc Bool :=
  verifyLoopSignature py secret r.method r.path r.timestamp r.body signature

/-- The two messages are no collision. -/
def CollisionFree (a b : LoopRequest py) : Prop :=
  py.hmac secret a.message = py.hmac secret b.message → a.message = b.message

/-- **A signature that is accepted for both requests binds them to each other.** -/
def BindsRequest (a b : LoopRequest py) : Prop :=
  ∀ signature, a.verify secret signature = .ok true → b.verify secret signature = .ok true →
    py.upper a.method = py.upper b.method ∧ a.path = b.path ∧ a.instant = b.instant ∧
      canonicalLhpJson py a.body = canonicalLhpJson py b.body

/-- Two requests for one path and with one body, in which the characters that are kept of the
methods and of the timestamps are the same, have one method and one moment. -/
def SpelledApart (a b : LoopRequest py) : Prop :=
  a.path = b.path → canonicalLhpJson py a.body = canonicalLhpJson py b.body →
    sanitizeLhpToken py (py.upper a.method) 16 = sanitizeLhpToken py (py.upper b.method) 16 →
    sanitizeLhpToken py a.timestamp 80 = sanitizeLhpToken py b.timestamp 80 →
      py.upper a.method = py.upper b.method ∧ a.instant = b.instant

end Binding

section Messages

variable {py : Python} {secret : String}

/-- What a token keeps is allowed, or is in the word for nothing. -/
theorem mem_sanitizeLhpToken {text : String} {limit : Nat} {c : Char}
    (h : c ∈ (sanitizeLhpToken py text limit).toList) :
    tokenChar py c = true ∨ c ∈ "unknown".toList := by
  rw [sanitizeLhpToken_eq, toList_takeChars] at h
  have hmem := List.mem_of_mem_take h
  split at hmem
  · exact Or.inr hmem
  · rw [String.toList_ofList] at hmem
    exact Or.inl (List.mem_filter.1 hmem).2

theorem lineFeed_not_mem_token (hline : py.isAlnum '\n' = false) (text : String) (limit : Nat) :
    ∀ c ∈ (sanitizeLhpToken py text limit).toList, ¬ c = '\n' := by
  rintro c hc rfl
  rcases mem_sanitizeLhpToken hc with hkept | hword
  · simp [tokenChar, hline] at hkept
  · revert hword
    decide

theorem toList_signedMessage (method path timestamp : String) (body : Json) :
    (signedMessage py method path timestamp body).toList =
      (sanitizeLhpToken py (py.upper method) 16).toList ++ '\n' :: (path.toList ++ '\n' ::
        ((sanitizeLhpToken py timestamp 80).toList ++ '\n' ::
          (canonicalLhpJson py body).toList)) := by
  simp [signedMessage, joinLines]

/-- **A message is read back in its four parts.** -/
theorem message_eq_iff (hline : py.isAlnum '\n' = false) (a b : LoopRequest py) :
    a.message = b.message ↔
      sanitizeLhpToken py (py.upper a.method) 16 = sanitizeLhpToken py (py.upper b.method) 16 ∧
      a.path = b.path ∧
      sanitizeLhpToken py a.timestamp 80 = sanitizeLhpToken py b.timestamp 80 ∧
      canonicalLhpJson py a.body = canonicalLhpJson py b.body := by
  constructor
  · intro h
    have htext := congrArg String.toList h
    unfold LoopRequest.message at htext
    rw [toList_signedMessage, toList_signedMessage] at htext
    have hstops : ∀ rest : List Char, StopsAt (· = '\n') ('\n' :: rest) := fun _ =>
      stopsAt_cons.2 rfl
    have hpath : ∀ r : LoopRequest py, ∀ c ∈ r.path.toList, ¬ c = '\n' := by
      rintro r c hc rfl
      exact r.oneLine hc
    obtain ⟨hmethod, htext⟩ := eq_of_append_stops (lineFeed_not_mem_token hline _ _)
      (lineFeed_not_mem_token hline _ _) (hstops _) (hstops _) htext
    obtain ⟨hsame, htext⟩ := eq_of_append_stops (hpath a) (hpath b) (hstops _) (hstops _)
      (List.cons.inj htext).2
    obtain ⟨htimestamp, htext⟩ := eq_of_append_stops (lineFeed_not_mem_token hline _ _)
      (lineFeed_not_mem_token hline _ _) (hstops _) (hstops _) (List.cons.inj htext).2
    exact ⟨String.toList_injective hmethod, String.toList_injective hsame,
      String.toList_injective htimestamp, String.toList_injective (List.cons.inj htext).2⟩
  · rintro ⟨hmethod, hpath, htimestamp, hbody⟩
    unfold LoopRequest.message signedMessage
    rw [hmethod, hpath, htimestamp, hbody]

theorem ascii_of_hexText {s : String} (h : HexText s) : s.toList.all (fun c => c.toNat < 128) = true := by
  rw [List.all_eq_true]
  intro c hc
  have hhex : "0123456789abcdef".toList.all (fun c => c.toNat < 128) = true := by decide
  exact List.all_eq_true.1 hhex c (h c hc)

/-- Without a secret nothing is accepted. -/
theorem not_verify_of_unset (r : LoopRequest py) (signature : Option String) :
    r.verify "" signature ≠ .ok true := by
  intro h
  unfold LoopRequest.verify verifyLoopSignature buildLoopSignature at h
  cases signature with
  | none => cases h
  | some signature =>
    by_cases hempty : signature = ""
    · simp [hempty] at h
    · simp only [if_neg hempty] at h
      cases h

/-- **The signature that is accepted is the digest of the message.** -/
theorem verify_iff (laws : SignatureLaws py secret) (hsecret : secret ≠ "") (r : LoopRequest py)
    (signature : Option String) :
    r.verify secret signature = .ok true ↔ signature = some (py.hmac secret r.message) := by
  obtain ⟨hhex, hlength⟩ := laws.digest r.message
  have hexpected : buildLoopSignature py secret r.method r.path r.timestamp r.body =
      .ok (py.hmac secret r.message) := if_neg hsecret
  unfold LoopRequest.verify verifyLoopSignature
  cases signature with
  | none => simp
  | some signature =>
    by_cases hempty : signature = ""
    · have hne : signature ≠ py.hmac secret r.message := by
        rw [hempty]
        intro h
        rw [← h] at hlength
        cases hlength
      simp [hempty, hempty ▸ hne]
    · simp only [if_neg hempty, hexpected]
      change compareDigest signature (py.hmac secret r.message) = .ok true ↔ _
      unfold compareDigest
      rw [List.all_append, ascii_of_hexText hhex, Bool.and_true, Option.some.injEq]
      constructor
      · intro h
        split at h
        · exact beq_iff_eq.1 (Except.ok.inj h)
        · cases h
      · rintro rfl
        rw [if_pos (ascii_of_hexText hhex), beq_self_eq_true]

/-- **A signature binds two requests to each other exactly when they are spelled apart.** -/
theorem bindsRequest_iff (laws : SignatureLaws py secret) (a b : LoopRequest py)
    (hapart : CollisionFree secret a b) :
    BindsRequest secret a b ↔ secret = "" ∨ SpelledApart a b := by
  by_cases hsecret : secret = ""
  · subst hsecret
    exact iff_of_true (fun signature ha => absurd ha (not_verify_of_unset a signature)) (Or.inl rfl)
  · constructor
    · intro h
      refine Or.inr fun hpath hbody hmethod htimestamp => ?_
      have hmessage := (message_eq_iff laws.lineFeed a b).2 ⟨hmethod, hpath, htimestamp, hbody⟩
      have ha := (verify_iff laws hsecret a _).2 rfl
      have hb := (verify_iff laws hsecret b (some (py.hmac secret a.message))).2 (by rw [hmessage])
      obtain ⟨hupper, -, hinstant, -⟩ := h _ ha hb
      exact ⟨hupper, hinstant⟩
    · rintro (hunset | h) signature ha hb
      · exact absurd hunset hsecret
      · have hsame := Option.some.inj
          (((verify_iff laws hsecret a signature).1 ha).symm.trans
            ((verify_iff laws hsecret b signature).1 hb))
        obtain ⟨hmethod, hpath, htimestamp, hbody⟩ :=
          (message_eq_iff laws.lineFeed a b).1 (hapart hsame)
        obtain ⟨hupper, hinstant⟩ := h hpath hbody hmethod htimestamp
        exact ⟨hupper, hpath, hinstant, hbody⟩

end Messages

/-! ## A timestamp that reads as another one -/

/-- Two timestamps an hour apart, and a digest of 64 digits. -/
def signingPython : Python :=
  { tablePython [("2026-01-01T00:00:00.123456+0100", 1767222000123456),
      ("2026-01-01T00:00:00.1234560100", 1767225600123456)] with
    hmac := fun _ text => String.ofList (List.replicate 64 (Nat.digitChar (text.length % 10))) }

theorem signingPython_laws (secret : String) : SignatureLaws signingPython secret := by
  refine ⟨fun text => ⟨fun c hc => ?_, ?_⟩, by decide⟩
  · have hdigits : ∀ d < 10, Nat.digitChar d ∈ "0123456789abcdef".toList := by decide
    have hc : c ∈ List.replicate 64 (Nat.digitChar (text.length % 10)) := by
      simpa [signingPython] using hc
    rw [List.eq_of_mem_replicate hc]
    exact hdigits _ (Nat.mod_lt _ (by decide))
  · simp [signingPython]

/-- A request whose timestamp has an offset. -/
def capturedRequest (path : String) (h : '\n' ∉ path.toList) : LoopRequest signingPython where
  method := "POST"
  path := path
  timestamp := "2026-01-01T00:00:00.123456+0100"
  body := .dict []
  instant := 1767222000123456
  parses := by decide
  oneLine := h

/-- The same request without the sign of the offset, which makes it part of the fraction. -/
def replayedRequest (path : String) (h : '\n' ∉ path.toList) : LoopRequest signingPython where
  method := "POST"
  path := path
  timestamp := "2026-01-01T00:00:00.1234560100"
  body := .dict []
  instant := 1767225600123456
  parses := by decide
  oneLine := h

/-- The headers that the Loop Console sends with a request. -/
def LoopRequest.http {py : Python} (r : LoopRequest py) (signature : String) : LoopHttpRequest where
  method := r.method
  path := r.path
  loopIdentity := "observatory"
  loopTimestamp := r.timestamp
  loopSignature := some signature

/-- An hour after a request was captured it is stale, and its signature is good for the other
timestamp, which is fresh. -/
theorem timestamp_replayed :
    let captured := capturedRequest "/x" (by decide)
    let replayed := replayedRequest "/x" (by decide)
    let signature := signingPython.hmac "key" captured.message
    SignatureLaws signingPython "key" ∧ CollisionFree "key" captured replayed ∧
      ¬ BindsRequest "key" captured replayed ∧
      requireLoopConsoleRequest signingPython "key" 1767225600123456 (captured.http signature)
        captured.body = .error (httpException 401 "Invalid loop console timestamp") ∧
      requireLoopConsoleRequest signingPython "key" 1767225600123456 (replayed.http signature)
        replayed.body = .ok () := by
  intro captured replayed signature
  have hmessage : captured.message = replayed.message := by decide +kernel
  refine ⟨signingPython_laws "key", fun _ => hmessage, fun h => ?_, ?_, ?_⟩
  · have hlaws := signingPython_laws "key"
    have hsecret : "key" ≠ "" := by decide
    have hcaptured := (verify_iff hlaws hsecret captured (some signature)).2 rfl
    have hreplayed := (verify_iff hlaws hsecret replayed (some signature)).2
      (congrArg (fun text => some (signingPython.hmac "key" text)) hmessage)
    have hinstant := (h _ hcaptured hreplayed).2.2.1
    revert hinstant
    decide
  · decide +kernel
  · decide +kernel

/-- Two requests for different paths. -/
theorem bindsRequest_otherPath :
    BindsRequest "key" (capturedRequest "/x" (by decide)) (replayedRequest "/x/y" (by decide)) := by
  refine (bindsRequest_iff (signingPython_laws "key") _ _ fun h => ?_).2 (Or.inr fun h => ?_)
  · revert h
    decide +kernel
  · revert h
    decide

end NocAgent.Cases
