import NocAgent.Lib.Action
import NocAgent.Lib.Table
import NocAgent.Python.Value

/-!
# Polling the mailbox

A poll fetches every unseen message, which marks it as seen, and then drafts a reply to each.

* `parseMessage` — a message as the email package reads it.
* `fetchUnseenMessages`, `processMessages`, `processMailboxOnce` — one poll; what the server, the
  model and the draft directory do is part of each arrival.
-/

set_option autoImplicit false

namespace NocAgent.Mail

open Effects Keyed

/-! ## Parsing -/

def ROLE_ADDRESSES : List String :=
  ["noc@as215932.net", "abuse@as215932.net", "peering@as215932.net", "dh@as215932.net"]

def NO_RESPONSE_SYSTEM_SENDERS : List String := ["root", "cron", "daemon", "operator"]

def NO_RESPONSE_SUBJECT_MARKERS : List String :=
  ["cron ", "cron:", "daily output", "daily security output", "periodic output", "logwatch",
    "unattended-upgrades"]

/-- A message of the inbox. -/
structure InboundMail where
  uid : String
  messageId : Option String
  fromAddress : String
  toAddresses : List String
  originalRecipient : Option String
  subject : String
  textBody : String
  receivedAt : Option String

/-- A part of a message; `text` is its decoded payload, or what decoding raises. -/
structure MailPart where
  contentType : String
  disposition : Option String
  text : Except PyExc String

/-- A message of the email package; a part is multipart or not, `walk` lists all of them. -/
structure EmailMessage where
  headers : List (String × String)
  multipart : Bool
  walk : List MailPart
  text : Except PyExc String

/-- `email.utils.getaddresses` and the parser. -/
structure EmailPackage where
  parsebytes : List Char → Except PyExc EmailMessage
  getaddresses : List String → List (String × String)

section Parsing

variable (py : Python) (email : EmailPackage)

/-- `message.get_all(name, [])`; names are compared without case. -/
def EmailMessage.getAll (message : EmailMessage) (name : String) : List String :=
  (message.headers.filter fun header => py.lower header.1 = name).map Prod.snd

/-- `message.get(name)`. -/
def EmailMessage.get (message : EmailMessage) (name : String) : Option String :=
  (message.getAll py name).head?

/-- The text of the first inline part of a type. -/
def EmailMessage.inlineText (message : EmailMessage) (contentType : String) :
    Option (Except PyExc String) :=
  (message.walk.find? fun part =>
    part.contentType = contentType ∧ part.disposition.getD "" = "").map MailPart.text

/-- `_extract_text_body`. -/
def extractTextBody (message : EmailMessage) : Except PyExc String :=
  if message.multipart then
    match message.inlineText "text/plain" with
    | some text => text
    | none =>
      match message.inlineText "text/html" with
      | some text => text
      | none => .ok ""
  else message.text

/-- `_addresses_from_headers`. -/
def addressesFromHeaders (message : EmailMessage) (headers : List String) : List String :=
  ((email.getaddresses (headers.flatMap (message.getAll py))).filter fun a => a.2 ≠ "").map
    fun a => py.lower a.2

/-- `_first_address`. -/
def firstAddress (value : String) : String :=
  match email.getaddresses [value] with
  | [] => ""
  | a :: _ => py.lower a.2

/-- `_find_original_recipient`. -/
def findOriginalRecipient (message : EmailMessage) (toAddresses : List String) : Option String :=
  let delivered := ["x-original-to", "delivered-to"].flatMap fun header =>
    (email.getaddresses (message.getAll py header)).map fun a => py.lower a.2
  (delivered ++ toAddresses).find? fun addr => ROLE_ADDRESSES.contains addr

def parseMessage (uid : String) (raw : List Char) : Except PyExc InboundMail := do
  let message ← email.parsebytes raw
  let textBody ← extractTextBody message
  let toAddresses := addressesFromHeaders py email message
    ["to", "cc", "delivered-to", "x-original-to"]
  pure {
    uid := uid
    messageId := message.get py "message-id"
    fromAddress := firstAddress py email ((message.get py "from").getD "")
    toAddresses := toAddresses
    originalRecipient := findOriginalRecipient py email message toAddresses
    subject := (message.get py "subject").getD "(no subject)"
    textBody := textBody
    receivedAt := message.get py "date" }

def mailNeedsNoResponse (message : InboundMail) : Bool :=
  let senderLocal := py.lower (String.ofList (message.fromAddress.toList.takeWhile (· ≠ '@')))
  NO_RESPONSE_SYSTEM_SENDERS.contains senderLocal &&
    NO_RESPONSE_SUBJECT_MARKERS.any fun marker => hasText marker (py.lower message.subject)

/-- `_draft_id`. -/
def draftIdOf (message : InboundMail) : String :=
  let basis := match message.messageId with
    | some id => if id ≠ "" then id
        else message.uid ++ ":" ++ message.subject ++ ":" ++ message.fromAddress
    | none => message.uid ++ ":" ++ message.subject ++ ":" ++ message.fromAddress
  takeChars 16 (py.sha256 basis)

end Parsing

/-! ## Drafts -/

/-- What the model writes for a message. -/
structure MailDraftPlan where
  classification : String
  urgency : String
  summary : String
  requiresHuman : Bool := true
  suggestedReplySubject : String
  replySummary : String
  suggestedReplyBody : String
  internalNotes : List String := []

/-- A draft as it is stored. -/
structure StoredDraft where
  draftId : String
  createdAt : String
  sourceUid : String
  sourceMessageId : Option String
  originalRecipient : Option String
  sender : String
  subject : String
  plan : MailDraftPlan
  approvalRequired : Bool := true
  sent : Bool := false

/-- The draft that `draft_reply_for_message` returns for the plan of the model. -/
def storedDraft (py : Python) (message : InboundMail) (createdAt : String) (plan : MailDraftPlan) :
    StoredDraft where
  draftId := draftIdOf py message
  createdAt := createdAt
  sourceUid := message.uid
  sourceMessageId := message.messageId
  originalRecipient := message.originalRecipient
  sender := message.fromAddress
  subject := message.subject
  plan := { plan with requiresHuman := true }

/-! ## What a poll meets -/

/-- An item of the data of a fetch: a pair holds the message. -/
inductive FetchItem where
  | pair (raw : List Char)
  | other

inductive FetchReply where
  | raised (e : PyExc)
  | answered (status : String) (data : List FetchItem)

/-- `_raw_rfc822`. -/
def rawRfc822 (data : List FetchItem) : Option (List Char) :=
  data.findSome? fun item =>
    match item with
    | .pair raw => some raw
    | .other => none

/-- The message of a fetch, if it has one. -/
def FetchReply.raw? : FetchReply → Option (List Char)
  | .raised _ => none
  | .answered status data => if status ≠ "OK" ∨ data = [] then none else rawRfc822 data

/-- How writing the draft file ends. -/
inductive DraftWrite where
  | written
  /-- the file is not opened -/
  | refused (e : PyExc)
  /-- the file is emptied, and then writing fails -/
  | torn (e : PyExc)

/-- An unseen message, and what happens to it if the poll gets to it. -/
structure Arrival where
  uid : String
  reply : FetchReply
  /-- the fetch leaves the message seen -/
  marks : Bool
  /-- a fetch that gives the message does -/
  sets : ∀ raw, reply.raw? = some raw → marks = true
  model : Except PyExc MailDraftPlan
  createdAt : String
  write : DraftWrite
  /-- what `_save_draft_to_imap` raises before it connects -/
  imapError : Option PyExc := none

/-- One poll: the messages that the search lists, by different uids. -/
structure Poll where
  /-- what raises before the first fetch -/
  startError : Option PyExc := none
  arrivals : List Arrival
  nodup : (arrivals.map Arrival.uid).Nodup
  /-- what leaving the connection raises -/
  logoutError : Option PyExc := none
  /-- what raises after the last message -/
  finishError : Option PyExc := none

inductive DraftFile where
  | stored (draft : StoredDraft)
  | broken

/-- What the poll has done so far. -/
structure MailState where
  /-- the listed messages that are seen now -/
  seen : List String := []
  /-- the draft files that were written -/
  drafts : Index String DraftFile := Index.empty
  noResponse : List String := []

/-! ## The poll -/

section Polling

variable (py : Python) (email : EmailPackage)

/-- Raise it, if there is one. -/
def raiseSome (e : Option PyExc) : Action MailState PyExc Unit :=
  match e with
  | some e => Action.raise e
  | none => pure ()

/-- The fetch of one message. -/
def fetchOne (a : Arrival) : Action MailState PyExc (Option InboundMail) := do
  Action.alter fun s => if a.marks then { s with seen := s.seen ++ [a.uid] } else s
  match a.reply with
  | .raised e => Action.raise e
  | .answered _ _ =>
    match a.reply.raw? with
    | none => pure none
    | some raw => do
      let message ← Action.ofResult (parseMessage py email a.uid raw)
      pure (some message)

/-- `fetch_unseen_messages`, from the first fetch on. -/
def fetchUnseenMessages : List Arrival → Action MailState PyExc (List (Arrival × InboundMail))
  | [] => pure []
  | a :: rest => do
    let message ← fetchOne py email a
    let messages ← fetchUnseenMessages rest
    pure (match message with
      | some message => (a, message) :: messages
      | none => messages)

/-- `store_draft`. -/
def storeDraft (a : Arrival) (draft : StoredDraft) : Action MailState PyExc Unit :=
  match a.write with
  | .refused e => Action.raise e
  | .torn e => do
    Action.alter fun s => { s with drafts := s.drafts.set draft.draftId .broken }
    Action.raise e
  | .written => do
    Action.alter fun s => { s with drafts := s.drafts.set draft.draftId (.stored draft) }
    raiseSome a.imapError

/-- One round of the loop of `process_mailbox_once`. -/
def processMessage (p : Arrival × InboundMail) : Action MailState PyExc Unit :=
  if mailNeedsNoResponse py p.2 then
    Action.alter fun s => { s with noResponse := s.noResponse ++ [p.2.uid] }
  else do
    let plan ← Action.ofResult p.1.model
    storeDraft p.1 (storedDraft py p.2 p.1.createdAt plan)

def processMessages : List (Arrival × InboundMail) → Action MailState PyExc Unit
  | [] => pure ()
  | p :: rest => do
    processMessage py p
    processMessages rest

def processMailboxOnce (poll : Poll) : Action MailState PyExc Unit := do
  raiseSome poll.startError
  let messages ← fetchUnseenMessages py email poll.arrivals
  raiseSome poll.logoutError
  processMessages py messages
  raiseSome poll.finishError

end Polling

end NocAgent.Mail
