/-
# `DeliveryTracking.Webhooks.Delivery` — one attempt to deliver an event

The first attempt is made by `deliver`, which creates the `WebhookDelivery` row;
the others by the retry processor, which updates it.  They are separate code with
the same course:

    read      the webhook; the row with its webhook and company
    validate  the URL, its host resolved anew
    post      the body, signed
    record    the outcome, and when to try again

What both do is defined once here: the signed request, how an outcome is read,
and when the next attempt is due.
-/
import Mathlib.Data.List.Sort
import Mathlib.Algebra.Group.Int.Defs

namespace DeliveryTracking.Webhooks

/-! ## Payloads -/

inductive Json where
  | null
  | bool (b : Bool)
  | number (text : String)
  | string (s : String)
  | array (items : List Json)
  | object (fields : List (String × Json))

namespace Json

def escapeChar (c : Char) : List Char :=
  if c = '"' then ['\\', '"']
  else if c = '\\' then ['\\', '\\']
  else if c = '\n' then ['\\', 'n']
  else if c = '\r' then ['\\', 'r']
  else if c = '\t' then ['\\', 't']
  else if c.toNat = 8 then ['\\', 'b']
  else if c.toNat = 12 then ['\\', 'f']
  else if c.toNat < 32 then
    ['\\', 'u', '0', '0', Nat.digitChar (c.toNat / 16), Nat.digitChar (c.toNat % 16)]
  else [c]

def quote (s : String) : String := String.ofList ('"' :: s.toList.flatMap escapeChar ++ ['"'])

mutual

/-- `JSON.stringify` -/
def stringify : Json → String
  | .null => "null"
  | .bool b => if b then "true" else "false"
  | .number text => text
  | .string s => quote s
  | .array items => "[" ++ ",".intercalate (stringifyItems items) ++ "]"
  | .object fields =>
    String.singleton '{' ++ ",".intercalate (stringifyFields fields) ++ String.singleton '}'

def stringifyItems : List Json → List String
  | [] => []
  | item :: items => stringify item :: stringifyItems items

def stringifyFields : List (String × Json) → List String
  | [] => []
  | (key, value) :: fields => (quote key ++ ":" ++ stringify value) :: stringifyFields fields

end

/-- The order of the keys of a stored object: the shorter first, then by their bytes. -/
def keyLe (a b : String) : Bool :=
  a.utf8ByteSize < b.utf8ByteSize || (a.utf8ByteSize == b.utf8ByteSize && decide (a ≤ b))

mutual

/-- A payload as it comes back from a `jsonb` column. -/
def jsonb : Json → Json
  | .array items => .array (jsonbItems items)
  | .object fields => .object ((jsonbFields fields).mergeSort fun a b => keyLe a.1 b.1)
  | .null => .null
  | .bool b => .bool b
  | .number text => .number text
  | .string s => .string s

def jsonbItems : List Json → List Json
  | [] => []
  | item :: items => jsonb item :: jsonbItems items

def jsonbFields : List (String × Json) → List (String × Json)
  | [] => []
  | (key, value) :: fields => (key, jsonb value) :: jsonbFields fields

end

end Json

/-! ## Rows -/

structure Webhook where
  id : String
  companyId : String
  url : String
  secret : String
  events : List String
  isActive : Bool
  deriving DecidableEq, Repr

inductive WebhookDeliveryStatus where
  | pending
  | success
  | failed
  deriving DecidableEq, Repr

/-- A row of `webhook_deliveries`; times are in milliseconds. -/
structure WebhookDelivery where
  id : String
  webhookId : String
  event : String
  payload : Json
  status : WebhookDeliveryStatus
  responseStatusCode : Option Nat
  responseBody : Option String
  attempts : Nat
  maxAttempts : Nat
  nextRetryAt : Option Int
  completedAt : Option Int

/-! ## The request and its outcome -/

/-- A request; `key` is what it was signed with, which no receiver sees. -/
structure Post where
  url : String
  event : String
  body : String
  signature : String
  key : String
  deriving DecidableEq, Repr

section

variable (hmac : String → String → String)

/-- `signPayload`; `hmac` is HMAC-SHA256 of a key and a text, in hexadecimal. -/
def signPayload (payload secret : String) : String := hmac secret payload

/-- The request that carries a payload. -/
def signedPost (url secret event : String) (payload : Json) : Post where
  url := url
  event := event
  body := payload.stringify
  signature := signPayload hmac payload.stringify secret
  key := secret

/-- A receiver checks the signature with the secret it was given. -/
def Post.Verifies (post : Post) (secret : String) : Prop := post.signature = hmac secret post.body

end

/-- An error thrown by `fetch`, or by reading the text of a response. -/
structure FetchError where
  name : String
  message : String
  deriving DecidableEq, Repr

inductive Outcome where
  | response (status : Nat) (text : Except FetchError String)
  | error (e : FetchError)

/-- `slice(0, 5000)` -/
def clip (s : String) : String := String.ofList (s.toList.take 5000)

structure Attempt where
  statusCode : Nat
  responseBody : String
  successful : Bool
  deriving DecidableEq, Repr

/-- The `catch` around the request. -/
def FetchError.attempt (e : FetchError) : Attempt where
  statusCode := if e.name = "AbortError" then 408 else 0
  responseBody := clip (if e.message = "" then "Unknown error" else e.message)
  successful := false

def Outcome.attempt : Outcome → Attempt
  | .response status text =>
    if 300 ≤ status ∧ status < 400 then
      ⟨422, "Webhook delivery does not follow redirects", false⟩
    else
      match text with
      | .ok text => ⟨status, clip text, decide (200 ≤ status ∧ status < 300)⟩
      | .error e => e.attempt
  | .error e => e.attempt

def Attempt.status (attempt : Attempt) : WebhookDeliveryStatus :=
  if attempt.successful then .success else .failed

/-- When the next attempt is due, after this many. -/
def nextRetryAt (successful : Bool) (attempts maxAttempts : Nat) (now : Int) : Option Int :=
  if !successful && decide (0 < (maxAttempts : Int) - attempts) then
    some (now + 2 ^ attempts * 60000)
  else none

theorem nextRetryAt_isSome_iff {successful : Bool} {attempts maxAttempts : Nat} {now : Int} :
    (nextRetryAt successful attempts maxAttempts now).isSome = true ↔
      successful = false ∧ attempts < maxAttempts := by
  unfold nextRetryAt
  split
  · rename_i h
    simp only [Bool.and_eq_true, Bool.not_eq_true', decide_eq_true_eq] at h
    exact iff_of_true rfl ⟨h.1, by omega⟩
  · rename_i h
    simp only [Bool.and_eq_true, Bool.not_eq_true', decide_eq_true_eq, not_and] at h
    refine iff_of_false (by decide) ?_
    rintro ⟨hfailed, hlt⟩
    exact h hfailed (by omega)

/-! ## `deliver` and `process` -/

/-- The row `deliver` creates; the payload is stored as `jsonb`. -/
def firstRow (id webhookId event : String) (payload : Json) (attempt : Attempt) (now : Int) :
    WebhookDelivery where
  id := id
  webhookId := webhookId
  event := event
  payload := payload.jsonb
  status := attempt.status
  responseStatusCode := some attempt.statusCode
  responseBody := some attempt.responseBody
  attempts := 1
  maxAttempts := 5
  nextRetryAt := nextRetryAt attempt.successful 1 5 now
  completedAt := none

namespace WebhookDelivery

variable (delivery : WebhookDelivery)

/-- `process` has nothing to do. -/
def finished : Bool := delivery.status == .success || decide (delivery.maxAttempts ≤ delivery.attempts)

/-- The update after a retry; `read` is the row as it was read. -/
def retried (read : WebhookDelivery) (attempt : Attempt) (now : Int) : WebhookDelivery :=
  { delivery with
    status := attempt.status
    responseStatusCode := some attempt.statusCode
    responseBody := some attempt.responseBody
    attempts := read.attempts + 1
    nextRetryAt := Webhooks.nextRetryAt attempt.successful (read.attempts + 1) read.maxAttempts now
    completedAt := if attempt.successful then some now else none }

/-- The update that ends the retries. -/
def stopped : WebhookDelivery := { delivery with status := .failed, nextRetryAt := none }

/-- The row may be in a database: it is scheduled only while it is failed and has attempts left, and
it was tried once and never too often. -/
structure Consistent : Prop where
  scheduled : delivery.nextRetryAt.isSome → delivery.status = .failed ∧
    delivery.attempts < delivery.maxAttempts
  tried : 1 ≤ delivery.attempts
  bounded : delivery.attempts ≤ delivery.maxAttempts

variable {delivery}

theorem Consistent.stopped (h : delivery.Consistent) : delivery.stopped.Consistent :=
  ⟨nofun, h.tried, h.bounded⟩

theorem attempts_lt (h : delivery.finished = false) : delivery.attempts < delivery.maxAttempts := by
  unfold finished at h
  simpa using (Bool.or_eq_false_iff.mp h).2

theorem Consistent.retried (h : delivery.finished = false) (attempt : Attempt) (now : Int) :
    (delivery.retried delivery attempt now).Consistent where
  scheduled hsome := by
    obtain ⟨hfailed, hlt⟩ := nextRetryAt_isSome_iff.mp hsome
    refine ⟨?_, hlt⟩
    simp [WebhookDelivery.retried, Attempt.status, hfailed]
  tried := Nat.le_add_left 1 _
  bounded := attempts_lt h

end WebhookDelivery

theorem firstRow_consistent (id webhookId event : String) (payload : Json) (attempt : Attempt)
    (now : Int) : (firstRow id webhookId event payload attempt now).Consistent where
  scheduled hsome := by
    obtain ⟨hfailed, hlt⟩ := nextRetryAt_isSome_iff.mp hsome
    refine ⟨?_, hlt⟩
    simp [firstRow, Attempt.status, hfailed]
  tried := Nat.le_refl 1
  bounded := by simp [firstRow]

/-! ## What a row is about -/

/-- The row stores a payload sent to a webhook. -/
structure WebhookDelivery.Stores (delivery : WebhookDelivery) (webhookId event : String)
    (payload : Json) : Prop where
  webhookId : delivery.webhookId = webhookId
  event : delivery.event = event
  payload : delivery.payload = payload.jsonb

section

variable {delivery : WebhookDelivery} {webhookId event : String} {payload : Json}

/-- The row that `deliver` creates stores what it sent, -/
theorem firstRow_stores (id : String) (attempt : Attempt) (now : Int) :
    (firstRow id webhookId event payload attempt now).Stores webhookId event payload :=
  ⟨rfl, rfl, rfl⟩

/-- and so it does after a retry. -/
theorem WebhookDelivery.Stores.retried (h : delivery.Stores webhookId event payload)
    (read : WebhookDelivery) (attempt : Attempt) (now : Int) :
    (delivery.retried read attempt now).Stores webhookId event payload :=
  ⟨h.webhookId, h.event, h.payload⟩

end

/-- The row was delivered, or will be tried again, or was tried as often as it may be. -/
def WebhookDelivery.Accounted (delivery : WebhookDelivery) : Prop :=
  delivery.status = .success ∨
    delivery.status = .failed ∧
      (delivery.nextRetryAt.isSome = true ∨ delivery.attempts = delivery.maxAttempts)

theorem accounted_of_attempt {attempt : Attempt} {attempts maxAttempts : Nat} {now : Int}
    (hle : attempts ≤ maxAttempts) :
    attempt.status = .success ∨ attempt.status = .failed ∧
      ((nextRetryAt attempt.successful attempts maxAttempts now).isSome = true ∨
        attempts = maxAttempts) := by
  cases hsuccess : attempt.successful with
  | true => exact Or.inl (by simp [Attempt.status, hsuccess])
  | false =>
    refine Or.inr ⟨by simp [Attempt.status, hsuccess], ?_⟩
    rcases Nat.lt_or_eq_of_le hle with hlt | heq
    · exact Or.inl (nextRetryAt_isSome_iff.mpr ⟨rfl, hlt⟩)
    · exact Or.inr heq

/-- Both rows an attempt leaves are accounted for; -/
theorem firstRow_accounted (id webhookId event : String) (payload : Json) (attempt : Attempt)
    (now : Int) : (firstRow id webhookId event payload attempt now).Accounted :=
  accounted_of_attempt (by decide)

theorem WebhookDelivery.retried_accounted {delivery : WebhookDelivery}
    (h : delivery.finished = false) (attempt : Attempt) (now : Int) :
    (delivery.retried delivery attempt now).Accounted :=
  accounted_of_attempt (WebhookDelivery.attempts_lt h)

/-- a row that is stopped with attempts left is not. -/
theorem WebhookDelivery.not_stopped_accounted {delivery : WebhookDelivery}
    (h : delivery.finished = false) : ¬ delivery.stopped.Accounted := by
  have hlt := WebhookDelivery.attempts_lt h
  rintro (hstatus | ⟨-, hnext | hall⟩)
  · cases hstatus
  · cases hnext
  · have heq : delivery.attempts = delivery.maxAttempts := hall
    omega

end DeliveryTracking.Webhooks
