/-
# `DeliveryTracking.Webhooks.Signature` — the key a webhook is signed with

The first attempt reads the webhook itself, the retry reads the row of the
delivery with the webhook included:

    deliver    webhook.findUnique                            at the top
    process    webhookDelivery.findUnique include webhook    below the top

The middleware decrypts the first and not the second.  `same_signing_iff`: both
sign the body they send, and with one key exactly when encryption is off or the
stored secret is no ciphertext.
-/
import DeliveryTracking.Encryption.Middleware
import DeliveryTracking.Webhooks.Delivery

namespace DeliveryTracking.Webhooks

open Encryption

/-! ## The database behind the service -/

section

variable (service : EncryptionService)

/-- The database after an operation; without a key there is no middleware. -/
def write (db : EncDb) (iv : Nat → String → Iv) (op : Operation) : EncDb :=
  match service.key with
  | some aes => db.write aes iv op
  | none =>
    { stored c := (op.value c).getD (db.stored c)
      written := db.writtenBy op
      sealed c := !(op.value c).isSome && db.sealed c }

def returned (db : EncDb) (op : Operation) : List (Encryption.Tree Value) :=
  match service.key with
  | some aes => db.returned aes op
  | none => op.result.map (Encryption.Tree.map fun c _ => db.stored c)

/-- Operations one after the other. -/
def dbStep (db : EncDb) (e : (Nat → String → Iv) × Operation) : Option EncDb :=
  some (write service db e.1 e.2)

end

/-- A `findUnique` that returns a record. -/
def findUnique (record : Encryption.Tree Unit) : Operation where
  model := record.model
  action := .findUnique
  data := none
  create := none
  update := none
  rows := []
  found := false
  result := [record]
  upsert_args := ⟨⟨nofun, nofun⟩, nofun⟩
  result_model := by simp

def secretCell (webhookId : String) : Encryption.Cell := ⟨"Webhook", webhookId, "secret"⟩

def webhookRecord (webhookId : String) : Encryption.Tree Unit :=
  .node "Webhook" webhookId
    [("id", ()), ("companyId", ()), ("url", ()), ("secret", ()), ("events", ()), ("isActive", ())] []

/-- The row of a delivery, with its webhook, and the `deletedAt` of the webhook's company. -/
def deliveryRecord (deliveryId webhookId companyId : String) : Encryption.Tree Unit :=
  .node "WebhookDelivery" deliveryId
    [("id", ()), ("webhookId", ()), ("event", ()), ("payload", ()), ("status", ()), ("attempts", ()),
      ("maxAttempts", ()), ("nextRetryAt", ())]
    [.node "Webhook" webhookId
      [("id", ()), ("companyId", ()), ("url", ()), ("secret", ()), ("events", ()), ("isActive", ())]
      [.node "Company" companyId [("deletedAt", ())] []]]

def valueText : Value → String
  | .text s => s
  | _ => ""

/-- A text column of what was read. -/
def textOf (records : List (Encryption.Tree Value)) (c : Encryption.Cell) : String :=
  valueText (((records.flatMap Encryption.Tree.cells).lookup c).getD .null)

/-! ## The two requests -/

section

variable (hmac : String → String → String) (service : EncryptionService)

/-- The request of `deliver`. -/
def firstPost (db : EncDb) (webhookId event : String) (payload : Json) : Post :=
  let webhook := returned service db (findUnique (webhookRecord webhookId))
  signedPost hmac (textOf webhook ⟨"Webhook", webhookId, "url"⟩) (textOf webhook (secretCell webhookId))
    event payload

/-- The request of `process`, for the row it has read. -/
def retryPost (db : EncDb) (delivery : WebhookDelivery) (companyId : String) : Post :=
  let read := returned service db
    (findUnique (deliveryRecord delivery.id delivery.webhookId companyId))
  signedPost hmac (textOf read ⟨"Webhook", delivery.webhookId, "url"⟩)
    (textOf read (secretCell delivery.webhookId)) delivery.event delivery.payload

/-- Two requests signed by one rule: the same key, each over the body it sends. -/
structure SameSigning (first retry : Post) : Prop where
  key_eq : retry.key = first.key
  first_verifies : first.Verifies hmac first.key
  retry_verifies : retry.Verifies hmac first.key

end

/-! ## What the two read -/

/-- A column is read as what its cell holds. -/
theorem textOf_map (record : Encryption.Tree Unit) (g : Encryption.Cell → Value) {c : Encryption.Cell}
    (hc : c ∈ record.cells.map Prod.fst) :
    textOf [record.map fun c _ => g c] c = valueText (g c) := by
  have hlookup : ∀ cells : List (Encryption.Cell × Unit), c ∈ cells.map Prod.fst →
      (cells.map fun p => (p.1, g p.1)).lookup c = some (g c) := by
    intro cells
    induction cells with
    | nil => intro h; cases h
    | cons p cells ih =>
      intro h
      rw [List.map_cons, List.lookup_cons]
      by_cases hp : c = p.1
      · simp [hp]
      · rw [beq_false_of_ne hp]
        exact ih ((List.mem_cons.mp h).resolve_left hp)
  rw [textOf, List.flatMap_cons, List.flatMap_nil, List.append_nil, Encryption.Tree.cells_map,
    hlookup record.cells hc]
  rfl

section

variable (db : EncDb) {service : EncryptionService} {aes : Aes256Gcm}

theorem mem_webhookRecord (webhookId : String) :
    secretCell webhookId ∈ (webhookRecord webhookId).cells.map Prod.fst := by
  simp [secretCell, webhookRecord, Encryption.Tree.cells]

theorem mem_deliveryRecord (deliveryId webhookId companyId : String) :
    secretCell webhookId ∈ (deliveryRecord deliveryId webhookId companyId).cells.map Prod.fst := by
  simp [secretCell, deliveryRecord, Encryption.Tree.cells, Encryption.Tree.cellsList]

/-- The first attempt reads the secret decrypted; -/
theorem first_reads_decrypted (webhookId : String) (h : service.key = some aes) :
    textOf (returned service db (findUnique (webhookRecord webhookId))) (secretCell webhookId)
      = valueText (decryptValue aes (db.stored (secretCell webhookId))) := by
  have hreturned : returned service db (findUnique (webhookRecord webhookId)) =
      [(webhookRecord webhookId).map fun c _ =>
        if c.sensitive then decryptValue aes (db.stored c) else db.stored c] := by
    rw [returned, h]
    rfl
  rw [hreturned, textOf_map _ _ (mem_webhookRecord webhookId)]
  rfl

/-- without a key, as it is stored. -/
theorem first_reads_stored (webhookId : String) (h : service.key = none) :
    textOf (returned service db (findUnique (webhookRecord webhookId))) (secretCell webhookId)
      = valueText (db.stored (secretCell webhookId)) := by
  rw [returned, h]
  exact textOf_map _ _ (mem_webhookRecord webhookId)

/-- The retry reads it as it is stored, with a key or without. -/
theorem retry_reads_stored (deliveryId webhookId companyId : String) :
    textOf (returned service db (findUnique (deliveryRecord deliveryId webhookId companyId)))
        (secretCell webhookId)
      = valueText (db.stored (secretCell webhookId)) := by
  have hreturned : returned service db (findUnique (deliveryRecord deliveryId webhookId companyId)) =
      [(deliveryRecord deliveryId webhookId companyId).map fun c _ => db.stored c] := by
    cases h : service.key with
    | none =>
      rw [returned, h]
      rfl
    | some aes =>
      rw [returned, h]
      rfl
  rw [hreturned, textOf_map _ _ (mem_deliveryRecord deliveryId webhookId companyId)]

end

/-! ## The two keys -/

section

variable {service : EncryptionService} {db db₁ db₂ : EncDb} {c : Encryption.Cell}

/-- An operation that does not set a cell leaves it as it is stored. -/
theorem stored_write (iv : Nat → String → Iv) {op : Operation} (h : op.value c = none) :
    (write service db iv op).stored c = db.stored c := by
  unfold write
  cases service.key with
  | none => simp [h]
  | some aes =>
    have hseals : op.seals c = false := by simp [Operation.seals, h]
    simp [EncDb.write, op.value_of_not_seals aes iv hseals, h]

theorem stored_run {events : List ((Nat → String → Iv) × Operation)}
    (hrun : Run (Steps (dbStep service)) db₁ events db₂) (h : ∀ e ∈ events, e.2.value c = none) :
    db₂.stored c = db₁.stored c := by
  induction hrun with
  | nil => rfl
  | @cons db₁ db db₂ e events hstep _ ih =>
    obtain rfl : write service db₁ e.1 e.2 = db := Option.some.inj hstep
    rw [ih fun e' he' => h e' (List.mem_cons_of_mem _ he')]
    exact stored_write e.1 (h e (List.mem_cons_self ..))

theorem decryptValue_text (aes : Aes256Gcm) (s : String) :
    ∃ t, decryptValue aes (.text s) = .text t := by
  simp only [decryptValue]
  split
  · split
    · exact ⟨_, rfl⟩
    · exact ⟨_, rfl⟩
  · exact ⟨_, rfl⟩

theorem valueText_decryptValue {aes : Aes256Gcm} {v : Value} :
    valueText v = valueText (decryptValue aes v) ↔ decryptValue aes v = v := by
  cases v with
  | null => simp [decryptValue]
  | other n => simp [decryptValue]
  | text s =>
    obtain ⟨t, ht⟩ := decryptValue_text aes s
    rw [ht]
    simp [valueText, eq_comm]

/-- **Whatever happens in between, short of a new secret: the first attempt and a retry are signed
by one rule with one key exactly when encryption is off or the stored secret is no ciphertext.** -/
theorem same_signing_iff (hmac : String → String → String)
    {between : List ((Nat → String → Iv) × Operation)} {webhookId event companyId : String}
    {payload : Json} {delivery : WebhookDelivery}
    (hrun : Run (Steps (dbStep service)) db₁ between db₂)
    (hsecret : ∀ e ∈ between, e.2.value (secretCell webhookId) = none)
    (hdelivery : delivery.Stores webhookId event payload) :
    SameSigning hmac (firstPost hmac service db₁ webhookId event payload)
        (retryPost hmac service db₂ delivery companyId) ↔
      ∀ aes, service.key = some aes →
        decryptValue aes (db₁.stored (secretCell webhookId)) = db₁.stored (secretCell webhookId) := by
  have hretry : (retryPost hmac service db₂ delivery companyId).key
      = valueText (db₁.stored (secretCell webhookId)) := by
    rw [← stored_run hrun hsecret, ← hdelivery.webhookId]
    exact retry_reads_stored db₂ delivery.id delivery.webhookId companyId
  have hkeys : (retryPost hmac service db₂ delivery companyId).key
        = (firstPost hmac service db₁ webhookId event payload).key ↔
      ∀ aes, service.key = some aes →
        decryptValue aes (db₁.stored (secretCell webhookId)) = db₁.stored (secretCell webhookId) := by
    rw [hretry]
    cases hkey : service.key with
    | none =>
      have hfirst : (firstPost hmac service db₁ webhookId event payload).key
          = valueText (db₁.stored (secretCell webhookId)) := first_reads_stored db₁ webhookId hkey
      rw [hfirst]
      exact iff_of_true rfl (by simp)
    | some aes =>
      have hfirst : (firstPost hmac service db₁ webhookId event payload).key
          = valueText (decryptValue aes (db₁.stored (secretCell webhookId))) :=
        first_reads_decrypted db₁ webhookId hkey
      rw [hfirst, valueText_decryptValue]
      simp
  constructor
  · intro h
    exact hkeys.mp h.key_eq
  · intro h
    have heq := hkeys.mpr h
    refine ⟨heq, rfl, ?_⟩
    rw [← heq]
    exact rfl

end

/-! ## A webhook that is tried again -/

/-- A function of key and text for examples. -/
def sampleHmac (key text : String) : String := key ++ text

def samplePayload : Json :=
  .object [("event", .string "delivery.delivered"), ("data", .object [("id", .string "d1")])]

def sampleRow : WebhookDelivery :=
  firstRow "x1" "w1" "delivery.delivered" samplePayload (Outcome.attempt (.response 503 (.ok ""))) 0

/-- Encryption is off. -/
theorem same_signing_sample :
    SameSigning sampleHmac (firstPost sampleHmac ⟨none⟩ plainDb "w1" "delivery.delivered" samplePayload)
      (retryPost sampleHmac ⟨none⟩ (write ⟨none⟩ plainDb sampleIvs sampleDelivery) sampleRow "c1") := by
  have hrun : Run (Steps (dbStep ⟨none⟩)) plainDb [(sampleIvs, sampleDelivery)]
      (write ⟨none⟩ plainDb sampleIvs sampleDelivery) := Run.of_foldlM rfl
  refine (same_signing_iff sampleHmac hrun ?_ (firstRow_stores "x1" _ 0)).mpr (by simp)
  intro e he
  obtain rfl := List.mem_singleton.mp he
  decide +kernel

/-- **A webhook created with encryption on: its retries are signed with the ciphertext of its
secret.** -/
theorem retry_signed_with_ciphertext :
    ¬ SameSigning sampleHmac
      (firstPost sampleHmac ⟨some sampleAes⟩ sampleDb "w1" "delivery.delivered" samplePayload)
      (retryPost sampleHmac ⟨some sampleAes⟩ sampleDb sampleRow "c1") := by
  intro h
  have hstored : sampleDb.stored (secretCell "w1")
      = .text (sampleAes.encrypt sampleIv "whsec_1") := by decide +kernel
  have hkey : textOf (returned ⟨some sampleAes⟩ sampleDb (findUnique (deliveryRecord "x1" "w1" "c1")))
        (secretCell "w1")
      = textOf (returned ⟨some sampleAes⟩ sampleDb (findUnique (webhookRecord "w1")))
        (secretCell "w1") := h.key_eq
  rw [retry_reads_stored, first_reads_decrypted sampleDb "w1" rfl, hstored, decryptValue_encrypt]
    at hkey
  exact sampleAes.encrypt_ne sampleIv "whsec_1" hkey

end DeliveryTracking.Webhooks
