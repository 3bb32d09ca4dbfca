/-
# `DeliveryTracking.Billing.Manual` — payments by proof and activation code

A company sends a proof of a mobile payment, an administrator of the platform approves or
rejects it, and the code an approval returns activates the company's subscription:

    reviewable    the check of `approve` and `reject`: the proof still waits
    redeemable    the checks of `redeem`: the code's proof, unused and in time
    commitRedeem  the transaction of `redeem`: the proof used, the row active

Only the digest of a code is stored.  `sha256` is the digest of `node:crypto`, and the
random bytes of a code are an argument of the call that makes it.
-/
import DeliveryTracking.Billing.Checkout

namespace DeliveryTracking.Billing

/-! ## Activation codes -/

def codeAlphabet : List Char := "ABCDEFGHJKMNPQRSTUVWXYZ23456789".toList

/-- `rawCode.trim().toUpperCase()`. -/
def normalizeCode (rawCode : String) : String :=
  let blank (c : Char) : Bool := c.isWhitespace
  String.ofList ((((rawCode.toList.dropWhile blank).reverse.dropWhile blank).reverse).map Char.toUpper)

def hashActivationCode (sha256 : String → String) (rawCode : String) : String :=
  sha256 (normalizeCode rawCode)

structure GeneratedActivationCode where
  code : String
  /-- The half that is shown in clear. -/
  shown : String
  hash : String
  deriving DecidableEq, Repr

/-- A code of the random bytes, eight of them. -/
def generateActivationCode (sha256 : String → String) (bytes : List Nat) :
    GeneratedActivationCode :=
  let suffix := bytes.map fun byte => codeAlphabet.getD (byte % codeAlphabet.length) 'A'
  let code := "PAY-" ++ String.ofList suffix
  { code := code, shown := "PAY-" ++ String.ofList (suffix.take 4)
    hash := hashActivationCode sha256 code }

/-! ## Payment proofs -/

inductive PaymentProofStatus where
  | pending
  | approved
  | rejected
  deriving DecidableEq, Repr

/-- A row of `payment_proofs`. -/
structure PaymentProof where
  id : String
  companyId : String
  /-- The row `claimed_plan_id` refers to. -/
  claimedPlan : BillingPlan
  status : PaymentProofStatus
  reviewedById : Option String
  reviewedAt : Option Int
  rejectionReason : Option String
  activationCodeHash : Option String
  activationCodePrefix : Option String
  activationExpiresAt : Option Int
  redeemedAt : Option Int
  deriving DecidableEq, Repr

abbrev ProofTable := Table PaymentProof.id Eq

structure ManualTables where
  proofs : ProofTable
  billing : BillingTables

/-- Fourteen days. -/
def activationCodeValidity : Int := 14 * 24 * 60 * 60 * 1000

/-- Thirty days. -/
def paidSubscriptionDuration : Int := 30 * 24 * 60 * 60 * 1000

namespace PaymentProof

def approve (adminId : String) (generated : GeneratedActivationCode) (now : Int)
    (proof : PaymentProof) : PaymentProof :=
  { proof with
    status := .approved, reviewedById := some adminId, reviewedAt := some now
    activationCodeHash := some generated.hash, activationCodePrefix := some generated.shown
    activationExpiresAt := some (now + activationCodeValidity) }

def reject (adminId reason : String) (now : Int) (proof : PaymentProof) : PaymentProof :=
  { proof with
    status := .rejected, reviewedById := some adminId, reviewedAt := some now
    rejectionReason := some reason }

def redeemAt (now : Int) (proof : PaymentProof) : PaymentProof :=
  { proof with redeemedAt := some now }

@[simp] theorem id_approve (adminId : String) (generated : GeneratedActivationCode) (now : Int)
    (proof : PaymentProof) : (proof.approve adminId generated now).id = proof.id := rfl

@[simp] theorem id_reject (adminId reason : String) (now : Int) (proof : PaymentProof) :
    (proof.reject adminId reason now).id = proof.id := rfl

@[simp] theorem id_redeemAt (now : Int) (proof : PaymentProof) :
    (proof.redeemAt now).id = proof.id := rfl

end PaymentProof

namespace Subscription

/-- A row as an activation code makes it. -/
def redeemed (companyId : String) (plan : BillingPlan) (now : Int) : Subscription :=
  { companyId := companyId, plan := plan, status := .active, provider := .manual
    stripeSubscriptionId := none, stripeCustomerId := none, mobileMoneyRef := none
    currentPeriodStart := now, currentPeriodEnd := now + paidSubscriptionDuration
    canceledAt := none, trialEndsAt := none }

def redeem (plan : BillingPlan) (now : Int) (s : Subscription) : Subscription :=
  { s with
    plan := plan, status := .active, provider := .manual, currentPeriodStart := now
    currentPeriodEnd := now + paidSubscriptionDuration }

@[simp] theorem companyId_redeem (plan : BillingPlan) (now : Int) (s : Subscription) :
    (s.redeem plan now).companyId = s.companyId := rfl

end Subscription

/-! ## The calls -/

namespace ManualTables

variable (sha256 : String → String) (db : ManualTables)

/-- What `approve` and `reject` check before they write. -/
def reviewable (id : String) : Except BillingError PaymentProof :=
  match db.proofs.lookup id with
  | none => .error (.notFound "Preuve introuvable")
  | some proof =>
    if proof.status ≠ .pending then .error (.badRequest "Cette preuve a déjà été traitée")
    else .ok proof

/-- `paymentProof.update({ where: { id } })`. -/
def updateProof (id : String) (f : PaymentProof → PaymentProof) (hf : ∀ p, (f p).id = p.id) :
    ManualTables :=
  { db with proofs := db.proofs.update (·.id == id) f hf }

/-- A digest is stored once. -/
def hashTaken (id hash : String) : Bool :=
  db.proofs.rows.any fun p => p.id != id && p.activationCodeHash == some hash

/-- The write of an approval; the unique index on the digest may refuse it. -/
def writeApproval (id adminId : String) (generated : GeneratedActivationCode) (now : Int) :
    Option ManualTables :=
  if db.hashTaken id generated.hash then none
  else some (db.updateProof id (PaymentProof.approve adminId generated now)
    (PaymentProof.id_approve adminId generated now))

def writeRejection (id adminId reason : String) (now : Int) : ManualTables :=
  db.updateProof id (PaymentProof.reject adminId reason now)
    (PaymentProof.id_reject adminId reason now)

/-- The proof a code is of. -/
def byCodeHash (hash : String) : Option PaymentProof :=
  db.proofs.findFirst (·.activationCodeHash == some hash)

/-- What `redeem` checks before it writes. -/
def redeemable (companyId rawCode : String) (now : Int) : Except BillingError PaymentProof :=
  match db.byCodeHash (hashActivationCode sha256 rawCode) with
  | none => .error (.notFound "Code invalide")
  | some proof =>
    if proof.companyId ≠ companyId then .error (.notFound "Code invalide")
    else if proof.redeemedAt.isSome then .error (.badRequest "Ce code a déjà été utilisé")
    else if proof.activationExpiresAt.any (· < now) then
      .error (.badRequest "Ce code a expiré — contactez le support pour un nouveau code")
    else .ok proof

/-- The transaction of `redeem`. -/
def commitRedeem (companyId : String) (proof : PaymentProof) (now : Int) : ManualTables :=
  { proofs := db.proofs.update (·.id == proof.id) (PaymentProof.redeemAt now)
      (PaymentProof.id_redeemAt now)
    billing := db.billing.put (Subscription.redeemed companyId proof.claimedPlan now)
      (Subscription.redeem proof.claimedPlan now)
      (Subscription.companyId_redeem proof.claimedPlan now) }

def redeem (companyId rawCode : String) (now : Int) : Except BillingError ManualTables := do
  let proof ← db.redeemable sha256 companyId rawCode now
  .ok (db.commitRedeem companyId proof now)

end ManualTables

/-! ## What a write leaves -/

section Writes

/-- The row after an activation code is redeemed. -/
theorem ManualTables.subscription_commitRedeem (db : ManualTables) (companyId : String)
    (proof : PaymentProof) (now : Int) (c : String) :
    (db.commitRedeem companyId proof now).billing.subscription c =
      if c = companyId then
        some ((db.billing.subscription c).elim
          (Subscription.redeemed companyId proof.claimedPlan now)
          (Subscription.redeem proof.claimedPlan now))
      else db.billing.subscription c :=
  BillingTables.subscription_put _ _ _ _ c

/-- A redeemed row is active for thirty days from now on. -/
theorem Subscription.paid_redeem (companyId : String) (plan : BillingPlan) (now : Int)
    (old : Option Subscription) :
    ∃ s, old.elim (Subscription.redeemed companyId plan now) (Subscription.redeem plan now) = s ∧
      s.status = .active ∧ s.plan = plan ∧ s.currentPeriodStart = now ∧
      s.currentPeriodEnd = now + paidSubscriptionDuration := by
  cases old with
  | none => exact ⟨_, rfl, rfl, rfl, rfl, rfl⟩
  | some s => exact ⟨_, rfl, rfl, rfl, rfl, rfl⟩

/-- A redemption that succeeds is the transaction on a proof that passed the checks. -/
theorem ManualTables.redeem_eq_ok {sha256 : String → String} {db t : ManualTables}
    {companyId rawCode : String} {now : Int} (h : db.redeem sha256 companyId rawCode now = .ok t) :
    ∃ proof, db.redeemable sha256 companyId rawCode now = .ok proof ∧
      t = db.commitRedeem companyId proof now := by
  unfold ManualTables.redeem at h
  cases hcheck : db.redeemable sha256 companyId rawCode now with
  | error e => rw [hcheck] at h; cases h
  | ok proof => rw [hcheck] at h; cases h; exact ⟨proof, rfl, rfl⟩

end Writes

end DeliveryTracking.Billing
