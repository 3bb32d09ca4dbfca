/-
# `DeliveryTracking.Billing.Review` — the life of a payment proof

`approve`, `reject` and `redeem` each check a proof they have read and write it later by
id, so calls on one proof interleave.  As long as what a call read is still so when it
writes, a proof takes one of these ways, and `log` records which:

    pending → rejected
    pending → approved with a code → redeemed with this code

`proof_lifecycle` is that; a review that writes after another one breaks it.
-/
import DeliveryTracking.Billing.PaidDays

namespace DeliveryTracking.Billing

/-! ## Model -/

/-- A call that has passed its checks. -/
inductive ReviewTask where
  | approve (id adminId : String) (generated : GeneratedActivationCode) (checkedAt : Int)
  | reject (id adminId reason : String) (checkedAt : Int)
  | redeem (companyId rawCode : String) (proof : PaymentProof) (checkedAt : Int)
  | done
  deriving DecidableEq, Repr

/-- What a call that has returned did to its proof. -/
inductive ProofEvent where
  /-- The code is the one `approve` returned. -/
  | approved (code : String)
  | rejected
  | redeemed (rawCode : String)
  deriving DecidableEq, Repr

inductive ReviewEvent where
  | wait (ms : Nat)
  | approve (id adminId : String) (bytes : List Nat)
  | reject (id adminId reason : String)
  | redeem (companyId rawCode : String)
  | write (i : Nat)
  deriving DecidableEq, Repr

structure ReviewRun where
  db : ManualTables
  now : Int
  tasks : List ReviewTask
  log : List (String × ProofEvent)

namespace ReviewRun

/-- A call is checked; one that fails writes nothing. -/
def check (s : ReviewRun) (task : Except BillingError ReviewTask) : ReviewRun :=
  match task with
  | .error _ => s
  | .ok task => { s with tasks := s.tasks ++ [task] }

def step (sha256 : String → String) (s : ReviewRun) : ReviewEvent → Option ReviewRun
  | .wait ms => some { s with now := s.now + ms }
  | .approve id adminId bytes =>
    some (s.check ((s.db.reviewable id).map fun _ =>
      .approve id adminId (generateActivationCode sha256 bytes) s.now))
  | .reject id adminId reason =>
    some (s.check ((s.db.reviewable id).map fun _ => .reject id adminId reason s.now))
  | .redeem companyId rawCode =>
    some (s.check ((s.db.redeemable sha256 companyId rawCode s.now).map fun proof =>
      .redeem companyId rawCode proof s.now))
  | .write i =>
    match s.tasks[i]? with
    | some (.approve id adminId generated checkedAt) =>
      match s.db.writeApproval id adminId generated checkedAt with
      | none => some { s with tasks := s.tasks.set i .done }
      | some db =>
        some { s with
          db := db, tasks := s.tasks.set i .done
          log := s.log ++ [(id, .approved generated.code)] }
    | some (.reject id adminId reason checkedAt) =>
      some { s with
        db := s.db.writeRejection id adminId reason checkedAt, tasks := s.tasks.set i .done
        log := s.log ++ [(id, .rejected)] }
    | some (.redeem companyId rawCode proof checkedAt) =>
      some { s with
        db := s.db.commitRedeem companyId proof checkedAt, tasks := s.tasks.set i .done
        log := s.log ++ [(proof.id, .redeemed rawCode)] }
    | _ => none

/-- What was done to a proof. -/
def events (s : ReviewRun) (id : String) : List ProofEvent :=
  (s.log.filter (·.1 = id)).map Prod.snd

/-- What a review or a redemption has read is still so when it writes. -/
def WritesCurrent (s : ReviewRun) (e : ReviewEvent) : Prop :=
  ∀ i task, e = .write i → s.tasks[i]? = some task →
    match task with
    | .approve id _ _ _ => ∀ row, s.db.proofs.lookup id = some row → row.status = .pending
    | .reject id _ _ _ => ∀ row, s.db.proofs.lookup id = some row → row.status = .pending
    | .redeem _ _ proof _ => ∀ row, s.db.proofs.lookup proof.id = some row → row.redeemedAt = none
    | .done => True

end ReviewRun

/-- A row, and what was done to it. -/
inductive Lifecycle (sha256 : String → String) (row : PaymentProof) : List ProofEvent → Prop
  | pending (status : row.status = .pending) (code : row.activationCodeHash = none)
      (unused : row.redeemedAt = none) : Lifecycle sha256 row []
  | rejected (status : row.status = .rejected) (code : row.activationCodeHash = none)
      (unused : row.redeemedAt = none) : Lifecycle sha256 row [.rejected]
  | approved {code : String} (status : row.status = .approved)
      (hash : row.activationCodeHash = some (hashActivationCode sha256 code))
      (unused : row.redeemedAt = none) : Lifecycle sha256 row [.approved code]
  | redeemed {code rawCode : String} (status : row.status = .approved)
      (hash : row.activationCodeHash = some (hashActivationCode sha256 code))
      (same : hashActivationCode sha256 rawCode = hashActivationCode sha256 code)
      (used : row.redeemedAt.isSome) : Lifecycle sha256 row [.approved code, .redeemed rawCode]

namespace ReviewRun

/-- Every proof is somewhere in its life, and the code of an approval that was not used yet is
accepted. -/
structure Lawful (sha256 : String → String) (s : ReviewRun) : Prop where
  lifecycle : ∀ id row, s.db.proofs.lookup id = some row → Lifecycle sha256 row (s.events id)
  accepted : ∀ id row code, s.db.proofs.lookup id = some row → s.events id = [.approved code] →
    ∀ now, row.activationExpiresAt.all (now ≤ ·) = true →
      s.db.redeemable sha256 row.companyId code now = .ok row

/-- The proofs as companies have sent them. -/
def Fresh (s : ReviewRun) : Prop :=
  s.tasks = [] ∧ s.log = [] ∧ ∀ row ∈ s.db.proofs.rows,
    row.status = .pending ∧ row.activationCodeHash = none ∧ row.redeemedAt = none

/-- What is known of a redemption between its check and its commit. -/
def Redeeming (sha256 : String → String) (db : ManualTables) : ReviewTask → Prop
  | .redeem _ rawCode proof _ => ∃ row, db.proofs.lookup proof.id = some row ∧
      row.status = .approved ∧ row.activationCodeHash = some (hashActivationCode sha256 rawCode)
  | _ => True

structure Inv (sha256 : String → String) (s : ReviewRun) : Prop where
  lifecycle : ∀ id row, s.db.proofs.lookup id = some row → Lifecycle sha256 row (s.events id)
  hashes : ∀ id id' row row' hash, s.db.proofs.lookup id = some row →
    s.db.proofs.lookup id' = some row' → row.activationCodeHash = some hash →
      row'.activationCodeHash = some hash → id = id'
  redeeming : ∀ task ∈ s.tasks, Redeeming sha256 s.db task
  generated : ∀ id adminId generated checkedAt, .approve id adminId generated checkedAt ∈ s.tasks →
    generated.hash = hashActivationCode sha256 generated.code

/-! ## Steps -/

section Steps

variable {sha256 : String → String} {s t : ReviewRun} {e : ReviewEvent}

theorem events_concat (s : ReviewRun) (id : String) (ev : ProofEvent) (id' : String) :
    events { s with log := s.log ++ [(id, ev)] } id' =
      if id' = id then s.events id' ++ [ev] else s.events id' := by
  unfold events
  rw [List.filter_append, List.map_append]
  split
  · rename_i hid
    simp [hid]
  · rename_i hid
    simp [Ne.symm hid]

/-- A row that waits has seen nothing. -/
theorem events_of_pending {row : PaymentProof} {evs : List ProofEvent}
    (h : Lifecycle sha256 row evs) (hpending : row.status = .pending) :
    evs = [] ∧ row.activationCodeHash = none ∧ row.redeemedAt = none := by
  cases h with
  | pending status code unused => exact ⟨rfl, code, unused⟩
  | rejected status code unused => exact absurd (status.symm.trans hpending) (by decide)
  | approved status hash unused => exact absurd (status.symm.trans hpending) (by decide)
  | redeemed status hash same used => exact absurd (status.symm.trans hpending) (by decide)

/-- A row whose code was found and not used is an approved one. -/
theorem events_of_unused {row : PaymentProof} {evs : List ProofEvent} {hash : String}
    (h : Lifecycle sha256 row evs) (hhash : row.activationCodeHash = some hash)
    (hunused : row.redeemedAt = none) :
    ∃ code, evs = [.approved code] ∧ hash = hashActivationCode sha256 code ∧
      row.status = .approved := by
  cases h with
  | pending status code unused => exact absurd (code.symm.trans hhash) (Option.some_ne_none hash).symm
  | rejected status code unused => exact absurd (code.symm.trans hhash) (Option.some_ne_none hash).symm
  | approved status hash' unused => exact ⟨_, rfl, Option.some.inj (hhash.symm.trans hash'), status⟩
  | redeemed status hash' same used => simp [hunused] at used

/-- A check leaves a task, or nothing. -/
theorem Inv.check (h : s.Inv sha256) {task : Except BillingError ReviewTask}
    (htask : ∀ u, task = .ok u → Redeeming sha256 s.db u ∧
      ∀ id adminId generated checkedAt, u = .approve id adminId generated checkedAt →
        generated.hash = hashActivationCode sha256 generated.code) :
    (s.check task).Inv sha256 := by
  cases task with
  | error err => exact h
  | ok u =>
    obtain ⟨hredeeming, hgenerated⟩ := htask u rfl
    refine ⟨h.lifecycle, h.hashes, ?_, ?_⟩
    · intro v hv
      rcases List.mem_append.mp hv with hold | hnew
      · exact h.redeeming v hold
      · obtain rfl := List.mem_singleton.mp hnew
        exact hredeeming
    · intro id adminId generated checkedAt hv
      rcases List.mem_append.mp hv with hold | hnew
      · exact h.generated id adminId generated checkedAt hold
      · exact hgenerated id adminId generated checkedAt (List.mem_singleton.mp hnew).symm

/-- A call writes one proof: its row goes on in its life, no digest is there twice, and a code that
was approved stays. -/
theorem Inv.write (h : s.Inv sha256) (i : Nat) {id : String} {ev : ProofEvent}
    {f : PaymentProof → PaymentProof} (hf : ∀ p, (f p).id = p.id) (billing : BillingTables)
    (hlife : ∀ row, s.db.proofs.lookup id = some row →
      Lifecycle sha256 (f row) (s.events id ++ [ev]))
    (hhash : ∀ row, s.db.proofs.lookup id = some row →
      (f row).activationCodeHash = row.activationCodeHash ∨
        ∀ id' row', id' ≠ id → s.db.proofs.lookup id' = some row' →
          ∀ hash, (f row).activationCodeHash = some hash → row'.activationCodeHash ≠ some hash)
    (hkeep : ∀ row, s.db.proofs.lookup id = some row → row.status = .approved →
      (f row).status = .approved ∧ (f row).activationCodeHash = row.activationCodeHash) :
    Inv sha256 { s with
      db := { proofs := s.db.proofs.update (·.id == id) f hf, billing := billing }
      tasks := s.tasks.set i .done, log := s.log ++ [(id, ev)] } := by
  have hlookup : ∀ id', (s.db.proofs.update (·.id == id) f hf).lookup id' =
      if id' = id then (s.db.proofs.lookup id').map f else s.db.proofs.lookup id' :=
    Table.lookup_update s.db.proofs id f hf
  have hrow : ∀ {id' row}, (s.db.proofs.update (·.id == id) f hf).lookup id' = some row →
      (∃ old, id' = id ∧ s.db.proofs.lookup id = some old ∧ row = f old) ∨
        id' ≠ id ∧ s.db.proofs.lookup id' = some row := by
    intro id' row hread
    rw [hlookup] at hread
    split at hread
    · rename_i hid
      subst hid
      obtain ⟨old, hold, rfl⟩ := Option.map_eq_some_iff.mp hread
      exact .inl ⟨old, rfl, hold, rfl⟩
    · rename_i hid
      exact .inr ⟨hid, hread⟩
  have hnew : ∀ {id' old row' hash}, id' ≠ id → s.db.proofs.lookup id = some old →
      s.db.proofs.lookup id' = some row' → (f old).activationCodeHash = some hash →
        row'.activationCodeHash ≠ some hash := by
    intro id' old row' hash hid hold hother hfold hshared
    rcases hhash old hold with hsame | hfresh
    · exact hid (h.hashes id' id row' old hash hother hold hshared (hsame ▸ hfold))
    · exact hfresh id' row' hid hother hash hfold hshared
  refine ⟨?_, ?_, ?_, ?_⟩
  · intro id' row hread
    have hevents := events_concat s id ev id'
    rcases hrow hread with ⟨old, rfl, hold, rfl⟩ | ⟨hid, hold⟩
    · rw [if_pos rfl] at hevents
      exact hevents ▸ hlife old hold
    · rw [if_neg hid] at hevents
      exact hevents ▸ h.lifecycle id' row hold
  · intro id₁ id₂ row₁ row₂ hash hread₁ hread₂ hhash₁ hhash₂
    rcases hrow hread₁ with ⟨old₁, rfl, hold₁, rfl⟩ | ⟨hid₁, hold₁⟩
    · rcases hrow hread₂ with ⟨old₂, rfl, hold₂, rfl⟩ | ⟨hid₂, hold₂⟩
      · rfl
      · exact absurd hhash₂ (hnew hid₂ hold₁ hold₂ hhash₁)
    · rcases hrow hread₂ with ⟨old₂, rfl, hold₂, rfl⟩ | ⟨hid₂, hold₂⟩
      · exact absurd hhash₁ (hnew hid₁ hold₂ hold₁ hhash₂)
      · exact h.hashes id₁ id₂ row₁ row₂ hash hold₁ hold₂ hhash₁ hhash₂
  · intro task htask
    rcases List.mem_or_eq_of_mem_set htask with hmem | rfl
    · have hbefore := h.redeeming task hmem
      cases task with
      | redeem companyId rawCode proof checkedAt =>
        obtain ⟨row, hread, happroved, hcode⟩ := hbefore
        by_cases hid : proof.id = id
        · obtain ⟨hstill, hsame⟩ := hkeep row (hid ▸ hread) happroved
          refine ⟨f row, ?_, hstill, hsame.trans hcode⟩
          rw [hlookup, if_pos hid, hread, Option.map_some]
        · refine ⟨row, ?_, happroved, hcode⟩
          rw [hlookup, if_neg hid, hread]
      | approve id adminId generated checkedAt => exact trivial
      | reject id adminId reason checkedAt => exact trivial
      | done => exact trivial
    · exact trivial
  · intro id' adminId generated checkedAt htask
    rcases List.mem_or_eq_of_mem_set htask with hmem | hdone
    · exact h.generated id' adminId generated checkedAt hmem
    · cases hdone

/-- What a redemption has found when it passes its checks. -/
theorem redeemable_eq_ok {db : ManualTables} {companyId rawCode : String} {now : Int}
    {proof : PaymentProof} (h : db.redeemable sha256 companyId rawCode now = .ok proof) :
    db.proofs.lookup proof.id = some proof ∧
      proof.activationCodeHash = some (hashActivationCode sha256 rawCode) ∧
      proof.redeemedAt = none := by
  unfold ManualTables.redeemable at h
  split at h
  · cases h
  · rename_i found hfound
    split at h
    · cases h
    · split at h
      · cases h
      · rename_i hunused
        split at h
        · cases h
        · cases h
          obtain ⟨hmem, hhash⟩ := Table.mem_of_findFirst hfound
          refine ⟨Table.mem_rows_iff.mp hmem, beq_iff_eq.mp hhash, ?_⟩
          simpa using hunused

theorem Inv.writeApproval (h : s.Inv sha256) (i : Nat) {id adminId : String}
    {generated : GeneratedActivationCode} {checkedAt : Int} {db : ManualTables}
    (hpending : ∀ row, s.db.proofs.lookup id = some row → row.status = .pending)
    (hcode : generated.hash = hashActivationCode sha256 generated.code)
    (hwrite : s.db.writeApproval id adminId generated checkedAt = some db) :
    Inv sha256 { s with
      db := db, tasks := s.tasks.set i .done
      log := s.log ++ [(id, .approved generated.code)] } := by
  unfold ManualTables.writeApproval at hwrite
  split at hwrite
  · cases hwrite
  · rename_i htaken
    obtain rfl := Option.some.inj hwrite
    refine h.write i (PaymentProof.id_approve adminId generated checkedAt) s.db.billing ?_ ?_ ?_
    · intro row hrow
      obtain ⟨hnone, -, hunused⟩ := events_of_pending (h.lifecycle id row hrow) (hpending row hrow)
      rw [hnone]
      exact .approved rfl (congrArg some hcode) hunused
    · intro row hrow
      refine .inr fun id' row' hid hother hash hhash hshared => htaken ?_
      obtain rfl := Option.some.inj hhash
      refine List.any_eq_true.mpr ⟨row', (Table.mem_of_findFirst hother).1, ?_⟩
      rw [Bool.and_eq_true, bne_iff_ne, beq_iff_eq, Table.key_of_lookup hother]
      exact ⟨hid, hshared⟩
    · intro row hrow happroved
      exact absurd ((hpending row hrow).symm.trans happroved) (by decide)

theorem Inv.writeRejection (h : s.Inv sha256) (i : Nat) {id : String} (adminId reason : String)
    (checkedAt : Int)
    (hpending : ∀ row, s.db.proofs.lookup id = some row → row.status = .pending) :
    Inv sha256 { s with
      db := s.db.writeRejection id adminId reason checkedAt, tasks := s.tasks.set i .done
      log := s.log ++ [(id, .rejected)] } := by
  refine h.write i (PaymentProof.id_reject adminId reason checkedAt) s.db.billing ?_ ?_ ?_
  · intro row hrow
    obtain ⟨hnone, hcode, hunused⟩ := events_of_pending (h.lifecycle id row hrow) (hpending row hrow)
    rw [hnone]
    exact .rejected rfl hcode hunused
  · exact fun row _ => .inl rfl
  · intro row hrow happroved
    exact absurd ((hpending row hrow).symm.trans happroved) (by decide)

theorem Inv.commitRedeem (h : s.Inv sha256) (i : Nat) {companyId rawCode : String}
    {proof : PaymentProof} (checkedAt : Int)
    (htask : Redeeming sha256 s.db (.redeem companyId rawCode proof checkedAt))
    (hunused : ∀ row, s.db.proofs.lookup proof.id = some row → row.redeemedAt = none) :
    Inv sha256 { s with
      db := s.db.commitRedeem companyId proof checkedAt, tasks := s.tasks.set i .done
      log := s.log ++ [(proof.id, .redeemed rawCode)] } := by
  refine h.write i (PaymentProof.id_redeemAt checkedAt) _ ?_ (fun row _ => .inl rfl)
    (fun row _ happroved => ⟨happroved, rfl⟩)
  intro row hrow
  obtain ⟨row', hrow', happroved, hhash⟩ := htask
  obtain rfl := Option.some.inj (hrow.symm.trans hrow')
  obtain ⟨code, hevents, hsame, -⟩ :=
    events_of_unused (h.lifecycle proof.id row hrow) hhash (hunused row hrow)
  rw [hevents]
  exact .redeemed happroved (hhash.trans (congrArg some hsame)) hsame rfl

theorem Inv.step (h : s.Inv sha256)
    (hstep : Guarded (Steps (ReviewRun.step sha256)) WritesCurrent s e t) : t.Inv sha256 := by
  obtain ⟨hstep, hcurrent⟩ := hstep
  cases e with
  | wait ms =>
    obtain rfl := Option.some.inj hstep
    exact ⟨h.lifecycle, h.hashes, h.redeeming, h.generated⟩
  | approve id adminId bytes =>
    obtain rfl := Option.some.inj hstep
    refine h.check fun u hu => ?_
    cases hcheck : s.db.reviewable id with
    | error err => rw [hcheck] at hu; cases hu
    | ok proof =>
      rw [hcheck] at hu
      cases hu
      refine ⟨trivial, fun id' adminId' generated checkedAt heq => ?_⟩
      cases heq
      rfl
  | reject id adminId reason =>
    obtain rfl := Option.some.inj hstep
    refine h.check fun u hu => ?_
    cases hcheck : s.db.reviewable id with
    | error err => rw [hcheck] at hu; cases hu
    | ok proof =>
      rw [hcheck] at hu
      cases hu
      exact ⟨trivial, fun id' adminId' generated checkedAt heq => by cases heq⟩
  | redeem companyId rawCode =>
    obtain rfl := Option.some.inj hstep
    refine h.check fun u hu => ?_
    cases hcheck : s.db.redeemable sha256 companyId rawCode s.now with
    | error err => rw [hcheck] at hu; cases hu
    | ok proof =>
      rw [hcheck] at hu
      cases hu
      obtain ⟨hrow, hhash, hunused⟩ := redeemable_eq_ok hcheck
      obtain ⟨-, -, -, happroved⟩ := events_of_unused (h.lifecycle _ proof hrow) hhash hunused
      exact ⟨⟨proof, hrow, happroved, hhash⟩, fun id' adminId' generated checkedAt heq => by cases heq⟩
  | write i =>
    simp only [Steps, ReviewRun.step] at hstep
    split at hstep
    · rename_i id adminId generated checkedAt htask
      have hcode := h.generated id adminId generated checkedAt (List.mem_of_getElem? htask)
      split at hstep
      · obtain rfl := Option.some.inj hstep
        refine ⟨h.lifecycle, h.hashes, ?_, ?_⟩
        · intro task hmem
          rcases List.mem_or_eq_of_mem_set hmem with hold | rfl
          · exact h.redeeming task hold
          · exact trivial
        · intro id' adminId' generated' checkedAt' hmem
          rcases List.mem_or_eq_of_mem_set hmem with hold | hdone
          · exact h.generated id' adminId' generated' checkedAt' hold
          · cases hdone
      · rename_i db hwrite
        obtain rfl := Option.some.inj hstep
        exact h.writeApproval i (hcurrent i _ rfl htask) hcode hwrite
    · rename_i id adminId reason checkedAt htask
      obtain rfl := Option.some.inj hstep
      exact h.writeRejection i adminId reason checkedAt (hcurrent i _ rfl htask)
    · rename_i companyId rawCode proof checkedAt htask
      obtain rfl := Option.some.inj hstep
      exact h.commitRedeem i checkedAt (h.redeeming _ (List.mem_of_getElem? htask))
        (hcurrent i _ rfl htask)
    · cases hstep

theorem Inv.lawful (h : s.Inv sha256) : s.Lawful sha256 := by
  refine ⟨h.lifecycle, fun id row code hrow hevents now hnow => ?_⟩
  have hlife := h.lifecycle id row hrow
  rw [hevents] at hlife
  cases hlife with
  | approved status hash unused =>
    have hkey : row.id = id := Table.key_of_lookup hrow
    have hmem : row ∈ s.db.proofs.rows := (Table.mem_of_findFirst hrow).1
    have hfound : s.db.byCodeHash (hashActivationCode sha256 code) = some row := by
      refine Table.findFirst_of_unique hmem (beq_iff_eq.mpr hash) fun found hread => ?_
      obtain ⟨hfoundMem, hfoundHash⟩ := Table.mem_of_findFirst hread
      have hlookup := Table.mem_rows_iff.mp hfoundMem
      have hsame := h.hashes found.id id found row _ hlookup hrow (beq_iff_eq.mp hfoundHash) hash
      rw [hsame] at hlookup
      exact Option.some.inj (hlookup.symm.trans hrow)
    have hintime : row.activationExpiresAt.any (· < now) = false := by
      cases hexp : row.activationExpiresAt with
      | none => rfl
      | some stop =>
        rw [hexp] at hnow
        simpa using hnow
    simp [ManualTables.redeemable, hfound, unused, hintime]

theorem Fresh.inv (h : s.Fresh) : s.Inv sha256 := by
  obtain ⟨htasks, hlog, hrows⟩ := h
  have hrow : ∀ {id row}, s.db.proofs.lookup id = some row → row.status = .pending ∧
      row.activationCodeHash = none ∧ row.redeemedAt = none := fun hread =>
    hrows _ (Table.mem_of_findFirst hread).1
  refine ⟨?_, ?_, ?_, ?_⟩
  · intro id row hread
    obtain ⟨hpending, hcode, hunused⟩ := hrow hread
    rw [events, hlog]
    exact .pending hpending hcode hunused
  · intro id id' row row' hash hread _ hhash
    rw [(hrow hread).2.1] at hhash
    cases hhash
  · intro task htask
    rw [htasks] at htask
    exact absurd htask List.not_mem_nil
  · intro id adminId generated checkedAt htask
    rw [htasks] at htask
    exact absurd htask List.not_mem_nil

/-- Reviewed proofs keep their status. -/
def StatusStays (s t : ReviewRun) : Prop :=
  ∀ id row, s.db.proofs.lookup id = some row → row.status ≠ .pending →
    ∃ row', t.db.proofs.lookup id = some row' ∧ row'.status = row.status

theorem StatusStays.refl (s : ReviewRun) : StatusStays s s :=
  fun _ row hrow _ => ⟨row, hrow, rfl⟩

theorem StatusStays.trans {s t u : ReviewRun} (h : StatusStays s t) (k : StatusStays t u) :
    StatusStays s u := by
  intro id row hrow hreviewed
  obtain ⟨row', hrow', hsame⟩ := h id row hrow hreviewed
  obtain ⟨row'', hrow'', hsame'⟩ := k id row' hrow' (hsame ▸ hreviewed)
  exact ⟨row'', hrow'', hsame'.trans hsame⟩

/-- A write to a proof that waits, or one that leaves the status alone. -/
theorem StatusStays.write {id : String} {f : PaymentProof → PaymentProof}
    (hf : ∀ p, (f p).id = p.id) (hproofs : t.db.proofs = s.db.proofs.update (·.id == id) f hf)
    (hkeeps : ∀ row, s.db.proofs.lookup id = some row → row.status ≠ .pending →
      (f row).status = row.status) : StatusStays s t := by
  intro id' row hrow hreviewed
  have hlookup : t.db.proofs.lookup id' =
      if id' = id then (s.db.proofs.lookup id').map f else s.db.proofs.lookup id' := by
    rw [hproofs]
    exact Table.lookup_update s.db.proofs id f hf id'
  rw [hlookup, hrow]
  split
  · rename_i hid
    exact ⟨f row, rfl, hkeeps row (hid ▸ hrow) hreviewed⟩
  · exact ⟨row, rfl, rfl⟩

theorem StatusStays.step (hstep : Guarded (Steps (ReviewRun.step sha256)) WritesCurrent s e t) :
    StatusStays s t := by
  obtain ⟨hstep, hcurrent⟩ := hstep
  have hcheck : ∀ task, StatusStays s (s.check task) := by
    intro task
    cases task <;> exact .refl s
  cases e with
  | wait ms => obtain rfl := Option.some.inj hstep; exact .refl s
  | approve id adminId bytes => obtain rfl := Option.some.inj hstep; exact hcheck _
  | reject id adminId reason => obtain rfl := Option.some.inj hstep; exact hcheck _
  | redeem companyId rawCode => obtain rfl := Option.some.inj hstep; exact hcheck _
  | write i =>
    simp only [Steps, ReviewRun.step] at hstep
    split at hstep
    · rename_i id adminId generated checkedAt htask
      have hpending := hcurrent i _ rfl htask
      split at hstep
      · obtain rfl := Option.some.inj hstep
        exact .refl s
      · rename_i db hwrite
        obtain rfl := Option.some.inj hstep
        unfold ManualTables.writeApproval at hwrite
        split at hwrite
        · cases hwrite
        · obtain rfl := Option.some.inj hwrite
          exact .write (PaymentProof.id_approve adminId generated checkedAt) rfl
            fun row hrow hreviewed => absurd (hpending row hrow) hreviewed
    · rename_i id adminId reason checkedAt htask
      obtain rfl := Option.some.inj hstep
      exact .write (PaymentProof.id_reject adminId reason checkedAt) rfl
        fun row hrow hreviewed => absurd (hcurrent i _ rfl htask row hrow) hreviewed
    · obtain rfl := Option.some.inj hstep
      exact .write (PaymentProof.id_redeemAt _) rfl fun row _ _ => rfl
    · cases hstep

end Steps

/-- Where what a call has read is still so when it writes, a proof leaves `pending` once and for
good, is redeemed at most once and only when approved, and the code `approve` returned is the one
`redeem` accepts. -/
theorem proof_lifecycle (sha256 : String → String) {s t u : ReviewRun} {es fs : List ReviewEvent}
    (hstart : s.Fresh) (hrun : Run (Guarded (Steps (step sha256)) WritesCurrent) s es t)
    (hrest : Run (Guarded (Steps (step sha256)) WritesCurrent) t fs u) :
    t.Lawful sha256 ∧ StatusStays t u := by
  have hinv : t.Inv sha256 := hrun.invariant (I := Inv sha256) (fun h hstep => h.step hstep) hstart.inv
  exact ⟨hinv.lawful, hrest.rel .refl .trans fun hstep => .step hstep⟩

end ReviewRun

/-! ### Two reviewers -/

/-- A company has sent a proof. -/
def sentProof : ReviewRun :=
  { db := {
      proofs := ⟨[{ approvedProof "proof-1" "" with
        status := .pending, reviewedById := none, reviewedAt := none, activationCodeHash := none
        activationExpiresAt := none }], by simp⟩
      billing := waitingWorld.tables }
    now := paidAt, tasks := [], log := [] }

def codeBytes : List Nat := [0, 1, 2, 3, 4, 5, 6, 7]

/-- One administrator approves, and the company redeems the code. -/
def approveThenRedeem : List ReviewEvent :=
  [.approve "proof-1" "admin-1" codeBytes, .write 0, .redeem "company-1" "pay-abcdefgh ", .write 1]

theorem approveThenRedeem_lawful : ∃ t,
    Run (Steps (ReviewRun.step id)) sentProof approveThenRedeem t ∧
      t.events "proof-1" = [.approved "PAY-ABCDEFGH", .redeemed "pay-abcdefgh "] ∧ t.Lawful id := by
  have hfresh : sentProof.Fresh := by
    refine ⟨rfl, rfl, fun row hrow => ?_⟩
    obtain rfl := List.mem_singleton.mp hrow
    exact ⟨rfl, rfl, rfl⟩
  have hother : ∀ (s : ReviewRun) e, (∀ i, e ≠ .write i) → s.WritesCurrent e :=
    fun s e hnot i _ he => absurd he (hnot i)
  obtain ⟨t, hrun, hevents⟩ : ∃ t, Run (Guarded (Steps (ReviewRun.step id)) ReviewRun.WritesCurrent)
      sentProof approveThenRedeem t ∧
        t.events "proof-1" = [.approved "PAY-ABCDEFGH", .redeemed "pay-abcdefgh "] := by
    refine ⟨_, .cons ⟨rfl, hother _ _ (by simp)⟩ (.cons ⟨rfl, ?_⟩
      (.cons ⟨rfl, hother _ _ (by simp)⟩ (.cons ⟨rfl, ?_⟩ (.nil _)))), by decide +kernel⟩
    · intro i task he htask
      obtain rfl := ReviewEvent.write.inj he
      obtain rfl := Option.some.inj htask
      intro row hrow
      obtain rfl := Option.some.inj hrow
      rfl
    · intro i task he htask
      obtain rfl := ReviewEvent.write.inj he
      obtain rfl := Option.some.inj htask
      intro row hrow
      obtain rfl := Option.some.inj hrow
      rfl
  exact ⟨t, hrun.of_guarded, hevents, (ReviewRun.proof_lifecycle id hfresh hrun (.nil t)).1⟩

/-- Two administrators read the proof while it waits; one approves it and then the other rejects it.
The code is still redeemed. -/
theorem rejected_proof_redeemed : ∃ t,
    Run (Steps (ReviewRun.step id)) sentProof
        [.approve "proof-1" "admin-1" codeBytes, .reject "proof-1" "admin-2" "illisible", .write 0,
          .write 1, .redeem "company-1" "PAY-ABCDEFGH", .write 2] t ∧
      (t.db.proofs.lookup "proof-1").map PaymentProof.status = some .rejected ∧
      t.events "proof-1" = [.approved "PAY-ABCDEFGH", .rejected, .redeemed "PAY-ABCDEFGH"] ∧
      (t.db.billing.subscription "company-1").map Subscription.status = some .active ∧
      ¬t.Lawful id := by
  have hend : ([ReviewEvent.approve "proof-1" "admin-1" codeBytes,
      .reject "proof-1" "admin-2" "illisible", .write 0, .write 1,
      .redeem "company-1" "PAY-ABCDEFGH", .write 2].foldlM (ReviewRun.step id) sentProof).any
      (fun t => (t.db.proofs.lookup "proof-1").map PaymentProof.status == some .rejected &&
        (t.events "proof-1" ==
            [.approved "PAY-ABCDEFGH", .rejected, .redeemed "PAY-ABCDEFGH"] &&
          (t.db.billing.subscription "company-1").map Subscription.status == some .active)) =
        true := by
    decide +kernel
  obtain ⟨t, hrun, ht⟩ := Run.of_foldlM_any hend
  simp only [Bool.and_eq_true, beq_iff_eq] at ht
  obtain ⟨hstatus, hevents, hactive⟩ := ht
  refine ⟨t, hrun, hstatus, hevents, hactive, fun hlawful => ?_⟩
  obtain ⟨row, hrow, -⟩ := Option.map_eq_some_iff.mp hstatus
  have hlife := hlawful.lifecycle "proof-1" row hrow
  rw [hevents] at hlife
  cases hlife

end DeliveryTracking.Billing
