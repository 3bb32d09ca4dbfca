/-
# `DeliveryTracking.Tracking.Chronometer` — how long a vehicle has been on site

`checkProximity` marks the first check of a vehicle within 300 m of the delivery in
progress with its time, and reports the time since then.  A mark is taken away by

    a check outside the radius            the mark of that delivery
    a check without a delivery            the mark of the delivery checked last
    24 hours                              each mark

so the mark of a delivery that gives way to another one stays, and so do all when
the check ends early.  `Stay` says from the checks alone what the chronometer is to
measure.  In every run whose checks clear what they leave and find what they
continue (`Sound`), marks and alerts follow it (`chronometer_follows`).
-/
import DeliveryTracking.Cache.CacheService
import DeliveryTracking.Geo.Math
import DeliveryTracking.Lease
import DeliveryTracking.Runs

namespace DeliveryTracking.Tracking

open Cache (Reply)
open Geo

/-- `ESCALATION_AFTER_MS` -/
def escalationAfterMs : Int := 15 * 60 * 1000

def snoozeMs : Nat := 5 * 60 * 1000

def escalationSnoozeMs : Nat := 2 * 60 * 1000

/-! ## Calls -/

/-- The columns of the delivery in progress the check reads. -/
structure Destination (R : Type) where
  id : String
  title : String
  deliveryLat : R
  deliveryLng : R
  deriving DecidableEq

/-- A call of `checkProximity` for the vehicle, and what it meets. -/
structure ProximityCheck (R : Type) where
  companyId : String
  latitude : R
  longitude : R
  timestamp : Int
  /-- `Date.now()` -/
  now : Nat
  /-- `driver?.userId`; none where the query fails. -/
  driver : Option (Option String)
  /-- The delivery in progress, if there is one; none where the query fails. -/
  delivery : Option (Option (Destination R))
  getReply : Reply
  setReply : Reply
  delReply : Reply
  snoozeReply : Reply

/-- The message that is emitted. -/
structure ProximityAlert where
  companyId : String
  targetUserId : String
  title : String
  message : String
  deliveryId : String
  urgency : String
  escalationLevel : Nat
  timestamp : Int
  deriving DecidableEq

def escalationLevel (timeInZone : Int) : Nat :=
  if escalationAfterMs < timeInZone then 2
  else if escalationAfterMs / 2 < timeInZone then 1
  else 0

/-- The alert that reports a time in zone, in milliseconds. -/
def alertOf {R : Type} (c : ProximityCheck R) (userId : String) (d : Destination R)
    (timeInZone : Int) : ProximityAlert where
  companyId := c.companyId
  targetUserId := userId
  title := if d.title = "" then "Delivery" else d.title
  message := if 2 ≤ escalationLevel timeInZone then
      "⚠️ You have been on site for " ++ toString ((2 * timeInZone + 60000) / 120000) ++
        " min. Please validate the delivery."
    else "You are near the delivery point. Please validate."
  deliveryId := d.id
  urgency := if 2 ≤ escalationLevel timeInZone then "critical"
    else if 1 ≤ escalationLevel timeInZone then "high" else "normal"
  escalationLevel := escalationLevel timeInZone
  timestamp := c.timestamp

/-! ## The service -/

/-- What the service holds of one vehicle: keys by delivery, and its entry of `lastDeliveryMap`. -/
structure Chronometer where
  /-- A Redis client is injected; else the keys are in memory. -/
  redis : Bool
  /-- `proximity:entered:…`, with the time of the mark. -/
  entered : Keys String Nat
  /-- `proximity:snoozed:…`, with the end of the snooze. -/
  snoozed : Keys String Nat
  lastDelivery : Option String

namespace Chronometer

/-- A lifetime in milliseconds; the map in memory keeps an entry through the last of them. -/
def ttl (s : Chronometer) (seconds : Nat) : Nat := seconds * 1000 + if s.redis then 0 else 1

def executed (s : Chronometer) (reply : Reply) : Bool := !s.redis || reply != .failed

/-- The command does not throw. -/
def returns (s : Chronometer) (reply : Reply) : Bool := !s.redis || reply == .answered

def setEnteredTime (s : Chronometer) (deliveryId : String) (now : Nat) (reply : Reply) :
    Chronometer :=
  if s.executed reply then { s with entered := s.entered.set now (s.ttl 86400) deliveryId now }
  else s

def getEnteredTime (s : Chronometer) (deliveryId : String) (now : Nat) : Option Nat :=
  Lease.get now (s.entered deliveryId)

def removeEnteredTime (s : Chronometer) (deliveryId : String) (reply : Reply) : Chronometer :=
  if s.executed reply then { s with entered := Function.update s.entered deliveryId none } else s

def isSnoozed (s : Chronometer) (deliveryId : String) (now : Nat) : Bool :=
  (Lease.get now (s.snoozed deliveryId)).any fun snoozedUntil => now < snoozedUntil

/-- The client dismisses an alert. -/
def snoozeProximity (s : Chronometer) (deliveryId : String) (escalationLevel now : Nat)
    (reply : Reply) : Chronometer :=
  let ms := if 2 ≤ escalationLevel then escalationSnoozeMs else snoozeMs
  if s.executed reply then
    { s with snoozed := s.snoozed.set now (s.ttl (ms / 1000)) deliveryId (now + ms) }
  else s

variable {R : Type} [Field R] [LinearOrder R] [JsMath R]

/-- The position is within 300 m of the delivery. -/
def near (c : ProximityCheck R) (d : Destination R) : Bool :=
  haversineDistance c.latitude c.longitude d.deliveryLat d.deliveryLng ≤ 300

/-- `checkProximity` after the mark was read: `enteredAt` is what it holds. -/
def report (s : Chronometer) (c : ProximityCheck R) (userId : String) (d : Destination R)
    (enteredAt : Option Nat) : Option ProximityAlert :=
  if !s.returns c.snoozeReply || s.isSnoozed d.id c.now then none
  else some (alertOf c userId d (c.now - (enteredAt.getD c.now : Nat)))

/-- A call of `checkProximity`: the state after it, and the alert it emits. -/
def checkProximity (s : Chronometer) (c : ProximityCheck R) : Chronometer × Option ProximityAlert :=
  match c.driver, c.delivery with
  | some (some userId), some (some d) =>
    let s := { s with lastDelivery := some d.id }
    if near c d then
      if !s.returns c.getReply then (s, none)
      else
        match s.getEnteredTime d.id c.now with
        | some enteredAt => (s, s.report c userId d (some enteredAt))
        | none =>
          let s := s.setEnteredTime d.id c.now c.setReply
          if s.returns c.setReply then (s, s.report c userId d none) else (s, none)
    else (s.removeEnteredTime d.id c.delReply, none)
  | some (some _), some none =>
    match s.lastDelivery with
    | none => (s, none)
    | some prevId =>
      let s := s.removeEnteredTime prevId c.delReply
      (if s.returns c.delReply then { s with lastDelivery := none } else s, none)
  | _, _ => (s, none)

end Chronometer

/-! ## What it is to measure -/

/-- An uninterrupted run of checks within the radius of a delivery, from its first one on. -/
structure Stay where
  deliveryId : String
  since : Nat
  deriving DecidableEq

section

variable {R : Type} [Field R] [LinearOrder R] [JsMath R]

/-- The delivery a check is within the radius of. -/
def ProximityCheck.inside (c : ProximityCheck R) : Option (Destination R) :=
  match c.driver, c.delivery with
  | some (some _), some (some d) => if Chronometer.near c d then some d else none
  | _, _ => none

/-- The stay after a check. -/
def Stay.next (stay : Option Stay) (c : ProximityCheck R) : Option Stay :=
  match c.inside with
  | none => none
  | some d =>
    match stay with
    | some s => if s.deliveryId = d.id then some s else some ⟨d.id, c.now⟩
    | none => some ⟨d.id, c.now⟩

/-! ## Runs -/

inductive ProximityEvent (R : Type) where
  | check (c : ProximityCheck R)
  | snooze (deliveryId : String) (escalationLevel now : Nat) (reply : Reply)

/-- The service, the clock, and what the last check did; `stay` follows the checks alone. -/
structure ProximityRun (R : Type) where
  service : Chronometer
  clock : Nat
  stay : Option Stay
  latest : Option (ProximityCheck R × Option ProximityAlert)

namespace ProximityRun

def start (redis : Bool) : ProximityRun R :=
  ⟨⟨redis, fun _ => none, fun _ => none, none⟩, 0, none, none⟩

/-- The clock does not go back. -/
def step (s : ProximityRun R) : ProximityEvent R → Option (ProximityRun R)
  | .check c =>
    if s.clock ≤ c.now then
      some ⟨(s.service.checkProximity c).1, c.now, Stay.next s.stay c,
        some (c, (s.service.checkProximity c).2)⟩
    else none
  | .snooze deliveryId level now reply =>
    if s.clock ≤ now then
      some { s with service := s.service.snoozeProximity deliveryId level now reply, clock := now }
    else none

/-- A mark is there. -/
def Marked (s : ProximityRun R) (deliveryId : String) (now : Nat) : Prop :=
  (s.service.getEnteredTime deliveryId now).isSome

/-- There is a mark only of the delivery the vehicle is staying at, and the alert of the last check
reports the time since the stay began. -/
structure Follows (s : ProximityRun R) : Prop where
  marks : ∀ deliveryId, s.Marked deliveryId s.clock →
    ∃ stay, s.stay = some stay ∧ stay.deliveryId = deliveryId
  alerts : ∀ c alert, s.latest = some (c, some alert) → ∃ userId d stay,
    c.inside = some d ∧ s.stay = some stay ∧ stay.deliveryId = d.id ∧
      alert = alertOf c userId d (c.now - (stay.since : Nat))

/-- The check takes the mark of a delivery away. -/
def Clears (s : ProximityRun R) (c : ProximityCheck R) (deliveryId : String) : Prop :=
  s.service.executed c.delReply = true ∧ (∃ userId, c.driver = some (some userId)) ∧
    ((∃ d, c.delivery = some (some d) ∧ Chronometer.near c d = false ∧ d.id = deliveryId) ∨
      (c.delivery = some none ∧ s.service.lastDelivery = some deliveryId))

/-- Every mark that is there is of the delivery the check is inside of, or it is taken away.  A
check that continues a stay finds its mark, and one that begins a stay leaves a mark. -/
structure CheckSound (s : ProximityRun R) (c : ProximityCheck R) : Prop where
  clears : ∀ deliveryId, s.Marked deliveryId c.now →
    (∃ d, c.inside = some d ∧ d.id = deliveryId) ∨ s.Clears c deliveryId
  finds : ∀ stay, Stay.next s.stay c = some stay → s.stay = some stay →
    s.Marked stay.deliveryId c.now
  leaves : ∀ stay, Stay.next s.stay c = some stay → s.stay ≠ some stay →
    s.service.returns c.getReply = true ∧ s.service.executed c.setReply = true

def Sound (s : ProximityRun R) : ProximityEvent R → Prop
  | .check c => s.CheckSound c
  | .snooze .. => True

/-! ## What one check does to the marks -/

omit [Field R] [LinearOrder R] [JsMath R] in
theorem marked_iff {s : ProximityRun R} {deliveryId : String} {now : Nat} :
    s.Marked deliveryId now ↔
      ∃ since exp, s.service.entered deliveryId = some ⟨since, exp⟩ ∧ now < exp := by
  unfold Marked Chronometer.getEnteredTime
  rw [Option.isSome_iff_exists]
  exact exists_congr fun since => Lease.get_eq_some_iff

omit [Field R] [LinearOrder R] [JsMath R] in
/-- A mark that is there was there before, if nothing was written. -/
theorem Marked.mono {s t : ProximityRun R} {deliveryId : String} {now later : Nat}
    (h : t.Marked deliveryId later) (hle : now ≤ later)
    (hsame : t.service.entered deliveryId = s.service.entered deliveryId) :
    s.Marked deliveryId now := by
  obtain ⟨since, exp, hkey, hlt⟩ := marked_iff.mp h
  exact marked_iff.mpr ⟨since, exp, hsame ▸ hkey, Nat.lt_of_le_of_lt hle hlt⟩

theorem inside_eq_some {c : ProximityCheck R} {d : Destination R} (h : c.inside = some d) :
    ∃ userId, c.driver = some (some userId) ∧ c.delivery = some (some d) ∧
      Chronometer.near c d = true := by
  unfold ProximityCheck.inside at h
  split at h
  · rename_i userId d' hdriver hdelivery
    split at h
    · rename_i hnear
      cases h
      exact ⟨userId, hdriver, hdelivery, hnear⟩
    · cases h
  · cases h

/-- A check within the radius writes the mark of that delivery at most. -/
theorem entered_of_inside {s : Chronometer} {c : ProximityCheck R} {d : Destination R}
    (h : c.inside = some d) {deliveryId : String} (hne : deliveryId ≠ d.id) :
    (s.checkProximity c).1.entered deliveryId = s.entered deliveryId := by
  obtain ⟨userId, hdriver, hdelivery, hnear⟩ := inside_eq_some h
  simp only [Chronometer.checkProximity, hdriver, hdelivery, hnear, if_true]
  split
  · rfl
  · split
    · rfl
    · have hset : ((Chronometer.setEnteredTime { s with lastDelivery := some d.id } d.id c.now
          c.setReply).entered deliveryId) = s.entered deliveryId := by
        unfold Chronometer.setEnteredTime
        split
        · exact Function.update_of_ne hne _ _
        · rfl
      split <;> exact hset

theorem entered_remove {s : Chronometer} {deliveryId removed : String} {reply : Reply} :
    (s.removeEnteredTime removed reply).entered deliveryId
      = if s.executed reply = true ∧ deliveryId = removed then none else s.entered deliveryId := by
  unfold Chronometer.removeEnteredTime
  by_cases hexec : s.executed reply = true
  · rw [if_pos hexec]
    by_cases hid : deliveryId = removed
    · rw [if_pos ⟨hexec, hid⟩, hid]
      exact Function.update_self ..
    · rw [if_neg fun h => hid h.2]
      exact Function.update_of_ne hid _ _
  · rw [if_neg hexec, if_neg fun h => hexec h.1]

/-- A check outside takes away what it clears, and nothing else. -/
theorem entered_of_outside {s : ProximityRun R} {c : ProximityCheck R} (h : c.inside = none)
    (deliveryId : String) :
    ((s.service.checkProximity c).1.entered deliveryId = none ∧ s.Clears c deliveryId) ∨
      ((s.service.checkProximity c).1.entered deliveryId = s.service.entered deliveryId ∧
        ¬s.Clears c deliveryId) := by
  match hdriver : c.driver, hdelivery : c.delivery with
  | none, _ =>
    refine .inr ⟨by simp [Chronometer.checkProximity, hdriver], ?_⟩
    rintro ⟨-, ⟨userId, huser⟩, -⟩
    rw [hdriver] at huser
    cases huser
  | some none, _ =>
    refine .inr ⟨by simp [Chronometer.checkProximity, hdriver], ?_⟩
    rintro ⟨-, ⟨userId, huser⟩, -⟩
    rw [hdriver] at huser
    cases huser
  | some (some userId), none =>
    refine .inr ⟨by simp [Chronometer.checkProximity, hdriver, hdelivery], ?_⟩
    rintro ⟨-, -, ⟨d, hd, -⟩ | ⟨hnone, -⟩⟩
    · rw [hdelivery] at hd
      cases hd
    · rw [hdelivery] at hnone
      cases hnone
  | some (some userId), some none =>
    cases hlast : s.service.lastDelivery with
    | none =>
      refine .inr ⟨by simp [Chronometer.checkProximity, hdriver, hdelivery, hlast], ?_⟩
      rintro ⟨-, -, ⟨d, hd, -⟩ | ⟨-, hprev⟩⟩
      · rw [hdelivery] at hd
        cases hd
      · rw [hlast] at hprev
        cases hprev
    | some prevId =>
      have hentered : (s.service.checkProximity c).1.entered deliveryId
          = (s.service.removeEnteredTime prevId c.delReply).entered deliveryId := by
        simp only [Chronometer.checkProximity, hdriver, hdelivery, hlast]
        split <;> rfl
      have hclears : s.Clears c deliveryId ↔
          s.service.executed c.delReply = true ∧ deliveryId = prevId := by
        simp [Clears, hdriver, hdelivery, hlast, eq_comm (a := prevId)]
      rw [hentered, entered_remove, hclears]
      split
      · rename_i hcleared
        exact .inl ⟨rfl, hcleared⟩
      · rename_i hkept
        exact .inr ⟨rfl, hkept⟩
  | some (some userId), some (some d) =>
    have hfar : Chronometer.near c d = false := by
      simpa [ProximityCheck.inside, hdriver, hdelivery] using h
    have hentered : (s.service.checkProximity c).1.entered deliveryId
        = (s.service.removeEnteredTime d.id c.delReply).entered deliveryId := by
      simp only [Chronometer.checkProximity, hdriver, hdelivery, hfar, Bool.false_eq_true, if_false]
      rw [entered_remove, entered_remove]
      rfl
    have hclears : s.Clears c deliveryId ↔
        s.service.executed c.delReply = true ∧ deliveryId = d.id := by
      simp [Clears, hdriver, hdelivery, hfar, eq_comm (a := d.id)]
    rw [hentered, entered_remove, hclears]
    split
    · rename_i hcleared
      exact .inl ⟨rfl, hcleared⟩
    · rename_i hkept
      exact .inr ⟨rfl, hkept⟩

omit [Field R] [LinearOrder R] [JsMath R] in
theorem eq_alertOf_of_report {s : Chronometer} {c : ProximityCheck R} {userId : String}
    {d : Destination R} {enteredAt : Option Nat} {alert : ProximityAlert}
    (h : s.report c userId d enteredAt = some alert) :
    alert = alertOf c userId d (c.now - (enteredAt.getD c.now : Nat)) := by
  unfold Chronometer.report at h
  split at h
  · cases h
  · exact (Option.some.inj h).symm

/-- A check within the radius that finds its mark leaves it, and reports the time since. -/
theorem check_found {s : Chronometer} {c : ProximityCheck R} {d : Destination R} {since : Nat}
    (h : c.inside = some d) (hfound : s.getEnteredTime d.id c.now = some since) :
    (s.checkProximity c).1.entered d.id = s.entered d.id ∧
      ∀ alert, (s.checkProximity c).2 = some alert →
        ∃ userId, alert = alertOf c userId d (c.now - (since : Nat)) := by
  obtain ⟨userId, hdriver, hdelivery, hnear⟩ := inside_eq_some h
  have hread : Chronometer.getEnteredTime { s with lastDelivery := some d.id } d.id c.now
      = some since := hfound
  simp only [Chronometer.checkProximity, hdriver, hdelivery, hnear, if_true, hread]
  split
  · exact ⟨rfl, nofun⟩
  · exact ⟨rfl, fun alert halert => ⟨userId, eq_alertOf_of_report halert⟩⟩

/-- One that finds none, and is not failed, leaves one with its own time, and reports none. -/
theorem check_begins {s : Chronometer} {c : ProximityCheck R} {d : Destination R}
    (h : c.inside = some d) (hnone : s.getEnteredTime d.id c.now = none)
    (hget : s.returns c.getReply = true) (hset : s.executed c.setReply = true) :
    (∃ exp, (s.checkProximity c).1.entered d.id = some ⟨c.now, exp⟩) ∧
      ∀ alert, (s.checkProximity c).2 = some alert →
        ∃ userId, alert = alertOf c userId d (c.now - (c.now : Nat)) := by
  obtain ⟨userId, hdriver, hdelivery, hnear⟩ := inside_eq_some h
  have hread : Chronometer.getEnteredTime { s with lastDelivery := some d.id } d.id c.now
      = none := hnone
  have hreturns : Chronometer.returns { s with lastDelivery := some d.id } c.getReply = true :=
    hget
  have hwrite : ∃ exp, (Chronometer.setEnteredTime { s with lastDelivery := some d.id } d.id c.now
      c.setReply).entered d.id = some ⟨c.now, exp⟩ := by
    have hexec : Chronometer.executed { s with lastDelivery := some d.id } c.setReply = true :=
      hset
    rw [Chronometer.setEnteredTime, if_pos hexec]
    exact ⟨_, Function.update_self ..⟩
  simp only [Chronometer.checkProximity, hdriver, hdelivery, hnear, if_true, hread, hreturns,
    Bool.not_true, Bool.false_eq_true, if_false]
  split
  · exact ⟨hwrite, fun alert halert => ⟨userId, eq_alertOf_of_report halert⟩⟩
  · exact ⟨hwrite, nofun⟩

/-- Outside the radius nothing is reported. -/
theorem alert_of_outside {s : Chronometer} {c : ProximityCheck R} (h : c.inside = none) :
    (s.checkProximity c).2 = none := by
  unfold Chronometer.checkProximity
  split
  · rename_i userId d hdriver hdelivery
    have hfar : Chronometer.near c d = false := by
      simpa [ProximityCheck.inside, hdriver, hdelivery] using h
    simp [hfar]
  · split <;> rfl
  · rfl

/-! ## The stay -/

theorem next_of_inside {c : ProximityCheck R} {d : Destination R} (h : c.inside = some d)
    (stay : Option Stay) : ∃ since, Stay.next stay c = some ⟨d.id, since⟩ ∧
      (stay = some ⟨d.id, since⟩ ∨ stay ≠ some ⟨d.id, since⟩ ∧ since = c.now ∧
        ∀ old, stay = some old → old.deliveryId ≠ d.id) := by
  unfold Stay.next
  rw [h]
  match stay with
  | none => exact ⟨c.now, rfl, .inr ⟨nofun, rfl, nofun⟩⟩
  | some ⟨deliveryId, since⟩ =>
    by_cases hid : deliveryId = d.id
    · subst hid
      exact ⟨since, if_pos rfl, .inl rfl⟩
    · refine ⟨c.now, if_neg hid, .inr ⟨?_, rfl, ?_⟩⟩
      · rintro ⟨⟩
        exact hid rfl
      · rintro old ⟨⟩
        exact hid

theorem next_of_outside {c : ProximityCheck R} (h : c.inside = none) (stay : Option Stay) :
    Stay.next stay c = none := by
  rw [Stay.next, h]

/-! ## The invariant -/

/-- There is a mark only of the stay, and the stay has left its mark. -/
structure Inv (s : ProximityRun R) : Prop where
  marks : ∀ deliveryId, s.Marked deliveryId s.clock →
    ∃ stay, s.stay = some stay ∧ stay.deliveryId = deliveryId
  since : ∀ stay, s.stay = some stay →
    ∃ exp, s.service.entered stay.deliveryId = some ⟨stay.since, exp⟩

omit [Field R] [LinearOrder R] [JsMath R] in
theorem inv_start (redis : Bool) : (start redis : ProximityRun R).Inv where
  marks deliveryId h := by
    obtain ⟨since, exp, hkey, -⟩ := marked_iff.mp h
    cases hkey
  since stay h := by cases h

variable {s t : ProximityRun R} {c : ProximityCheck R}

theorem step_check_iff : s.step (.check c) = some t ↔ s.clock ≤ c.now ∧
    t = ⟨(s.service.checkProximity c).1, c.now, Stay.next s.stay c,
      some (c, (s.service.checkProximity c).2)⟩ := by
  simp [step, eq_comm]

/-- The marks after a check are of its stay just when it clears the others. -/
theorem marks_iff (hstep : s.step (.check c) = some t) :
    (∀ deliveryId, t.Marked deliveryId t.clock →
        ∃ stay, t.stay = some stay ∧ stay.deliveryId = deliveryId) ↔
      ∀ deliveryId, s.Marked deliveryId c.now →
        (∃ d, c.inside = some d ∧ d.id = deliveryId) ∨ s.Clears c deliveryId := by
  obtain ⟨hclock, rfl⟩ := step_check_iff.mp hstep
  cases hinside : c.inside with
  | none =>
    rw [next_of_outside hinside]
    constructor
    · intro h deliveryId hmark
      by_contra hnot
      rcases entered_of_outside hinside deliveryId with ⟨-, hclears⟩ | ⟨hsame, -⟩
      · exact hnot (.inr hclears)
      · obtain ⟨stay, hstay, -⟩ := h deliveryId (hmark.mono (Nat.le_refl _) hsame.symm)
        cases hstay
    · intro h deliveryId hmark
      rcases entered_of_outside hinside deliveryId with ⟨hgone, -⟩ | ⟨hsame, hkept⟩
      · obtain ⟨since, exp, hkey, -⟩ := marked_iff.mp hmark
        rw [hgone] at hkey
        cases hkey
      · rcases h deliveryId (hmark.mono (Nat.le_refl _) hsame) with ⟨d, hd, -⟩ | hclears
        · cases hd
        · exact absurd hclears hkept
  | some d =>
    obtain ⟨since, hnext, -⟩ := next_of_inside hinside s.stay
    rw [hnext]
    constructor
    · intro h deliveryId hmark
      by_cases hid : deliveryId = d.id
      · exact .inl ⟨d, rfl, hid.symm⟩
      · obtain ⟨stay, hstay, heq⟩ :=
          h deliveryId (hmark.mono (Nat.le_refl _) (entered_of_inside hinside hid).symm)
        cases hstay
        exact absurd heq.symm hid
    · intro h deliveryId hmark
      refine ⟨_, rfl, ?_⟩
      by_contra hid
      have hsame := entered_of_inside (s := s.service) hinside (Ne.symm hid)
      rcases h deliveryId (hmark.mono (Nat.le_refl _) hsame) with ⟨d', hd', heq⟩ | hclears
      · cases hd'
        exact hid heq
      · obtain ⟨-, ⟨userId, hdriver⟩, ⟨d', hd', hfar, -⟩ | ⟨hnone, -⟩⟩ := hclears
        · simp [ProximityCheck.inside, hdriver, hd', hfar] at hinside
        · simp [ProximityCheck.inside, hdriver, hnone] at hinside

/-- A sound check keeps the invariant, and its alert follows the stay. -/
theorem follows_check (hs : s.Inv) (hsound : s.CheckSound c) (hstep : s.step (.check c) = some t) :
    t.Inv ∧ t.Follows := by
  have hmarks := (marks_iff hstep).mpr hsound.clears
  obtain ⟨hclock, rfl⟩ := step_check_iff.mp hstep
  cases hinside : c.inside with
  | none =>
    have hnext := next_of_outside hinside s.stay
    refine ⟨⟨hmarks, ?_⟩, hmarks, ?_⟩
    · intro stay hstay
      rw [hnext] at hstay
      cases hstay
    · intro c' alert hlatest
      have halert := congrArg Prod.snd (Option.some.inj hlatest)
      rw [alert_of_outside hinside] at halert
      cases halert
  | some d =>
    obtain ⟨since, hnext, hcases⟩ := next_of_inside hinside s.stay
    have hkey : (∃ exp, (s.service.checkProximity c).1.entered d.id = some ⟨since, exp⟩) ∧
        ∀ alert, (s.service.checkProximity c).2 = some alert →
          ∃ userId, alert = alertOf c userId d (c.now - (since : Nat)) := by
      rcases hcases with hcontinues | ⟨hbegins, rfl, hother⟩
      · obtain ⟨exp, hkey⟩ := hs.since _ hcontinues
        obtain ⟨since', exp', hkey', hlive⟩ := marked_iff.mp (hsound.finds _ hnext hcontinues)
        rw [hkey] at hkey'
        cases hkey'
        have hfound : s.service.getEnteredTime d.id c.now = some since :=
          Lease.get_eq_some_iff.mpr ⟨exp, hkey, hlive⟩
        obtain ⟨hsame, halert⟩ := check_found hinside hfound
        exact ⟨⟨exp, hsame.trans hkey⟩, halert⟩
      · obtain ⟨hget, hset⟩ := hsound.leaves _ hnext hbegins
        have hnone : s.service.getEnteredTime d.id c.now = none := by
          by_contra hsome
          have hmark : s.Marked d.id c.now := Option.isSome_iff_ne_none.mpr hsome
          obtain ⟨stay, hstay, hid⟩ := hs.marks d.id (hmark.mono hclock rfl)
          exact hother stay hstay hid
        exact check_begins hinside hnone hget hset
    refine ⟨⟨hmarks, ?_⟩, hmarks, ?_⟩
    · intro stay hstay
      rw [hnext] at hstay
      cases hstay
      exact hkey.1
    · intro c' alert hlatest
      obtain ⟨rfl, halert⟩ := Prod.mk.inj (Option.some.inj hlatest)
      obtain ⟨userId, heq⟩ := hkey.2 alert halert
      exact ⟨userId, d, _, hinside, hnext, rfl, heq⟩

omit [Field R] [LinearOrder R] [JsMath R] in
theorem entered_snooze (s : Chronometer) (deliveryId : String) (level now : Nat) (reply : Reply) :
    (s.snoozeProximity deliveryId level now reply).entered = s.entered := by
  unfold Chronometer.snoozeProximity
  dsimp only
  split <;> rfl

/-- A snooze does not touch the marks. -/
theorem follows_snooze (hs : s.Inv) (hf : s.Follows) {deliveryId : String} {level now : Nat}
    {reply : Reply} (hstep : s.step (.snooze deliveryId level now reply) = some t) :
    t.Inv ∧ t.Follows := by
  obtain ⟨hclock, heq⟩ := Option.ite_none_right_eq_some.mp hstep
  have hsame : ∀ id, t.service.entered id = s.service.entered id := by
    intro id
    rw [← Option.some.inj heq, entered_snooze]
  have hstay : t.stay = s.stay := by rw [← Option.some.inj heq]
  have hlatest : t.latest = s.latest := by rw [← Option.some.inj heq]
  have hnow : t.clock = now := by rw [← Option.some.inj heq]
  have hmarks : ∀ id, t.Marked id t.clock → ∃ stay, t.stay = some stay ∧ stay.deliveryId = id := by
    intro id hmark
    rw [hnow] at hmark
    rw [hstay]
    exact hs.marks id (hmark.mono hclock (hsame id))
  refine ⟨⟨hmarks, ?_⟩, hmarks, ?_⟩
  · intro stay h
    rw [hstay] at h
    rw [hsame]
    exact hs.since stay h
  · rw [hlatest, hstay]
    exact hf.alerts

/-- **In every run whose checks clear the marks they leave and find the ones they continue, the
marks and the alerts follow the stay; a check that leaves a mark uncleared ends that.** -/
theorem chronometer_follows (redis : Bool) :
    (∀ es (s : ProximityRun R), Run (Guarded (Steps step) Sound) (start redis) es s → s.Follows) ∧
      ∀ es (s t : ProximityRun R) c deliveryId,
        Run (Guarded (Steps step) Sound) (start redis) es s → s.step (.check c) = some t →
        s.Marked deliveryId c.now → (∀ d, c.inside = some d → d.id ≠ deliveryId) →
        ¬s.Clears c deliveryId → ¬t.Follows := by
  constructor
  · intro es s hrun
    have hstart : (start redis : ProximityRun R).Follows := by
      refine ⟨(inv_start redis).marks, ?_⟩
      intro c alert h
      cases h
    refine (hrun.invariant (I := fun s => s.Inv ∧ s.Follows) ?_ ⟨inv_start redis, hstart⟩).2
    rintro s e t ⟨hs, hf⟩ ⟨hstep, hsound⟩
    cases e with
    | check c => exact follows_check hs hsound hstep
    | snooze deliveryId level now reply => exact follows_snooze hs hf hstep
  · intro es s t c deliveryId _ hstep hmark hother hkept hfollows
    rcases (marks_iff hstep).mp hfollows.marks deliveryId hmark with ⟨d, hd, hid⟩ | hclears
    · exact hother d hd hid
    · exact hkept hclears

end ProximityRun

end

/-! ## A delivery that comes back -/

/-- A check at the site of a delivery; nothing fails. -/
def siteCheck (deliveryId : String) (now : Nat) : ProximityCheck ℚ where
  companyId := "c1"
  latitude := -189 / 10
  longitude := 475 / 10
  timestamp := now
  now := now
  driver := some (some "u1")
  delivery := some (some ⟨deliveryId, "Colis", -189 / 10, 475 / 10⟩)
  getReply := .answered
  setReply := .answered
  delReply := .answered
  snoozeReply := .answered

/-- One site, deliveries A, B and A again.  The mark of A outlives the check for B, and the check
that begins the second stay for A reports twenty minutes. -/
theorem chronometer_runs_on :
    (∃ s : ProximityRun ℚ, Run (Steps ProximityRun.step) (.start true)
      [.check (siteCheck "A" 0), .check (siteCheck "B" 1000)] s ∧
      s.Marked "A" s.clock ∧ s.stay = some ⟨"B", 1000⟩ ∧ ¬s.Follows) ∧
    ∃ s : ProximityRun ℚ, Run (Steps ProximityRun.step) (.start true)
      [.check (siteCheck "A" 0), .check (siteCheck "B" 1000), .check (siteCheck "A" 1200000)] s ∧
      s.stay = some ⟨"A", 1200000⟩ ∧
      s.latest.any (fun l => l.2.any fun alert => alert.escalationLevel = 2) = true ∧
      ¬s.Follows := by
  constructor
  · have hrun : (([.check (siteCheck "A" 0), .check (siteCheck "B" 1000)] :
        List (ProximityEvent ℚ)).foldlM ProximityRun.step (.start true)).any (fun s =>
          (s.service.getEnteredTime "A" s.clock).isSome && s.stay = some ⟨"B", 1000⟩) = true := by
      decide +kernel
    obtain ⟨s, hrun, htest⟩ := Run.of_foldlM_any hrun
    simp only [Bool.and_eq_true, decide_eq_true_eq] at htest
    refine ⟨s, hrun, htest.1, htest.2, fun hfollows => ?_⟩
    obtain ⟨stay, hstay, hid⟩ := hfollows.marks "A" htest.1
    rw [htest.2] at hstay
    cases hstay
    exact absurd hid (by decide)
  · have hrun : (([.check (siteCheck "A" 0), .check (siteCheck "B" 1000),
        .check (siteCheck "A" 1200000)] : List (ProximityEvent ℚ)).foldlM ProximityRun.step
          (.start true)).any (fun s => s.stay = some ⟨"A", 1200000⟩ &&
            s.latest.any fun l => l.1.now = 1200000 &&
              l.2.any fun alert => alert.escalationLevel = 2) = true := by
      decide +kernel
    obtain ⟨s, hrun, htest⟩ := Run.of_foldlM_any hrun
    simp only [Bool.and_eq_true, decide_eq_true_eq, Option.any_eq_true] at htest
    obtain ⟨hstay, ⟨c, emitted⟩, hlatest, hnow, alert, halert, hlevel⟩ := htest
    simp only at hnow halert
    subst halert
    refine ⟨s, hrun, hstay, by simp [hlatest, hlevel], fun hfollows => ?_⟩
    obtain ⟨userId, d, stay, -, hstay', -, rfl⟩ := hfollows.alerts c alert hlatest
    rw [hstay] at hstay'
    cases hstay'
    simp [alertOf, escalationLevel, escalationAfterMs, hnow] at hlevel

/-- A vehicle that stays sixteen minutes. -/
theorem chronometer_follows_stay : ∃ s : ProximityRun ℚ,
    Run (Guarded (Steps ProximityRun.step) ProximityRun.Sound) (.start true)
      [.check (siteCheck "A" 0), .check (siteCheck "A" 960000)] s ∧ s.Follows := by
  have hinside : ∀ now, (siteCheck "A" now).inside
      = some ⟨"A", "Colis", -189 / 10, 475 / 10⟩ := by
    intro now
    have hnear : (siteCheck "A" 0).inside = some ⟨"A", "Colis", -189 / 10, 475 / 10⟩ := by
      decide +kernel
    exact hnear
  have hfirst : ProximityRun.CheckSound (.start true) (siteCheck "A" 0) := by
    refine ⟨fun id hmark => ?_, nofun, fun _ _ _ => ⟨rfl, rfl⟩⟩
    obtain ⟨since, exp, hkey, -⟩ := ProximityRun.marked_iff.mp hmark
    cases hkey
  have hrun : (([.check (siteCheck "A" 0)] : List (ProximityEvent ℚ)).foldlM ProximityRun.step
      (.start true)).any (fun s => s.stay = some ⟨"A", 0⟩ && s.clock = 0 &&
        (s.service.getEnteredTime "A" 960000).isSome) = true := by
    decide +kernel
  obtain ⟨s, hrun, htest⟩ := Run.of_foldlM_any hrun
  simp only [Bool.and_eq_true, decide_eq_true_eq] at htest
  obtain ⟨⟨hstay, hclock⟩, hmarked⟩ := htest
  cases hrun with
  | cons hstep hnil =>
    cases hnil
    obtain ⟨hinv, -⟩ := ProximityRun.follows_check (ProximityRun.inv_start true) hfirst hstep
    have hsecond : s.CheckSound (siteCheck "A" 960000) := by
      refine ⟨fun id hmark => .inl ⟨_, hinside _, ?_⟩, fun stay hnext hsame => ?_, ?_⟩
      · obtain ⟨stay, hstay', hid⟩ := hinv.marks id (hmark.mono (by rw [hclock]; decide) rfl)
        rw [hstay] at hstay'
        cases hstay'
        exact hid
      · rw [hstay] at hsame
        cases hsame
        exact hmarked
      · intro _ _ _
        simp [Chronometer.returns, Chronometer.executed, siteCheck]
    have hlast : s.step (.check (siteCheck "A" 960000)) = some _ := if_pos (by rw [hclock]; decide)
    have hguarded : Run (Guarded (Steps ProximityRun.step) ProximityRun.Sound) (.start true)
        [.check (siteCheck "A" 0), .check (siteCheck "A" 960000)] _ :=
      .cons ⟨hstep, hfirst⟩ (.single ⟨hlast, hsecond⟩)
    exact ⟨_, hguarded, (ProximityRun.chronometer_follows true).1 _ _ hguarded⟩

end DeliveryTracking.Tracking
