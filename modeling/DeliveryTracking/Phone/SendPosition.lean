/-
# `DeliveryTracking.Phone.SendPosition` — a position on its way over the socket

`sendPosition` emits `updatePosition` and listens for the next `positionSaved` or
`positionRejected`, for two seconds:

    positionSaved                    the position is done
    positionRejected                 into the local queue; done, if invalid_payload
    neither in time                  into the local queue

The answers carry no position.  The gateway handles what it got when it gets to
it (`PositionCall.handlePosition`), with any user, clock and database, so an answer may
arrive when the phone listens for a later position.  That one is then given up
for the earlier one's answer, and whatever becomes of it is not heard:
`neverLost_iff` says when this leaves a position with nobody.

The queue sends by `batchPosition`, with answers of its own (`Phone.OfflineQueue`);
here it only grows.
-/
import DeliveryTracking.Runs
import DeliveryTracking.Tracking.Answer

namespace DeliveryTracking.Phone

open Geo Tracking

/-! ## The payload -/

/-- What the phone knows of a fix, a number of JavaScript each. -/
structure DriverPosition (R : Type) where
  lat : RawNumber R
  lng : RawNumber R
  speed : RawNumber R
  heading : RawNumber R
  altitude : RawNumber R
  accuracy : RawNumber R
  /-- The instant of the fix (milliseconds). -/
  timestamp : Option Int
  deriving DecidableEq, Repr

/-- `STATIONARY_SPEED_MS` -/
def stationarySpeedMs {R : Type} [Field R] : R := 1 / 2

/-- `ACCURACY_REJECT` -/
def accuracyReject {R : Type} [Field R] : R := 80

/-- `LOCATION_FASTEST_INTERVAL_MS` -/
def locationFastestIntervalMs : Int := 2000

/-- The time a position waits for its answer. -/
def answerTimeoutMs : Int := 2000

/-- `x ?? 50` -/
def accuracyOr50 {R : Type} [Field R] : RawNumber R → RawNumber R
  | .missing => .finite 50
  | x => x

/-- JSON has no number that is not finite: it becomes `null`. -/
def onWire {R : Type} : RawNumber R → RawNumber R
  | .finite n => .finite n
  | _ => .missing

section Payload

variable {R : Type} [Field R] [LinearOrder R]

/-- A residual speed is the sensor's noise. -/
def sendSpeed : RawNumber R → RawNumber R
  | .finite n => if n < stationarySpeedMs then .finite 0 else .finite n
  | .infinite positive => if positive then .infinite true else .finite 0
  | x => x

/-- `buildPositionPayload`: the raw coordinates where there are any, the filtered ones otherwise. -/
def buildPositionPayload (raw : Option (RawNumber R × RawNumber R))
    (vehicleId deliveryId : Option String) (now : Int) (p : DriverPosition R) : RawPosition R where
  latitude := onWire (raw.elim p.lat Prod.fst)
  longitude := onWire (raw.elim p.lng Prod.snd)
  speed := onWire (sendSpeed p.speed)
  heading := onWire p.heading
  altitude := onWire p.altitude
  accuracy := onWire (accuracyOr50 p.accuracy)
  timestamp := .text true (some (p.timestamp.getD now))
  deliveryId := deliveryId.filter (· ≠ "")
  vehicleId := vehicleId.filter (· ≠ "")

end Payload

/-! ## The phone, the socket and the gateway -/

/-- A message of the phone that the gateway has not handled, and whether the connection it came over
is still there to answer. -/
structure SentPosition (R : Type) where
  payload : RawPosition R
  answerable : Bool

/-- A call of `handlePosition`, with all it depends on. -/
structure Handling (R : Type) where
  call : PositionCall R
  queries : Queries R
  windows : String → List (GroundSpeedRef R)

/-- The position whose answer the phone listens for, and since when. -/
structure WaitingPosition (R : Type) where
  payload : RawPosition R
  since : Int

structure SendState (R : Type) where
  /-- `posRef` -/
  position : Option (DriverPosition R)
  /-- `rawPosRef` -/
  rawPosition : Option (RawNumber R × RawNumber R)
  vehicleId : Option String
  deliveryId : Option String
  isSending : Bool
  lastSendTime : Int
  /-- The socket is connected, as far as it knows. -/
  connected : Bool
  waiting : Option (WaitingPosition R)
  /-- The local queue has a position that the phone waits for before it sends the next. -/
  releasing : Bool
  queue : List (RawPosition R)
  /-- The positions `sendPosition` was called with. -/
  handed : List (RawPosition R)
  sent : List (SentPosition R)
  /-- The answers on their way, each with the position it is about. -/
  answers : List (RawPosition R × Reply)
  handled : List (Handling R)

inductive SendEvent (R : Type) where
  | located (position : DriverPosition R) (raw : RawNumber R × RawNumber R)
  | context (vehicleId deliveryId : Option String)
  | sendPosition (now : Int)
  /-- The two seconds of the position that waits are over. -/
  | timeout (now : Int)
  /-- `enqueuePosition` is done. -/
  | enqueued
  /-- The gateway handles the `i`-th message. -/
  | handle (i : Nat) (handling : Handling R)
  /-- The `i`-th message does not arrive. -/
  | lost (i : Nat)
  /-- The first answer arrives. -/
  | answer
  | connect
  | disconnect

variable {R : Type} [Field R] [LinearOrder R] [JsMath R]

namespace SendState

variable (s : SendState R)

def enqueue (payload : RawPosition R) : SendState R := { s with queue := s.queue ++ [payload] }

/-- A position is in hand: it waits, is sent, or goes into the queue. -/
def sendPosition (now : Int) : SendState R :=
  match s.position with
  | none => s
  | some p =>
    let payload := buildPositionPayload s.rawPosition s.vehicleId s.deliveryId now p
    let handed := { s with handed := s.handed ++ [payload] }
    if s.isSending then handed.enqueue payload
    else if (accuracyOr50 p.accuracy).min accuracyReject then handed.enqueue payload
    else if now - s.lastSendTime < locationFastestIntervalMs then handed.enqueue payload
    else if s.connected then
      { handed with
        lastSendTime := now, isSending := true, waiting := some ⟨payload, now⟩
        sent := s.sent ++ [⟨payload, true⟩] }
    else
      { handed with lastSendTime := now, isSending := true, releasing := true }.enqueue payload

def timeout (now : Int) : SendState R :=
  match s.waiting with
  | none => s
  | some w =>
    if now < w.since + answerTimeoutMs then s
    else { s with waiting := none, isSending := false }.enqueue w.payload

/-- `onSaved` and `onRejected`, of the position that waits. -/
def answered (w : WaitingPosition R) : Reply → SendState R
  | .positionSaved _ _ => { s with waiting := none, isSending := false }
  | .positionRejected reason =>
    if reason = "invalid_payload" then { s with waiting := none, isSending := false }
    else { s with waiting := none, releasing := true }.enqueue w.payload

def withAnswers (answers : List (RawPosition R × Reply)) : SendState R := { s with answers := answers }

/-- An answer arrives: the listeners that are there take it. -/
def answer : SendState R :=
  match s.answers with
  | [] => s
  | (_, reply) :: rest =>
    match s.waiting with
    | none => s.withAnswers rest
    | some w => (s.withAnswers rest).answered w reply

/-- The gateway handles a message; its user, clock and database are whatever they are. -/
def handle (i : Nat) (handling : Handling R) : SendState R :=
  match s.sent[i]? with
  | none => s
  | some m =>
    let call := { handling.call with raw := m.payload }
    { s with
      sent := s.sent.eraseIdx i
      handled := s.handled ++ [{ handling with call := call }]
      answers := s.answers ++ if m.answerable then
        (call.handlePosition handling.queries handling.windows).replies.map (m.payload, ·) else [] }

def step : SendEvent R → SendState R
  | .located position raw => { s with position := some position, rawPosition := some raw }
  | .context vehicleId deliveryId => { s with vehicleId := vehicleId, deliveryId := deliveryId }
  | .sendPosition now => s.sendPosition now
  | .timeout now => s.timeout now
  | .enqueued => if s.releasing then { s with releasing := false, isSending := false } else s
  | .handle i handling => s.handle i handling
  | .lost i => { s with sent := s.sent.eraseIdx i }
  | .answer => s.answer
  | .connect => { s with connected := true }
  | .disconnect =>
    -- what the gateway got it handles, but it has nobody to answer
    { s with
      connected := false, answers := []
      sent := s.sent.map fun m => { m with answerable := false } }

/-- The phone before its first fix. -/
def start : SendState R :=
  ⟨none, none, none, none, false, 0, false, none, false, [], [], [], [], []⟩

end SendState

/-! ## What the gateway did with a position -/

namespace Handling

variable (h : Handling R)

def outcome : Handled R := h.call.handlePosition h.queries h.windows

/-- The handler stored this very position. -/
def Saved : Prop :=
  ∃ dto row, validatePosition h.call.now h.call.raw = .ok dto ∧
    h.outcome.positions.rows = h.queries.save.positions.rows ++ [row] ∧
    row.key = (dto.vehicleId, dto.timestamp)

/-- The store refused it as a duplicate of a stored one. -/
def Duplicate : Prop :=
  ∃ dto, validatePosition h.call.now h.call.raw = .ok dto ∧
    h.outcome.replies = [.positionRejected "rejected"] ∧
    admitPosition h.queries.save.registry dto (some h.call.user.companyId) .phone ≠ none ∧
    h.queries.save.Refuses dto h.call.user.companyId

/-- It was rejected as invalid. -/
def Invalid : Prop := h.outcome.replies = [.positionRejected "invalid_payload"]

/-- The phone may give the position up. -/
def Settles : Prop := h.Saved ∨ h.Duplicate ∨ h.Invalid

end Handling

namespace SendState

variable (s : SendState R)

/-- The gateway settled this position. -/
def Settled (p : RawPosition R) : Prop := ∃ h ∈ s.handled, h.call.raw = p ∧ h.Settles

/-- A position that was handed to `sendPosition` waits for its answer, is in the queue, or is settled. -/
def NeverLost : Prop :=
  ∀ p ∈ s.handed, (∃ w, s.waiting = some w ∧ w.payload = p) ∨ p ∈ s.queue ∨ s.Settled p

/-- An answer the phone gives a position up for. -/
def Ends : Reply → Prop
  | .positionSaved _ _ => True
  | .positionRejected reason => reason = "invalid_payload"

/-- An answer that gives up the position that waits is about that position, unless the position is in
the queue or settled as well. -/
def Correlated (s : SendState R) : SendEvent R → Prop
  | .answer => ∀ about reply rest w, s.answers = (about, reply) :: rest → s.waiting = some w →
    Ends reply → about = w.payload ∨ w.payload ∈ s.queue ∨ s.Settled w.payload
  | _ => True

/-! ## What the answers say -/

/-- An answer that a position is given up for settles it. -/
theorem settles_of_ends {h : Handling R} {reply : Reply} (hmem : reply ∈ h.outcome.replies)
    (hends : Ends reply) : h.Settles := by
  cases reply with
  | positionRejected reason =>
    obtain rfl : reason = "invalid_payload" := hends
    refine Or.inr (Or.inr ?_)
    have hone : h.outcome.replies.length ≤ 1 :=
      h.call.handlePosition_replies_le_one h.queries h.windows
    obtain ⟨reply, hreplies⟩ := List.length_eq_one_iff.mp
      (Nat.le_antisymm hone (List.length_pos_of_mem hmem))
    rw [hreplies] at hmem
    rw [Handling.Invalid, hreplies, List.mem_singleton.mp hmem]
  | positionSaved key suspect =>
    have hleave : ∀ reason, .positionSaved key suspect ∉ (h.queries.leave h.windows reason).replies := by
      intro reason hmem
      obtain ⟨_, -, h⟩ := List.mem_map.mp hmem
      cases h
    rcases h.call.handlePosition_cases h.queries h.windows with
      ⟨reason, houtcome⟩ | ⟨driverId, dto, hvalid, houtcome⟩
    · rw [Handling.outcome, houtcome] at hmem
      exact absurd hmem (hleave reason)
    · refine Or.inl ?_
      rcases h.call.store_cases h.queries h.windows driverId dto with
        ⟨-, hstore⟩ | ⟨-, row, positions, windows', ⟨hrows, hkey⟩, ⟨-, hstore⟩ | ⟨-, hstore⟩⟩
      · rw [Handling.outcome, houtcome, hstore] at hmem
        exact absurd hmem (hleave _)
      · rw [Handling.outcome, houtcome, hstore] at hmem
        cases hmem
      · refine ⟨dto, row, hvalid, ?_, hkey⟩
        rw [Handling.outcome, houtcome, hstore]
        exact hrows

/-! ## The steps -/

variable {s t : SendState R} {p : RawPosition R}

theorem Settled.mono (hsub : s.handled ⊆ t.handled) (h : s.Settled p) : t.Settled p := by
  obtain ⟨handling, hmem, hraw, hsettles⟩ := h
  exact ⟨handling, hsub hmem, hraw, hsettles⟩

omit [JsMath R] in
/-- What a call of `sendPosition` can do: nothing, without a fix; a position into the queue; a position
sent; or, without a connection, a position into the queue that the next one waits for. -/
theorem sendPosition_cases (s : SendState R) (now : Int) :
    s.sendPosition now = s ∨
    (∃ payload, s.sendPosition now =
      { s with handed := s.handed ++ [payload], queue := s.queue ++ [payload] }) ∨
    (s.isSending = false ∧ ∃ payload, s.sendPosition now =
      { s with
        handed := s.handed ++ [payload], lastSendTime := now, isSending := true
        waiting := some ⟨payload, now⟩, sent := s.sent ++ [⟨payload, true⟩] }) ∨
    (s.isSending = false ∧ ∃ payload, s.sendPosition now =
      { s with
        handed := s.handed ++ [payload], lastSendTime := now, isSending := true
        releasing := true, queue := s.queue ++ [payload] }) := by
  cases hposition : s.position with
  | none =>
    refine Or.inl ?_
    simp only [sendPosition, hposition]
  | some p =>
    simp only [sendPosition, hposition, enqueue]
    split
    · exact Or.inr (Or.inl ⟨_, rfl⟩)
    · rename_i hsending
      rw [Bool.not_eq_true] at hsending
      split_ifs
      · exact Or.inr (Or.inl ⟨_, rfl⟩)
      · exact Or.inr (Or.inl ⟨_, rfl⟩)
      · exact Or.inr (Or.inr (Or.inl ⟨hsending, _, rfl⟩))
      · exact Or.inr (Or.inr (Or.inr ⟨hsending, _, rfl⟩))

omit [Field R] [LinearOrder R] [JsMath R] in
/-- What an answer does to the position that waits: it is done, or it goes into the queue. -/
theorem answered_cases (s : SendState R) (w : WaitingPosition R) (reply : Reply) :
    (Ends reply ∧ s.answered w reply = { s with waiting := none, isSending := false }) ∨
    (¬ Ends reply ∧ s.answered w reply =
      { s with waiting := none, releasing := true, queue := s.queue ++ [w.payload] }) := by
  cases reply with
  | positionSaved key suspect => exact Or.inl ⟨trivial, rfl⟩
  | positionRejected reason =>
    by_cases hreason : reason = "invalid_payload"
    · exact Or.inl ⟨hreason, if_pos hreason⟩
    · exact Or.inr ⟨hreason, if_neg hreason⟩

/-- At most one position waits, and an answer that ends a position settled the one it is about. -/
structure Tracked (s : SendState R) : Prop where
  waiting_sends : ∀ w, s.waiting = some w → s.isSending = true ∧ w.payload ∈ s.handed
  releasing_sends : s.releasing = true → s.isSending = true ∧ s.waiting = none
  answers_settle : ∀ a ∈ s.answers, Ends a.2 → s.Settled a.1

theorem start_tracked : (start : SendState R).Tracked where
  waiting_sends := by
    intro w hw
    cases hw
  releasing_sends := by
    intro h
    cases h
  answers_settle := by
    intro a ha
    cases ha

theorem start_neverLost : (start : SendState R).NeverLost := by
  intro p hp
  cases hp

theorem Tracked.waiting_none (h : s.Tracked) (hsending : s.isSending = false) : s.waiting = none := by
  cases hwaiting : s.waiting with
  | none => rfl
  | some w => cases hsending.symm.trans (h.waiting_sends w hwaiting).1

theorem Tracked.sendPosition (h : s.Tracked) (now : Int) : (s.sendPosition now).Tracked := by
  rcases s.sendPosition_cases now with
    hsame | ⟨payload, hqueue⟩ | ⟨hsending, payload, hsent⟩ | ⟨hsending, payload, hoffline⟩
  · rwa [hsame]
  · rw [hqueue]
    refine ⟨fun w hw => ?_, h.releasing_sends, h.answers_settle⟩
    exact ⟨(h.waiting_sends w hw).1, List.mem_append_left _ (h.waiting_sends w hw).2⟩
  · rw [hsent]
    refine ⟨fun w hw => ?_, fun hreleasing => ?_, h.answers_settle⟩
    · cases hw
      exact ⟨rfl, List.mem_append_right _ (List.mem_singleton_self _)⟩
    · cases hsending.symm.trans (h.releasing_sends hreleasing).1
  · rw [hoffline]
    have hnone := h.waiting_none hsending
    refine ⟨fun w hw => ?_, fun _ => ⟨rfl, hnone⟩, h.answers_settle⟩
    cases hnone.symm.trans hw

theorem Tracked.timeout (h : s.Tracked) (now : Int) : (s.timeout now).Tracked := by
  cases hwaiting : s.waiting with
  | none => simpa only [SendState.timeout, hwaiting] using h
  | some w =>
    simp only [SendState.timeout, hwaiting]
    split
    · exact h
    · refine ⟨fun w' hw' => ?_, fun hreleasing => ?_, h.answers_settle⟩
      · cases hw'
      · cases hwaiting.symm.trans (h.releasing_sends hreleasing).2

theorem Tracked.answer (h : s.Tracked) : s.answer.Tracked := by
  cases hanswers : s.answers with
  | nil => simpa only [SendState.answer, hanswers] using h
  | cons a rest =>
    have hrest : ∀ a ∈ rest, Ends a.2 → s.Settled a.1 := by
      intro a ha
      exact h.answers_settle a (hanswers ▸ List.mem_cons_of_mem _ ha)
    cases hwaiting : s.waiting with
    | none =>
      simp only [SendState.answer, hanswers, hwaiting]
      refine ⟨fun w hw => ?_, fun hreleasing => ⟨(h.releasing_sends hreleasing).1, hwaiting⟩, hrest⟩
      cases hwaiting.symm.trans hw
    | some w =>
      simp only [SendState.answer, hanswers, hwaiting]
      have hsending := (h.waiting_sends w hwaiting).1
      rcases (s.withAnswers rest).answered_cases w a.2 with ⟨-, hend⟩ | ⟨-, hqueue⟩
      · rw [hend]
        refine ⟨fun w' hw' => ?_, fun hreleasing => ?_, hrest⟩
        · cases hw'
        · cases hwaiting.symm.trans (h.releasing_sends hreleasing).2
      · rw [hqueue]
        refine ⟨fun w' hw' => ?_, fun _ => ⟨hsending, rfl⟩, hrest⟩
        cases hw'

theorem Tracked.handle (h : s.Tracked) (i : Nat) (handling : Handling R) :
    (s.handle i handling).Tracked := by
  cases hi : s.sent[i]? with
  | none => simpa only [SendState.handle, hi] using h
  | some m =>
    simp only [SendState.handle, hi]
    refine ⟨h.waiting_sends, h.releasing_sends, fun a ha hends => ?_⟩
    rcases List.mem_append.mp ha with hold | hnew
    · exact (h.answers_settle a hold hends).mono (List.subset_append_left _ _)
    · cases hanswerable : m.answerable with
      | false =>
        rw [hanswerable] at hnew
        cases hnew
      | true =>
        rw [hanswerable] at hnew
        obtain ⟨reply, hreply, rfl⟩ := List.mem_map.mp hnew
        exact ⟨_, List.mem_append_right _ (List.mem_singleton_self _), rfl,
          settles_of_ends hreply hends⟩

theorem Tracked.step (h : s.Tracked) (e : SendEvent R) : (s.step e).Tracked := by
  cases e with
  | located position raw => exact ⟨h.waiting_sends, h.releasing_sends, h.answers_settle⟩
  | context vehicleId deliveryId => exact ⟨h.waiting_sends, h.releasing_sends, h.answers_settle⟩
  | sendPosition now => exact h.sendPosition now
  | timeout now => exact h.timeout now
  | enqueued =>
    simp only [SendState.step]
    split
    · rename_i hreleasing
      refine ⟨fun w hw => ?_, fun hreleasing => ?_, h.answers_settle⟩
      · cases (h.releasing_sends hreleasing).2.symm.trans hw
      · cases hreleasing
    · exact h
  | handle i handling => exact h.handle i handling
  | lost i => exact ⟨h.waiting_sends, h.releasing_sends, h.answers_settle⟩
  | answer => exact h.answer
  | connect => exact ⟨h.waiting_sends, h.releasing_sends, h.answers_settle⟩
  | disconnect =>
    refine ⟨h.waiting_sends, h.releasing_sends, fun a ha => ?_⟩
    cases ha

/-! ## No position is lost -/

theorem NeverLost.sendPosition (hs : s.NeverLost) (h : s.Tracked) (now : Int) :
    (s.sendPosition now).NeverLost := by
  rcases s.sendPosition_cases now with
    hsame | ⟨payload, hqueue⟩ | ⟨hsending, payload, hsent⟩ | ⟨hsending, payload, hoffline⟩
  · rwa [hsame]
  · rw [hqueue]
    refine List.forall_mem_append.mpr ⟨fun p hp => ?_, fun p hp => ?_⟩
    · exact (hs p hp).imp_right (Or.imp_left (List.mem_append_left _))
    · exact Or.inr (Or.inl (List.mem_append_right _ hp))
  · rw [hsent]
    refine List.forall_mem_append.mpr ⟨fun p hp => ?_, fun p hp => ?_⟩
    · refine Or.inr ((hs p hp).resolve_left ?_)
      rintro ⟨w, hw, -⟩
      cases (h.waiting_none hsending).symm.trans hw
    · exact Or.inl ⟨_, rfl, (List.mem_singleton.mp hp).symm⟩
  · rw [hoffline]
    refine List.forall_mem_append.mpr ⟨fun p hp => ?_, fun p hp => ?_⟩
    · exact (hs p hp).imp_right (Or.imp_left (List.mem_append_left _))
    · exact Or.inr (Or.inl (List.mem_append_right _ hp))

theorem NeverLost.timeout (hs : s.NeverLost) (now : Int) : (s.timeout now).NeverLost := by
  cases hwaiting : s.waiting with
  | none => simpa only [SendState.timeout, hwaiting] using hs
  | some w =>
    simp only [SendState.timeout, hwaiting]
    split
    · exact hs
    · intro p hp
      rcases hs p hp with ⟨w', hw', rfl⟩ | hqueue | hsettled
      · cases hwaiting.symm.trans hw'
        exact Or.inr (Or.inl (List.mem_append_right _ (List.mem_singleton_self _)))
      · exact Or.inr (Or.inl (List.mem_append_left _ hqueue))
      · exact Or.inr (Or.inr hsettled)

theorem NeverLost.handle (hs : s.NeverLost) (i : Nat) (handling : Handling R) :
    (s.handle i handling).NeverLost := by
  cases hi : s.sent[i]? with
  | none => simpa only [SendState.handle, hi] using hs
  | some m =>
    simp only [SendState.handle, hi]
    intro p hp
    refine (hs p hp).imp_right (Or.imp_right fun hsettled => ?_)
    exact hsettled.mono (List.subset_append_left _ _)

/-- An answer loses no position exactly when it is correlated. -/
theorem neverLost_answer_iff (hs : s.NeverLost) (h : s.Tracked) :
    s.answer.NeverLost ↔ s.Correlated .answer := by
  cases hanswers : s.answers with
  | nil => exact iff_of_true (by simpa only [SendState.answer, hanswers] using hs) (by
      intro about reply rest w hcons
      cases hanswers.symm.trans hcons)
  | cons a rest =>
    obtain ⟨about, reply⟩ := a
    cases hwaiting : s.waiting with
    | none =>
      refine iff_of_true ?_ ?_
      · simp only [SendState.answer, hanswers, hwaiting]
        intro p hp
        refine Or.inr ((hs p hp).resolve_left ?_)
        rintro ⟨w, hw, -⟩
        cases hwaiting.symm.trans hw
      · intro about reply rest w _ hw
        cases hwaiting.symm.trans hw
    | some w =>
      have hcorrelated : s.Correlated .answer ↔ (Ends reply →
          about = w.payload ∨ w.payload ∈ s.queue ∨ s.Settled w.payload) := by
        constructor
        · intro hall
          exact hall about reply rest w hanswers hwaiting
        · intro hone about' reply' rest' w' hanswers' hwaiting'
          cases hanswers.symm.trans hanswers'
          cases hwaiting.symm.trans hwaiting'
          exact hone
      rw [hcorrelated]
      simp only [SendState.answer, hanswers, hwaiting]
      rcases (s.withAnswers rest).answered_cases w reply with ⟨hends, hend⟩ | ⟨hends, hqueue⟩
      · rw [hend]
        constructor
        · intro hafter _
          refine Or.inr ((hafter w.payload (h.waiting_sends w hwaiting).2).resolve_left ?_)
          rintro ⟨w', hw', -⟩
          cases hw'
        · intro hone p hp
          rcases hs p hp with ⟨w', hw', rfl⟩ | hkept
          · cases hwaiting.symm.trans hw'
            rcases hone hends with rfl | hkept
            · have hmem : (w.payload, reply) ∈ s.answers := hanswers ▸ List.mem_cons_self ..
              exact Or.inr (Or.inr (h.answers_settle _ hmem hends))
            · exact Or.inr hkept
          · exact Or.inr hkept
      · rw [hqueue]
        refine iff_of_true (fun p hp => ?_) fun hends' => absurd hends' hends
        rcases hs p hp with ⟨w', hw', rfl⟩ | hqueued | hsettled
        · cases hwaiting.symm.trans hw'
          exact Or.inr (Or.inl (List.mem_append_right _ (List.mem_singleton_self _)))
        · exact Or.inr (Or.inl (List.mem_append_left _ hqueued))
        · exact Or.inr (Or.inr hsettled)

theorem neverLost_step_iff (hs : s.NeverLost) (h : s.Tracked) (e : SendEvent R) :
    (s.step e).NeverLost ↔ s.Correlated e := by
  cases e with
  | answer => exact neverLost_answer_iff hs h
  | sendPosition now => exact iff_of_true (hs.sendPosition h now) trivial
  | timeout now => exact iff_of_true (hs.timeout now) trivial
  | handle i handling => exact iff_of_true (hs.handle i handling) trivial
  | enqueued =>
    refine iff_of_true ?_ trivial
    simp only [SendState.step]
    split
    · exact hs
    · exact hs
  | located | context | lost | connect | disconnect => exact iff_of_true hs trivial

/-- No position is ever lost in a run of the phone exactly when every answer is correlated. -/
theorem neverLost_iff {es : List (SendEvent R)} (h : Run (fun s e t => s.step e = t) start es t) :
    (∀ es₁ es₂ u, es = es₁ ++ es₂ → Run (fun s e t => s.step e = t) start es₁ u → u.NeverLost) ↔
      Run (Guarded (fun s e t => s.step e = t) Correlated) start es t := by
  refine Run.always_iff_guarded_of (J := Tracked) ?_ ?_ ?_ h start_neverLost start_tracked
  · intro s e t t' hstep hstep'
    exact hstep.symm.trans hstep'
  · intro s e t _ htracked hstep
    rw [← hstep]
    exact htracked.step e
  · intro s e t hs htracked hstep
    rw [← hstep]
    exact neverLost_step_iff hs htracked e

/-! ### An answer in time, and a late one -/

/-- A precise fix of the sample vehicle. -/
def sampleFixAt (timestamp : Int) : SendEvent ℚ :=
  .located
    { lat := .finite (-189 / 10), lng := .finite (475 / 10), speed := .finite 0, heading := .missing,
      altitude := .missing, accuracy := .finite 10, timestamp := some timestamp }
    (.finite (-189 / 10), .finite (475 / 10))

/-- The gateway handles the first message, over an empty table. -/
def sampleHandle : SendEvent ℚ :=
  .handle 0 ⟨sampleCall 9000, sameDb (sampleDb [sampleDriver] .empty), fun _ => []⟩

def answeredInTime : List (SendEvent ℚ) :=
  [.context (some sampleVehicleId) none, .connect, sampleFixAt 9000, .sendPosition 9000, sampleHandle,
    .answer]

/-- A first position times out, a second is sent, and the answer to the first arrives; the second does
not reach the gateway. -/
def answeredLate : List (SendEvent ℚ) :=
  [.context (some sampleVehicleId) none, .connect, sampleFixAt 9000, .sendPosition 9000, .timeout 11000,
    sampleFixAt 11500, .sendPosition 11500, sampleHandle, .answer, .lost 0]

/-- The answers after a message is handled are those there were, and answers about its position. -/
theorem about_of_handle {i : Nat} {handling : Handling R} {a : RawPosition R × Reply}
    (ha : a ∈ (s.handle i handling).answers) :
    a ∈ s.answers ∨ ∃ m, s.sent[i]? = some m ∧ a.1 = m.payload := by
  cases hi : s.sent[i]? with
  | none => exact Or.inl (by simpa only [SendState.handle, hi] using ha)
  | some m =>
    simp only [SendState.handle, hi, List.mem_append] at ha
    rcases ha with hold | hnew
    · exact Or.inl hold
    · split at hnew
      · obtain ⟨reply, -, rfl⟩ := List.mem_map.mp hnew
        exact Or.inr ⟨m, rfl, rfl⟩
      · cases hnew

theorem neverLost_inTime :
    (answeredInTime.foldl step start).waiting.isNone = true ∧
      (answeredInTime.foldl step start).handed.length = 1 ∧
      ∀ es₁ es₂ u, answeredInTime = es₁ ++ es₂ →
        Run (fun s e t => s.step e = t) (start : SendState ℚ) es₁ u → u.NeverLost := by
  refine ⟨by decide +kernel, by decide +kernel, (neverLost_iff (Run.of_foldl step _ _)).mpr ?_⟩
  refine .cons ⟨rfl, trivial⟩ (.cons ⟨rfl, trivial⟩ (.cons ⟨rfl, trivial⟩ (.cons ⟨rfl, trivial⟩
    (.cons ⟨rfl, trivial⟩ (.cons ⟨rfl, ?_⟩ (.nil _))))))
  intro about reply rest w hanswers hwaiting _
  cases hwaiting
  have hmem := hanswers ▸ List.mem_cons_self (a := (about, reply)) (l := rest)
  rcases about_of_handle hmem with hold | ⟨m, hm, habout⟩
  · cases hold
  · cases hm
    exact Or.inl habout

/-- The second position is given up, and is not settled. -/
theorem answeredLate_loses : ¬ (answeredLate.foldl step start).NeverLost := by
  intro hall
  have hhanded : (answeredLate.foldl step start).handed[1]? = some (sampleCall 11500).raw := by
    decide +kernel
  have hqueue : (sampleCall 11500).raw ∉ (answeredLate.foldl step start).queue := by decide +kernel
  have hwaiting : (answeredLate.foldl step start).waiting.isNone = true := by decide +kernel
  have hhandled : ∀ h ∈ (answeredLate.foldl step start).handled, h.call.raw ≠ (sampleCall 11500).raw := by
    decide +kernel
  rcases hall _ (List.mem_of_getElem? hhanded) with ⟨w, hw, -⟩ | hqueued | ⟨h, hh, hraw, -⟩
  · rw [hw] at hwaiting
    cases hwaiting
  · exact hqueue hqueued
  · exact hhandled h hh hraw

end SendState

end DeliveryTracking.Phone
