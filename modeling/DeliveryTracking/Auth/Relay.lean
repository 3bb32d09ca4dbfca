/-
# `DeliveryTracking.Auth.Relay` — the codes of the native OAuth flow

The app begins a flow with a code challenge and gets a relay; the browser comes
back with the relay and an exchange code is issued for it; the app exchanges the
code with the verifier of its challenge.

    begin                   SET relay, ten minutes
    issueCode               GETDEL relay, then SET code, one minute
    verifyAndConsumeCode    GETDEL code, then compare

With Redis other calls run between the commands of one (`RelayState.step`).  A
process without Redis keeps the two stores in memory (`MemStore`), where entries
past their time stay until they are read or cleaned up.  `deriveChallenge` is an
arbitrary function; random ids are inputs of the calls.
-/
import Mathlib
import DeliveryTracking.Lease
import DeliveryTracking.Runs

namespace DeliveryTracking.Auth

/-! ## Redis -/

/-- `RELAY_TTL_SECONDS` and `CODE_TTL_SECONDS`. -/
def relayTtlSeconds : Nat := 10 * 60
def codeTtlSeconds : Nat := 60

/-- The milliseconds from a `SET .. EX` on after which its key is gone: it is there at the last
one. -/
def ex (seconds : Nat) : Nat := seconds * 1000 + 1

/-- `StoredCode` -/
structure StoredCode where
  userId : String
  challenge : String
  deriving DecidableEq, Repr

/-- The keys under the two prefixes; a relay holds its code challenge. -/
structure RelayStore where
  relays : Keys String String
  codes : Keys String StoredCode

/-- `safeEqual`, on the UTF-8 bytes. -/
def safeEqual (a b : String) : Bool :=
  a.toByteArray.size = b.toByteArray.size ∧ a.toByteArray = b.toByteArray

theorem safeEqual_iff {a b : String} : safeEqual a b = true ↔ a = b := by
  simp only [safeEqual, decide_eq_true_eq, String.toByteArray_inj]
  constructor
  · rintro ⟨-, rfl⟩
    rfl
  · rintro rfl
    exact ⟨rfl, rfl⟩

namespace RelayStore

variable (s : RelayStore)

def empty : RelayStore := ⟨fun _ => none, fun _ => none⟩

/-- The command of `begin`. -/
def putRelay (now : Nat) (relayId codeChallenge : String) : RelayStore :=
  { s with relays := s.relays.set now (ex relayTtlSeconds) relayId codeChallenge }

/-- The first command of `issueCode`. -/
def takeRelay (now : Nat) (relayId : String) : Option String × RelayStore :=
  ((s.relays.getDel now relayId).1, { s with relays := (s.relays.getDel now relayId).2 })

/-- The second one. -/
def putCode (now : Nat) (code : String) (stored : StoredCode) : RelayStore :=
  { s with codes := s.codes.set now (ex codeTtlSeconds) code stored }

/-- The command of `verifyAndConsumeCode`. -/
def takeCode (now : Nat) (code : String) : Option StoredCode × RelayStore :=
  ((s.codes.getDel now code).1, { s with codes := (s.codes.getDel now code).2 })

end RelayStore

/-- The end of `verifyAndConsumeCode`: the user, if the verifier is the one of the challenge. -/
def StoredCode.check (deriveChallenge : String → String) (verifier : String) (entry : StoredCode) :
    Option String :=
  if safeEqual (deriveChallenge verifier) entry.challenge then some entry.userId else none

/-! ## One call after the other -/

/-- A call with its arguments, the random id it draws, the time before it, and the time between its
two clock readings. -/
inductive RelayCall where
  | begin (codeChallenge relayId : String)
  | isRelayValid (relayId : String)
  | issueCode (relayId userId code : String) (during : Nat)
  | verifyAndConsumeCode (code verifier : String)
  /-- The timer that clears the memory. -/
  | cleanupMemory
  deriving DecidableEq, Repr

inductive RelayAnswer where
  | relay (relayId : String)
  | valid (b : Bool)
  | code (code : Option String)
  | user (userId : Option String)
  | cleaned
  deriving DecidableEq, Repr

/-- The calls on Redis. -/
def RelayStore.call (deriveChallenge : String → String) (s : RelayStore) (now : Nat) :
    RelayCall → RelayAnswer × RelayStore
  | .begin codeChallenge relayId => (.relay relayId, s.putRelay now relayId codeChallenge)
  | .isRelayValid relayId => (.valid (Lease.alive now (s.relays relayId)).isSome, s)
  | .issueCode relayId userId code during =>
    match s.takeRelay now relayId with
    | (none, s) => (.code none, s)
    | (some codeChallenge, s) =>
      (.code (some code), s.putCode (now + during) code ⟨userId, codeChallenge⟩)
  | .verifyAndConsumeCode code verifier =>
    match s.takeCode now code with
    | (none, s) => (.user none, s)
    | (some entry, s) => (.user (entry.check deriveChallenge verifier), s)
  | .cleanupMemory => (.cleaned, s)

structure MemRelayEntry where
  codeChallenge : String
  expiresAt : Nat
  deriving DecidableEq, Repr

structure MemCodeEntry where
  userId : String
  challenge : String
  expiresAt : Nat
  used : Bool
  deriving DecidableEq, Repr

/-- The maps of the process. -/
structure MemStore where
  memRelays : String → Option MemRelayEntry
  memCodes : String → Option MemCodeEntry

namespace MemStore

def empty : MemStore := ⟨fun _ => none, fun _ => none⟩

variable (m : MemStore)

/-- `cleanupMemory` -/
def cleanup (now : Nat) : MemStore :=
  ⟨fun id => (m.memRelays id).filter fun relay => !decide (relay.expiresAt < now),
    fun code => (m.memCodes code).filter fun entry => !decide (entry.expiresAt < now)⟩

/-- The calls in memory. -/
def call (deriveChallenge : String → String) (now : Nat) : RelayCall → RelayAnswer × MemStore
  | .begin codeChallenge relayId =>
    (.relay relayId,
      ⟨Function.update m.memRelays relayId
          (some ⟨codeChallenge, now + relayTtlSeconds * 1000⟩), m.memCodes⟩)
  | .isRelayValid relayId =>
    match m.memRelays relayId with
    | none => (.valid false, m)
    | some relay =>
      if relay.expiresAt < now then
        (.valid false, { m with memRelays := Function.update m.memRelays relayId none })
      else (.valid true, m)
  | .issueCode relayId userId code during =>
    match m.memRelays relayId with
    | none => (.code none, m)
    | some relay =>
      if relay.expiresAt < now then (.code none, m)
      else
        (.code (some code),
          ⟨Function.update m.memRelays relayId none,
            Function.update m.memCodes code
              (some ⟨userId, relay.codeChallenge, now + during + codeTtlSeconds * 1000, false⟩)⟩)
  | .verifyAndConsumeCode code verifier =>
    match m.memCodes code with
    | none => (.user none, m)
    | some memEntry =>
      let m := { m with memCodes := Function.update m.memCodes code none }
      if memEntry.used || memEntry.expiresAt < now then (.user none, m)
      else
        (.user (StoredCode.check deriveChallenge verifier ⟨memEntry.userId, memEntry.challenge⟩), m)
  | .cleanupMemory => (.cleaned, m.cleanup now)

end MemStore

/-- The time between the two clock readings of a call. -/
def RelayCall.during : RelayCall → Nat
  | .issueCode _ _ _ during => during
  | _ => 0

/-- Calls one after the other, each some time after the one before. -/
def sequential {σ : Type} (call : σ → Nat → RelayCall → RelayAnswer × σ) (s : Nat × σ)
    (i : Nat × RelayCall) : RelayAnswer × (Nat × σ) :=
  ((call s.2 (s.1 + i.1) i.2).1, (s.1 + i.1 + i.2.during, (call s.2 (s.1 + i.1) i.2).2))

/-! ## Memory answers as Redis does -/

/-- An entry as a key: it is there at its last millisecond. -/
def MemRelayEntry.lease (relay : MemRelayEntry) : Lease String :=
  ⟨relay.codeChallenge, relay.expiresAt + 1⟩

def MemCodeEntry.lease (entry : MemCodeEntry) : Lease StoredCode :=
  ⟨⟨entry.userId, entry.challenge⟩, entry.expiresAt + 1⟩

namespace MemStore

variable {m : MemStore} {s : RelayStore} {now : Nat}

def relays (m : MemStore) : Keys String String := fun id => (m.memRelays id).map MemRelayEntry.lease

def codes (m : MemStore) : Keys String StoredCode :=
  fun code => (m.memCodes code).map MemCodeEntry.lease

theorem relays_update (id : String) (relay : Option MemRelayEntry)
    (memCodes : String → Option MemCodeEntry) :
    relays ⟨Function.update m.memRelays id relay, memCodes⟩
      = Function.update m.relays id (relay.map MemRelayEntry.lease) :=
  funext fun id' => Function.apply_update (fun _ => Option.map MemRelayEntry.lease) _ id relay id'

theorem codes_update (memRelays : String → Option MemRelayEntry) (code : String)
    (entry : Option MemCodeEntry) :
    codes ⟨memRelays, Function.update m.memCodes code entry⟩
      = Function.update m.codes code (entry.map MemCodeEntry.lease) :=
  funext fun code' => Function.apply_update (fun _ => Option.map MemCodeEntry.lease) _ code entry code'

/-- The two stores look alike, and no code is marked as used. -/
structure Mirrors (now : Nat) (m : MemStore) (s : RelayStore) : Prop where
  relays : Keys.Alike now m.relays s.relays
  codes : Keys.Alike now m.codes s.codes
  unused : ∀ code entry, m.memCodes code = some entry → entry.used = false

namespace Mirrors

theorem mono (h : Mirrors now m s) {t : Nat} (hle : now ≤ t) : Mirrors t m s :=
  ⟨h.relays.mono hle, h.codes.mono hle, h.unused⟩

/-- A relay in memory is the one Redis has, until it expires. -/
theorem relay (h : Mirrors now m s) {id : String} {relay : MemRelayEntry}
    (hrelay : m.memRelays id = some relay) :
    Lease.alive now (s.relays id) = if relay.expiresAt < now then none else some relay.lease := by
  rw [← h.relays id, MemStore.relays, hrelay, Option.map_some, Lease.alive_some]
  show (if now < relay.expiresAt + 1 then _ else _) = _
  split <;> split <;> first | rfl | omega

theorem relay_none (h : Mirrors now m s) {id : String} (hrelay : m.memRelays id = none) :
    Lease.alive now (s.relays id) = none := by
  rw [← h.relays id, MemStore.relays, hrelay]
  rfl

theorem code (h : Mirrors now m s) {code : String} {entry : MemCodeEntry}
    (hentry : m.memCodes code = some entry) :
    Lease.alive now (s.codes code) = if entry.expiresAt < now then none else some entry.lease := by
  rw [← h.codes code, MemStore.codes, hentry, Option.map_some, Lease.alive_some]
  show (if now < entry.expiresAt + 1 then _ else _) = _
  split <;> split <;> first | rfl | omega

theorem code_none (h : Mirrors now m s) {code : String} (hentry : m.memCodes code = none) :
    Lease.alive now (s.codes code) = none := by
  rw [← h.codes code, MemStore.codes, hentry]
  rfl

/-- The same relay is written, or removed, on both sides. -/
theorem updateRelay (h : Mirrors now m s) (id : String) (relay : Option MemRelayEntry) :
    Mirrors now ⟨Function.update m.memRelays id relay, m.memCodes⟩
      ⟨Function.update s.relays id (relay.map MemRelayEntry.lease), s.codes⟩ :=
  ⟨by rw [relays_update]; exact h.relays.update id rfl, h.codes, h.unused⟩

theorem updateCode (h : Mirrors now m s) (code : String) (entry : Option MemCodeEntry)
    (hunused : ∀ e, entry = some e → e.used = false) :
    Mirrors now ⟨m.memRelays, Function.update m.memCodes code entry⟩
      ⟨s.relays, Function.update s.codes code (entry.map MemCodeEntry.lease)⟩ := by
  refine ⟨h.relays, by rw [codes_update]; exact h.codes.update code rfl, ?_⟩
  intro code' e he
  by_cases hcode : code' = code
  · subst hcode
    simp only [Function.update_self] at he
    exact hunused e he
  · simp only [Function.update_of_ne hcode] at he
    exact h.unused code' e he

/-- An expired relay that one side removes. -/
theorem removeDeadRelay (h : Mirrors now m s) {id : String}
    (hdead : Lease.alive now (s.relays id) = none) :
    Mirrors now m ⟨Function.update s.relays id none, s.codes⟩ ∧
      Mirrors now ⟨Function.update m.memRelays id none, m.memCodes⟩ s := by
  have hright : Mirrors now m ⟨Function.update s.relays id none, s.codes⟩ :=
    ⟨h.relays.trans (Keys.Alike.remove_dead hdead), h.codes, h.unused⟩
  refine ⟨hright, ?_, h.codes, h.unused⟩
  rw [relays_update]
  exact ((Keys.Alike.remove_dead (by rw [h.relays id, hdead])).symm).trans h.relays

theorem removeDeadCode (h : Mirrors now m s) {code : String}
    (hdead : Lease.alive now (s.codes code) = none) :
    Mirrors now m ⟨s.relays, Function.update s.codes code none⟩ :=
  ⟨h.relays, h.codes.trans (Keys.Alike.remove_dead hdead), h.unused⟩

theorem cleanup (h : Mirrors now m s) : Mirrors now (m.cleanup now) s := by
  refine ⟨fun id => ?_, fun code => ?_, ?_⟩
  · rw [← h.relays id]
    refine Lease.alive_map_filter (fun relay hremoved hlive => ?_) (m.memRelays id)
    have hexpired : relay.expiresAt < now := by simpa using hremoved
    have hlive : now < relay.expiresAt + 1 := hlive
    omega
  · rw [← h.codes code]
    refine Lease.alive_map_filter (fun entry hremoved hlive => ?_) (m.memCodes code)
    have hexpired : entry.expiresAt < now := by simpa using hremoved
    have hlive : now < entry.expiresAt + 1 := hlive
    omega
  · intro code entry hentry
    exact h.unused code entry (Option.mem_filter_iff.mp hentry).1

end Mirrors

/-- **A call answers the same in memory as on Redis, and the stores look alike after it.** -/
theorem call_mirrors (deriveChallenge : String → String) (h : Mirrors now m s) (call : RelayCall) :
    (m.call deriveChallenge now call).1 = (s.call deriveChallenge now call).1 ∧
      Mirrors (now + call.during) (m.call deriveChallenge now call).2
        (s.call deriveChallenge now call).2 := by
  cases call with
  | begin codeChallenge relayId =>
    exact ⟨rfl, h.updateRelay relayId (some ⟨codeChallenge, now + relayTtlSeconds * 1000⟩)⟩
  | isRelayValid relayId =>
    cases hrelay : m.memRelays relayId with
    | none =>
      simp only [call, RelayStore.call, hrelay, h.relay_none hrelay]
      exact ⟨rfl, h⟩
    | some relay =>
      have halive := h.relay hrelay
      by_cases hexpired : relay.expiresAt < now
      · rw [if_pos hexpired] at halive
        simp only [call, RelayStore.call, hrelay, halive, if_pos hexpired]
        exact ⟨rfl, (h.removeDeadRelay halive).2⟩
      · rw [if_neg hexpired] at halive
        simp only [call, RelayStore.call, hrelay, halive, if_neg hexpired]
        exact ⟨rfl, h⟩
  | issueCode relayId userId code during =>
    cases hrelay : m.memRelays relayId with
    | none =>
      have hdead := h.relay_none hrelay
      simp only [call, RelayStore.call, RelayStore.takeRelay, Keys.getDel, Lease.get, hrelay, hdead]
      exact ⟨rfl, ((h.removeDeadRelay hdead).1).mono (Nat.le_add_right ..)⟩
    | some relay =>
      have halive := h.relay hrelay
      by_cases hexpired : relay.expiresAt < now
      · rw [if_pos hexpired] at halive
        simp only [call, RelayStore.call, RelayStore.takeRelay, Keys.getDel, Lease.get, hrelay, halive,
          if_pos hexpired]
        exact ⟨rfl, ((h.removeDeadRelay halive).1).mono (Nat.le_add_right ..)⟩
      · rw [if_neg hexpired] at halive
        simp only [call, RelayStore.call, RelayStore.takeRelay, Keys.getDel, Lease.get, hrelay, halive,
          if_neg hexpired]
        refine ⟨rfl, ?_⟩
        have hremoved := (h.updateRelay relayId none).mono (Nat.le_add_right now during)
        refine hremoved.updateCode code (some ⟨userId, relay.codeChallenge,
          now + during + codeTtlSeconds * 1000, false⟩) ?_
        rintro e ⟨⟩
        rfl
  | verifyAndConsumeCode code verifier =>
    cases hentry : m.memCodes code with
    | none =>
      have hdead := h.code_none hentry
      simp only [call, RelayStore.call, RelayStore.takeCode, Keys.getDel, Lease.get, hentry, hdead]
      exact ⟨rfl, h.removeDeadCode hdead⟩
    | some entry =>
      have halive := h.code hentry
      have hunused := h.unused code entry hentry
      have hremoved := h.updateCode code none (by
        intro e he
        cases he)
      by_cases hexpired : entry.expiresAt < now
      · rw [if_pos hexpired] at halive
        simp only [call, RelayStore.call, RelayStore.takeCode, Keys.getDel, Lease.get, hentry, halive,
          hunused, hexpired, decide_true, Bool.or_true, if_true]
        exact ⟨rfl, hremoved⟩
      · rw [if_neg hexpired] at halive
        simp only [call, RelayStore.call, RelayStore.takeCode, Keys.getDel, Lease.get, hentry, halive,
          hunused, hexpired, decide_false, Bool.or_false]
        exact ⟨rfl, hremoved⟩
  | cleanupMemory => exact ⟨rfl, h.cleanup⟩

/-- In every sequence of calls the answers are the same. -/
theorem answers_eq_redis (deriveChallenge : String → String) (calls : List (Nat × RelayCall)) :
    (trace (sequential fun m : MemStore => m.call deriveChallenge) (0, MemStore.empty) calls).map
        Tick.output
      = (trace (sequential fun s : RelayStore => s.call deriveChallenge) (0, RelayStore.empty)
          calls).map Tick.output := by
  have hempty : Mirrors 0 MemStore.empty RelayStore.empty :=
    ⟨fun _ => rfl, fun _ => rfl, fun _ _ h => nomatch h⟩
  refine trace_outputs_eq (R := fun x y => x.1 = y.1 ∧ Mirrors x.1 x.2 y.2) ?_ ⟨rfl, hempty⟩
  rintro ⟨clock, m⟩ ⟨clock', s⟩ ⟨gap, call⟩ ⟨rfl, h⟩
  obtain ⟨hanswer, hnext⟩ := call_mirrors deriveChallenge (h.mono (Nat.le_add_right clock gap)) call
  exact ⟨hanswer, rfl, hnext⟩

end MemStore

/-! ## Interleaved calls on Redis -/

/-- A relay that was begun. -/
structure BegunRelay where
  relayId : String
  codeChallenge : String
  deriving DecidableEq, Repr

/-- A call of `issueCode` between its two commands. -/
structure PendingCode where
  relayId : String
  stored : StoredCode
  deriving DecidableEq, Repr

structure IssuedCode where
  relayId : String
  code : String
  stored : StoredCode
  /-- Milliseconds. -/
  issuedAt : Nat
  deriving DecidableEq, Repr

/-- An exchange that gave a user. -/
structure ExchangedCode where
  code : String
  verifier : String
  userId : String
  exchangedAt : Nat
  deriving DecidableEq, Repr

/-- The stores, the calls under way, and what was begun, issued and exchanged so far. -/
structure RelayState where
  clock : Nat
  store : RelayStore
  pending : List PendingCode
  begun : List BegunRelay
  issued : List IssuedCode
  exchanged : List ExchangedCode

/-- The commands of the calls, in any order, and the passing of time. -/
inductive RelayEvent where
  | begin (codeChallenge relayId : String)
  | takeRelay (relayId userId : String)
  | putCode (i : Nat) (code : String)
  | verifyAndConsumeCode (code verifier : String)
  | later (ms : Nat)
  deriving DecidableEq, Repr

namespace RelayState

def empty : RelayState := ⟨0, .empty, [], [], [], []⟩

variable (deriveChallenge : String → String)

/-- One command; a random id that was drawn before is not drawn again. -/
def step (s : RelayState) : RelayEvent → Option RelayState
  | .begin codeChallenge relayId =>
    if relayId ∈ s.begun.map BegunRelay.relayId then none
    else
      some { s with
        store := s.store.putRelay s.clock relayId codeChallenge
        begun := s.begun ++ [⟨relayId, codeChallenge⟩] }
  | .takeRelay relayId userId =>
    match s.store.takeRelay s.clock relayId with
    | (none, store) => some { s with store := store }
    | (some codeChallenge, store) =>
      some { s with
        store := store
        pending := s.pending ++ [⟨relayId, ⟨userId, codeChallenge⟩⟩] }
  | .putCode i code =>
    match s.pending[i]? with
    | none => none
    | some call =>
      if code ∈ s.issued.map IssuedCode.code then none
      else
        some { s with
          store := s.store.putCode s.clock code call.stored
          pending := s.pending.eraseIdx i
          issued := s.issued ++ [⟨call.relayId, code, call.stored, s.clock⟩] }
  | .verifyAndConsumeCode code verifier =>
    match s.store.takeCode s.clock code with
    | (none, store) => some { s with store := store }
    | (some entry, store) =>
      some { s with
        store := store
        exchanged := s.exchanged ++
          ((entry.check deriveChallenge verifier).map
            fun userId => ⟨code, verifier, userId, s.clock⟩).toList }
  | .later ms => some { s with clock := s.clock + ms }

/-- Each relay gave one code at most, each code was exchanged once at most, within its minute, for
the user it was issued to and with a verifier of the challenge its relay was begun with. -/
structure SingleUse (s : RelayState) : Prop where
  relay : (s.issued.map IssuedCode.relayId).Nodup
  code : (s.exchanged.map ExchangedCode.code).Nodup
  bound : ∀ e ∈ s.exchanged, ∃ x ∈ s.issued, ∃ b ∈ s.begun,
    x.code = e.code ∧ x.stored.userId = e.userId ∧ b.relayId = x.relayId ∧
    x.issuedAt ≤ e.exchangedAt ∧ e.exchangedAt ≤ x.issuedAt + codeTtlSeconds * 1000 ∧
    deriveChallenge e.verifier = b.codeChallenge

/-- What every command keeps. -/
structure Inv (s : RelayState) : Prop where
  /-- A relay that is there was begun with its challenge, and has no code yet. -/
  relays : ∀ id l, s.store.relays id = some l → ⟨id, l.holder⟩ ∈ s.begun ∧
    id ∉ s.pending.map PendingCode.relayId ++ s.issued.map IssuedCode.relayId
  /-- A code that is there was issued, and not exchanged. -/
  codes : ∀ code l, s.store.codes code = some l → code ∉ s.exchanged.map ExchangedCode.code ∧
    ∃ x ∈ s.issued, x.code = code ∧ x.stored = l.holder ∧
      l.expiresAt = x.issuedAt + ex codeTtlSeconds
  begunOnce : (s.begun.map BegunRelay.relayId).Nodup
  relayOnce : (s.pending.map PendingCode.relayId ++ s.issued.map IssuedCode.relayId).Nodup
  pendingBegun : ∀ p ∈ s.pending, ⟨p.relayId, p.stored.challenge⟩ ∈ s.begun
  issuedBegun : ∀ x ∈ s.issued, ⟨x.relayId, x.stored.challenge⟩ ∈ s.begun
  issuedBefore : ∀ x ∈ s.issued, x.issuedAt ≤ s.clock
  exchangedOnce : (s.exchanged.map ExchangedCode.code).Nodup
  exchangedIssued : ∀ e ∈ s.exchanged, ∃ x ∈ s.issued, x.code = e.code ∧
    x.stored.userId = e.userId ∧ x.issuedAt ≤ e.exchangedAt ∧
    e.exchangedAt ≤ x.issuedAt + codeTtlSeconds * 1000 ∧
    deriveChallenge e.verifier = x.stored.challenge

variable {deriveChallenge} {s t : RelayState}

theorem Inv.singleUse (h : Inv deriveChallenge s) : SingleUse deriveChallenge s where
  relay := (List.nodup_append.mp h.relayOnce).2.1
  code := h.exchangedOnce
  bound := by
    intro e he
    obtain ⟨x, hx, hcode, huser, hafter, hintime, hverifier⟩ := h.exchangedIssued e he
    exact ⟨x, hx, ⟨x.relayId, x.stored.challenge⟩, h.issuedBegun x hx, hcode, huser, rfl, hafter,
      hintime, hverifier⟩

theorem inv_empty : Inv deriveChallenge empty := by
  refine ⟨?_, ?_, List.nodup_nil, List.nodup_nil, ?_, ?_, ?_, List.nodup_nil, ?_⟩
  · intro id l h
    cases h
  · intro code l h
    cases h
  all_goals
    intro x hx
    cases hx

/-- What stays when relays only leave the store: the first command of `issueCode` on a relay that
is not there. -/
theorem Inv.of_store (h : Inv deriveChallenge s) {store : RelayStore}
    (hrelays : ∀ id l, store.relays id = some l → s.store.relays id = some l)
    (hcodes : ∀ code l, store.codes code = some l → s.store.codes code = some l) :
    Inv deriveChallenge { s with store := store } where
  relays id l hl := h.relays id l (hrelays id l hl)
  codes code l hl := h.codes code l (hcodes code l hl)
  begunOnce := h.begunOnce
  relayOnce := h.relayOnce
  pendingBegun := h.pendingBegun
  issuedBegun := h.issuedBegun
  issuedBefore := h.issuedBefore
  exchangedOnce := h.exchangedOnce
  exchangedIssued := h.exchangedIssued

theorem Inv.begin (h : Inv deriveChallenge s) {codeChallenge relayId : String}
    (hfresh : relayId ∉ s.begun.map BegunRelay.relayId) :
    Inv deriveChallenge { s with
      store := s.store.putRelay s.clock relayId codeChallenge
      begun := s.begun ++ [⟨relayId, codeChallenge⟩] } := by
  have hold : ∀ b ∈ s.begun, b ∈ s.begun ++ [⟨relayId, codeChallenge⟩] := fun b hb =>
    List.mem_append_left _ hb
  -- a relay that has a code, or is about to, was begun
  have hunused : relayId ∉ s.pending.map PendingCode.relayId ++ s.issued.map IssuedCode.relayId := by
    intro hmem
    rcases List.mem_append.mp hmem with hmem | hmem
    · obtain ⟨p, hp, rfl⟩ := List.mem_map.mp hmem
      exact hfresh (List.mem_map_of_mem (h.pendingBegun p hp))
    · obtain ⟨x, hx, rfl⟩ := List.mem_map.mp hmem
      exact hfresh (List.mem_map_of_mem (h.issuedBegun x hx))
  refine ⟨?_, h.codes, ?_, h.relayOnce, fun p hp => hold _ (h.pendingBegun p hp),
    fun x hx => hold _ (h.issuedBegun x hx), h.issuedBefore, h.exchangedOnce, h.exchangedIssued⟩
  · intro id l hl
    by_cases hid : id = relayId
    · subst hid
      simp only [RelayStore.putRelay, Keys.set, Function.update_self] at hl
      cases hl
      exact ⟨List.mem_append_right _ (List.mem_singleton_self _), hunused⟩
    · simp only [RelayStore.putRelay, Keys.set, Function.update_of_ne hid] at hl
      obtain ⟨hbegun, hfree⟩ := h.relays id l hl
      exact ⟨hold _ hbegun, hfree⟩
  · exact nodup_map_concat h.begunOnce hfresh

theorem Inv.takeRelay (h : Inv deriveChallenge s) {relayId userId : String} {l : Lease String}
    (hl : s.store.relays relayId = some l) :
    Inv deriveChallenge { s with
      store := (s.store.takeRelay s.clock relayId).2
      pending := s.pending ++ [⟨relayId, ⟨userId, l.holder⟩⟩] } := by
  obtain ⟨hbegun, hfree⟩ := h.relays relayId l hl
  have hperm : (s.pending ++ [(⟨relayId, ⟨userId, l.holder⟩⟩ : PendingCode)]).map PendingCode.relayId
        ++ s.issued.map IssuedCode.relayId
      = s.pending.map PendingCode.relayId ++ relayId :: s.issued.map IssuedCode.relayId := by
    simp
  refine ⟨?_, h.codes, h.begunOnce, ?_, forall_mem_concat h.pendingBegun hbegun, h.issuedBegun,
    h.issuedBefore, h.exchangedOnce, h.exchangedIssued⟩
  · intro id l' hl'
    by_cases hid : id = relayId
    · subst hid
      simp only [RelayStore.takeRelay, Keys.getDel, Function.update_self] at hl'
      cases hl'
    · simp only [RelayStore.takeRelay, Keys.getDel, Function.update_of_ne hid] at hl'
      obtain ⟨hbegun', hfree'⟩ := h.relays id l' hl'
      refine ⟨hbegun', ?_⟩
      rw [hperm]
      simp only [List.mem_append, List.mem_cons, not_or] at hfree' ⊢
      exact ⟨hfree'.1, hid, hfree'.2⟩
  · rw [hperm]
    exact List.nodup_middle.mpr (List.nodup_cons.mpr ⟨hfree, h.relayOnce⟩)

theorem Inv.putCode (h : Inv deriveChallenge s) {i : Nat} {call : PendingCode} {code : String}
    (hcall : s.pending[i]? = some call) (hfresh : code ∉ s.issued.map IssuedCode.code) :
    Inv deriveChallenge { s with
      store := s.store.putCode s.clock code call.stored
      pending := s.pending.eraseIdx i
      issued := s.issued ++ [⟨call.relayId, code, call.stored, s.clock⟩] } := by
  have hold : ∀ x ∈ s.issued, x ∈ s.issued ++ [⟨call.relayId, code, call.stored, s.clock⟩] :=
    fun x hx => List.mem_append_left _ hx
  have hperm : ((s.pending.eraseIdx i).map PendingCode.relayId ++
        (s.issued ++ [(⟨call.relayId, code, call.stored, s.clock⟩ : IssuedCode)]).map
          IssuedCode.relayId).Perm
      (s.pending.map PendingCode.relayId ++ s.issued.map IssuedCode.relayId) := by
    rw [List.map_append, ← List.append_assoc]
    exact (List.perm_append_singleton _ _).trans
      (((cons_eraseIdx_perm hcall).map PendingCode.relayId).append_right _)
  refine ⟨?_, ?_, h.begunOnce, hperm.nodup_iff.mpr h.relayOnce, ?_, ?_, ?_, h.exchangedOnce, ?_⟩
  · intro id l hl
    obtain ⟨hbegun, hfree⟩ := h.relays id l hl
    exact ⟨hbegun, fun hmem => hfree (hperm.mem_iff.mp hmem)⟩
  · intro code' l hl
    by_cases hcode : code' = code
    · subst hcode
      simp only [RelayStore.putCode, Keys.set, Function.update_self] at hl
      cases hl
      refine ⟨?_, _, List.mem_append_right _ (List.mem_singleton_self _), rfl, rfl, rfl⟩
      intro hmem
      obtain ⟨e, he, rfl⟩ := List.mem_map.mp hmem
      obtain ⟨x, hx, hxcode, -⟩ := h.exchangedIssued e he
      exact hfresh (hxcode ▸ List.mem_map_of_mem hx)
    · simp only [RelayStore.putCode, Keys.set, Function.update_of_ne hcode] at hl
      obtain ⟨hunused, x, hx, hrest⟩ := h.codes code' l hl
      exact ⟨hunused, x, hold x hx, hrest⟩
  · intro p hp
    exact h.pendingBegun p (List.mem_of_mem_eraseIdx hp)
  · exact forall_mem_concat h.issuedBegun (h.pendingBegun call (List.mem_of_getElem? hcall))
  · exact forall_mem_concat h.issuedBefore (Nat.le_refl _)
  · intro e he
    obtain ⟨x, hx, hrest⟩ := h.exchangedIssued e he
    exact ⟨x, hold x hx, hrest⟩

theorem Inv.takeCode (h : Inv deriveChallenge s) {code verifier : String} {l : Lease StoredCode}
    (hl : s.store.codes code = some l) (hlive : s.clock < l.expiresAt) :
    Inv deriveChallenge { s with
      store := (s.store.takeCode s.clock code).2
      exchanged := s.exchanged ++
        ((l.holder.check deriveChallenge verifier).map
          fun userId => ⟨code, verifier, userId, s.clock⟩).toList } := by
  obtain ⟨hunused, x, hx, hcode, hstored, hexpires⟩ := h.codes code l hl
  have hkept : ∀ code' l', (s.store.takeCode s.clock code).2.codes code' = some l' →
      code' ≠ code ∧ s.store.codes code' = some l' := by
    intro code' l' hl'
    by_cases hne : code' = code
    · subst hne
      simp only [RelayStore.takeCode, Keys.getDel, Function.update_self] at hl'
      cases hl'
    · simp only [RelayStore.takeCode, Keys.getDel, Function.update_of_ne hne] at hl'
      exact ⟨hne, hl'⟩
  cases hcheck : l.holder.check deriveChallenge verifier with
  | none =>
    rw [Option.map_none, Option.toList_none, List.append_nil]
    exact h.of_store (fun _ _ hl => hl) fun code' l' hl' => (hkept code' l' hl').2
  | some userId =>
    have hverified : deriveChallenge verifier = l.holder.challenge ∧ l.holder.userId = userId := by
      unfold StoredCode.check at hcheck
      split at hcheck
      · rename_i hequal
        exact ⟨safeEqual_iff.mp hequal, Option.some.inj hcheck⟩
      · cases hcheck
    have hintime : s.clock ≤ x.issuedAt + codeTtlSeconds * 1000 := by
      rw [hexpires, ex] at hlive
      omega
    refine ⟨h.relays, ?_, h.begunOnce, h.relayOnce, h.pendingBegun, h.issuedBegun, h.issuedBefore,
      nodup_map_concat h.exchangedOnce hunused, ?_⟩
    · intro code' l' hl'
      obtain ⟨hne, hold⟩ := hkept code' l' hl'
      obtain ⟨hunused', hissued⟩ := h.codes code' l' hold
      refine ⟨?_, hissued⟩
      simp only [Option.map_some, Option.toList_some, List.map_append, List.map_singleton,
        List.mem_append, List.mem_singleton, not_or]
      exact ⟨hunused', hne⟩
    · refine forall_mem_concat h.exchangedIssued ⟨x, hx, hcode, ?_, h.issuedBefore x hx, hintime, ?_⟩
      · rw [hstored, hverified.2]
      · rw [hstored, hverified.1]

/-- **Every command keeps the invariant.** -/
theorem Inv.step {event : RelayEvent} (h : Inv deriveChallenge s)
    (hstep : s.step deriveChallenge event = some t) : Inv deriveChallenge t := by
  cases event with
  | begin codeChallenge relayId =>
    simp only [RelayState.step] at hstep
    split at hstep
    · cases hstep
    · rename_i hfresh
      cases hstep
      exact h.begin hfresh
  | takeRelay relayId userId =>
    simp only [RelayState.step] at hstep
    split at hstep
    · rename_i store htake
      cases hstep
      obtain ⟨-, rfl⟩ := Prod.mk.inj htake
      refine h.of_store (fun id l hl => ?_) fun _ _ hl => hl
      by_cases hid : id = relayId
      · subst hid
        simp only [Keys.getDel, Function.update_self] at hl
        cases hl
      · simpa only [Keys.getDel, Function.update_of_ne hid] using hl
    · rename_i codeChallenge store htake
      cases hstep
      obtain ⟨hget, rfl⟩ := Prod.mk.inj htake
      obtain ⟨expiresAt, hl, -⟩ := Lease.get_eq_some_iff.mp hget
      exact h.takeRelay hl
  | putCode i code =>
    simp only [RelayState.step] at hstep
    split at hstep
    · cases hstep
    · rename_i call hcall
      split at hstep
      · cases hstep
      · rename_i hfresh
        cases hstep
        exact h.putCode hcall hfresh
  | verifyAndConsumeCode code verifier =>
    simp only [RelayState.step] at hstep
    split at hstep
    · rename_i store htake
      cases hstep
      obtain ⟨-, rfl⟩ := Prod.mk.inj htake
      refine h.of_store (fun _ _ hl => hl) fun code' l hl => ?_
      by_cases hcode : code' = code
      · subst hcode
        simp only [Keys.getDel, Function.update_self] at hl
        cases hl
      · simpa only [Keys.getDel, Function.update_of_ne hcode] using hl
    · rename_i entry store htake
      cases hstep
      obtain ⟨hget, rfl⟩ := Prod.mk.inj htake
      obtain ⟨expiresAt, hl, hlive⟩ := Lease.get_eq_some_iff.mp hget
      exact h.takeCode hl hlive
  | later ms =>
    cases hstep
    exact ⟨h.relays, h.codes, h.begunOnce, h.relayOnce, h.pendingBegun, h.issuedBegun,
      fun x hx => Nat.le_trans (h.issuedBefore x hx) (Nat.le_add_right ..), h.exchangedOnce,
      h.exchangedIssued⟩

/-- **Codes are single-use and bound to who began: on Redis in every interleaving, and without it
the answers are those of Redis.** -/
theorem relay_codes_single_use (deriveChallenge : String → String) :
    (∀ events s, Run (Steps fun s => RelayState.step deriveChallenge s) empty events s →
      SingleUse deriveChallenge s) ∧
    ∀ calls : List (Nat × RelayCall),
      (trace (sequential fun m : MemStore => m.call deriveChallenge) (0, MemStore.empty) calls).map
          Tick.output
        = (trace (sequential fun s : RelayStore => s.call deriveChallenge) (0, RelayStore.empty)
            calls).map Tick.output := by
  refine ⟨fun events s hrun => ?_, MemStore.answers_eq_redis deriveChallenge⟩
  have hinv : Inv deriveChallenge s :=
    hrun.invariant (I := Inv deriveChallenge) (fun h hstep => h.step hstep) inv_empty
  exact hinv.singleUse

/-- A flow whose code is tried with a wrong verifier, and one that ends well. -/
def sampleFlows : List RelayEvent :=
  [.begin "challenge" "r1", .begin "CHALLENGE" "r2", .later 5000, .takeRelay "r2" "u2",
    .takeRelay "r1" "u1", .putCode 0 "c2", .putCode 0 "c1", .takeRelay "r1" "u1",
    .verifyAndConsumeCode "c2" "challenge", .verifyAndConsumeCode "c2" "CHALLENGE", .later 60000,
    .verifyAndConsumeCode "c1" "challenge"]

theorem relay_codes_sample : ∃ s,
    s.exchanged = [⟨"c1", "challenge", "u1", 65000⟩] ∧ s.issued.length = 2 ∧ SingleUse id s := by
  have hruns : (sampleFlows.foldlM (RelayState.step id) empty).any (fun s =>
      decide (s.exchanged = [⟨"c1", "challenge", "u1", 65000⟩] ∧ s.issued.length = 2)) = true := by
    decide +kernel
  obtain ⟨s, hrun, hs⟩ := Run.of_foldlM_any hruns
  obtain ⟨hexchanged, hissued⟩ := of_decide_eq_true hs
  exact ⟨s, hexchanged, hissued, (relay_codes_single_use id).1 sampleFlows s hrun⟩

end RelayState

end DeliveryTracking.Auth
