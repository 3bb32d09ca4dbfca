/-
# `DeliveryTracking.Phone.SmsFallback` — a position by text message

`SmsFallbackManager` of a driver's phone, `GatewaySmsReceiver` of the phone at the
office, and `ingestSmsRelayPosition` of the server.

    phone     no synchronisation for ten minutes: one text, then none for ten minutes
    gateway   "LT1:<latitude>,<longitude>,<accuracy>,<seconds>", whatever its segments
    server    the driver whose number ends in the sender's nine last digits

Coordinates are rational numbers, the values of the doubles that the source has; times
are milliseconds of the clock that is read.
-/
import DeliveryTracking.Decimal
import DeliveryTracking.Spacing
import DeliveryTracking.Deliveries.PdfPrice
import DeliveryTracking.Traccar.Position

namespace DeliveryTracking.Phone

open Deliveries (digits)
open Decimal (fixed plain read readInt rounded)

/-! ## The driver's phone -/

def OFFLINE_THRESHOLD_MS : Int := 10 * 60 * 1000

def SMS_THROTTLE_MS : Int := 10 * 60 * 1000

/-- What is read of a `Location`; without `hasAccuracy` there is no accuracy. -/
structure Location where
  latitude : ℚ
  longitude : ℚ
  accuracy : Option ℚ
  time : Int
  deriving DecidableEq, Repr

/-- The preferences; a time that was never stored reads 0. -/
structure SmsFallback where
  gatewayNumber : Option Text
  sendSmsPermission : Bool
  lastSyncSuccessAt : Int
  lastSmsSentAt : Int
  deriving DecidableEq, Repr

structure Sms where
  destinationAddress : Text
  body : Text
  deriving DecidableEq, Repr

/-- `now` is what the clock says; `sent` is false where `sendTextMessage` throws. -/
inductive SmsEvent where
  | markSyncSuccess (now : Int)
  | setGatewayNumber (number : Option Text)
  | sendSmsPermission (granted : Bool)
  | fix (now : Int) (loc : Location) (sent : Bool)
  deriving DecidableEq, Repr

def SMS_PREFIX : Text := ['L', 'T', '1', ':']

def buildSmsBody (loc : Location) : Text :=
  SMS_PREFIX ++ [','].intercalate
    [fixed 6 loc.latitude, fixed 6 loc.longitude, fixed 1 (loc.accuracy.getD (-1)),
      plain (loc.time.tdiv 1000)]

/-- `trim().isEmpty()`: nothing above U+0020 -/
def blank (t : Text) : Bool := t.all (· ≤ ' ')

/-- The text of `maybeSendFallbackSms`, where it comes that far -/
def fallbackSms (s : SmsFallback) (now : Int) (loc : Location) : Option Sms :=
  match s.gatewayNumber with
  | none => none
  | some number =>
      if blank number then none
      else if !s.sendSmsPermission then none
      else if s.lastSyncSuccessAt = 0 then none
      else if now - s.lastSyncSuccessAt < OFFLINE_THRESHOLD_MS then none
      else if now - s.lastSmsSentAt < SMS_THROTTLE_MS then none
      else some ⟨number, buildSmsBody loc⟩

/-- `maybeSendFallbackSms`: what was not sent is not stamped. -/
def maybeSendFallbackSms (s : SmsFallback) (now : Int) (loc : Location) (sent : Bool) :
    Option Sms × SmsFallback :=
  match fallbackSms s now loc with
  | some sms => if sent then (some sms, { s with lastSmsSentAt := now }) else (none, s)
  | none => (none, s)

namespace SmsFallback

def step (s : SmsFallback) : SmsEvent → Option Sms × SmsFallback
  | .markSyncSuccess now => (none, { s with lastSyncSuccessAt := now })
  | .setGatewayNumber number => (none, { s with gatewayNumber := number })
  | .sendSmsPermission granted => (none, { s with sendSmsPermission := granted })
  | .fix now loc sent => maybeSendFallbackSms s now loc sent

/-- When a text was sent. -/
def sentAt (s : SmsFallback) (e : SmsEvent) : Option Int :=
  match e with
  | .fix now _ _ => (s.step e).1.map fun _ => now
  | _ => none

end SmsFallback

/-! ## The gateway -/

structure SmsMessage where
  originatingAddress : Option Text
  messageBody : Option Text
  deriving DecidableEq, Repr

/-- The preferences of `GatewaySmsReceiver`. -/
structure SmsGateway where
  gatewayModeEnabled : Bool
  apiUrl : Option Text
  apiKey : Option Text
  deriving DecidableEq, Repr

/-- The body of the request. -/
structure SmsRelayPosition where
  senderPhone : Text
  latitude : ℚ
  longitude : ℚ
  accuracy : Option ℚ
  timestamp : Int
  deriving DecidableEq, Repr

/-- `split(",")`: the empty parts at the end are left out; a text without a comma is one part. -/
def splitComma (t : Text) : List Text :=
  match t.splitOn ',' with
  | [part] => [part]
  | parts => parts.rdropWhile (· = [])

/-- `relayToBackend`, up to its request; a number that cannot be read ends it. -/
def relayToBackend (senderPhone body : Text) : Option SmsRelayPosition :=
  match splitComma (body.drop SMS_PREFIX.length) with
  | [lat, lng, acc, seconds] => do
      let lat ← read lat
      let lng ← read lng
      let acc ← read acc
      let epochSec ← readInt seconds
      some ⟨senderPhone, lat, lng, if 0 ≤ acc then some acc else none, epochSec * 1000⟩
  | _ => none

/-- `onReceive`, and what it relays -/
def onReceive (g : SmsGateway) (messages : List (Option SmsMessage)) : Option SmsRelayPosition :=
  if !g.gatewayModeEnabled then none
  else if g.apiUrl.all (· = []) || g.apiKey.all (· = []) then none
  else
    let body := messages.flatMap fun m => (m.bind SmsMessage.messageBody).getD []
    match messages.findSome? fun m => m.bind SmsMessage.originatingAddress with
    | none => none
    | some sender => if SMS_PREFIX.isPrefixOf body then relayToBackend sender body else none

/-! ## The server -/

/-- What `ingestSmsRelayPosition` reads of a driver. -/
structure RelayDriver where
  id : String
  companyId : String
  deleted : Bool
  isActive : Bool
  phone : Option Text
  vehicleId : Option String
  deriving DecidableEq, Repr

/-- The constraints of `SmsRelayPositionDto` -/
def SmsRelayPosition.valid (dto : SmsRelayPosition) (now : Int) : Bool :=
  6 ≤ dto.senderPhone.length ∧ dto.senderPhone.length ≤ 20 ∧
    -90 ≤ dto.latitude ∧ dto.latitude ≤ 90 ∧ -180 ≤ dto.longitude ∧ dto.longitude ≤ 180 ∧
    dto.accuracy.all (fun a => 0 ≤ a ∧ a ≤ 1000) ∧ Traccar.isPlausibleTimestamp dto.timestamp now

/-- The nine last digits -/
def normalizePhoneTail (raw : Text) : Text := (digits raw).drop ((digits raw).length - 9)

/-- The drivers that the query finds. -/
def candidates (drivers : List RelayDriver) (companyId : String) : List RelayDriver :=
  drivers.filter fun d =>
    d.companyId = companyId && !d.deleted && d.isActive && d.phone.isSome && d.vehicleId.isSome

/-- `d.phone && normalizePhoneTail(d.phone) === targetTail` -/
def hasTail (targetTail : Text) (d : RelayDriver) : Bool :=
  d.phone.any fun p => p ≠ [] && normalizePhoneTail p = targetTail

/-- What `savePosition` is called with. -/
structure RelaySave where
  driverId : String
  vehicleId : String
  position : SmsRelayPosition
  deriving DecidableEq, Repr

/-- `ingestSmsRelayPosition`, up to its `savePosition`; `none` is `no_driver_match`. -/
def ingestSmsRelayPosition (drivers : List RelayDriver) (companyId : String)
    (dto : SmsRelayPosition) : Option RelaySave :=
  let targetTail := normalizePhoneTail dto.senderPhone
  if targetTail.length < 9 then none
  else
    match (candidates drivers companyId).find? (hasTail targetTail) with
    | none => none
    | some d =>
        d.vehicleId.bind fun vehicleId =>
          if vehicleId = "" then none else some ⟨d.id, vehicleId, dto⟩

/-! ## Few texts -/

namespace SmsFallback

variable {s : SmsFallback} {now : Int} {loc : Location} {sent : Bool} {sms : Sms}

/-- What has to hold for a text to go out. -/
theorem fallbackSms_eq_some (h : fallbackSms s now loc = some sms) :
    s.lastSyncSuccessAt ≠ 0 ∧ s.lastSyncSuccessAt + OFFLINE_THRESHOLD_MS ≤ now ∧
      s.lastSmsSentAt + SMS_THROTTLE_MS ≤ now ∧ sms.body = buildSmsBody loc := by
  unfold fallbackSms at h
  split at h
  · cases h
  · split_ifs at h with hblank hpermission hsync hoffline hthrottle
    obtain rfl := Option.some.inj h
    exact ⟨hsync, by omega, by omega, rfl⟩

theorem step_fix_eq_some (h : (s.step (.fix now loc sent)).1 = some sms) :
    fallbackSms s now loc = some sms ∧
      (s.step (.fix now loc sent)).2 = { s with lastSmsSentAt := now } := by
  have h' : (maybeSendFallbackSms s now loc sent).1 = some sms := h
  show _ ∧ (maybeSendFallbackSms s now loc sent).2 = _
  unfold maybeSendFallbackSms at h' ⊢
  split at h'
  · rename_i sms' heq
    rw [heq]
    cases sent with
    | true => exact ⟨h', rfl⟩
    | false => cases h'
  · cases h'

theorem step_fix_eq_none (h : (s.step (.fix now loc sent)).1 = none) :
    (s.step (.fix now loc sent)).2 = s := by
  have h' : (maybeSendFallbackSms s now loc sent).1 = none := h
  show (maybeSendFallbackSms s now loc sent).2 = _
  unfold maybeSendFallbackSms at h' ⊢
  split at h'
  · cases sent with
    | true => cases h'
    | false => rfl
  · rfl

theorem throttled :
    Throttled (fun s e => (step s e).2) sentAt (fun s => s.lastSmsSentAt + SMS_THROTTLE_MS)
      SMS_THROTTLE_MS where
  emits := by
    intro s e t h
    cases e with
    | markSyncSuccess now => cases h
    | setGatewayNumber number => cases h
    | sendSmsPermission granted => cases h
    | fix now loc sent =>
        obtain ⟨sms, hsms, rfl⟩ := Option.map_eq_some_iff.mp h
        obtain ⟨hfallback, hstep⟩ := step_fix_eq_some hsms
        refine ⟨(fallbackSms_eq_some hfallback).2.2.1, ?_⟩
        show now + _ ≤ (step s _).2.lastSmsSentAt + _
        rw [hstep]
  keeps := by
    intro s e h
    cases e with
    | markSyncSuccess now => exact le_refl _
    | setGatewayNumber number => exact le_refl _
    | sendSmsPermission granted => exact le_refl _
    | fix now loc sent =>
        show _ ≤ (step s _).2.lastSmsSentAt + _
        rw [step_fix_eq_none (Option.map_eq_none_iff.mp h)]

/-- Nothing but a synchronisation moves the time of the last one. -/
theorem final_lastSyncSuccessAt : ∀ {es : List SmsEvent} (s : SmsFallback),
    (∀ e ∈ es, ∀ u, e ≠ .markSyncSuccess u) →
      (final step s es).lastSyncSuccessAt = s.lastSyncSuccessAt
  | [], _, _ => rfl
  | e :: es, s, h => by
      have hrest : (final step (s.step e).2 es).lastSyncSuccessAt =
          (s.step e).2.lastSyncSuccessAt :=
        final_lastSyncSuccessAt _ fun e he => h e (List.mem_cons_of_mem _ he)
      refine hrest.trans ?_
      cases e with
      | markSyncSuccess now => exact absurd rfl (h _ (List.mem_cons_self ..) now)
      | setGatewayNumber number => rfl
      | sendSmsPermission granted => rfl
      | fix now loc sent =>
          cases hsms : (s.step (.fix now loc sent)).1 with
          | none => rw [step_fix_eq_none hsms]
          | some sms => rw [(step_fix_eq_some hsms).2]

/-- In every run the texts are ten minutes apart, so that a number of minutes has a tenth as many
and one more; and none goes out within ten minutes of a synchronisation, nor before there was one. -/
theorem sms_sparing (s : SmsFallback) (es : List SmsEvent) :
    (emissions (fun s e => (step s e).2) sentAt s es).Pairwise (· + SMS_THROTTLE_MS ≤ ·) ∧
    (∀ a b, a ≤ b → ((emissions (fun s e => (step s e).2) sentAt s es).filter fun t =>
      a ≤ t ∧ t ≤ b).length * SMS_THROTTLE_MS ≤ b + SMS_THROTTLE_MS - a) ∧
    ∀ t, (∀ e ∈ es, ∀ u, e ≠ .markSyncSuccess u) → ∀ now loc sent,
      ((final step { s with lastSyncSuccessAt := t } es).step (.fix now loc sent)).1.isSome →
        t ≠ 0 ∧ t + OFFLINE_THRESHOLD_MS ≤ now := by
  refine ⟨throttled.pairwise (by decide) es s, ?_, ?_⟩
  · intro a b hab
    exact throttled.length_mul_gap_le (by decide) es s hab
  · intro t hes now loc sent hsome
    obtain ⟨sms, hsms⟩ := Option.isSome_iff_exists.mp hsome
    obtain ⟨hsync, hoffline, -⟩ := fallbackSms_eq_some (step_fix_eq_some hsms).1
    rw [final_lastSyncSuccessAt _ hes] at hsync hoffline
    exact ⟨hsync, hoffline⟩

/-- A fix a minute, for half an hour without synchronisation. -/
example : emissions (fun s e => (step s e).2) sentAt ⟨some ['0'], true, 60000, 0⟩
    ((List.range 30).map fun i => .fix (60000 * (i + 2)) ⟨0, 0, none, 0⟩ true) =
      [660000, 1260000, 1860000] := by decide +kernel

end SmsFallback

/-! ## What a text says -/

section Relay

variable {loc : Location} {dto : SmsRelayPosition}

/-- A relayed position is the fix: its coordinates to half a millionth of a degree, its accuracy,
if there is one, to half a decimetre, and its time to the second. -/
structure Relays (loc : Location) (dto : SmsRelayPosition) : Prop where
  latitude : dto.latitude = rounded 6 loc.latitude
  longitude : dto.longitude = rounded 6 loc.longitude
  accuracy : ∀ a, loc.accuracy = some a → 0 ≤ a → dto.accuracy = some (rounded 1 a)
  noAccuracy : loc.accuracy = none → dto.accuracy = none
  timestamp : dto.timestamp = loc.time.tdiv 1000 * 1000

/-- Four parts without a comma, the last one not empty. -/
theorem splitComma_intercalate {a b c d : Text} (ha : ',' ∉ a) (hb : ',' ∉ b) (hc : ',' ∉ c)
    (hd : ',' ∉ d) (hne : d ≠ []) : splitComma ([','].intercalate [a, b, c, d]) = [a, b, c, d] := by
  have hsplit : ([','].intercalate [a, b, c, d]).splitOn ',' = [a, b, c, d] := by
    refine List.splitOn_intercalate ',' ?_ (List.cons_ne_nil _ _)
    intro l hl
    simp only [List.mem_cons, List.not_mem_nil, or_false] at hl
    rcases hl with rfl | rfl | rfl | rfl <;> assumption
  unfold splitComma
  rw [hsplit]
  show List.rdropWhile _ ([a, b, c] ++ [d]) = _
  rw [List.rdropWhile_concat_neg]
  · rfl
  · simpa using hne

theorem plain_ne_nil (k : Int) : plain k ≠ [] := by
  intro h
  exact Nat.toDigits_ne_nil (List.append_eq_nil_iff.mp h).2

/-- The gateway reads what the phone wrote. -/
theorem relayToBackend_buildSmsBody (sender : Text) (loc : Location) :
    ∃ dto, relayToBackend sender (buildSmsBody loc) = some dto ∧ dto.senderPhone = sender ∧
      Relays loc dto := by
  have hfields : splitComma ((buildSmsBody loc).drop SMS_PREFIX.length) =
      [fixed 6 loc.latitude, fixed 6 loc.longitude, fixed 1 (loc.accuracy.getD (-1)),
        plain (loc.time.tdiv 1000)] := by
    unfold buildSmsBody
    rw [List.drop_left]
    exact splitComma_intercalate (Decimal.not_mem_fixed rfl (by decide) (by decide))
      (Decimal.not_mem_fixed rfl (by decide) (by decide))
      (Decimal.not_mem_fixed rfl (by decide) (by decide)) (Decimal.not_mem_plain rfl (by decide))
      (plain_ne_nil _)
  refine ⟨⟨sender, rounded 6 loc.latitude, rounded 6 loc.longitude,
    if 0 ≤ rounded 1 (loc.accuracy.getD (-1)) then some (rounded 1 (loc.accuracy.getD (-1)))
    else none, loc.time.tdiv 1000 * 1000⟩, ?_, rfl, ?_⟩
  · unfold relayToBackend
    rw [hfields]
    simp only [Decimal.read_fixed (by decide : 0 < 6), Decimal.read_fixed (by decide : 0 < 1),
      Decimal.readInt_plain, Option.bind_eq_bind, Option.bind_some]
  · refine { latitude := rfl, longitude := rfl, timestamp := rfl, accuracy := ?_, noAccuracy := ?_ }
    · intro a ha hnonneg
      show (if _ then _ else _) = _
      rw [ha, Option.getD_some, if_pos (Decimal.rounded_nonneg hnonneg)]
    · intro hnone
      show (if _ then _ else _) = _
      rw [hnone, Option.getD_none]
      exact if_neg (by decide +kernel)

/-- A fix that the server would accept is one after it was relayed. -/
theorem Relays.valid (h : Relays loc dto) (hsender : 6 ≤ dto.senderPhone.length)
    (hsender' : dto.senderPhone.length ≤ 20) (hlat : |loc.latitude| ≤ 90)
    (hlng : |loc.longitude| ≤ 180) (hacc : ∀ a, loc.accuracy = some a → 0 ≤ a ∧ a ≤ 1000)
    {now : Int} (htime : 0 ≤ loc.time) (hfuture : loc.time ≤ now + Traccar.futureTolerance)
    (hpast : now - Traccar.pastTolerance + 1000 ≤ loc.time) : dto.valid now = true := by
  have hlat' : |dto.latitude| ≤ 90 := by
    rw [h.latitude]
    exact_mod_cast Decimal.abs_rounded_le (n := 6) (m := 90) (by exact_mod_cast hlat)
  have hlng' : |dto.longitude| ≤ 180 := by
    rw [h.longitude]
    exact_mod_cast Decimal.abs_rounded_le (n := 6) (m := 180) (by exact_mod_cast hlng)
  have hacc' : (dto.accuracy.all fun a => decide (0 ≤ a ∧ a ≤ 1000)) = true := by
    cases hloc : loc.accuracy with
    | none =>
        rw [h.noAccuracy hloc]
        rfl
    | some a =>
        obtain ⟨hnonneg, hle⟩ := hacc a hloc
        rw [h.accuracy a hloc hnonneg]
        refine decide_eq_true ⟨Decimal.rounded_nonneg hnonneg, ?_⟩
        have habs : |rounded 1 a| ≤ (1000 : Nat) :=
          Decimal.abs_rounded_le (by rw [abs_of_nonneg hnonneg]; exact_mod_cast hle)
        exact_mod_cast (le_abs_self _).trans habs
  have htime' : Traccar.isPlausibleTimestamp dto.timestamp now = true := by
    have hdiv : loc.time.tdiv 1000 = loc.time / 1000 := Int.tdiv_eq_ediv_of_nonneg htime
    rw [h.timestamp, hdiv]
    refine decide_eq_true ⟨?_, ?_⟩ <;> omega
  obtain ⟨hlat₁, hlat₂⟩ := abs_le.mp hlat'
  obtain ⟨hlng₁, hlng₂⟩ := abs_le.mp hlng'
  exact decide_eq_true ⟨hsender, hsender', hlat₁, hlat₂, hlng₁, hlng₂, hacc', htime'⟩

end Relay

/-! ## Whose position it is -/

section Attribution

variable {drivers : List RelayDriver} {companyId : String} {dto : SmsRelayPosition}

/-- Nine digits are the tail of a number exactly when its digits end in them. -/
theorem normalizePhoneTail_eq_iff {n raw : Text} (hn : n.length = 9) :
    normalizePhoneTail raw = n ↔ n <:+ digits raw := by
  rw [List.suffix_iff_eq_drop, hn, eq_comm]
  rfl

theorem mem_candidates {d : RelayDriver} :
    d ∈ candidates drivers companyId ↔ d ∈ drivers ∧ d.companyId = companyId ∧ d.deleted = false ∧
      d.isActive = true ∧ d.phone.isSome ∧ d.vehicleId.isSome := by
  simp only [candidates, List.mem_filter, Bool.and_eq_true, decide_eq_true_eq, Bool.not_eq_true',
    and_assoc]

theorem hasTail_iff {tail : Text} {d : RelayDriver} :
    hasTail tail d = true ↔ ∃ p, d.phone = some p ∧ p ≠ [] ∧ normalizePhoneTail p = tail := by
  simp only [hasTail, Option.any_eq_true, Bool.and_eq_true, decide_eq_true_eq]

theorem length_normalizePhoneTail_le (raw : Text) : (normalizePhoneTail raw).length ≤ 9 := by
  rw [normalizePhoneTail, List.length_drop]
  omega

/-- A position is saved for nobody but an active driver of the company, with a vehicle, whose
number ends in the nine digits in which the sender's does. -/
theorem ingest_attributed {save : RelaySave}
    (h : ingestSmsRelayPosition drivers companyId dto = some save) :
    save.position = dto ∧ ∃ d ∈ drivers, d.id = save.driverId ∧ d.companyId = companyId ∧
      d.deleted = false ∧ d.isActive = true ∧ d.vehicleId = some save.vehicleId ∧
      ∃ p n, d.phone = some p ∧ n.length = 9 ∧ n <:+ digits dto.senderPhone ∧ n <:+ digits p := by
  unfold ingestSmsRelayPosition at h
  dsimp only at h
  split_ifs at h with hshort
  split at h
  · cases h
  · rename_i d hfind
    obtain ⟨vehicleId, hvehicle, hsave⟩ := Option.bind_eq_some_iff.mp h
    split_ifs at hsave
    obtain rfl := Option.some.inj hsave
    obtain ⟨hmem, hcompany, hdeleted, hactive, -, -⟩ :=
      mem_candidates.mp (List.mem_of_find?_eq_some hfind)
    obtain ⟨p, hp, -, htail⟩ := hasTail_iff.mp (List.find?_some hfind)
    have hlength : (normalizePhoneTail dto.senderPhone).length = 9 :=
      Nat.le_antisymm (length_normalizePhoneTail_le _) (not_lt.mp hshort)
    exact ⟨rfl, d, hmem, rfl, hcompany, hdeleted, hactive, hvehicle, p, _, hp, hlength,
      (normalizePhoneTail_eq_iff hlength).mp rfl, (normalizePhoneTail_eq_iff hlength).mp htail⟩

/-- A driver, the number in the way the country writes it. -/
def fieldDriver : RelayDriver where
  id := "driver-1"
  companyId := "company-1"
  deleted := false
  isActive := true
  phone := some "034 12 345 67".toList
  vehicleId := some "vehicle-1"

theorem ingest_attributed_fieldDriver : ∃ d ∈ [fieldDriver], d.id = "driver-1" ∧ d.companyId = "company-1" ∧
    d.deleted = false ∧ d.isActive = true ∧ d.vehicleId = some "vehicle-1" ∧
    ∃ p n, d.phone = some p ∧ n.length = 9 ∧ n <:+ digits "+261341234567".toList ∧
      n <:+ digits p := by
  have hsaved : ingestSmsRelayPosition [fieldDriver] "company-1" ⟨"+261341234567".toList, 0, 0, none, 0⟩ =
      some ⟨"driver-1", "vehicle-1", ⟨"+261341234567".toList, 0, 0, none, 0⟩⟩ := by decide +kernel
  exact (ingest_attributed hsaved).2

/-- The driver is found, however the two numbers are written. -/
theorem ingest_of_suffix {d : RelayDriver} {p n : Text} {v : String}
    (hd : d ∈ candidates drivers companyId) (hp : d.phone = some p) (hv : d.vehicleId = some v)
    (hne : v ≠ "") (hn : n.length = 9) (hsender : n <:+ digits dto.senderPhone)
    (hphone : n <:+ digits p)
    (hunique : ∀ d' ∈ candidates drivers companyId, ∀ p', d'.phone = some p' → n <:+ digits p' →
      d' = d) :
    ingestSmsRelayPosition drivers companyId dto = some ⟨d.id, v, dto⟩ := by
  have hsenderTail : normalizePhoneTail dto.senderPhone = n :=
    (normalizePhoneTail_eq_iff hn).mpr hsender
  have hphoneTail : normalizePhoneTail p = n := (normalizePhoneTail_eq_iff hn).mpr hphone
  have hpne : p ≠ [] := by
    rintro rfl
    have hnil : n <:+ [] := hphone
    rw [List.suffix_nil.mp hnil] at hn
    cases hn
  have hfind : (candidates drivers companyId).find? (hasTail n) = some d := by
    cases hfound : (candidates drivers companyId).find? (hasTail n) with
    | none =>
        exact absurd (hasTail_iff.mpr ⟨p, hp, hpne, hphoneTail⟩) (List.find?_eq_none.mp hfound d hd)
    | some d' =>
        obtain ⟨p', hp', -, htail⟩ := hasTail_iff.mp (List.find?_some hfound)
        rw [hunique d' (List.mem_of_find?_eq_some hfound) p' hp'
          ((normalizePhoneTail_eq_iff hn).mp htail)]
  unfold ingestSmsRelayPosition
  dsimp only
  rw [hsenderTail, if_neg (by rw [hn]; omega), hfind]
  show d.vehicleId.bind _ = _
  rw [hv, Option.bind_some, if_neg hne]

end Attribution

/-! ## From the phone to the server -/

variable {s : SmsFallback} {now serverNow : Int} {loc : Location} {sms : Sms} {g : SmsGateway}

/-- A configured gateway relays a text of this protocol, in as many messages as it comes in. -/
theorem onReceive_eq {url key body sender : Text} {messages : List (Option SmsMessage)}
    (hmode : g.gatewayModeEnabled = true) (hurl : g.apiUrl = some url) (hurl' : url ≠ [])
    (hkey : g.apiKey = some key) (hkey' : key ≠ [])
    (hsender : (messages.findSome? fun m => m.bind SmsMessage.originatingAddress) = some sender)
    (hbody : (messages.flatMap fun m => (m.bind SmsMessage.messageBody).getD []) = body)
    (hstarts : SMS_PREFIX <+: body) : onReceive g messages = relayToBackend sender body := by
  unfold onReceive
  have hconfigured : ¬((g.apiUrl.all (· = []) || g.apiKey.all (· = [])) = true) := by
    rw [hurl, hkey]
    simpa using ⟨hurl', hkey'⟩
  rw [if_neg (by rw [hmode]; decide), if_neg hconfigured]
  dsimp only
  rw [hsender, hbody]
  exact if_pos (List.isPrefixOf_iff_prefix.mpr hstarts)

/-- The text that a phone sends for a fix the server would accept, once it comes through a
configured gateway in whatever segments, is saved for the one driver whose number ends as the
sender's does, with the fix to half a millionth of a degree, half a decimetre and the second. -/
theorem sms_delivers {url key sender p n : Text} {messages : List (Option SmsMessage)}
    {drivers : List RelayDriver} {companyId v : String} {d : RelayDriver}
    (hsms : fallbackSms s now loc = some sms)
    (hlat : |loc.latitude| ≤ 90) (hlng : |loc.longitude| ≤ 180)
    (hacc : ∀ a, loc.accuracy = some a → 0 ≤ a ∧ a ≤ 1000) (htime : 0 ≤ loc.time)
    (hfuture : loc.time ≤ serverNow + Traccar.futureTolerance)
    (hpast : serverNow - Traccar.pastTolerance + 1000 ≤ loc.time)
    (hmode : g.gatewayModeEnabled = true) (hurl : g.apiUrl = some url) (hurl' : url ≠ [])
    (hkey : g.apiKey = some key) (hkey' : key ≠ [])
    (hsender : (messages.findSome? fun m => m.bind SmsMessage.originatingAddress) = some sender)
    (hbody : (messages.flatMap fun m => (m.bind SmsMessage.messageBody).getD []) = sms.body)
    (hshort : 6 ≤ sender.length) (hlong : sender.length ≤ 20)
    (hd : d ∈ candidates drivers companyId) (hp : d.phone = some p) (hv : d.vehicleId = some v)
    (hne : v ≠ "") (hn : n.length = 9) (hsuffix : n <:+ digits sender) (hphone : n <:+ digits p)
    (hunique : ∀ d' ∈ candidates drivers companyId, ∀ p', d'.phone = some p' → n <:+ digits p' →
      d' = d) :
    ∃ dto, onReceive g messages = some dto ∧ dto.valid serverNow = true ∧
      ingestSmsRelayPosition drivers companyId dto = some ⟨d.id, v, dto⟩ ∧
      |dto.latitude - loc.latitude| ≤ 1 / 2 / 10 ^ 6 ∧
      |dto.longitude - loc.longitude| ≤ 1 / 2 / 10 ^ 6 ∧
      (∀ a, loc.accuracy = some a → ∃ a', dto.accuracy = some a' ∧ |a' - a| ≤ 1 / 2 / 10 ^ 1) ∧
      (loc.accuracy = none → dto.accuracy = none) ∧
      dto.timestamp ≤ loc.time ∧ loc.time < dto.timestamp + 1000 := by
  have hbuilt : sms.body = buildSmsBody loc := (SmsFallback.fallbackSms_eq_some hsms).2.2.2
  obtain ⟨dto, hdto, hphoneOf, hrelays⟩ := relayToBackend_buildSmsBody sender loc
  have hreceive : onReceive g messages = some dto := by
    rw [onReceive_eq hmode hurl hurl' hkey hkey' hsender (hbody.trans hbuilt)
      (List.prefix_append ..), hdto]
  have hdiv : loc.time.tdiv 1000 = loc.time / 1000 := Int.tdiv_eq_ediv_of_nonneg htime
  subst hphoneOf
  refine ⟨dto, hreceive,
    hrelays.valid hshort hlong hlat hlng hacc htime hfuture hpast,
    ingest_of_suffix hd hp hv hne hn hsuffix hphone hunique, ?_, ?_, ?_, hrelays.noAccuracy, ?_, ?_⟩
  · rw [hrelays.latitude]
    exact Decimal.abs_rounded_sub 6 _
  · rw [hrelays.longitude]
    exact Decimal.abs_rounded_sub 6 _
  · intro a ha
    exact ⟨_, hrelays.accuracy a ha (hacc a ha).1, Decimal.abs_rounded_sub 1 a⟩
  · rw [hrelays.timestamp, hdiv]
    omega
  · rw [hrelays.timestamp, hdiv]
    omega

/-- A fix near Antananarivo. -/
def antananarivo : Location := ⟨-188792 / 10000, 475079 / 10000, some 12, 1700000000000⟩

/-- Its text, in two segments. -/
def segments : List (Option SmsMessage) :=
  [some ⟨some "+261341234567".toList, some ((buildSmsBody antananarivo).take 9)⟩,
    some ⟨some "+261341234567".toList, some ((buildSmsBody antananarivo).drop 9)⟩]

theorem sms_delivers_fieldDriver : ∃ dto : SmsRelayPosition,
    dto.valid 1700000000000 = true ∧
      ingestSmsRelayPosition [fieldDriver] "company-1" dto = some ⟨"driver-1", "vehicle-1", dto⟩ ∧
      |dto.latitude - -188792 / 10000| ≤ 1 / 2 / 10 ^ 6 := by
  have hsms : fallbackSms ⟨some "+261320000000".toList, true, 1, 0⟩ 1700000000000 antananarivo =
      some ⟨"+261320000000".toList, buildSmsBody antananarivo⟩ := by decide +kernel
  have hsender : (segments.findSome? fun m => m.bind SmsMessage.originatingAddress) =
      some "+261341234567".toList := rfl
  have hbody : (segments.flatMap fun m => (m.bind SmsMessage.messageBody).getD []) =
      buildSmsBody antananarivo := by simp [segments]
  have hfuture : antananarivo.time ≤ 1700000000000 + Traccar.futureTolerance := by decide
  have hlisted : fieldDriver ∈ candidates [fieldDriver] "company-1" := by decide +kernel
  obtain ⟨dto, -, hvalid, hsaved, hlat, -⟩ := sms_delivers
    (g := ⟨true, some "https://api".toList, some "key".toList⟩) (n := "341234567".toList)
    hsms (by decide +kernel) (by decide +kernel)
    (by intro a ha; obtain rfl := Option.some.inj ha; exact ⟨by decide, by decide⟩)
    (by decide) hfuture (by decide) rfl rfl (by decide) rfl (by decide) hsender hbody
    (by decide) (by decide) hlisted rfl rfl (by decide) rfl (by decide +kernel) (by decide +kernel)
    (by
      intro d' hd' _ _ _
      exact List.mem_singleton.mp (mem_candidates.mp hd').1)
  exact ⟨dto, hvalid, hsaved, hlat⟩

end DeliveryTracking.Phone
