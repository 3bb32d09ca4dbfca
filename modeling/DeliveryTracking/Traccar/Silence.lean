/-
# `DeliveryTracking.Traccar.Silence` — trackers that fall silent

Once a minute an instance looks at each vehicle with a tracker.  A silence is named by the
time of the last fix, and the first look that settles it decides:

    an alert was raised elsewhere            (its key is in Redis)
    nobody waits for positions               (the last fix was slow, and no delivery runs)
    the tracker is lost                      an alert

A look at which Traccar still hears of the tracker settles nothing (`silence_alert_iff`).
The alert tells the cause that the telemetry of the last fix suggests, as the page of the
silences does, and as the alerts of the fix itself did (`silence_cause_agrees`).
-/
import DeliveryTracking.Geo.Rounding
import DeliveryTracking.Runs
import DeliveryTracking.Table
import Mathlib.Data.List.Induction

namespace DeliveryTracking.Traccar.Silence

open DeliveryTracking.Geo

/-! ## Telemetry -/

/-- A value of the attributes; the text of a compound is that of its `String(…)`. -/
inductive Json (R : Type) where
  | null
  | bool (b : Bool)
  | number (x : R)
  | text (s : String)
  | compound (s : String)
  deriving DecidableEq

structure RawAttributes (R : Type) where
  power : Option (Json R)
  powerVoltage : Option (Json R)
  voltage : Option (Json R)
  battery : Option (Json R)
  batteryLevel : Option (Json R)
  batteryLevelPct : Option (Json R)
  ignition : Option (Json R)
  sat : Option (Json R)
  motion : Option (Json R)

structure TrackerTelemetry (R : Type) where
  powerVolts : Option R
  batteryPercent : Option R
  ignition : Option Bool

/-- What is stored with a position. -/
structure StoredAttributes (R : Type) where
  power : Option R
  battery : Option R
  ignition : Option Bool
  sat : Option R
  motion : Option Bool

inductive SilenceCause where
  | powerCut
  | batteryCritical
  | powerOrBatteryUnknown
  | normalThenSilence
  deriving DecidableEq, Repr

section Telemetry

variable {R : Type} [Field R] [LinearOrder R]

/-- `Number(…)`, if it is finite; `readNumber` is that of a text. -/
def Json.toNumber (readNumber : String → Option R) : Json R → Option R
  | null => some 0
  | bool b => some (if b then 1 else 0)
  | number x => some x
  | text s | compound s => readNumber s

/-- The first value that is there and is a number. -/
def parseFinite (readNumber : String → Option R) (values : List (Option (Json R))) : Option R :=
  values.findSome? fun v => (v.filter (· ≠ .null)).bind (Json.toNumber readNumber)

def POWER_CUT_VOLTS : R := 1 / 2
def BATTERY_CRITICAL_PCT : R := 20

def isPowerCut (t : TrackerTelemetry R) : Bool :=
  t.powerVolts.any fun volts => decide (volts ≤ POWER_CUT_VOLTS)

def isBatteryCritical (t : TrackerTelemetry R) : Bool :=
  t.batteryPercent.any fun percent => decide (0 < percent ∧ percent ≤ BATTERY_CRITICAL_PCT)

/-- `parseStoredTelemetry` -/
def parseStoredTelemetry (attributes : Option (StoredAttributes R)) : Option R × Option R :=
  match attributes with
  | none => (none, none)
  | some a => (a.power, a.battery)

def classifySilenceCause (telemetry : Option R × Option R) : SilenceCause :=
  if telemetry.1.any fun volts => decide (volts ≤ POWER_CUT_VOLTS) then .powerCut
  else if telemetry.2.any fun percent => decide (0 < percent ∧ percent ≤ BATTERY_CRITICAL_PCT) then
    .batteryCritical
  else if telemetry.1 = none ∧ telemetry.2 = none then .powerOrBatteryUnknown
  else .normalThenSilence

/-- `classifyTrackerSilenceCause` of the page of the silences, with thresholds of its own. -/
def classifyTrackerSilenceCause (attributes : Option (StoredAttributes R)) : String :=
  match attributes with
  | none => "Télémétrie non remontée par ce modèle — panne SIM/réseau ou matérielle à vérifier"
  | some a =>
      if a.power.any fun power => decide (power ≤ 1 / 2) then
        "Coupure électrique du véhicule (tension à zéro à la dernière position)"
      else if a.battery.any fun battery => decide (0 < battery ∧ battery ≤ 20) then
        "Batterie interne du traceur critique (va cesser d'émettre)"
      else if a.power = none ∧ a.battery = none then
        "Télémétrie non remontée par ce modèle — panne SIM/réseau ou matérielle à vérifier"
      else "Panne SIM/matériel ou zone sans réseau (dernière télémétrie normale)"

variable [JsMath R]

def round2 (n : R) : R := JsMath.round (n * 100) / 100

/-- `=== true || === 1 || === '1' || === 'true'` -/
def ignitionOn (v : Json R) : Bool :=
  decide (v = .bool true ∨ v = .number 1 ∨ v = .text "1" ∨ v = .text "true")

def extractTrackerTelemetry (readNumber : String → Option R) (raw : Option (RawAttributes R)) :
    TrackerTelemetry R :=
  match raw with
  | none => ⟨none, none, none⟩
  | some a =>
      { powerVolts := (parseFinite readNumber [a.power, a.powerVoltage, a.voltage]).map fun power =>
          if 50 < power then round2 (power / 1000) else round2 power
        batteryPercent :=
          (parseFinite readNumber [a.battery, a.batteryLevel, a.batteryLevelPct]).map fun battery =>
            if 100 < battery then
              max 0 (min 100 (JsMath.round (((battery / 1000 - 3) / (1 + 1 / 5)) * 100)))
            else max 0 (min 100 (JsMath.round battery))
        ignition := (a.ignition.filter (· ≠ .null)).map ignitionOn }

/-- `buildStoredAttributes`, over `toJsonValue`: nothing where there is nothing to store. -/
def buildStoredAttributes (readNumber : String → Option R) (telemetry : TrackerTelemetry R)
    (raw : Option (RawAttributes R)) : Option (StoredAttributes R) :=
  let sat := ((raw.bind RawAttributes.sat).bind (Json.toNumber readNumber)).filter (0 < ·)
  let motion := (raw.bind RawAttributes.motion).bind fun
    | .bool b => some b
    | _ => none
  if telemetry.powerVolts = none ∧ telemetry.batteryPercent = none ∧ telemetry.ignition = none ∧
      sat = none ∧ motion = none then none
  else some ⟨telemetry.powerVolts, telemetry.batteryPercent, telemetry.ignition, sat, motion⟩

/-- What the page says of a cause. -/
def SilenceCause.label : SilenceCause → String
  | powerCut => "Coupure électrique du véhicule (tension à zéro à la dernière position)"
  | batteryCritical => "Batterie interne du traceur critique (va cesser d'émettre)"
  | powerOrBatteryUnknown =>
      "Télémétrie non remontée par ce modèle — panne SIM/réseau ou matérielle à vérifier"
  | normalThenSilence => "Panne SIM/matériel ou zone sans réseau (dernière télémétrie normale)"

/-! ### What is told of a silence -/

variable {readNumber : String → Option R} {raw : Option (RawAttributes R)}

omit [JsMath R] in
/-- What is read of the stored attributes is what was extracted. -/
theorem parse_buildStoredAttributes (t : TrackerTelemetry R) :
    parseStoredTelemetry (buildStoredAttributes readNumber t raw) =
      (t.powerVolts, t.batteryPercent) := by
  rw [buildStoredAttributes]
  split
  · rename_i hnothing
    rw [hnothing.1, hnothing.2.1]
    rfl
  · rfl

omit [JsMath R] in
/-- The page and the alert classify alike. -/
theorem classifyTrackerSilenceCause_eq (attributes : Option (StoredAttributes R)) :
    classifyTrackerSilenceCause attributes =
      (classifySilenceCause (parseStoredTelemetry attributes)).label := by
  cases attributes with
  | none => rfl
  | some a =>
    show _ = (classifySilenceCause (a.power, a.battery)).label
    rw [classifyTrackerSilenceCause, classifySilenceCause]
    show (if (a.power.any fun power => decide (power ≤ POWER_CUT_VOLTS)) = true then _ else
      if (a.battery.any fun battery =>
        decide (0 < battery ∧ battery ≤ BATTERY_CRITICAL_PCT)) = true then _ else _) = _
    split
    · rfl
    · split
      · rfl
      · split
        · rfl
        · rfl

omit [JsMath R] in
/-- A cause is told exactly where the fix is alerted of it, a cut before a weak battery. -/
theorem classifySilenceCause_spec (t : TrackerTelemetry R) :
    (classifySilenceCause (t.powerVolts, t.batteryPercent) = .powerCut ↔ isPowerCut t = true) ∧
      (classifySilenceCause (t.powerVolts, t.batteryPercent) = .batteryCritical ↔
        isBatteryCritical t = true ∧ isPowerCut t = false) ∧
      (classifySilenceCause (t.powerVolts, t.batteryPercent) = .powerOrBatteryUnknown ↔
        t.powerVolts = none ∧ t.batteryPercent = none) := by
  have hcause : classifySilenceCause (t.powerVolts, t.batteryPercent) =
      if isPowerCut t = true then .powerCut
      else if isBatteryCritical t = true then .batteryCritical
      else if t.powerVolts = none ∧ t.batteryPercent = none then .powerOrBatteryUnknown
      else .normalThenSilence := rfl
  have hvolts : isPowerCut t = true → t.powerVolts ≠ none := by
    intro h hnone
    rw [isPowerCut, hnone] at h
    cases h
  have hpercent : isBatteryCritical t = true → t.batteryPercent ≠ none := by
    intro h hnone
    rw [isBatteryCritical, hnone] at h
    cases h
  rw [hcause]
  cases hcut : isPowerCut t with
  | true => simp [hvolts hcut]
  | false =>
    cases hweak : isBatteryCritical t with
    | true => simp [hpercent hweak]
    | false =>
      by_cases hnone : t.powerVolts = none ∧ t.batteryPercent = none
      · simp [hnone]
      · simp [hnone]

variable [IsStrictOrderedRing R]

omit [JsMath R] in
theorem clamp_bounds (x : R) : 0 ≤ max 0 (min 100 x) ∧ max 0 (min 100 x) ≤ 100 :=
  ⟨le_max_left .., max_le (by norm_num) (min_le_left ..)⟩

/-- **The cause that is told of a silence is the one the last fix was alerted of**, by the alert
and by the page, whatever the tracker sends: a cut where the fix told a cut, and a weak battery
where it told one, and no cut.  A battery is between 0 and 100. -/
theorem silence_cause_agrees (readNumber : String → Option R) (raw : Option (RawAttributes R)) :
    let t := extractTrackerTelemetry readNumber raw
    let stored := buildStoredAttributes readNumber t raw
    let cause := classifySilenceCause (parseStoredTelemetry stored)
    (cause = .powerCut ↔ isPowerCut t = true) ∧
      (cause = .batteryCritical ↔ isBatteryCritical t = true ∧ isPowerCut t = false) ∧
      (cause = .powerOrBatteryUnknown ↔ t.powerVolts = none ∧ t.batteryPercent = none) ∧
      classifyTrackerSilenceCause stored = cause.label ∧
      ∀ percent, t.batteryPercent = some percent → 0 ≤ percent ∧ percent ≤ 100 := by
  intro t stored cause
  have hcause : cause = classifySilenceCause (t.powerVolts, t.batteryPercent) :=
    congrArg classifySilenceCause (parse_buildStoredAttributes t)
  obtain ⟨hcut, hweak, hunknown⟩ := classifySilenceCause_spec t
  rw [← hcause] at hcut hweak hunknown
  refine ⟨hcut, hweak, hunknown, classifyTrackerSilenceCause_eq stored, fun percent hpercent => ?_⟩
  cases raw with
  | none => cases hpercent
  | some a =>
    obtain ⟨battery, -, rfl⟩ := Option.map_eq_some_iff.mp hpercent
    split
    · exact clamp_bounds _
    · exact clamp_bounds _

/-- A fifth of a volt, and the percentage of a weak battery as a text. -/
def cutOff : RawAttributes ℚ :=
  ⟨some (.number (1 / 5)), none, none, some (.text "15"), none, none, none, none, none⟩

/-- The cut is told, not the battery. -/
theorem silence_cause_agrees_cutOff :
    let readNumber : String → Option ℚ := fun s => if s = "15" then some 15 else none
    let t := extractTrackerTelemetry readNumber (some cutOff)
    isBatteryCritical t = true ∧ classifySilenceCause
      (parseStoredTelemetry (buildStoredAttributes readNumber t (some cutOff))) = .powerCut := by
  intro readNumber t
  exact ⟨by decide +kernel,
    (silence_cause_agrees readNumber (some cutOff)).1.mpr (by decide +kernel)⟩

end Telemetry

/-! ## Silences -/

/-- `60_000`, and what `offlineTimeoutMinutes` is taken for where it is not set. -/
def MINUTE_MS : Int := 60000
def DEFAULT_OFFLINE_TIMEOUT_MINUTES : Int := 15

/-- A delivery is waited for within a day of its creation. -/
def ACTIVE_DELIVERY_MS : Int := 24 * 60 * 60 * 1000

structure GpsPosition (R : Type) where
  vehicleId : String
  timestamp : Int
  speed : Option R
  attributes : Option (StoredAttributes R)

structure Delivery where
  vehicleId : String
  inProgress : Bool
  deleted : Bool
  createdAt : Int

/-- One vehicle of a pass, with what is read of it. -/
structure Check where
  now : Int
  vehicleId : String
  companyId : String
  /-- `driver.userId` is set. -/
  hasUser : Bool
  traccarDeviceId : Option String
  offlineTimeoutMinutes : Option Int
  deliveries : List Delivery
  /-- Redis has the key of the silence. -/
  keyFound : Bool
  /-- Redis takes the key, or there is no Redis; else the pass ends. -/
  keySet : Bool
  /-- The last contacts of the devices, if Traccar answers. -/
  reachableDevices : Option (List (String × Int))

structure SilentAlert where
  companyId : String
  vehicleId : String
  silenceId : Int
  message : String
  deriving DecidableEq

section Silences

variable {R : Type} [Field R] [LinearOrder R]

/-- Three metres a second. -/
def SILENCE_ALERT_MIN_LAST_SPEED_MS : R := 3

def getLastPosition (rows : List (GpsPosition R)) (vehicleId : String) : Option (GpsPosition R) :=
  lastBy GpsPosition.timestamp (rows.filter fun row => row.vehicleId = vehicleId)

/-- `offlineTimeoutMinutes || 15` -/
def Check.timeout (c : Check) : Int :=
  (c.offlineTimeoutMinutes.filter (· ≠ 0)).getD DEFAULT_OFFLINE_TIMEOUT_MINUTES

/-- The last position of the vehicle, if that is too long ago. -/
def Check.silence (c : Check) (rows : List (GpsPosition R)) : Option (GpsPosition R) :=
  if c.hasUser then
    (getLastPosition rows c.vehicleId).filter fun lastPos =>
      c.timeout * MINUTE_MS < c.now - lastPos.timestamp
  else none

def wasDriving (lastPos : GpsPosition R) : Bool :=
  decide (SILENCE_ALERT_MIN_LAST_SPEED_MS ≤ lastPos.speed.getD 0)

def Check.activeDelivery (c : Check) : Bool :=
  c.deliveries.any fun d => decide (d.vehicleId = c.vehicleId ∧ d.inProgress = true ∧
    d.deleted = false ∧ c.now - ACTIVE_DELIVERY_MS ≤ d.createdAt)

/-- Traccar has heard of the tracker within the timeout. -/
def Check.asleep (c : Check) : Bool :=
  ((c.traccarDeviceId.bind fun id => c.reachableDevices.bind fun devices =>
    (devices.find? fun d => d.1 = id).map Prod.snd)).any fun lastContactMs =>
      decide (c.now - lastContactMs ≤ c.timeout * MINUTE_MS)

/-- What the message adds for each cause. -/
def SilenceCause.hint : SilenceCause → String
  | powerCut =>
      ". Cause probable : coupure électrique du véhicule (tension à zéro à la dernière position — moteur coupé longtemps ou batterie véhicule déconnectée/volée). Vérifiez la batterie du véhicule."
  | batteryCritical =>
      ". Cause probable : batterie interne du traceur critique à la dernière position (le traceur a pu cesser d’émettre). Vérifiez le boîtier / son alimentation."
  | powerOrBatteryUnknown =>
      ". Cause probable : panne SIM/matériel ou zone sans réseau (le traceur ne remonte pas de télémétrie power/battery — modèle bas de gamme). Vérifiez la SIM et le boîtier."
  | normalThenSilence =>
      ". Cause probable : panne SIM/matériel ou zone sans réseau (dernière télémétrie normale). Vérifiez la SIM, le boîtier et la couverture réseau."

/-- The alert; a time is rounded to a minute, halves up. -/
def Check.alert (c : Check) (lastPos : GpsPosition R) : SilentAlert where
  companyId := c.companyId
  vehicleId := c.vehicleId
  silenceId := lastPos.timestamp
  message := "Le traceur GPS du véhicule n'a pas envoyé de position depuis " ++
    toString ((2 * (c.now - lastPos.timestamp) + MINUTE_MS) / (2 * MINUTE_MS)) ++ " minutes" ++
    (classifySilenceCause (parseStoredTelemetry lastPos.attributes)).hint

/-- The last silence of each vehicle that was settled. -/
abbrev SilentAlerted := String → Option Int

/-- `checkSilentPhysicalDevices`, for one vehicle. -/
def checkVehicle (rows : List (GpsPosition R)) (silentAlerted : SilentAlerted) (c : Check) :
    Option SilentAlert × SilentAlerted :=
  match c.silence rows with
  | none => (none, silentAlerted)
  | some lastPos =>
      if silentAlerted c.vehicleId = some lastPos.timestamp then (none, silentAlerted)
      else if c.keyFound then
        (none, Function.update silentAlerted c.vehicleId (some lastPos.timestamp))
      else if wasDriving lastPos = false ∧ c.activeDelivery = false then
        (none, Function.update silentAlerted c.vehicleId (some lastPos.timestamp))
      else if c.asleep then (none, silentAlerted)
      else
        (if c.keySet then some (c.alert lastPos) else none,
          Function.update silentAlerted c.vehicleId (some lastPos.timestamp))

/-- An instance, and the positions that are saved. -/
structure Instance (R : Type) where
  rows : List (GpsPosition R)
  silentAlerted : SilentAlerted

inductive Event (R : Type) where
  | save (row : GpsPosition R)
  | check (c : Check)

def step (s : Instance R) : Event R → Option SilentAlert × Instance R
  | .save row => (none, { s with rows := s.rows ++ [row] })
  | .check c =>
      ((checkVehicle s.rows s.silentAlerted c).1,
        { s with silentAlerted := (checkVehicle s.rows s.silentAlerted c).2 })

def start : Instance R := ⟨[], fun _ => none⟩

/-- The instance after the events. -/
def after (es : List (Event R)) : Instance R := final step start es

/-- What the check raises, after the events. -/
def raised (es : List (Event R)) (c : Check) : Option SilentAlert := (step (after es) (.check c)).1

/-! ### What was settled -/

/-- A look at a silence that is not its last one. -/
def Settles (c : Check) (lastPos : GpsPosition R) : Prop :=
  c.keyFound = true ∨ (wasDriving lastPos = false ∧ c.activeDelivery = false) ∨ c.asleep = false

/-- The look finds a tracker that is lost while somebody waits for its positions. -/
def Lost (c : Check) (lastPos : GpsPosition R) : Prop :=
  c.keyFound = false ∧ (wasDriving lastPos = true ∨ c.activeDelivery = true) ∧ c.asleep = false

/-- A look of the past settled the silence of the vehicle since `time`. -/
def SettledBefore (es : List (Event R)) (vehicleId : String) (time : Int) : Prop :=
  ∃ pre p post lastPos, es = pre ++ .check p :: post ∧ p.vehicleId = vehicleId ∧
    p.silence (after pre).rows = some lastPos ∧ lastPos.timestamp = time ∧ Settles p lastPos

variable {rows : List (GpsPosition R)} {row lastPos : GpsPosition R} {silentAlerted : SilentAlerted}
  {c : Check} {es : List (Event R)} {e : Event R} {v : String} {x : Int}

theorem after_append (es : List (Event R)) (e : Event R) :
    after (es ++ [e]) = (step (after es) e).2 := final_append ..

omit [Field R] [LinearOrder R] in
/-- What a silence is of. -/
theorem silence_eq_some (h : c.silence rows = some lastPos) :
    getLastPosition rows c.vehicleId = some lastPos := by
  rw [Check.silence] at h
  split at h
  · exact (Option.filter_eq_some_iff.mp h).1
  · cases h

omit [Field R] [LinearOrder R] in
/-- The last position of a vehicle does not go back. -/
theorem getLastPosition_append (row : GpsPosition R) (h : getLastPosition rows v = some lastPos) :
    ∃ next, getLastPosition (rows ++ [row]) v = some next ∧ lastPos.timestamp ≤ next.timestamp := by
  have hmem := mem_of_lastBy h
  rw [getLastPosition, List.filter_append]
  exact exists_lastBy (List.mem_append_left _ hmem)

/-- A look at a silence that is not the last one settled. -/
theorem checkVehicle_eq (h : c.silence rows = some lastPos)
    (hnew : silentAlerted c.vehicleId ≠ some lastPos.timestamp) :
    (Settles c lastPos → (checkVehicle rows silentAlerted c).2 =
      Function.update silentAlerted c.vehicleId (some lastPos.timestamp)) ∧
    (¬ Settles c lastPos → (checkVehicle rows silentAlerted c).2 = silentAlerted) ∧
    ∀ a, (checkVehicle rows silentAlerted c).1 = some a ↔
      Lost c lastPos ∧ c.keySet = true ∧ a = c.alert lastPos := by
  simp only [checkVehicle, h, if_neg hnew]
  cases hkey : c.keyFound with
  | true => simp [Settles, Lost, hkey]
  | false =>
    by_cases hidle : wasDriving lastPos = false ∧ c.activeDelivery = false
    · simp [Settles, Lost, hkey, hidle]
    · have hwaiting : wasDriving lastPos = true ∨ c.activeDelivery = true := by
        simpa [Bool.not_eq_false, or_iff_not_imp_left] using hidle
      cases hasleep : c.asleep with
      | true => simp [Settles, Lost, hkey, hidle, hasleep]
      | false =>
        cases hset : c.keySet with
        | true =>
          simp only [Settles, Lost, hkey, if_neg hidle, hasleep, hwaiting]
          simp
          exact fun a => eq_comm
        | false => simp [Settles, Lost, hkey, hidle, hasleep]

theorem settledBefore_append :
    SettledBefore (es ++ [e]) v x ↔ SettledBefore es v x ∨ ∃ p lastPos, e = .check p ∧
      p.vehicleId = v ∧ p.silence (after es).rows = some lastPos ∧ lastPos.timestamp = x ∧
        Settles p lastPos := by
  constructor
  · rintro ⟨pre, p, post, lastPos, hes, hv, hsilence, hx, hsettles⟩
    rcases List.eq_nil_or_concat post with rfl | ⟨post, last, rfl⟩
    · obtain ⟨rfl, rfl⟩ := List.append_inj' hes rfl |>.imp_right List.singleton_inj.mp
      exact .inr ⟨p, lastPos, rfl, hv, hsilence, hx, hsettles⟩
    · rw [List.concat_eq_append, ← List.cons_append, ← List.append_assoc] at hes
      obtain ⟨rfl, -⟩ := List.append_inj' hes rfl
      exact .inl ⟨pre, p, post, lastPos, rfl, hv, hsilence, hx, hsettles⟩
  · rintro (⟨pre, p, post, lastPos, rfl, hrest⟩ | ⟨p, lastPos, rfl, hrest⟩)
    · exact ⟨pre, p, post ++ [e], lastPos, by simp, hrest⟩
    · exact ⟨es, p, [], lastPos, rfl, hrest⟩

/-- The last silence of a vehicle that was settled is remembered, and none is after its last
position. -/
structure Remembers (es : List (Event R)) : Prop where
  settled : ∀ v x, (after es).silentAlerted v = some x → SettledBefore es v x
  newest : ∀ v x, SettledBefore es v x → ∃ y, (after es).silentAlerted v = some y ∧ x ≤ y
  known : ∀ v x, SettledBefore es v x →
    ∃ row, getLastPosition (after es).rows v = some row ∧ x ≤ row.timestamp

/-- What a look settled is remembered as the last silence of its vehicle. -/
theorem Remembers.settle {c : Check} (h : Remembers es)
    (hsilence : c.silence (after es).rows = some lastPos) (hsettles : Settles c lastPos)
    (hlast : (after (es ++ [.check c])).silentAlerted =
      Function.update (after es).silentAlerted c.vehicleId (some lastPos.timestamp)) :
    Remembers (es ++ [.check c]) := by
  have hposition := silence_eq_some hsilence
  refine ⟨fun v x hx => ?_, fun v x hx => ?_, fun v x hx => ?_⟩
  · rw [hlast, Function.update_apply] at hx
    split at hx
    · rename_i hv
      exact settledBefore_append.mpr
        (.inr ⟨c, lastPos, rfl, hv.symm, hsilence, Option.some.inj hx, hsettles⟩)
    · exact settledBefore_append.mpr (.inl (h.settled v x hx))
  · rw [hlast]
    rcases settledBefore_append.mp hx with hbefore | ⟨p, q, hp, rfl, hq, rfl, -⟩
    · by_cases hv : v = c.vehicleId
      · subst hv
        obtain ⟨row, hrow, hle⟩ := h.known _ x hbefore
        obtain rfl := Option.some.inj (hposition.symm.trans hrow)
        exact ⟨lastPos.timestamp, Function.update_self .., hle⟩
      · rw [Function.update_of_ne hv]
        exact h.newest v x hbefore
    · obtain rfl := Event.check.inj hp
      obtain rfl := Option.some.inj (hsilence.symm.trans hq)
      exact ⟨lastPos.timestamp, Function.update_self .., Int.le_refl _⟩
  · rw [after_append]
    rcases settledBefore_append.mp hx with hbefore | ⟨p, q, hp, rfl, hq, rfl, -⟩
    · exact h.known v x hbefore
    · exact ⟨q, silence_eq_some hq, Int.le_refl _⟩

/-- A look that settles nothing new changes nothing. -/
theorem Remembers.keep (h : Remembers es)
    (hlast : (after (es ++ [e])).silentAlerted = (after es).silentAlerted)
    (hsame : ∀ v x, SettledBefore (es ++ [e]) v x → SettledBefore es v x)
    (hrows : ∀ v row, getLastPosition (after es).rows v = some row →
      ∃ next, getLastPosition (after (es ++ [e])).rows v = some next ∧
        row.timestamp ≤ next.timestamp) : Remembers (es ++ [e]) := by
  refine ⟨fun v x hx => ?_, fun v x hx => ?_, fun v x hx => ?_⟩
  · rw [hlast] at hx
    exact settledBefore_append.mpr (.inl (h.settled v x hx))
  · rw [hlast]
    exact h.newest v x (hsame v x hx)
  · obtain ⟨row, hrow, hle⟩ := h.known v x (hsame v x hx)
    obtain ⟨next, hnext, hle'⟩ := hrows v row hrow
    exact ⟨next, hnext, hle.trans hle'⟩

theorem remembers_after (es : List (Event R)) : Remembers es := by
  induction es using List.reverseRecOn with
  | nil =>
    refine ⟨fun v x hx => ?_, ?_, ?_⟩
    · cases hx
    · rintro v x ⟨pre, p, post, lastPos, hes, -⟩
      cases pre <;> cases hes
    · rintro v x ⟨pre, p, post, lastPos, hes, -⟩
      cases pre <;> cases hes
  | append_singleton es e ih =>
    cases e with
    | save row =>
      refine ih.keep (by rw [after_append]; rfl) (fun v x hx => ?_) fun v last hlast => ?_
      · rcases settledBefore_append.mp hx with hbefore | ⟨p, q, hp, -⟩
        · exact hbefore
        · cases hp
      · rw [after_append]
        exact getLastPosition_append row hlast
    | check c =>
      have hrows : ∀ v row, getLastPosition (after es).rows v = some row →
          ∃ next, getLastPosition (after (es ++ [.check c])).rows v = some next ∧
            row.timestamp ≤ next.timestamp := by
        intro v row hrow
        rw [after_append]
        exact ⟨row, hrow, Int.le_refl _⟩
      have hnext : (after (es ++ [.check c])).silentAlerted =
          (checkVehicle (after es).rows (after es).silentAlerted c).2 := by
        rw [after_append]
        rfl
      cases hsilence : c.silence (after es).rows with
      | none =>
        refine ih.keep ?_ (fun v x hx => ?_) hrows
        · rw [hnext, checkVehicle, hsilence]
        · rcases settledBefore_append.mp hx with hbefore | ⟨p, q, hp, -, hq, -⟩
          · exact hbefore
          · obtain rfl := Event.check.inj hp
            cases hsilence.symm.trans hq
      | some lastPos =>
        by_cases hlast : (after es).silentAlerted c.vehicleId = some lastPos.timestamp
        · refine ih.keep ?_ (fun v x hx => ?_) hrows
          · rw [hnext, checkVehicle, hsilence]
            exact congrArg Prod.snd (if_pos hlast)
          · rcases settledBefore_append.mp hx with hbefore | ⟨p, q, hp, rfl, hq, rfl, -⟩
            · exact hbefore
            · obtain rfl := Event.check.inj hp
              obtain rfl := Option.some.inj (hsilence.symm.trans hq)
              exact ih.settled _ _ hlast
        · obtain ⟨hsettles, hkeeps, -⟩ := checkVehicle_eq hsilence hlast
          by_cases hdecides : Settles c lastPos
          · exact ih.settle hsilence hdecides (hnext.trans (hsettles hdecides))
          · refine ih.keep (hnext.trans (hkeeps hdecides)) (fun v x hx => ?_) hrows
            rcases settledBefore_append.mp hx with hbefore | ⟨p, q, hp, -, hq, -, hq'⟩
            · exact hbefore
            · obtain rfl := Event.check.inj hp
              obtain rfl := Option.some.inj (hsilence.symm.trans hq)
              exact absurd hq' hdecides

/-- **A silence is alerted by the first look that settles it, if that finds the tracker lost**, and
never again by the instance: whatever fixes are saved between the looks, and in whatever order. -/
theorem silence_alert_iff (es : List (Event R)) (c : Check) (a : SilentAlert) :
    raised es c = some a ↔ ∃ lastPos, c.silence (after es).rows = some lastPos ∧
      Lost c lastPos ∧ c.keySet = true ∧ a = c.alert lastPos ∧
        ¬ SettledBefore es c.vehicleId lastPos.timestamp := by
  have hremembers := remembers_after es
  have hraised : raised es c = (checkVehicle (after es).rows (after es).silentAlerted c).1 := rfl
  cases hsilence : c.silence (after es).rows with
  | none =>
    rw [hraised, checkVehicle, hsilence]
    simp
  | some lastPos =>
    have hbefore : (after es).silentAlerted c.vehicleId = some lastPos.timestamp ↔
        SettledBefore es c.vehicleId lastPos.timestamp := by
      refine ⟨hremembers.settled _ _, fun h => ?_⟩
      obtain ⟨y, hy, hle⟩ := hremembers.newest _ _ h
      obtain ⟨row, hrow, hge⟩ := hremembers.known _ y (hremembers.settled _ y hy)
      obtain rfl := Option.some.inj ((silence_eq_some hsilence).symm.trans hrow)
      rw [hy, Int.le_antisymm hge hle]
    by_cases hlast : (after es).silentAlerted c.vehicleId = some lastPos.timestamp
    · rw [hraised, checkVehicle, hsilence]
      simp only [if_pos hlast]
      refine ⟨fun h => (by cases h), ?_⟩
      rintro ⟨q, hq, -, -, -, hnot⟩
      obtain rfl := Option.some.inj hq
      exact absurd (hbefore.mp hlast) hnot
    · rw [hraised, (checkVehicle_eq hsilence hlast).2.2 a]
      constructor
      · rintro ⟨hlost, hset, ha⟩
        exact ⟨lastPos, rfl, hlost, hset, ha, mt hbefore.mpr hlast⟩
      · rintro ⟨q, hq, hlost, hset, ha, -⟩
        obtain rfl := Option.some.inj hq
        exact ⟨hlost, hset, ha⟩

end Silences

end DeliveryTracking.Traccar.Silence
