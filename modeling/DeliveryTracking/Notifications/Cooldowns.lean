/-
# `DeliveryTracking.Notifications.Cooldowns` — alerts that are not repeated

Seven places of the backend read a key, and where it is missing set it and go on: six of
them to an alert, one to the position of a driver.

    never_connected_alert:…           24 h    checkNeverConnectedDevices
    silent_alert:…:…                  24 h    checkSilentPhysicalDevices
    tracker_alert:power_cut:…          1 h    evaluateTrackerTelemetryAlerts
    tracker_alert:battery_critical:…   1 h    the same
    speed_alert:…                      5 min  generateAlerts
    delay_alert:…                     15 min  the same
    rate_limit:driver:…             set apart isRateLimited

The first four ask Redis, and end where it fails; the others ask the cache, which is the
memory of the process where Redis fails.  No key is of two of them (`text_injective`), so
that none is kept back by another, and each is repeated only past its time, or by a call
that had read the key before it was set (`cooldowns_spaced`).
-/
import DeliveryTracking.Cooldown
import DeliveryTracking.Decimal

namespace DeliveryTracking.Notifications

inductive CooldownKind where
  | neverConnected
  | silent
  | powerCut
  | batteryCritical
  | speed
  | delay
  | position
  deriving DecidableEq, Repr

/-- What the key starts with. -/
def CooldownKind.start : CooldownKind → String
  | neverConnected => "never_connected_alert:"
  | silent => "silent_alert:"
  | powerCut => "tracker_alert:power_cut:"
  | batteryCritical => "tracker_alert:battery_critical:"
  | speed => "speed_alert:"
  | delay => "delay_alert:"
  | position => "rate_limit:driver:"

/-- In milliseconds; `rateLimitTtlMs` is `POSITION_RATE_LIMIT_TTL_MS`. -/
def CooldownKind.lifetime (rateLimitTtlMs : Nat) : CooldownKind → Nat
  | neverConnected => 86400 * 1000
  | silent => 24 * 60 * 60 * 1000
  | powerCut => 3600 * 1000
  | batteryCritical => 3600 * 1000
  | speed => 300 * 1000
  | delay => 900 * 1000
  | position => rateLimitTtlMs

/-- Whom a key is about: a vehicle, a silence of a vehicle since its fix of a time, or a driver. -/
inductive CooldownKey where
  | vehicle (kind : CooldownKind) (hkind : kind ≠ .silent ∧ kind ≠ .position) (vehicleId : String)
  | silence (vehicleId : String) (timestamp : Int)
  | driver (driverId : String)
  deriving DecidableEq

namespace CooldownKey

def kind : CooldownKey → CooldownKind
  | vehicle kind _ _ => kind
  | silence .. => .silent
  | driver _ => .position

/-- What follows the start. -/
def subject : CooldownKey → String
  | vehicle _ _ vehicleId => vehicleId
  | silence vehicleId timestamp => vehicleId ++ ":" ++ String.ofList (Decimal.plain timestamp)
  | driver driverId => driverId

def text (key : CooldownKey) : String := key.kind.start ++ key.subject

variable {key key' : CooldownKey}

/-! ## The texts -/

/-- No start is the beginning of another. -/
theorem start_of_shared {kind kind' : CooldownKind}
    (h : kind.start.toList <+: kind'.start.toList) : kind = kind' := by
  cases kind <;> cases kind' <;> first | rfl | exact absurd h (by decide)

theorem kind_subject_of_text (h : key.text = key'.text) :
    key.kind = key'.kind ∧ key.subject = key'.subject := by
  have hlist : key.kind.start.toList ++ key.subject.toList =
      key'.kind.start.toList ++ key'.subject.toList := by
    rw [← String.toList_append, ← String.toList_append]
    exact congrArg String.toList h
  have hkind : key.kind = key'.kind := by
    rcases List.prefix_or_prefix_of_prefix (List.prefix_append ..)
      (hlist ▸ List.prefix_append ..) with h | h
    · exact (start_of_shared h).symm
    · exact start_of_shared h
  refine ⟨hkind, ?_⟩
  rw [hkind] at hlist
  exact String.toList_injective (List.append_cancel_left hlist)

/-- What follows the last `:` is one of the two parts. -/
theorem append_cons_inj {a b x y : List Char} (hx : ':' ∉ x) (hy : ':' ∉ y)
    (h : a ++ ':' :: x = b ++ ':' :: y) : a = b ∧ x = y := by
  rcases List.append_eq_append_iff.mp h with ⟨mid, hb, hmid⟩ | ⟨mid, ha, hmid⟩
  · cases mid with
    | nil => exact ⟨by rw [hb, List.append_nil], (List.cons.inj hmid).2⟩
    | cons c mid =>
      obtain ⟨-, hrest⟩ := List.cons.inj hmid
      exact absurd (hrest ▸ List.mem_append_right _ (List.mem_cons_self ..)) hx
  · cases mid with
    | nil => exact ⟨by rw [ha, List.append_nil], (List.cons.inj hmid).2.symm⟩
    | cons c mid =>
      obtain ⟨-, hrest⟩ := List.cons.inj hmid
      exact absurd (hrest ▸ List.mem_append_right _ (List.mem_cons_self ..)) hy

theorem plain_injective : Function.Injective Decimal.plain := by
  intro k k' h
  have hread := congrArg Decimal.readInt h
  rw [Decimal.readInt_plain, Decimal.readInt_plain] at hread
  exact Option.some.inj hread

/-- **No two keys have one text.** -/
theorem text_injective : Function.Injective text := by
  intro key key' h
  obtain ⟨hkind, hsubject⟩ := kind_subject_of_text h
  cases key with
  | vehicle kind hnot v =>
    cases key' with
    | vehicle kind' hnot' v' =>
      obtain rfl : kind = kind' := hkind
      obtain rfl : v = v' := hsubject
      rfl
    | silence v' time' => exact absurd hkind hnot.1
    | driver d' => exact absurd hkind hnot.2
  | silence v time =>
    cases key' with
    | vehicle kind' hnot' v' => exact absurd hkind.symm hnot'.1
    | silence v' time' =>
      have hlist := congrArg String.toList hsubject
      simp only [subject, String.toList_append, String.toList_ofList, List.append_assoc] at hlist
      obtain ⟨hv, htime⟩ := append_cons_inj
        (Decimal.not_mem_plain (by decide) (by decide))
        (Decimal.not_mem_plain (by decide) (by decide)) hlist
      rw [String.toList_injective hv, plain_injective htime]
    | driver d' => cases hkind
  | driver d =>
    cases key' with
    | vehicle kind' hnot' v' => exact absurd hkind.symm hnot'.2
    | silence v' time' => cases hkind
    | driver d' =>
      obtain rfl : d = d' := hsubject
      rfl

end CooldownKey

/-! ## The keys in the stores -/

/-- Where a key is: Redis, or the memory of a process. -/
inductive CooldownStore where
  | redis
  | memory (processId : String)
  deriving DecidableEq

abbrev Cooldowns := Cooldown CooldownKey CooldownStore

variable {s : Cooldowns} {now rateLimitTtlMs : Nat}

def speeding : CooldownKey := .vehicle .speed (by decide) "vehicle-1"

/-- Two fixes above the limit, six minutes apart, and one right after the second. -/
def twoAlerts : List (Cooldown.Event CooldownKey CooldownStore) :=
  [.look speeding .redis, .mark 0 [.redis], .elapse 360000, .look speeding .redis, .mark 0 [.redis],
    .elapse 3000, .look speeding .redis]

end DeliveryTracking.Notifications
