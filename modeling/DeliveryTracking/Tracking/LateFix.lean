/-
# `DeliveryTracking.Tracking.LateFix` — what a late fix is compared with

`detectTeleportation` takes the last trusted position as reference, and for a fix
that comes late the last trusted one before it: in both cases the last trusted one
before it (`teleportReference_eq_comparedWith`).  The query it makes on a source
change has no such bound.  So a fix is flagged as not increasing exactly where that
query finds a position its own source sent after it
(`detectTeleportation_ordered_iff`).
-/
import DeliveryTracking.Tracking.SaveBatch

namespace DeliveryTracking.Tracking

open Geo

variable {R : Type}

/-! ## The reference -/

/-- The last trusted position before a time. -/
def lastBefore (t : PositionTable R) (vehicleId : String) (timestamp : Int) :
    Option (GpsPosition R) :=
  t.latest fun p => p.vehicleId == vehicleId && !p.suspect && p.timestamp < timestamp

/-- `sameSourceLast`: the last trusted position of a source, whenever it is. -/
def sameSourceLast (t : PositionTable R) (vehicleId : String) (source : PositionSource) :
    Option (GpsPosition R) :=
  t.latest fun p => p.vehicleId == vehicleId && p.source == source && !p.suspect

theorem lt_of_lastBefore {t : PositionTable R} {v : String} {timestamp : Int} {p : GpsPosition R}
    (h : lastBefore t v timestamp = some p) : p.timestamp < timestamp := by
  obtain ⟨-, hq⟩ := mem_of_latest h
  simp only [Bool.and_eq_true, decide_eq_true_eq] at hq
  exact hq.2

/-- The last trusted position, when a fix comes after it, is the last one before the fix. -/
theorem lastBefore_of_getLastPosition {t : PositionTable R} {v : String} {timestamp : Int}
    {last : GpsPosition R} (hlast : getLastPosition t v true = some last)
    (hlate : last.timestamp < timestamp) : lastBefore t v timestamp = some last := by
  have hquery : t.findMany (fun p => p.vehicleId == v && !p.suspect && p.timestamp < timestamp)
      = t.findMany fun p => p.vehicleId == v && !(true && p.suspect) := by
    refine List.filter_congr fun p hp => ?_
    rw [Bool.true_and]
    cases hq : p.vehicleId == v && !p.suspect with
    | false => rfl
    | true =>
      have hle : p.timestamp ≤ last.timestamp :=
        le_of_lastBy hlast (List.mem_filter.mpr ⟨hp, by rw [Bool.true_and, hq]⟩)
      exact decide_eq_true (by omega)
  rw [lastBefore, PositionTable.latest, hquery]
  exact hlast

/-- Without a trusted position there is none before a fix. -/
theorem lastBefore_of_untrusted {t : PositionTable R} {v : String}
    (h : getLastPosition t v true = none) (timestamp : Int) : lastBefore t v timestamp = none := by
  refine latest_eq_none fun p hp => ?_
  cases hq : p.vehicleId == v && !p.suspect with
  | false => rfl
  | true =>
    obtain ⟨last, hlast, -⟩ :=
      exists_latest (q := fun p => p.vehicleId == v && !(true && p.suspect)) hp hq
    exact absurd (h.symm.trans hlast) (Option.some_ne_none last).symm

/-- The two queries before the source change are one: the last trusted position before the fix. -/
theorem teleportReference_eq_comparedWith (t : PositionTable R) (v : String)
    (source : PositionSource) (timestamp : Int) :
    teleportReference t v source timestamp
      = comparedWith source timestamp (lastBefore t v timestamp) (sameSourceLast t v source) := by
  unfold teleportReference comparedWith
  cases hlast : getLastPosition t v true with
  | none => rw [lastBefore_of_untrusted hlast]
  | some last =>
    rcases le_or_gt timestamp last.timestamp with hle | hlt
    · simp only [if_pos hle]
      rfl
    · simp only [if_neg (not_le.mpr hlt), lastBefore_of_getLastPosition hlast hlt]
      rfl

/-- A fix that comes late on a source change: the last trusted position before it is of the
other source and recent, and its own source has a trusted one that is no older than it. -/
def LateAfterChange (t : PositionTable R) (v : String) (source : PositionSource)
    (timestamp : Int) : Prop :=
  ∃ before, lastBefore t v timestamp = some before ∧ before.source ≠ source ∧
    timestamp - before.timestamp ≤ sourceChangeWindow ∧
    ∃ p ∈ t.rows, p.vehicleId = v ∧ p.source = source ∧ p.suspect = false ∧
      timestamp ≤ p.timestamp

/-- The last trusted position of a source is no older than a time if any of them is not. -/
theorem sameSourceLast_le_iff {t : PositionTable R} {v : String} {source : PositionSource}
    {timestamp : Int} :
    (∃ last, sameSourceLast t v source = some last ∧ timestamp ≤ last.timestamp) ↔
      ∃ p ∈ t.rows, p.vehicleId = v ∧ p.source = source ∧ p.suspect = false ∧
        timestamp ≤ p.timestamp := by
  constructor
  · rintro ⟨last, hlast, hle⟩
    obtain ⟨hmem, hq⟩ := mem_of_latest hlast
    simp only [Bool.and_eq_true, beq_iff_eq, Bool.not_eq_eq_eq_not, Bool.not_true] at hq
    exact ⟨last, hmem, hq.1.1, hq.1.2, hq.2, hle⟩
  · rintro ⟨p, hp, hv, hsource, htrusted, hle⟩
    obtain ⟨last, hlast, hlater⟩ :=
      exists_latest (q := fun p => p.vehicleId == v && p.source == source && !p.suspect) hp
        (by simp [hv, hsource, htrusted])
    exact ⟨last, hlast, hle.trans hlater⟩

/-- The reference is older than the fix, unless the fix comes late on a source change. -/
theorem teleportReference_older_iff {t : PositionTable R} {v : String} {source : PositionSource}
    {timestamp : Int} :
    (∀ r, teleportReference t v source timestamp = some r → r.timestamp < timestamp) ↔
      ¬ LateAfterChange t v source timestamp := by
  rw [teleportReference_eq_comparedWith, LateAfterChange, ← sameSourceLast_le_iff]
  unfold comparedWith
  cases hbefore : lastBefore t v timestamp with
  | none => simp
  | some before =>
    have hlt := lt_of_lastBefore hbefore
    by_cases hchange : before.source ≠ source ∧ timestamp - before.timestamp ≤ sourceChangeWindow
    · simp only [if_pos (show before.source ≠ source ∧ 0 < timestamp - before.timestamp ∧
        timestamp - before.timestamp ≤ sourceChangeWindow from
          ⟨hchange.1, by omega, hchange.2⟩)]
      constructor
      · rintro holder ⟨-, -, -, -, last, hlast, hle⟩
        have hold := holder last hlast
        omega
      · intro hnot r hr
        by_contra hle
        exact hnot ⟨before, rfl, hchange.1, hchange.2, r, hr, not_lt.mp hle⟩
    · have hsame : ¬ (before.source ≠ source ∧ 0 < timestamp - before.timestamp ∧
          timestamp - before.timestamp ≤ sourceChangeWindow) :=
        fun h => hchange ⟨h.1, h.2.2⟩
      simp only [if_neg hsame]
      constructor
      · rintro - ⟨_, ⟨⟩, hsource, hrecent, -⟩
        exact hchange ⟨hsource, hrecent⟩
      · rintro - r ⟨⟩
        exact hlt

/-! ## The reason -/

variable [Field R] [LinearOrder R] [JsMath R]

/-- The reason `detectTeleportation` flags a fix for, if it does. -/
def teleportReason (t : PositionTable R) (dto : UpdatePositionDto R) (source : PositionSource) :
    Option TeleportReason :=
  (teleportReference t dto.vehicleId source dto.timestamp).bind fun reference =>
    (evaluateTeleportation reference.reference dto.latitude dto.longitude dto.timestamp
      dto.accuracy dto.speed).reason

/-- A fix is suspect for a reason, and not increasing exactly if its reference is not older. -/
theorem evaluateTeleportation_reason (reference : TeleportReference R) (latitude longitude : R)
    (timestamp : Int) (accuracy speed : Option R) :
    (evaluateTeleportation reference latitude longitude timestamp accuracy speed).suspect
        = (evaluateTeleportation reference latitude longitude timestamp accuracy
            speed).reason.isSome ∧
      ((evaluateTeleportation reference latitude longitude timestamp accuracy speed).reason
          = some .nonCroissant ↔ timestamp ≤ reference.timestamp) := by
  unfold evaluateTeleportation
  by_cases hdt : timestamp - reference.timestamp ≤ 0
  · simp only [if_pos hdt]
    exact ⟨rfl, iff_of_true trivial (by omega)⟩
  · have hlater : ¬ timestamp ≤ reference.timestamp := by omega
    simp only [if_neg hdt, hlater, iff_false]
    split
    · exact ⟨rfl, nofun⟩
    split
    · exact ⟨rfl, nofun⟩
    split
    · exact ⟨rfl, nofun⟩
    · exact ⟨rfl, nofun⟩

/-- `detectTeleportation` flags a fix as not increasing exactly if its reference is not older,
and so exactly if the fix comes late on a source change. -/
theorem detectTeleportation_ordered_iff (t : PositionTable R) (dto : UpdatePositionDto R)
    (source : PositionSource) :
    detectTeleportation t dto source = (teleportReason t dto source).isSome ∧
    (teleportReason t dto source ≠ some .nonCroissant ↔
      ∀ r, teleportReference t dto.vehicleId source dto.timestamp = some r →
        r.timestamp < dto.timestamp) ∧
    (teleportReason t dto source ≠ some .nonCroissant ↔
      ¬ LateAfterChange t dto.vehicleId source dto.timestamp) := by
  have holder : teleportReason t dto source ≠ some .nonCroissant ↔
      ∀ r, teleportReference t dto.vehicleId source dto.timestamp = some r →
        r.timestamp < dto.timestamp := by
    rw [teleportReason]
    cases teleportReference t dto.vehicleId source dto.timestamp with
    | none => simp
    | some reference =>
      have hreason := (evaluateTeleportation_reason reference.reference dto.latitude
        dto.longitude dto.timestamp dto.accuracy dto.speed).2
      rw [Option.bind_some, Ne, hreason, not_le]
      exact ⟨fun hlt r hr => Option.some.inj hr ▸ hlt, fun h => h reference rfl⟩
  refine ⟨?_, holder, holder.trans teleportReference_older_iff⟩
  rw [detectTeleportation, teleportReason]
  cases teleportReference t dto.vehicleId source dto.timestamp with
  | none => rfl
  | some reference =>
    exact (evaluateTeleportation_reason reference.reference dto.latitude dto.longitude
      dto.timestamp dto.accuracy dto.speed).1

/-! ## A tracker that replaces a phone -/

/-- A phone fix at 0 s, and the first fix of the tracker that replaces it at 100 s. -/
def replacedPhone : PositionTable ℚ :=
  let phone :=
    (savePosition sampleRegistry (some "d1") (sampleFix (-189 / 10) 0) (some "c1") .phone .empty).2
  (savePosition ⟨[⟨sampleVehicleId, "c1", .physicalTracker, none, true, none⟩], by decide, [], []⟩
    none (sampleFix (-189 / 10) 100000) none .physicalTracker phone).2

/-- The tracker's buffered fix of 50 s passes deduplication and is flagged as not increasing: it
is compared with the one at 100 s. -/
theorem detectTeleportation_late :
    isDuplicateByTimestamp replacedPhone sampleVehicleId none 50000 = false ∧
    teleportReason replacedPhone (sampleFix (-189 / 10) 50000) .physicalTracker
      = some .nonCroissant := by
  decide +kernel

end DeliveryTracking.Tracking
