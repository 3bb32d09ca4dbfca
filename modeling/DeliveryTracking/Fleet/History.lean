/-
# `DeliveryTracking.Fleet.History` — the current vehicle of a driver, and its history

The column `vehicle_id` of `drivers` says which vehicle a driver has now.  The
table `vehicle_assignment_history` keeps a row for each assignment, open while it
lasts.  Unique indexes allow one driver for a vehicle, one open row for a vehicle
and one open row for a driver, so each table gives a matching of drivers and
vehicles:

    held     the driver's column
    opened   the open rows

A write of a driver, and `assign` and `unassign`, are the operations `put` and
`dropLeft` on these matchings.
-/
import DeliveryTracking.Table
import DeliveryTracking.Matching
import DeliveryTracking.Transaction

namespace DeliveryTracking.Fleet

/-! ## Rows -/

structure Vehicle where
  id : String
  companyId : String
  deletedAt : Option Int
  deriving DecidableEq, Repr

structure Driver where
  id : String
  companyId : String
  firstName : String
  lastName : String
  email : Option String
  phone : Option String
  licenseNumber : String
  userId : Option String
  vehicleId : Option String
  deletedAt : Option Int
  deriving DecidableEq, Repr

/-- The columns of `drivers` in a unique index; the index of the licences covers live rows. -/
structure DriverKey where
  id : String
  userId : Option String
  vehicleId : Option String
  license : Option (String × String)
  deriving DecidableEq, Repr

def Driver.key (d : Driver) : DriverKey :=
  { id := d.id, userId := d.userId, vehicleId := d.vehicleId
    license := if d.deletedAt.isNone then some (d.companyId, d.licenseNumber) else none }

/-- The unique indexes of `drivers`, in the order the database checks them. -/
inductive DriverIndex where
  | primary
  | user
  | vehicle
  | license
  deriving DecidableEq, Repr

/-- The columns an error names. -/
def DriverIndex.columns : DriverIndex → List String
  | .primary => ["id"]
  | .user => ["user_id"]
  | .vehicle => ["vehicle_id"]
  | .license => ["company_id", "license_number"]

def DriverIndex.Clash : DriverIndex → DriverKey → DriverKey → Prop
  | .primary, k, l => k.id = l.id
  | .user, k, l => Taken k.userId l.userId
  | .vehicle, k, l => Taken k.vehicleId l.vehicleId
  | .license, k, l => Taken k.license l.license

instance (i : DriverIndex) : DecidableRel i.Clash := fun k l => by
  cases i <;> unfold DriverIndex.Clash <;> infer_instance

def DriverKey.Clash (k l : DriverKey) : Prop :=
  ∃ i ∈ [DriverIndex.primary, .user, .vehicle, .license], i.Clash k l

instance : DecidableRel DriverKey.Clash := fun _ _ =>
  inferInstanceAs (Decidable (∃ i ∈ [DriverIndex.primary, .user, .vehicle, .license], _))

abbrev DriverTable := Table Driver.key DriverKey.Clash

/-- A row of `vehicle_assignment_history`. -/
structure AssignmentRow where
  id : String
  companyId : String
  vehicleId : String
  driverId : String
  assignedAt : Int
  unassignedAt : Option Int
  deriving DecidableEq, Repr

def AssignmentRow.isOpen (r : AssignmentRow) : Bool := r.unassignedAt.isNone

/-- The primary key, and the two partial indexes over the open rows. -/
structure AssignmentKey where
  id : String
  openVehicle : Option String
  openDriver : Option String
  deriving DecidableEq, Repr

def AssignmentRow.key (r : AssignmentRow) : AssignmentKey :=
  { id := r.id
    openVehicle := if r.isOpen then some r.vehicleId else none
    openDriver := if r.isOpen then some r.driverId else none }

theorem AssignmentRow.openVehicle_eq {r : AssignmentRow} (h : r.isOpen = true) :
    r.key.openVehicle = some r.vehicleId := if_pos h

theorem AssignmentRow.openDriver_eq {r : AssignmentRow} (h : r.isOpen = true) :
    r.key.openDriver = some r.driverId := if_pos h

def AssignmentKey.Clash (k l : AssignmentKey) : Prop :=
  k.id = l.id ∨ Taken k.openVehicle l.openVehicle ∨ Taken k.openDriver l.openDriver

instance : DecidableRel AssignmentKey.Clash :=
  fun _ _ => inferInstanceAs (Decidable (_ ∨ _ ∨ _))

/-- What a database call throws. -/
inductive PrismaError where
  /-- A unique index, with its columns (code P2002). -/
  | unique (target : List String)
  /-- A value the column cannot hold. -/
  | validation
  deriving DecidableEq, Repr

abbrev HistoryTable := Table AssignmentRow.key AssignmentKey.Clash

theorem DriverKey.Clash.symm {k l : DriverKey} (h : k.Clash l) : l.Clash k := by
  obtain ⟨i, hi, hclash⟩ := h
  refine ⟨i, hi, ?_⟩
  cases i with
  | primary => exact Eq.symm hclash
  | user => exact Taken.symm hclash
  | vehicle => exact Taken.symm hclash
  | license => exact Taken.symm hclash

/-- A driver that gives up its vehicle clashes with no more rows. -/
theorem DriverKey.Clash.of_release {d : Driver} {l : DriverKey}
    (h : Driver.key { d with vehicleId := none } |>.Clash l) : d.key.Clash l := by
  obtain ⟨i, hi, hclash⟩ := h
  refine ⟨i, hi, ?_⟩
  cases i with
  | primary => exact hclash
  | user => exact hclash
  | vehicle => exact absurd hclash (not_taken_none _)
  | license => exact hclash

theorem AssignmentKey.Clash.symm {k l : AssignmentKey} (h : k.Clash l) : l.Clash k :=
  h.imp Eq.symm (Or.imp Taken.symm Taken.symm)

/-! ## The vehicle a driver has -/

namespace DriverTable

variable {t t' : DriverTable} {a b d : Driver} {v : String}

theorem eq_of_id (ha : a ∈ t.rows) (hb : b ∈ t.rows) (h : a.id = b.id) : a = b :=
  Table.eq_of_clash (fun _ _ => DriverKey.Clash.symm) ha hb ⟨.primary, by simp, h⟩

theorem eq_of_vehicle (ha : a ∈ t.rows) (hb : b ∈ t.rows) (hav : a.vehicleId = some v)
    (hbv : b.vehicleId = some v) : a = b := by
  refine Table.eq_of_clash (fun _ _ => DriverKey.Clash.symm) ha hb ⟨.vehicle, by simp, ?_⟩
  show Taken a.vehicleId b.vehicleId
  rw [hav, hbv]
  exact taken_some_some.mpr rfl

/-- The driver with an id has a vehicle. -/
def held (t : DriverTable) : Matching String String where
  rel d v := ∃ row ∈ t.rows, row.id = d ∧ row.vehicleId = some v
  biUnique := by
    constructor
    · rintro _ _ v ⟨a, ha, rfl, hav⟩ ⟨b, hb, rfl, hbv⟩
      rw [eq_of_vehicle ha hb hav hbv]
    · rintro _ v v' ⟨a, ha, rfl, hav⟩ ⟨b, hb, hid, hbv⟩
      rw [eq_of_id hb ha hid, hav] at hbv
      exact Option.some.inj hbv

theorem held_create (h : t.create d = some t') :
    t'.held = d.vehicleId.elim t.held (t.held.put d.id) := by
  have hrows := Table.rows_of_create h
  have hnew : d ∈ t'.rows := by rw [hrows]; simp
  have hold : ∀ {a}, a ∈ t.rows → a ∈ t'.rows := fun ha => by rw [hrows]; simp [ha]
  cases hv : d.vehicleId with
  | none =>
    ext d' v'
    constructor
    · rintro ⟨a, ha, hid, hav⟩
      rw [hrows, List.mem_append, List.mem_singleton] at ha
      rcases ha with ha | rfl
      · exact ⟨a, ha, hid, hav⟩
      · rw [hv] at hav
        cases hav
    · rintro ⟨a, ha, hid, hav⟩
      exact ⟨a, hold ha, hid, hav⟩
  | some v =>
    have hfresh : ∀ a ∈ t.rows, a ≠ d := by
      rintro a ha rfl
      have hnone : t.create a = none :=
        Table.create_eq_none_iff.mpr ⟨a, ha, .primary, by simp, rfl⟩
      rw [hnone] at h
      cases h
    ext d' v'
    constructor
    · rintro ⟨a, ha, rfl, hav⟩
      rw [hrows, List.mem_append, List.mem_singleton] at ha
      rcases ha with ha | rfl
      · refine .inr ⟨fun hid => ?_, fun hveh => ?_, a, ha, rfl, hav⟩
        · exact hfresh a ha (eq_of_id (hold ha) hnew hid)
        · exact hfresh a ha (eq_of_vehicle (hold ha) hnew hav (hveh ▸ hv))
      · exact .inl ⟨rfl, Option.some.inj (hav.symm.trans hv)⟩
    · rintro (⟨rfl, rfl⟩ | ⟨-, -, a, ha, hid, hav⟩)
      · exact ⟨d, hnew, rfl, hv⟩
      · exact ⟨a, hold ha, hid, hav⟩

section Modify

variable {id : String} {f : Driver → Driver}

theorem held_modify_rel (h : t.modify (·.id == id) f = some t') (hf : ∀ a, (f a).id = a.id)
    (d v : String) :
    t'.held.rel d v ↔
      if d = id then ∃ row ∈ t.rows, row.id = id ∧ (f row).vehicleId = some v
      else t.held.rel d v := by
  show (∃ row ∈ t'.rows, _) ↔ _
  rw [Table.rows_of_modify h]
  split
  · rename_i hd
    subst hd
    constructor
    · rintro ⟨_, hrow, hid, hv⟩
      obtain ⟨a, ha, rfl⟩ := List.mem_map.mp hrow
      split at hid
      · rename_i hpick
        rw [if_pos hpick] at hv
        exact ⟨a, ha, (hf a).symm.trans hid, hv⟩
      · rename_i hpick
        exact absurd (beq_iff_eq.mpr hid) hpick
    · rintro ⟨a, ha, hid, hv⟩
      refine ⟨_, List.mem_map_of_mem ha, ?_⟩
      rw [if_pos (beq_iff_eq.mpr hid)]
      exact ⟨(hf a).trans hid, hv⟩
  · rename_i hd
    constructor
    · rintro ⟨_, hrow, hid, hv⟩
      obtain ⟨a, ha, rfl⟩ := List.mem_map.mp hrow
      split at hid
      · rename_i hpick
        exact absurd (hid.symm.trans ((hf a).trans (beq_iff_eq.mp hpick))) hd
      · rename_i hpick
        rw [if_neg hpick] at hv
        exact ⟨a, ha, hid, hv⟩
    · rintro ⟨a, ha, hid, hv⟩
      refine ⟨_, List.mem_map_of_mem ha, ?_⟩
      rw [if_neg (by rw [beq_iff_eq, hid]; exact hd)]
      exact ⟨hid, hv⟩

theorem held_modify_keep (h : t.modify (·.id == id) f = some t') (hf : ∀ a, (f a).id = a.id)
    (hv : ∀ a, (f a).vehicleId = a.vehicleId) : t'.held = t.held := by
  ext d v
  rw [held_modify_rel h hf]
  split
  · rename_i hd
    subst hd
    simp only [hv]
    rfl
  · rfl

theorem held_modify_put (h : t.modify (·.id == id) f = some t') (hf : ∀ a, (f a).id = a.id)
    (hex : ∃ a ∈ t.rows, a.id = id) (hv : ∀ a, (f a).vehicleId = some v) :
    t'.held = t.held.put id v := by
  have hput : t'.held.rel id v := by
    rw [held_modify_rel h hf, if_pos rfl]
    obtain ⟨a, ha, hid⟩ := hex
    exact ⟨a, ha, hid, hv a⟩
  ext d v'
  constructor
  · intro hrel
    by_cases hd : d = id
    · subst hd
      exact .inl ⟨rfl, t'.held.right_unique hrel hput⟩
    · refine .inr ⟨hd, ?_, ?_⟩
      · rintro rfl
        exact hd (t'.held.left_unique hrel hput)
      · rwa [held_modify_rel h hf, if_neg hd] at hrel
  · rintro (⟨rfl, rfl⟩ | ⟨hd, -, hrel⟩)
    · exact hput
    · rwa [held_modify_rel h hf, if_neg hd]

theorem held_modify_drop (h : t.modify (·.id == id) f = some t') (hf : ∀ a, (f a).id = a.id)
    (hv : ∀ a, (f a).vehicleId = none) : t'.held = t.held.dropLeft id := by
  ext d v
  rw [held_modify_rel h hf]
  split
  · rename_i hd
    simp [hv, hd, Matching.dropLeft]
  · rename_i hd
    simp [hd, Matching.dropLeft]

end Modify

end DriverTable

/-! ## `VehicleAssignmentHistoryService` -/

structure AssignVehicleParams where
  companyId : String
  driverId : String
  vehicleId : String
  deriving DecidableEq, Repr

namespace HistoryTable

variable {t t' : HistoryTable} {d v : String}

def openRow (d v : String) (r : AssignmentRow) : Bool :=
  r.isOpen && (r.driverId == d && r.vehicleId == v)

theorem openRow_iff {r : AssignmentRow} :
    openRow d v r = true ↔ r.isOpen = true ∧ r.driverId = d ∧ r.vehicleId = v := by
  simp [openRow]

theorem eq_of_openVehicle {a b : AssignmentRow} (ha : a ∈ t.rows) (hb : b ∈ t.rows)
    (hao : a.isOpen = true) (hbo : b.isOpen = true) (h : a.vehicleId = b.vehicleId) : a = b := by
  refine Table.eq_of_clash (fun _ _ => AssignmentKey.Clash.symm) ha hb (.inr (.inl ?_))
  simp [AssignmentRow.key, hao, hbo, h]

theorem eq_of_openDriver {a b : AssignmentRow} (ha : a ∈ t.rows) (hb : b ∈ t.rows)
    (hao : a.isOpen = true) (hbo : b.isOpen = true) (h : a.driverId = b.driverId) : a = b := by
  refine Table.eq_of_clash (fun _ _ => AssignmentKey.Clash.symm) ha hb (.inr (.inr ?_))
  simp [AssignmentRow.key, hao, hbo, h]

/-- An open row says that a driver has a vehicle. -/
def opened (t : HistoryTable) : Matching String String where
  rel d v := ∃ row ∈ t.rows, row.isOpen = true ∧ row.driverId = d ∧ row.vehicleId = v
  biUnique := by
    constructor
    · rintro _ _ _ ⟨a, ha, hao, rfl, rfl⟩ ⟨b, hb, hbo, rfl, hv⟩
      rw [eq_of_openVehicle hb ha hbo hao hv]
    · rintro _ _ _ ⟨a, ha, hao, rfl, rfl⟩ ⟨b, hb, hbo, hd, rfl⟩
      rw [eq_of_openDriver hb ha hbo hao hd]

theorem countP_openRow_iff : t.rows.countP (openRow d v) = 1 ↔ t.opened.rel d v := by
  have hclash : ∀ a b, openRow d v a = true → openRow d v b = true → a.key.Clash b.key := by
    intro a b ha hb
    obtain ⟨hao, -, hav⟩ := openRow_iff.mp ha
    obtain ⟨hbo, -, hbv⟩ := openRow_iff.mp hb
    refine .inr (.inl ?_)
    simp [AssignmentRow.key, hao, hbo, hav, hbv]
  rw [Table.countP_eq_one_iff hclash]
  exact exists_congr fun a => and_congr_right fun _ => openRow_iff

/-- `unassignedAt: now` on the rows `p` picks. -/
def close (t : HistoryTable) (p : AssignmentRow → Bool) (now : Int) : HistoryTable :=
  t.release p (fun r => { r with unassignedAt := some now })
    (fun a k h => by
      rcases h with h | h | h
      · exact .inl h
      · exact absurd h (by simp [AssignmentRow.key, AssignmentRow.isOpen])
      · exact absurd h (by simp [AssignmentRow.key, AssignmentRow.isOpen]))
    (fun a k h => by
      rcases h with h | h | h
      · exact .inl h
      · exact absurd h.symm (by simp [AssignmentRow.key, AssignmentRow.isOpen])
      · exact absurd h.symm (by simp [AssignmentRow.key, AssignmentRow.isOpen]))

/-- The open rows after some are closed. -/
theorem mem_close {p : AssignmentRow → Bool} {now : Int} {r : AssignmentRow} :
    (r ∈ (t.close p now).rows ∧ r.isOpen = true) ↔ (r ∈ t.rows ∧ r.isOpen = true) ∧ p r = false := by
  constructor
  · rintro ⟨hr, hopen⟩
    obtain ⟨a, ha, rfl⟩ := List.mem_map.mp hr
    split at hopen
    · cases hopen
    · rename_i hpick
      rw [if_neg hpick]
      exact ⟨⟨ha, hopen⟩, by simpa using hpick⟩
  · rintro ⟨⟨hr, hopen⟩, hpick⟩
    refine ⟨List.mem_map.mpr ⟨r, hr, ?_⟩, hopen⟩
    rw [if_neg (by simp [hpick])]

theorem opened_close {p : AssignmentRow → Bool} {now : Int} :
    (t.close p now).opened.rel d v ↔
      ∃ r ∈ t.rows, r.isOpen = true ∧ r.driverId = d ∧ r.vehicleId = v ∧ p r = false := by
  constructor
  · rintro ⟨r, hr, hopen, hd, hv⟩
    obtain ⟨⟨hr, hopen⟩, hpick⟩ := mem_close.mp ⟨hr, hopen⟩
    exact ⟨r, hr, hopen, hd, hv, hpick⟩
  · rintro ⟨r, hr, hopen, hd, hv, hpick⟩
    obtain ⟨hr, hopen⟩ := mem_close.mpr ⟨⟨hr, hopen⟩, hpick⟩
    exact ⟨r, hr, hopen, hd, hv⟩

/-- `unassign`: close the open row of a driver. -/
def unassign (t : HistoryTable) (driverId : String) (now : Int) : HistoryTable :=
  t.close (fun r => r.driverId == driverId && r.isOpen) now

theorem opened_unassign (driverId : String) (now : Int) :
    (t.unassign driverId now).opened = t.opened.dropLeft driverId := by
  ext d v
  rw [unassign, opened_close]
  constructor
  · rintro ⟨r, hr, hopen, rfl, hv, hpick⟩
    refine ⟨fun hd => ?_, r, hr, hopen, rfl, hv⟩
    simp [hd, hopen] at hpick
  · rintro ⟨hd, r, hr, hopen, rfl, hv⟩
    exact ⟨r, hr, hopen, rfl, hv, by simp [hd]⟩

/-- Close the row a read found, if it found one. -/
def closeRow (t : HistoryTable) (found : Option AssignmentRow) (now : Int) : HistoryTable :=
  found.elim t fun r => t.close (·.id == r.id) now

def openForVehicle (t : HistoryTable) (vehicleId : String) : Option AssignmentRow :=
  t.findFirst fun r => r.vehicleId == vehicleId && r.isOpen

def openForDriver (t : HistoryTable) (driverId : String) : Option AssignmentRow :=
  t.findFirst fun r => r.driverId == driverId && r.isOpen

/-- `assign`: nothing if the driver has the vehicle; else close the open row of the vehicle and the
one of the driver, and open a row.  The empty id becomes a null that the reads refuse.  With both
rows closed, only the primary key can clash. -/
def assign (t : HistoryTable) (params : AssignVehicleParams) (now : Int) (rowId : String) :
    Except PrismaError HistoryTable :=
  if params.vehicleId = "" then .error .validation
  else
    let openForVehicle := t.openForVehicle params.vehicleId
    if openForVehicle.any (·.driverId == params.driverId) then .ok t
    else
      let t := t.closeRow openForVehicle now
      let t := t.closeRow (t.openForDriver params.driverId) now
      match t.create ⟨rowId, params.companyId, params.vehicleId, params.driverId, now, none⟩ with
      | some t' => .ok t'
      | none => .error (.unique ["id"])

theorem eq_of_id {a b : AssignmentRow} (ha : a ∈ t.rows) (hb : b ∈ t.rows) (h : a.id = b.id) :
    a = b :=
  Table.eq_of_clash (fun _ _ => AssignmentKey.Clash.symm) ha hb (.inl h)

/-- The open rows after the row a read found is closed: if the read found the open rows that `q`
picks, they are the others. -/
theorem opened_closeRow {q : AssignmentRow → Bool} {now : Int}
    (hunique : ∀ a ∈ t.rows, ∀ b ∈ t.rows, q a = true → q b = true → a = b) :
    (t.closeRow (t.findFirst q) now).opened.rel d v ↔
      ∃ r ∈ t.rows, r.isOpen = true ∧ r.driverId = d ∧ r.vehicleId = v ∧ q r = false := by
  cases hfound : t.findFirst q with
  | none =>
    have hnone : ∀ r ∈ t.rows, q r = false := by
      intro r hr
      simpa using List.find?_eq_none.mp hfound r hr
    constructor
    · rintro ⟨r, hr, hopen, hd, hv⟩
      exact ⟨r, hr, hopen, hd, hv, hnone r hr⟩
    · rintro ⟨r, hr, hopen, hd, hv, -⟩
      exact ⟨r, hr, hopen, hd, hv⟩
  | some a =>
    obtain ⟨ha, hqa⟩ := Table.mem_of_findFirst hfound
    show (t.close (·.id == a.id) now).opened.rel d v ↔ _
    rw [opened_close]
    have hpick : ∀ r ∈ t.rows, (r.id == a.id) = false ↔ q r = false := by
      intro r hr
      rw [Bool.eq_false_iff, Bool.eq_false_iff, not_iff_not, beq_iff_eq]
      constructor
      · intro hid
        rw [eq_of_id hr ha hid, hqa]
      · intro hq
        rw [hunique r hr a ha hq hqa]
    constructor
    · rintro ⟨r, hr, hopen, hd, hv, hid⟩
      exact ⟨r, hr, hopen, hd, hv, (hpick r hr).mp hid⟩
    · rintro ⟨r, hr, hopen, hd, hv, hq⟩
      exact ⟨r, hr, hopen, hd, hv, (hpick r hr).mpr hq⟩

theorem opened_closeRow_vehicle (vehicleId : String) (now : Int) :
    (t.closeRow (t.openForVehicle vehicleId) now).opened = t.opened.dropRight vehicleId := by
  have hunique : ∀ a ∈ t.rows, ∀ b ∈ t.rows, (a.vehicleId == vehicleId && a.isOpen) = true →
      (b.vehicleId == vehicleId && b.isOpen) = true → a = b := by
    intro a ha b hb hqa hqb
    rw [Bool.and_eq_true, beq_iff_eq] at hqa hqb
    exact eq_of_openVehicle ha hb hqa.2 hqb.2 (hqa.1.trans hqb.1.symm)
  ext d v
  rw [openForVehicle, opened_closeRow hunique]
  constructor
  · rintro ⟨r, hr, hopen, hd, rfl, hq⟩
    refine ⟨fun hv => ?_, r, hr, hopen, hd, rfl⟩
    simp [hv, hopen] at hq
  · rintro ⟨hv, r, hr, hopen, hd, rfl⟩
    exact ⟨r, hr, hopen, hd, rfl, by simp [hv]⟩

theorem opened_closeRow_driver (driverId : String) (now : Int) :
    (t.closeRow (t.openForDriver driverId) now).opened = t.opened.dropLeft driverId := by
  have hunique : ∀ a ∈ t.rows, ∀ b ∈ t.rows, (a.driverId == driverId && a.isOpen) = true →
      (b.driverId == driverId && b.isOpen) = true → a = b := by
    intro a ha b hb hqa hqb
    rw [Bool.and_eq_true, beq_iff_eq] at hqa hqb
    exact eq_of_openDriver ha hb hqa.2 hqb.2 (hqa.1.trans hqb.1.symm)
  ext d v
  rw [openForDriver, opened_closeRow hunique]
  constructor
  · rintro ⟨r, hr, hopen, rfl, hv, hq⟩
    refine ⟨fun hd => ?_, r, hr, hopen, rfl, hv⟩
    simp [hd, hopen] at hq
  · rintro ⟨hd, r, hr, hopen, rfl, hv⟩
    exact ⟨r, hr, hopen, rfl, hv, by simp [hd]⟩

theorem opened_create {row : AssignmentRow} (h : t.create row = some t') (hopen : row.isOpen = true) :
    t'.opened = t.opened.put row.driverId row.vehicleId := by
  have hrows := Table.rows_of_create h
  have hput : t'.opened.rel row.driverId row.vehicleId :=
    ⟨row, by rw [hrows]; simp, hopen, rfl, rfl⟩
  have hold : ∀ {d v}, t.opened.rel d v → t'.opened.rel d v := by
    rintro d v ⟨r, hr, hro, hd, hv⟩
    exact ⟨r, by rw [hrows]; simp [hr], hro, hd, hv⟩
  have hfresh : ∀ r ∈ t.rows, ¬r.key.Clash row.key := by
    intro r hr hclash
    have hnone := Table.create_eq_none_iff.mpr ⟨r, hr, hclash⟩
    rw [hnone] at h
    cases h
  ext d v
  constructor
  · rintro ⟨r, hr, hro, rfl, rfl⟩
    rw [hrows, List.mem_append, List.mem_singleton] at hr
    rcases hr with hr | rfl
    · refine .inr ⟨fun hd => ?_, fun hv => ?_, r, hr, hro, rfl, rfl⟩
      · exact hfresh r hr (.inr (.inr (by simp [AssignmentRow.key, hro, hopen, hd])))
      · exact hfresh r hr (.inr (.inl (by simp [AssignmentRow.key, hro, hopen, hv])))
    · exact .inl ⟨rfl, rfl⟩
  · rintro (⟨rfl, rfl⟩ | ⟨-, -, hrel⟩)
    · exact hput
    · exact hold hrel

theorem ids_closeRow (found : Option AssignmentRow) (now : Int) :
    (t.closeRow found now).rows.map (·.id) = t.rows.map (·.id) := by
  cases found with
  | none => rfl
  | some a =>
    show (t.rows.map _).map _ = _
    rw [List.map_map]
    refine List.map_congr_left fun r _ => ?_
    show (if (r.id == a.id) = true then { r with unassignedAt := some now } else r).id = r.id
    split <;> rfl

section Assign

variable {params : AssignVehicleParams} {now : Int} {rowId : String}

theorem opened_assign (h : t.assign params now rowId = .ok t') :
    t'.opened = t.opened.put params.driverId params.vehicleId := by
  rw [assign] at h
  split at h
  · cases h
  · dsimp only at h
    by_cases hsame : (t.openForVehicle params.vehicleId).any (·.driverId == params.driverId) = true
    · -- the driver has the vehicle
      rw [if_pos hsame] at h
      cases h
      obtain ⟨r, hr, hd⟩ := (Option.any_eq_true _ _).mp hsame
      obtain ⟨hmem, hq⟩ := Table.mem_of_findFirst hr
      rw [Bool.and_eq_true, beq_iff_eq] at hq
      exact (t.opened.put_of_rel ⟨r, hmem, hq.2, beq_iff_eq.mp hd, hq.1⟩).symm
    · rw [if_neg hsame] at h
      split at h
      · rename_i t₁ hcreate
        cases h
        rw [opened_create hcreate rfl, opened_closeRow_driver, opened_closeRow_vehicle]
        exact t.opened.put_drop
      · cases h

/-- `assign` refuses only a row id that is taken. -/
theorem exists_assign (hempty : params.vehicleId ≠ "") (hfresh : rowId ∉ t.rows.map (·.id)) :
    ∃ t', t.assign params now rowId = .ok t' := by
  rw [assign, if_neg hempty]
  dsimp only
  split
  · exact ⟨t, rfl⟩
  · generalize hclosed : t.closeRow (t.openForVehicle params.vehicleId) now = t₁
    generalize hclosed' : t₁.closeRow (t₁.openForDriver params.driverId) now = t₂
    have hids : t₂.rows.map (·.id) = t.rows.map (·.id) := by
      rw [← hclosed', ids_closeRow, ← hclosed, ids_closeRow]
    have hopened : t₂.opened =
        (t.opened.dropRight params.vehicleId).dropLeft params.driverId := by
      rw [← hclosed', opened_closeRow_driver, ← hclosed, opened_closeRow_vehicle]
    split
    · rename_i t' _
      exact ⟨t', rfl⟩
    · rename_i hnone
      obtain ⟨b, hb, hclash⟩ := Table.create_eq_none_iff.mp hnone
      have hrel : b.isOpen = true → t₂.opened.rel b.driverId b.vehicleId :=
        fun hopen => ⟨b, hb, hopen, rfl, rfl⟩
      rw [hopened] at hrel
      rcases hclash with hid | hvehicle | hdriver
      · refine absurd ?_ hfresh
        rw [← hids]
        exact List.mem_map.mpr ⟨b, hb, hid⟩
      · cases hopen : b.isOpen with
        | false => simp [AssignmentRow.key, hopen] at hvehicle
        | true =>
          rw [AssignmentRow.openVehicle_eq hopen] at hvehicle
          exact absurd (taken_some_some.mp hvehicle) (hrel hopen).2.1
      · cases hopen : b.isOpen with
        | false => simp [AssignmentRow.key, hopen] at hdriver
        | true =>
          rw [AssignmentRow.openDriver_eq hopen] at hdriver
          exact absurd (taken_some_some.mp hdriver) (hrel hopen).1

end Assign

end HistoryTable

end DeliveryTracking.Fleet
