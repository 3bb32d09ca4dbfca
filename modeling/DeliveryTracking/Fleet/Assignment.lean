/-
# `DeliveryTracking.Fleet.Assignment` — the column and the history agree

A driver has a vehicle when exactly one open row of the history says so, and no
open row names a deleted vehicle (`Agree`).  Every operation but one makes the
same change to the column and to the open rows:

    keep     nothing
    put      a driver gets a live vehicle
    drop     a driver gives up its vehicle

`vehicles.remove` frees the drivers of the vehicle and leaves its open row, so a
run keeps the two in agreement exactly when it removes vehicles without a driver
only (`agree_always_iff`).
-/
import DeliveryTracking.Fleet.Services

namespace DeliveryTracking.Fleet

open Deliveries (JsonField Delivery)

namespace FleetTables

/-! ## Agreement -/

/-- A vehicle id is of no deleted row. -/
def Live (s : FleetTables) (v : String) : Prop :=
  ∀ vehicle ∈ s.vehicles.rows, vehicle.id = v → vehicle.deletedAt = none

/-- The current vehicle of each driver is that of its one open row, and no open row names a deleted
vehicle. -/
def Agree (s : FleetTables) : Prop :=
  (∀ d v, (∃ row ∈ s.drivers.rows, row.id = d ∧ row.vehicleId = some v) ↔
    s.history.rows.countP (HistoryTable.openRow d v) = 1) ∧
  ∀ row ∈ s.history.rows, row.isOpen = true → s.Live row.vehicleId

theorem agree_iff {s : FleetTables} :
    s.Agree ↔ s.drivers.held = s.history.opened ∧
      ∀ d v, s.history.opened.rel d v → s.Live v := by
  refine and_congr ?_ ?_
  · simp only [HistoryTable.countP_openRow_iff]
    constructor
    · intro h
      ext d v
      exact h d v
    · intro h d v
      rw [← h]
      rfl
  · constructor
    · rintro h _ _ ⟨row, hrow, hopen, -, rfl⟩
      exact h row hrow hopen
    · intro h row hrow hopen
      exact h row.driverId row.vehicleId ⟨row, hrow, hopen, rfl, rfl⟩

/-! ## Changes -/

/-- What an operation does to the drivers and the vehicles they have. -/
inductive Change where
  | keep
  | put (d v : String)
  | drop (d : String)

def Change.apply : Change → Matching String String → Matching String String
  | .keep, m => m
  | .put d v, m => m.put d v
  | .drop d, m => m.dropLeft d

/-- The change a vehicle field asks for. -/
def Change.of (d : String) : JsonField String → Change
  | .undefined => .keep
  | .null => .drop d
  | .value v => .put d v

/-- A write of the drivers. -/
def HeldChanges (s t : FleetTables) (c : Change) : Prop :=
  t.vehicles = s.vehicles ∧ t.history = s.history ∧ t.drivers.held = c.apply s.drivers.held

/-- A write of the history. -/
def OpenedChanges (s t : FleetTables) (c : Change) : Prop :=
  t.vehicles = s.vehicles ∧ t.drivers = s.drivers ∧ t.history.opened = c.apply s.history.opened

/-- A write of neither. -/
def Untouched (s t : FleetTables) : Prop :=
  t.vehicles = s.vehicles ∧ t.drivers = s.drivers ∧ t.history = s.history

/-- The same change to both, and a vehicle that a driver gets is live. -/
def Changes (s t : FleetTables) : Prop :=
  ∃ c : Change, t.vehicles = s.vehicles ∧ t.drivers.held = c.apply s.drivers.held ∧
    t.history.opened = c.apply s.history.opened ∧ ∀ d v, c = .put d v → s.Live v

section Rules

variable {s t u : FleetTables} {c : Change}

theorem Changes.of_untouched (h : Untouched s t) : Changes s t := by
  obtain ⟨hvehicles, hdrivers, hhistory⟩ := h
  refine ⟨.keep, hvehicles, ?_, ?_, fun d v h => by cases h⟩
  · rw [hdrivers]
    rfl
  · rw [hhistory]
    rfl

theorem Changes.of_keep (h : HeldChanges s t .keep) : Changes s t := by
  obtain ⟨hvehicles, hhistory, hheld⟩ := h
  exact ⟨.keep, hvehicles, hheld, by rw [hhistory]; rfl, fun d v h => by cases h⟩

theorem Changes.of_both (h : HeldChanges s t c) (h' : OpenedChanges t u c)
    (hlive : ∀ d v, c = .put d v → s.Live v) : Changes s u := by
  obtain ⟨hvehicles, hhistory, hheld⟩ := h
  obtain ⟨hvehicles', hdrivers, hopened⟩ := h'
  refine ⟨c, hvehicles'.trans hvehicles, ?_, ?_, hlive⟩
  · rw [hdrivers, hheld]
  · rw [hopened, hhistory]

theorem Untouched.changes (h : Untouched s t) (h' : Changes t u) : Changes s u := by
  obtain ⟨hvehicles, hdrivers, hhistory⟩ := h
  obtain ⟨c, hvehicles', hheld, hopened, hlive⟩ := h'
  refine ⟨c, hvehicles'.trans hvehicles, ?_, ?_, ?_⟩
  · rw [hheld, hdrivers]
  · rw [hopened, hhistory]
  · intro d v hc
    have hl := hlive d v hc
    rwa [Live, hvehicles] at hl

theorem Agree.of_changes (hs : s.Agree) (h : Changes s t) : t.Agree := by
  obtain ⟨heq, hlive⟩ := agree_iff.mp hs
  obtain ⟨c, hvehicles, hheld, hopened, hput⟩ := h
  refine agree_iff.mpr ⟨by rw [hheld, hopened, heq], ?_⟩
  intro d v hrel
  rw [Live, hvehicles]
  rw [hopened] at hrel
  cases c with
  | keep => exact hlive d v hrel
  | put d' v' =>
    rcases hrel with ⟨-, rfl⟩ | ⟨-, -, hrel⟩
    · exact hput d' v rfl
    · exact hlive d v hrel
  | drop d' => exact hlive d v hrel.2

end Rules

/-! ## Checks and writes -/

section Writes

variable {s t : FleetTables} {call : Call} {companyId id : String}

@[simp] theorem ensure_eq_ok {passes : Bool} {e : FleetError} {a : Unit} :
    ensure passes e = .ok a ↔ passes = true := by
  unfold ensure
  split
  · rename_i h
    simp [h]
  · rename_i h
    simp [h]

@[simp] theorem mapError_eq_ok {f : FleetError → FleetError} {x : Except FleetError FleetTables} :
    x.mapError f = .ok t ↔ x = .ok t := by
  cases x <;> simp [Except.mapError]

theorem live_of_findVehicle {v : String} (h : (s.findVehicle companyId v).isSome = true) :
    s.Live v := by
  obtain ⟨vehicle, hfound⟩ := Option.isSome_iff_exists.mp h
  obtain ⟨hmem, hq⟩ := Table.mem_of_findFirst hfound
  simp only [Bool.and_eq_true, beq_iff_eq, Option.isNone_iff_eq_none] at hq
  intro other hother hid
  have hsame : other = vehicle :=
    Table.eq_of_clash (fun _ _ => Eq.symm) hother hmem (hid.trans hq.1.symm)
  rw [hsame]
  exact hq.2.2

theorem live_of_checkVehicle {notFound : FleetError} {others : Driver → Bool} {o : Option String}
    {a : Unit} (h : s.checkVehicle companyId notFound others o = .ok a) {v : String}
    (hv : o = some v) : s.Live v := by
  subst hv
  rw [checkVehicle, bind_eq_ok] at h
  obtain ⟨_, hfound, -⟩ := h
  exact live_of_findVehicle (ensure_eq_ok.mp hfound)

theorem exists_of_findDriver {q : Driver → Bool} {d : Driver}
    (h : s.findDriver companyId q = some d) : ∃ a ∈ s.drivers.rows, a.id = d.id :=
  ⟨d, (Table.mem_of_findFirst h).1, rfl⟩

theorem exists_of_found (h : (s.findDriver companyId (·.id == id)).isSome) :
    ∃ a ∈ s.drivers.rows, a.id = id := by
  obtain ⟨a, ha⟩ := Option.isSome_iff_exists.mp h
  obtain ⟨hmem, hq⟩ := Table.mem_of_findFirst ha
  simp only [Bool.and_eq_true, beq_iff_eq] at hq
  exact ⟨a, hmem, hq.2.2⟩

theorem createUser_untouched {user : User} (h : s.createUser user = .ok t) : Untouched s t := by
  unfold createUser at h
  split at h
  · cases h
    exact ⟨rfl, rfl, rfl⟩
  · cases h

theorem updateUser_untouched {data : User → User} (h : s.updateUser id data = .ok t) :
    Untouched s t := by
  unfold updateUser at h
  split at h
  · cases h
    exact ⟨rfl, rfl, rfl⟩
  · cases h

theorem createDriver_held {d : Driver} (h : s.createDriver d = .ok t) :
    HeldChanges s t (d.vehicleId.elim .keep (.put d.id)) := by
  unfold createDriver at h
  split at h
  · rename_i drivers hcreate
    cases h
    refine ⟨rfl, rfl, ?_⟩
    show DriverTable.held drivers = _
    rw [DriverTable.held_create hcreate]
    cases d.vehicleId <;> rfl
  · cases h

theorem updateDriver_held {data : Driver → Driver} (h : s.updateDriver id data = .ok t)
    (hid : ∀ a, (data a).id = a.id) (hex : ∃ a ∈ s.drivers.rows, a.id = id) (field : JsonField String)
    (hv : ∀ a, (data a).vehicleId = field.set a.vehicleId) :
    HeldChanges s t (.of id field) := by
  unfold updateDriver at h
  split at h
  · rename_i drivers hmodify
    cases h
    refine ⟨rfl, rfl, ?_⟩
    show DriverTable.held drivers = _
    cases field with
    | undefined => exact DriverTable.held_modify_keep hmodify hid hv
    | null => exact DriverTable.held_modify_drop hmodify hid hv
    | value v => exact DriverTable.held_modify_put hmodify hid hex hv
  · cases h

theorem assign_opened {params : AssignVehicleParams} (h : s.assign params call = .ok t) :
    OpenedChanges s t (.put params.driverId params.vehicleId) := by
  unfold assign at h
  split at h
  · rename_i history hassign
    cases h
    exact ⟨rfl, rfl, HistoryTable.opened_assign hassign⟩
  · cases h

theorem assignIf_opened {d : String} {o : Option String}
    (h : s.assignIf companyId d o call = .ok t) :
    OpenedChanges s t (o.elim .keep (.put d)) := by
  cases o with
  | none =>
    cases h
    exact ⟨rfl, rfl, rfl⟩
  | some v => exact assign_opened h

theorem reassign_opened {d : String} {field : JsonField String}
    (h : s.reassign companyId d field call = .ok t) : OpenedChanges s t (.of d field) := by
  cases field with
  | undefined =>
    cases h
    exact ⟨rfl, rfl, rfl⟩
  | null =>
    cases h
    exact ⟨rfl, rfl, HistoryTable.opened_unassign d call.now⟩
  | value v => exact assign_opened h

/-- The history refuses an empty id. -/
theorem uuidSafety_of_reassign {d : String} {field : JsonField String}
    (h : s.reassign companyId d field call = .ok t) : field.uuidSafety = field := by
  cases field with
  | undefined => rfl
  | null => rfl
  | value v =>
    refine if_neg ?_
    rintro rfl
    cases h

/-- The vehicle that a put asks for is the one of the request. -/
theorem eq_some_of_elim {d d' v : String} {o : Option String}
    (h : o.elim Change.keep (.put d') = .put d v) : o = some v := by
  cases o with
  | none => cases h
  | some v' =>
    cases h
    rfl

theorem truthy_of_change {d d' v : String} {field : JsonField String}
    (h : Change.of d' field.uuidSafety = .put d v) : field.truthy = some v := by
  cases field with
  | undefined => cases h
  | null => cases h
  | value v' =>
    by_cases hv : v' = ""
    · subst hv
      cases h
    · have hsafe : JsonField.uuidSafety (.value v') = .value v' := if_neg hv
      rw [hsafe] at h
      cases h
      exact if_pos (by simpa using hv)

end Writes

/-! ## Operations -/

section Operations

variable {s t : FleetTables} {call : Call} {companyId id currentUserId : String}

theorem driversCreate_changes {dto : CreateDriverDto}
    (h : s.driversCreate call companyId dto = .ok t) : Changes s t := by
  simp only [driversCreate, bind_eq_ok, mapError_eq_ok] at h
  obtain ⟨_, -, _, hvehicle, created, hcreate, hassign⟩ := h
  refine .of_both (createDriver_held hcreate) (assignIf_opened hassign) ?_
  intro d v hc
  exact live_of_checkVehicle hvehicle (eq_some_of_elim hc)

theorem driversUpdate_changes {dto : UpdateDriverDto}
    (h : s.driversUpdate call companyId id dto = .ok t) : Changes s t := by
  simp only [driversUpdate, bind_eq_ok, mapError_eq_ok, ensure_eq_ok] at h
  obtain ⟨_, hfound, _, -, _, hvehicle, _, -, updated, hupdate, hassign⟩ := h
  refine .of_both (updateDriver_held hupdate (fun _ => rfl) (exists_of_found hfound)
    dto.vehicleId.uuidSafety fun _ => rfl) (reassign_opened hassign) ?_
  intro d v hc
  exact live_of_checkVehicle hvehicle (truthy_of_change hc)

theorem driversRemove_changes (h : s.driversRemove call companyId id = .ok t) : Changes s t := by
  simp only [driversRemove, bind_eq_ok, ensure_eq_ok] at h
  obtain ⟨_, hfound, _, -, h⟩ := h
  split at h
  · -- the driver has a vehicle
    obtain ⟨updated, hupdate, h⟩ := bind_eq_ok.mp h
    cases h
    refine .of_both (updateDriver_held hupdate (fun _ => rfl) (exists_of_found hfound) .null
      fun _ => rfl)
      ⟨rfl, rfl, HistoryTable.opened_unassign id call.now⟩ ?_
    intro d v hc
    cases hc
  · exact .of_keep (updateDriver_held h (fun _ => rfl) (exists_of_found hfound) .undefined
      fun _ => rfl)

theorem usersCreate_changes {dto : CreateUserDto}
    (h : s.usersCreate call companyId dto = .ok t) : Changes s t := by
  simp only [usersCreate, bind_eq_ok] at h
  obtain ⟨_, -, h⟩ := h
  split at h
  · obtain ⟨_, hvehicle, h⟩ := bind_eq_ok.mp h
    obtain ⟨_, -, h⟩ := bind_eq_ok.mp h
    obtain ⟨created, hcreate, h⟩ := bind_eq_ok.mp h
    have huntouched := createUser_untouched hcreate
    have hlive : ∀ v, truthy dto.vehicleId = some v → created.Live v := by
      intro v hv
      rw [Live, huntouched.1]
      exact live_of_checkVehicle hvehicle hv
    refine huntouched.changes ?_
    split at h
    · rename_i existing hexisting
      obtain ⟨linked, hlinked, hassign⟩ := bind_eq_ok.mp h
      -- a driver with the address is linked, and keeps its vehicle unless the request names one
      have hopened := assignIf_opened hassign
      generalize hchange : truthy dto.vehicleId = o at hlive hlinked hopened
      cases o with
      | none =>
        exact .of_both (updateDriver_held hlinked (fun _ => rfl) (exists_of_findDriver hexisting)
          .undefined fun _ => rfl) hopened fun d v hc => by cases hc
      | some v =>
        refine .of_both (updateDriver_held hlinked (fun _ => rfl) (exists_of_findDriver hexisting)
          (.value v) fun _ => rfl) hopened ?_
        intro d v' hc
        cases hc
        exact hlive v rfl
    · obtain ⟨linked, hlinked, hassign⟩ := bind_eq_ok.mp h
      refine .of_both (createDriver_held hlinked) (assignIf_opened hassign) ?_
      intro d v hc
      exact hlive v (eq_some_of_elim hc)
  · exact .of_untouched (createUser_untouched h)

theorem usersUpdate_changes {dto : UpdateUserDto}
    (h : s.usersUpdate call companyId id dto currentUserId = .ok t) : Changes s t := by
  simp only [usersUpdate, bind_eq_ok] at h
  obtain ⟨user, -, _, -, _, -, _, -, _, -, h⟩ := h
  split at h
  · obtain ⟨_, hvehicle, h⟩ := bind_eq_ok.mp h
    obtain ⟨_, -, h⟩ := bind_eq_ok.mp h
    obtain ⟨_, -, h⟩ := bind_eq_ok.mp h
    obtain ⟨_, -, h⟩ := bind_eq_ok.mp h
    obtain ⟨updated, hupdate, h⟩ := bind_eq_ok.mp h
    have huntouched := updateUser_untouched hupdate
    have hlive : ∀ v, dto.vehicleId.truthy = some v → updated.Live v := by
      intro v hv
      rw [Live, huntouched.1]
      exact live_of_checkVehicle hvehicle hv
    refine huntouched.changes ?_
    split at h
    · rename_i existing hexisting
      obtain ⟨_, -, h⟩ := bind_eq_ok.mp h
      obtain ⟨linked, hlinked, hassign⟩ := bind_eq_ok.mp h
      have hsafe := uuidSafety_of_reassign hassign
      have hopened := reassign_opened hassign
      rw [← hsafe] at hopened
      refine .of_both (updateDriver_held hlinked (fun _ => rfl) (exists_of_findDriver hexisting)
        dto.vehicleId.uuidSafety fun _ => rfl) hopened ?_
      intro d v hc
      exact hlive v (truthy_of_change hc)
    · obtain ⟨linked, hlinked, hassign⟩ := bind_eq_ok.mp h
      refine .of_both (createDriver_held hlinked) (assignIf_opened hassign) ?_
      intro d v hc
      exact hlive v (eq_some_of_elim hc)
  · obtain ⟨_, -, h⟩ := bind_eq_ok.mp h
    obtain ⟨_, -, h⟩ := bind_eq_ok.mp h
    exact .of_untouched (updateUser_untouched h)

theorem usersRemove_changes (h : s.usersRemove call companyId id currentUserId = .ok t) :
    Changes s t := by
  simp only [usersRemove, bind_eq_ok] at h
  obtain ⟨_, -, _, -, _, -, h⟩ := h
  exact .of_untouched (updateUser_untouched h)

theorem acceptInvitation_changes {invitation : Invitation} {userData : UserData}
    (h : s.acceptInvitation call invitation userData = .ok t) : Changes s t := by
  simp only [acceptInvitation, bind_eq_ok] at h
  obtain ⟨created, hcreate, linked, hlinked, h⟩ := h
  cases h
  refine (createUser_untouched hcreate).changes ?_
  rw [linkDriver] at hlinked
  split at hlinked
  · split at hlinked
    · rename_i existing hexisting
      exact .of_keep (updateDriver_held hlinked (fun _ => rfl) (exists_of_findDriver hexisting)
        .undefined fun _ => rfl)
    · exact .of_keep (createDriver_held hlinked)
  · cases hlinked
    exact .of_untouched ⟨rfl, rfl, rfl⟩

/-- A request that keeps the two in agreement when it returns keeps them so when it throws. -/
theorem Changes.of_commit {result : Except FleetError FleetTables}
    (h : ∀ {t}, result = .ok t → Changes s t) : Changes s (s.commit result).2 := by
  cases result with
  | ok t => exact h rfl
  | error e => exact .of_untouched ⟨rfl, rfl, rfl⟩

theorem invitationsAccept_changes {token : String} {userData : UserData} :
    Changes s (s.invitationsAccept call token userData).2 := by
  have hfind : Untouched s (s.findByToken call.now token).2 := by
    unfold findByToken
    split
    · exact ⟨rfl, rfl, rfl⟩
    · split_ifs <;> exact ⟨rfl, rfl, rfl⟩
  unfold invitationsAccept
  split
  · rename_i e t hfound
    rw [hfound] at hfind
    exact .of_untouched hfind
  · rename_i invitation t hfound
    rw [hfound] at hfind
    exact hfind.changes (.of_commit acceptInvitation_changes)

theorem agree_vehiclesRemove (hs : s.Agree) (h : s.vehiclesRemove call companyId id = .ok t) :
    t.Agree ↔ ∀ row ∈ s.drivers.rows, row.vehicleId ≠ some id := by
  simp only [vehiclesRemove, bind_eq_ok, ensure_eq_ok] at h
  obtain ⟨_, hfound, _, -, h⟩ := h
  cases h
  obtain ⟨heq, hlive⟩ := agree_iff.mp hs
  obtain ⟨vehicle, hvehicle⟩ := Option.isSome_iff_exists.mp hfound
  obtain ⟨hmem, hq⟩ := Table.mem_of_findFirst hvehicle
  rw [Bool.and_eq_true, beq_iff_eq] at hq
  constructor
  · -- the open row of a driver of the vehicle now names a deleted vehicle
    intro ht row hrow hv
    have hopened : s.history.opened.rel row.id id := by
      rw [← heq]
      exact ⟨row, hrow, rfl, hv⟩
    have hdeleted := (agree_iff.mp ht).2 row.id id hopened
    have hnone := hdeleted _ (List.mem_map_of_mem hmem) (by rw [if_pos (beq_iff_eq.mpr hq.1)]; exact hq.1)
    rw [if_pos (beq_iff_eq.mpr hq.1)] at hnone
    cases hnone
  · intro hfree
    have hnot : ∀ d, ¬s.history.opened.rel d id := by
      intro d hrel
      rw [← heq] at hrel
      obtain ⟨row, hrow, -, hv⟩ := hrel
      exact hfree row hrow hv
    have hrows : (s.clearVehicle companyId id).drivers.rows = s.drivers.rows := by
      show s.drivers.rows.map _ = _
      refine (List.map_congr_left fun d hd => if_neg ?_).trans (List.map_id' _)
      simp [hfree d hd]
    refine agree_iff.mpr ⟨?_, ?_⟩
    · show (s.clearVehicle companyId id).drivers.held = s.history.opened
      rw [← heq]
      ext d v
      show (∃ row ∈ (s.clearVehicle companyId id).drivers.rows, _) ↔ _
      rw [hrows]
      rfl
    · intro d v hrel other hother hid
      obtain ⟨old, hold, rfl⟩ := List.mem_map.mp hother
      split at hid
      · rename_i hpick
        obtain rfl : v = id := hid.symm.trans (beq_iff_eq.mp hpick)
        exact absurd hrel (hnot d)
      · rename_i hpick
        rw [if_neg hpick]
        exact hlive d v hrel old hold hid

/-! ## Runs -/

/-- A request that removes a vehicle removes one without a driver. -/
def RemovesFree (s : FleetTables) (e : FleetEvent) : Prop :=
  ∀ call companyId id, e = .vehiclesRemove call companyId id →
    (s.findVehicle companyId id).isSome = true → s.inProgress companyId (·.vehicleId == some id) = false →
    ∀ row ∈ s.drivers.rows, row.vehicleId ≠ some id

theorem perform_changes {e : FleetEvent}
    (hremove : ∀ call companyId id, e ≠ .vehiclesRemove call companyId id)
    (hcreate : ∀ id companyId, e ≠ .vehicleCreated id companyId) : Changes s (s.perform e).2 := by
  cases e with
  | driversCreate call companyId dto => exact .of_commit driversCreate_changes
  | driversUpdate call companyId id dto => exact .of_commit driversUpdate_changes
  | driversRemove call companyId id => exact .of_commit driversRemove_changes
  | usersCreate call companyId dto => exact .of_commit usersCreate_changes
  | usersUpdate call companyId id dto currentUserId => exact .of_commit usersUpdate_changes
  | usersRemove call companyId id currentUserId => exact .of_commit usersRemove_changes
  | invitationsAccept call token userData => exact invitationsAccept_changes
  | vehiclesRemove call companyId id => exact absurd rfl (hremove call companyId id)
  | vehicleCreated id companyId => exact absurd rfl (hcreate id companyId)
  | invited invitation => exact .of_untouched ⟨rfl, rfl, rfl⟩
  | deliveriesWritten deliveries => exact .of_untouched ⟨rfl, rfl, rfl⟩

theorem agree_vehicleCreated (hs : s.Agree) :
    (s.perform (.vehicleCreated id companyId)).2.Agree := by
  obtain ⟨heq, hlive⟩ := agree_iff.mp hs
  refine agree_iff.mpr ⟨heq, ?_⟩
  intro d v hrel vehicle hvehicle hid
  have hold := hlive d v hrel vehicle
  cases hcreate : s.vehicles.create ⟨id, companyId, none⟩ with
  | none =>
    refine hold ?_ hid
    simpa [perform, hcreate] using hvehicle
  | some vehicles =>
    have hrows : vehicle ∈ s.vehicles.rows ++ [⟨id, companyId, none⟩] := by
      rw [← Table.rows_of_create hcreate]
      simpa [perform, hcreate] using hvehicle
    rcases List.mem_append.mp hrows with hmem | hnew
    · exact hold hmem hid
    · rw [List.mem_singleton.mp hnew]

theorem agree_step {e : FleetEvent} (hs : s.Agree) (hstep : s.step e = some t) :
    t.Agree ↔ s.RemovesFree e := by
  obtain rfl := Option.some.inj hstep
  by_cases hremove : ∃ call companyId id, e = .vehiclesRemove call companyId id
  · obtain ⟨call, companyId, id, rfl⟩ := hremove
    show (s.commit (s.vehiclesRemove call companyId id)).2.Agree ↔ _
    cases hresult : s.vehiclesRemove call companyId id with
    | ok t =>
      refine (agree_vehiclesRemove hs hresult).trans ⟨?_, ?_⟩
      · intro hfree call' companyId' id' he _ _
        cases he
        exact hfree
      · intro hfree
        simp only [vehiclesRemove, bind_eq_ok, ensure_eq_ok] at hresult
        obtain ⟨_, hfound, _, hidle, -⟩ := hresult
        exact hfree call companyId id rfl hfound (by simpa using hidle)
    | error err =>
      -- a refused removal leaves the tables
      refine iff_of_true hs ?_
      intro call' companyId' id' he hfound hidle
      cases he
      rw [vehiclesRemove, hfound, hidle] at hresult
      cases hresult
  · have hfree : s.RemovesFree e := fun call companyId id he =>
      absurd ⟨call, companyId, id, he⟩ hremove
    refine iff_of_true ?_ hfree
    by_cases hcreate : ∃ id companyId, e = .vehicleCreated id companyId
    · obtain ⟨id, companyId, rfl⟩ := hcreate
      exact agree_vehicleCreated hs
    · refine hs.of_changes (perform_changes ?_ ?_)
      · intro call companyId id he
        exact hremove ⟨call, companyId, id, he⟩
      · intro id companyId he
        exact hcreate ⟨id, companyId, he⟩

/-- In a run from tables that agree, they agree throughout exactly when every vehicle that is removed
has no driver. -/
theorem agree_always_iff {es : List FleetEvent} (hrun : Run (Steps step) s es t) (hs : s.Agree) :
    (∀ es₁ es₂ u, es = es₁ ++ es₂ → Run (Steps step) s es₁ u → u.Agree) ↔
      Run (Guarded (Steps step) RemovesFree) s es t := by
  refine Run.always_iff_guarded (I := Agree) (G := RemovesFree) ?_ ?_ hrun hs
  · intro s e t t' h k
    exact Option.some.inj (h.symm.trans k)
  · intro s e t hs hstep
    exact agree_step hs hstep

end Operations

end FleetTables

/-! ## A driver that leaves before its vehicle, and a vehicle that leaves before its driver -/

/-- A company with a vehicle. -/
def oneVehicle : FleetTables :=
  { vehicles := ⟨[⟨"vehicle-1", "company-1", none⟩], by decide⟩
    drivers := .empty
    history := .empty
    users := .empty
    invitations := .empty
    deliveries := [] }

theorem oneVehicle_agree : oneVehicle.Agree := by
  refine ⟨fun d v => iff_of_false ?_ ?_, fun row hrow => absurd hrow List.not_mem_nil⟩
  · rintro ⟨row, hrow, -⟩
    exact absurd hrow List.not_mem_nil
  · exact Nat.zero_ne_one

def morning : Call := ⟨0, "driver-1", "user-1", "row-1"⟩

/-- A driver that gets the vehicle. -/
def hired : FleetEvent :=
  .driversCreate morning "company-1"
    { firstName := "A", lastName := "B", email := none, phone := none, licenseNumber := "L-1"
      vehicleId := some "vehicle-1" }

def driverFirst : List FleetEvent :=
  [hired, .driversRemove morning "company-1" "driver-1",
    .vehiclesRemove morning "company-1" "vehicle-1"]

theorem driverFirst_agree : ∃ t,
    Run (Steps FleetTables.step) oneVehicle driverFirst t ∧
      ∀ es₁ es₂ u, driverFirst = es₁ ++ es₂ → Run (Steps FleetTables.step) oneVehicle es₁ u →
        u.Agree := by
  have hother : ∀ {s : FleetTables} {e : FleetEvent},
      (∀ call companyId id, e ≠ .vehiclesRemove call companyId id) → s.RemovesFree e :=
    fun hne call companyId id he => absurd he (hne call companyId id)
  obtain ⟨t, hrun⟩ : ∃ t,
      Run (Guarded (Steps FleetTables.step) FleetTables.RemovesFree) oneVehicle driverFirst t := by
    refine ⟨_, .cons ⟨rfl, hother fun _ _ _ h => by cases h⟩
      (.cons ⟨rfl, hother fun _ _ _ h => by cases h⟩ (.single ⟨rfl, ?_⟩))⟩
    intro call companyId id he _ _
    cases he
    decide +kernel
  exact ⟨t, hrun.of_guarded,
    (FleetTables.agree_always_iff hrun.of_guarded oneVehicle_agree).mpr hrun⟩

/-- The vehicle is removed while the driver has it: the driver has no vehicle, the open row stays and
names a deleted vehicle. -/
theorem vehicleFirst_disagrees : ∃ t,
    Run (Steps FleetTables.step) oneVehicle
        [hired, .vehiclesRemove morning "company-1" "vehicle-1"] t ∧
      t.drivers.rows.map (·.vehicleId) = [none] ∧
      t.history.rows.countP (HistoryTable.openRow "driver-1" "vehicle-1") = 1 ∧
      t.vehicles.rows.map (·.deletedAt) = [some 0] ∧ ¬t.Agree := by
  have hend : ([hired, FleetEvent.vehiclesRemove morning "company-1" "vehicle-1"].foldlM
      FleetTables.step oneVehicle).any (fun t =>
        t.drivers.rows.map (·.vehicleId) == [none] &&
        (t.history.rows.countP (HistoryTable.openRow "driver-1" "vehicle-1") == 1 &&
          t.vehicles.rows.map (·.deletedAt) == [some 0])) = true := by
    decide +kernel
  obtain ⟨t, hrun, ht⟩ := Run.of_foldlM_any hend
  rw [Bool.and_eq_true, Bool.and_eq_true, beq_iff_eq, beq_iff_eq, beq_iff_eq] at ht
  obtain ⟨hdriver, hopen, hvehicle⟩ := ht
  refine ⟨t, hrun, hdriver, hopen, hvehicle, fun hagree => ?_⟩
  obtain ⟨row, hrow, -, hv⟩ := (hagree.1 "driver-1" "vehicle-1").mpr hopen
  have hnone : row.vehicleId ∈ [none] := hdriver ▸ List.mem_map_of_mem hrow
  rw [hv] at hnone
  simp at hnone

end DeliveryTracking.Fleet
