/-
# `DeliveryTracking.Deliveries.Completion` — the completion time follows the status

Six writers set the status of a delivery, and each sets `completedAt` by itself:

    create, import (new row)               in progress, no time
    updateStatus, updateDriverStatus       the time, if the new status is `delivered`
    update (PATCH), bulkAction             the same; a status that is repeated writes no time
    the import (a row that is there)       the status alone, and only before the start

No status follows `delivered`, and no other one is given a time, so what matters is
the status the row has when it is written.  It is the one that was read: requests run
one after the other, and within a `bulkAction` an id that comes twice has the target
already (`Thread.Ready`).
-/
import DeliveryTracking.Fleet.AssignedDriver

namespace DeliveryTracking.Deliveries

open DeliveryTracking.Fleet (AccessDb AccessEvent CreateDeliveryDto FleetTables)

/-! ## The times -/

/-- A delivery has a completion time exactly if it is delivered. -/
def Delivery.Completes (d : Delivery) : Prop := d.completedAt.isSome ↔ d.status = .delivered

instance (d : Delivery) : Decidable d.Completes := inferInstanceAs (Decidable (_ ↔ _))

/-- Every delivery of the table, the deleted ones included. -/
def Completed (db : DeliveryTable) : Prop := ∀ d ∈ db.rows, d.Completes

theorem isSome_completion (status : DeliveryStatus) (now : Int) :
    (completion status now).isSome ↔ status = .delivered := by
  unfold completion
  split
  · rename_i hdelivered
    exact iff_of_true rfl hdelivered
  · rename_i hdelivered
    exact iff_of_false Bool.false_ne_true hdelivered

/-- A status that can be left has no time. -/
theorem Delivery.Completes.none_of_ne {d : Delivery} (h : d.Completes) (hne : d.status ≠ .delivered) :
    d.completedAt = none :=
  Option.not_isSome_iff_eq_none.mp fun hsome => hne (h.mp hsome)

theorem ne_delivered_of_transition {a b : DeliveryStatus} (h : b ∈ transitionMatrix a) :
    a ≠ .delivered := by
  rintro rfl
  cases h

/-- What a time that goes with the new status makes of a row that has none. -/
theorem completes_of_none {d : Delivery} {status : DeliveryStatus} {time : Option Int}
    (hnone : d.completedAt = none) (htime : time.isSome ↔ status = .delivered) :
    (time <|> d.completedAt).isSome ↔ status = .delivered := by
  rw [hnone, Option.orElse_eq_orElse, Option.orElse_eq_or, Option.or_none]
  exact htime

/-! ## What each write does -/

theorem LockedWrite.completes_apply {w : LockedWrite} (htime : w.completedAt.isSome ↔
    w.status = .delivered) {d : Delivery} (hread : d.status = w.expectedStatus) (hd : d.Completes) :
    (w.apply d).Completes :=
  completes_of_none (hd.none_of_ne (hread ▸ ne_delivered_of_transition w.allowed)) htime

/-- The time of a PATCH goes with a status other than the one read. -/
def PatchWrite.Times (w : PatchWrite) : Prop :=
  match w.status with
  | .value t => (t = w.readStatus ∧ w.completedAt = none) ∨
      (t ∈ transitionMatrix w.readStatus ∧ (w.completedAt.isSome ↔ t = .delivered))
  | _ => w.completedAt = none

theorem update_times {fleet : Fleet} {companyId : String} {d : Delivery} {dto : UpdateDeliveryDto}
    {now : Int} {w : PatchWrite} (h : update fleet companyId d dto now = .ok w) :
    w.id = d.id ∧ w.readStatus = d.status ∧ w.Times := by
  unfold update at h
  split at h
  · cases h
  · split at h
    · cases h
    · split at h
      · rename_i t hstatus
        split_ifs at h with hsame hallowed
        · cases h
          refine ⟨rfl, rfl, ?_⟩
          simp only [PatchWrite.Times, hstatus]
          exact Or.inl ⟨hsame, trivial⟩
        · cases h
          refine ⟨rfl, rfl, ?_⟩
          simp only [PatchWrite.Times, hstatus]
          exact Or.inr ⟨hallowed, isSome_completion t now⟩
      · rename_i hstatus
        cases h
        refine ⟨rfl, rfl, ?_⟩
        simp only [PatchWrite.Times, hstatus]
      · rename_i hstatus
        cases h
        refine ⟨rfl, rfl, ?_⟩
        simp only [PatchWrite.Times, hstatus]

theorem PatchWrite.completes_apply {w : PatchWrite} (htimes : w.Times) {d : Delivery}
    (hread : d.status = w.readStatus) (hd : d.Completes) : (w.apply d).Completes := by
  unfold Delivery.Completes PatchWrite.apply
  cases hstatus : w.status with
  | value t =>
    simp only [PatchWrite.Times, hstatus] at htimes
    rcases htimes with ⟨rfl, hnone⟩ | ⟨hallowed, htime⟩
    · -- the status is repeated: both columns stay
      simp only [hnone, Option.orElse_eq_orElse, Option.orElse_eq_or, Option.none_or]
      rw [← hread]
      exact hd
    · exact completes_of_none (hd.none_of_ne (hread ▸ ne_delivered_of_transition hallowed)) htime
  | undefined =>
    simp only [PatchWrite.Times, hstatus] at htimes
    simp only [htimes, Option.orElse_eq_orElse, Option.orElse_eq_or, Option.none_or]
    exact hd
  | null =>
    simp only [PatchWrite.Times, hstatus] at htimes
    simp only [htimes, Option.orElse_eq_orElse, Option.orElse_eq_or, Option.none_or]
    exact hd

theorem ImportWrite.completes_apply {w : ImportWrite} {d : Delivery}
    (hread : d.status = w.readStatus) (hd : d.Completes) : (w.apply d).Completes := by
  unfold Delivery.Completes ImportWrite.apply
  cases hstarted : notStarted w.readStatus with
  | false =>
    simp only [Bool.false_eq_true, if_false]
    exact hd
  | true =>
    have hne : d.status ≠ .delivered := by
      rw [hread]
      rintro hdelivered
      rw [hdelivered] at hstarted
      cases hstarted
    simp [hd.none_of_ne hne]

/-- A status that is set in bulk: the row has the status that was read, or the target already. -/
theorem completes_setStatus {read target : DeliveryStatus} (hallowed : target ∈ transitionMatrix read)
    (now : Int) {d : Delivery} (hstatus : d.status = read ∨ d.status = target) (hd : d.Completes) :
    (setStatus target now d).Completes := by
  by_cases htarget : target = .delivered
  · refine iff_of_true ?_ htarget
    subst htarget
    rfl
  · refine completes_of_none (hd.none_of_ne ?_) (isSome_completion target now)
    rcases hstatus with hread | hdone
    · exact hread ▸ ne_delivered_of_transition hallowed
    · exact hdone ▸ htarget

/-- What a write of a bulk action is: it leaves both columns, or sets the status. -/
theorem bulkCheck_eq_ok {fleet : Fleet} {companyId : String} {deliveries : List Delivery}
    {action : BulkAction} {id : String} {now : Int}
    {f : { f : Delivery → Delivery // ∀ d, (f d).key = d.key }}
    (h : bulkCheck fleet companyId deliveries action id now = .ok f) :
    (∀ d, (f.1 d).status = d.status ∧ (f.1 d).completedAt = d.completedAt) ∨
      ∃ read ∈ deliveries, ∃ target, read.id = id ∧ action = .updateStatus (some target) ∧
        target ∈ transitionMatrix read.status ∧ f.1 = setStatus target now := by
  unfold bulkCheck at h
  split at h
  · cases h
  · rename_i read hfind
    have hread : read ∈ deliveries := List.mem_of_find?_eq_some hfind
    have hid : read.id = id :=
      beq_iff_eq.mp (List.find?_some (p := fun d : Delivery => d.id == id) hfind)
    split at h
    · -- `delete`
      split_ifs at h
      cases h
      exact Or.inl fun d => ⟨rfl, rfl⟩
    · -- `updateStatus`
      rename_i target
      split_ifs at h with hallowed
      cases h
      exact Or.inr ⟨read, hread, target, hid, rfl, hallowed, rfl⟩
    · cases h
    · cases h
    · -- `assignDriver`
      split at h
      · cases h
      · cases h
        exact Or.inl fun d => ⟨rfl, rfl⟩

/-! ## One database call -/

/-- The rows a call is about to write have the status it read; in a bulk action, or its target. -/
def Thread.Ready (db : DeliveryTable) : Thread → Prop
  | .locked w => w.completedAt.isSome ↔ w.status = .delivered
  | .patch w => w.Times ∧ ∀ d ∈ db.rows, d.id = w.id → d.status = w.readStatus
  | .bulk _ deliveries action _ _ => ∀ read ∈ deliveries, ∀ d ∈ db.rows, d.id = read.id →
      d.status = read.status ∨ action = .updateStatus (some d.status)
  | .importUpdate w _ _ _ _ => ∀ d ∈ db.rows, d.id = w.id → d.status = w.readStatus
  | _ => True

/-- A row that is read is the one with its id. -/
theorem status_eq_of_id {db : DeliveryTable} {read : Delivery} (hread : read ∈ db.rows) :
    ∀ d ∈ db.rows, d.id = read.id → d.status = read.status := by
  intro d hd hid
  rw [AccessDb.eq_of_id hd hread hid]

theorem completed_setRow {db : DeliveryTable} (hdb : Completed db) {p : Delivery → Bool}
    {f : Delivery → Delivery} {hf : ∀ d, (f d).key = d.key}
    (hwrite : ∀ d ∈ db.rows, p d = true → d.Completes → (f d).Completes) :
    Completed (setRow db p f hf).2 := by
  intro d hd
  rw [AccessDb.rows_setRow] at hd
  obtain ⟨old, hold, rfl⟩ := List.mem_map.mp hd
  split
  · rename_i hp
    exact hwrite old hold hp (hdb old hold)
  · exact hdb old hold

theorem completed_create {db db' : DeliveryTable} (hdb : Completed db) {d : Delivery}
    (hcreate : db.create d = some db') (hd : d.Completes) : Completed db' := by
  intro row hrow
  rw [Table.rows_of_create hcreate] at hrow
  rcases List.mem_append.mp hrow with hrow | hrow
  · exact hdb row hrow
  · rw [List.mem_singleton.mp hrow]
    exact hd

/-- A new delivery is in progress, and has no time. -/
theorem completes_inProgress {d : Delivery} (hstatus : d.status = .in_progress)
    (htime : d.completedAt = none) : d.Completes := by
  refine iff_of_false ?_ ?_
  · rw [htime]
    exact Bool.false_ne_true
  · rw [hstatus]
    decide

/-- The first read of a request, and its checks. -/
theorem ready_readRequest (fleet : Fleet) (db : DeliveryTable) (c : Call) (r : Request) :
    (readRequest fleet db c r).Ready db := by
  cases r with
  | updateStatus companyId id status =>
    simp only [readRequest]
    split
    · trivial
    · split
      · trivial
      · rename_i w hw
        unfold updateStatus at hw
        split_ifs at hw
        cases hw
        exact isSome_completion status c.now
  | updateDriverStatus companyId id userId status =>
    simp only [readRequest]
    split
    · trivial
    · split
      · trivial
      · rename_i w hw
        unfold updateDriverStatus at hw
        split_ifs at hw
        cases hw
        exact isSome_completion status c.now
  | update companyId id dto =>
    simp only [readRequest]
    split
    · trivial
    · rename_i read hfind
      split
      · trivial
      · rename_i w hw
        obtain ⟨hid, hstatus, htimes⟩ := update_times hw
        refine ⟨htimes, fun d hd hdid => ?_⟩
        rw [hstatus]
        exact status_eq_of_id (AccessDb.findOne_eq_ok hfind).1 d hd (hdid.trans hid)
  | bulkAction companyId ids action =>
    simp only [readRequest]
    split
    · trivial
    · split
      · trivial
      · intro read hread d hd hid
        exact Or.inl (status_eq_of_id (List.mem_filter.mp hread).1 d hd hid)
  | importDeliveriesFile companyId isPdf mode rows =>
    simp only [readRequest]
    split
    · trivial
    · trivial

theorem ready_done (db : DeliveryTable)
    (x : Except DeliveryError Delivery × DeliveryTable) : (answer x).2.Ready db := by
  rcases x with ⟨_ | _, _⟩ <;> trivial

/-- A write by id: the rows it leaves, and what its row is then. -/
theorem rows_byId {db : DeliveryTable} {id : String} {f : Delivery → Delivery}
    {hf : ∀ d, (f d).key = d.key} {d' : Delivery}
    (hd' : d' ∈ (setRow db (fun d => d.id == id) f hf).2.rows) :
    ∃ d ∈ db.rows, d'.id = d.id ∧ ((d.id = id ∧ d' = f d) ∨ d' = d) := by
  rw [AccessDb.rows_setRow] at hd'
  obtain ⟨d, hd, rfl⟩ := List.mem_map.mp hd'
  split
  · rename_i hid
    exact ⟨d, hd, congrArg DeliveryKey.id (hf d), Or.inl ⟨beq_iff_eq.mp hid, rfl⟩⟩
  · exact ⟨d, hd, rfl, Or.inr rfl⟩

/-- One id of a bulk action. -/
theorem bulk_step (fleet : Fleet) {db : DeliveryTable} (hdb : Completed db) (c : Call)
    {companyId : String} {deliveries : List Delivery} {action : BulkAction} {id : String}
    {ids : List String} {result : BulkResult}
    (hth : (Thread.bulk companyId deliveries action (id :: ids) result).Ready db) :
    Completed ((Thread.bulk companyId deliveries action (id :: ids) result).step fleet db c).1 ∧
      ((Thread.bulk companyId deliveries action (id :: ids) result).step fleet db c).2.Ready
        ((Thread.bulk companyId deliveries action (id :: ids) result).step fleet db c).1 := by
  simp only [Thread.step]
  split
  · exact ⟨hdb, hth⟩
  · rename_i f hcheck
    split
    · have hwritten : Completed (setRow db (fun d => d.id == id) f.1 f.2).2 ∧
          ∀ read ∈ deliveries, ∀ d ∈ (setRow db (fun d => d.id == id) f.1 f.2).2.rows,
            d.id = read.id → d.status = read.status ∨ action = .updateStatus (some d.status) := by
        rcases bulkCheck_eq_ok hcheck with hkeeps | ⟨read, hread, target, hid, rfl, hallowed, hf⟩
        · refine ⟨completed_setRow hdb fun d _ _ hd => ?_, fun read hread d' hd' hid => ?_⟩
          · rw [Delivery.Completes, (hkeeps d).1, (hkeeps d).2]
            exact hd
          · obtain ⟨d, hd, hsame, hrow⟩ := rows_byId hd'
            have hstatus : d'.status = d.status := by
              rcases hrow with ⟨-, rfl⟩ | rfl
              · exact (hkeeps d).1
              · rfl
            rw [hstatus]
            exact hth read hread d hd (hsame.symm.trans hid)
        · refine ⟨completed_setRow hdb fun d hmem hp hd => ?_, fun other hother d' hd' hdid => ?_⟩
          · rw [hf]
            refine completes_setStatus hallowed c.now ?_ hd
            refine (hth read hread d hmem ((beq_iff_eq.mp hp).trans hid.symm)).imp_right ?_
            intro haction
            cases haction
            rfl
          · obtain ⟨d, hd, hsame, ⟨-, rfl⟩ | rfl⟩ := rows_byId hd'
            · rw [hf]
              exact Or.inr rfl
            · exact hth other hother d' hd hdid
      split
      · rename_i hset
        rw [hset] at hwritten
        exact hwritten
      · rename_i hset
        rw [hset] at hwritten
        exact hwritten
    · exact ⟨hdb, hth⟩

/-- Step lemma: a database call of a request keeps the times. -/
theorem completed_step (fleet : Fleet) {db : DeliveryTable} (hdb : Completed db) (c : Call)
    {th : Thread} (hth : th.Ready db) :
    Completed (th.step fleet db c).1 ∧ (th.step fleet db c).2.Ready (th.step fleet db c).1 := by
  cases th with
  | start r => exact ⟨hdb, ready_readRequest fleet db c r⟩
  | locked w =>
    simp only [Thread.step]
    split
    · refine ⟨?_, ready_done ..⟩
      rw [answer_fst, updateWithOptimisticLock_snd]
      refine completed_setRow hdb fun d _ hp hd => ?_
      rw [Bool.and_eq_true, beq_iff_eq, beq_iff_eq] at hp
      exact LockedWrite.completes_apply hth hp.2 hd
    · exact ⟨hdb, trivial⟩
  | patch w =>
    obtain ⟨htimes, hread⟩ := hth
    simp only [Thread.step]
    split
    · refine ⟨?_, ready_done ..⟩
      rw [answer_fst, updateById]
      split
      · exact completed_setRow hdb fun d hmem hp hd =>
          PatchWrite.completes_apply htimes (hread d hmem (beq_iff_eq.mp hp)) hd
      · exact hdb
    · exact ⟨hdb, trivial⟩
  | bulk companyId deliveries action ids result =>
    cases ids with
    | nil => exact ⟨hdb, trivial⟩
    | cons id ids => exact bulk_step fleet hdb c hth
  | importRow companyId mode rows result =>
    cases rows with
    | nil => exact ⟨hdb, trivial⟩
    | cons row rows =>
      simp only [Thread.step]
      split
      · exact ⟨hdb, trivial⟩
      · exact ⟨hdb, trivial⟩
      · split
        · split
          · exact ⟨hdb, trivial⟩
          · rename_i existing hfind
            cases mode with
            | createOnly => exact ⟨hdb, trivial⟩
            | upsert => exact ⟨hdb, status_eq_of_id (Table.mem_of_findFirst hfind).1⟩
        · exact ⟨hdb, trivial⟩
  | importUpdate w companyId mode rows result =>
    have hwritten : Completed (setRow db (fun d => d.id == w.id) w.apply fun _ => rfl).2 :=
      completed_setRow hdb fun d hmem hp hd =>
        ImportWrite.completes_apply (hth d hmem (beq_iff_eq.mp hp)) hd
    simp only [Thread.step]
    split
    · split
      · rename_i hset
        rw [hset] at hwritten
        exact ⟨hwritten, trivial⟩
      · rename_i hset
        rw [hset] at hwritten
        exact ⟨hwritten, trivial⟩
    · exact ⟨hdb, trivial⟩
  | importCreate row orderRef companyId mode rows result =>
    simp only [Thread.step]
    split
    · split
      · rename_i hcreate
        exact ⟨completed_create hdb hcreate (completes_inProgress rfl rfl), trivial⟩
      · exact ⟨hdb, trivial⟩
    · exact ⟨hdb, trivial⟩
  | done o => exact ⟨hdb, trivial⟩

/-! ## Requests, one after the other -/

/-- A request of the deliveries service, by as many of its database calls as it gets to make. -/
theorem completed_serve {s : AccessDb} (hs : Completed s.deliveries) (r : Request)
    (calls : List Call) : Completed (s.serve r calls).1 := by
  have hrun := Run.of_foldl (fun (x : DeliveryTable × Thread) call => x.2.step s.rows x.1 call) calls
    (s.deliveries, .start r)
  have hready : Completed s.deliveries ∧ (Thread.start r).Ready s.deliveries := ⟨hs, trivial⟩
  refine (hrun.invariant (I := fun x => Completed x.1 ∧ x.2.Ready x.1) ?_ hready).1
  rintro x call y ⟨hdb, hth⟩ rfl
  exact completed_step s.rows hdb call hth

theorem completed_deliveriesCreate {s t : AccessDb} (hs : Completed s.deliveries) {call : Call}
    {companyId : String} {dto : CreateDeliveryDto}
    (h : s.deliveriesCreate call companyId dto = .ok t) : Completed t.deliveries := by
  simp only [AccessDb.deliveriesCreate, bind_eq_ok] at h
  obtain ⟨_, -, _, -, _, -, h⟩ := h
  split at h
  · split at h
    · rename_i deliveries hcreate
      cases h
      exact completed_create hs hcreate (completes_inProgress rfl rfl)
    · cases h
  · cases h

theorem completed_perform {s : AccessDb} (hs : Completed s.deliveries) (e : AccessEvent) :
    Completed (s.perform e).deliveries := by
  cases e with
  | deliveriesCreate call companyId dto =>
    simp only [AccessDb.perform]
    split
    · rename_i t hcreate
      exact completed_deliveriesCreate hs hcreate
    · exact hs
  | deliveriesServe r calls => exact completed_serve hs r calls
  | usersCreate call companyId dto => exact hs
  | usersUpdate call companyId id dto currentUserId => exact hs
  | invitationsAccept call token userData => exact hs
  | googleAccepted now user token => exact hs

/-- **Whatever requests run one after the other, and wherever the last one has got to, a delivery
has a completion time exactly if it is delivered.** -/
theorem completedAt_follows_status (fleet : FleetTables) (events : List AccessEvent) :
    Completed (events.foldl AccessDb.perform ⟨fleet, .empty⟩).deliveries := by
  have hrun := Run.of_foldl AccessDb.perform events ⟨fleet, .empty⟩
  refine hrun.invariant (I := fun s => Completed s.deliveries) ?_ fun d hd => by cases hd
  rintro s e t hs rfl
  exact completed_perform hs e

end DeliveryTracking.Deliveries
