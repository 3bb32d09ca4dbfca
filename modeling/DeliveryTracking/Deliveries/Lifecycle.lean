/-
# `DeliveryTracking.Deliveries.Lifecycle` — the status law over interleaved writers

`updateStatus` and `updateDriverStatus` write under a status check in the where
clause (the optimistic lock); `update`, `bulkAction` and the import write by id
alone.  A status written by id is right only if the row still has the status the
writer read (`Fresh`).

    Thread.step_status    what one database call does to a status
    system_statusLaw      one fresh step keeps the law
    lifecycle_of_fresh    so does every run of fresh steps, and terminal statuses stay

`stale_patch` is a run that is not fresh: a PATCH replaces `delivered`.
-/
import DeliveryTracking.Runs
import DeliveryTracking.Deliveries.Writers

namespace DeliveryTracking.Deliveries

/-! ## Statuses and the calls that change them -/

/-- The persisted status of a delivery. -/
def statusOf (db : DeliveryTable) (id : String) : Option DeliveryStatus :=
  (byId db id).map Delivery.status

/-- A status written by id: the row, the status read before, the status written. -/
structure UnlockedWrite where
  id : String
  readStatus : DeliveryStatus
  status : DeliveryStatus
  deriving DecidableEq, Repr

/-- The status the thread's next call writes by id, if it writes one. -/
def Thread.unlockedWrite : Thread → Option UnlockedWrite
  | .patch w =>
    match w.status with
    | .value t => if w.wellTyped then some ⟨w.id, w.readStatus, t⟩ else none
    | _ => none
  | .bulk _ deliveries (.updateStatus (some target)) (id :: _) _ =>
    match deliveries.find? (fun d => d.id == id) with
    | some d => if target ∈ transitionMatrix d.status then some ⟨id, d.status, target⟩ else none
    | none => none
  | .importUpdate w _ _ _ _ =>
    if notStarted w.readStatus then some ⟨w.id, w.readStatus, .in_progress⟩ else none
  | _ => none

def Thread.isImport : Thread → Bool
  | .importUpdate _ _ _ _ _ => true
  | _ => false

/-- The changes the state machine allows; import may also advance a pending delivery. -/
def AllowedChange (th : Thread) (a b : DeliveryStatus) : Prop :=
  b ∈ transitionMatrix a ∨ th.isImport = true ∧ a = .pending ∧ b = .in_progress

/-- A status about to be written by id is not out of date: the row still has the status
that was read, or has the new one already. -/
def Fresh (db : DeliveryTable) (th : Thread) : Prop :=
  ∀ u, th.unlockedWrite = some u → ∀ a, statusOf db u.id = some a →
    a = u.readStatus ∨ a = u.status

/-- A status written by id was checked against the status read. -/
theorem Thread.unlockedWrite_allowed {th : Thread} {u : UnlockedWrite}
    (h : th.unlockedWrite = some u) :
    u.status = u.readStatus ∨ AllowedChange th u.readStatus u.status := by
  cases th with
  | patch w =>
    cases hs : w.status with
    | value t =>
      simp only [Thread.unlockedWrite, hs] at h
      split_ifs at h
      cases h
      exact (w.allowed t hs).imp id Or.inl
    | undefined => simp [Thread.unlockedWrite, hs] at h
    | null => simp [Thread.unlockedWrite, hs] at h
  | bulk companyId deliveries action ids result =>
    rcases action with _ | _ | _
    · simp [Thread.unlockedWrite] at h
    · rename_i target
      rcases target with _ | target
      · simp [Thread.unlockedWrite] at h
      · rcases ids with _ | ⟨i, ids⟩
        · simp [Thread.unlockedWrite] at h
        · simp only [Thread.unlockedWrite] at h
          split at h
          · split_ifs at h with hmem
            cases h
            exact Or.inr (Or.inl hmem)
          · cases h
    · simp [Thread.unlockedWrite] at h
  | importUpdate w companyId mode rows result =>
    simp only [Thread.unlockedWrite] at h
    split_ifs at h with hns
    cases h
    simp only [notStarted, decide_eq_true_eq] at hns
    rcases hns with hns | hns
    · exact Or.inr (Or.inr ⟨rfl, hns, rfl⟩)
    · refine Or.inr (Or.inl ?_)
      show DeliveryStatus.in_progress ∈ transitionMatrix w.readStatus
      rw [hns]; decide
  | start _ => cases h
  | locked _ => cases h
  | importRow _ _ _ _ => cases h
  | importCreate _ _ _ _ _ _ => cases h
  | done _ => cases h

/-! ## What one call does to a status -/

theorem byId_update (db : DeliveryTable) (p : Delivery → Bool) (f : Delivery → Delivery)
    (hf : ∀ d, (f d).key = d.key) (id : String) :
    byId (db.update p f hf) id = (byId db id).map fun d => if p d then f d else d :=
  db.findFirst_update p f hf fun d => by
    have hid : (f d).id = d.id := congrArg DeliveryKey.id (hf d)
    rw [hid]

/-- An update keeps a row's status, or picked the row and set it. -/
theorem statusOf_setRow {db : DeliveryTable} {id : String} {a : DeliveryStatus}
    (h : statusOf db id = some a) (p : Delivery → Bool) (f : Delivery → Delivery)
    (hf : ∀ d, (f d).key = d.key) :
    ∃ b, statusOf (setRow db p f hf).2 id = some b ∧
      (b = a ∨ ∃ d, d.id = id ∧ d.status = a ∧ p d = true ∧ b = (f d).status) := by
  obtain ⟨d, hd, rfl⟩ := Option.map_eq_some_iff.mp h
  have hdid : d.id = id := by simpa using (Table.mem_of_findFirst hd).2
  unfold setRow
  split
  · show ∃ b, statusOf (db.update p f hf) id = some b ∧ _
    simp only [statusOf, byId_update, hd, Option.map_some, Option.some.injEq, exists_eq_left']
    cases hp : p d with
    | true => exact Or.inr ⟨d, hdid, rfl, hp, rfl⟩
    | false => exact Or.inl rfl
  · exact ⟨d.status, h, Or.inl rfl⟩

/-- A created row hides no status. -/
theorem statusOf_create {db db' : DeliveryTable} {d : Delivery} (hc : db.create d = some db')
    {id : String} {a : DeliveryStatus} (h : statusOf db id = some a) :
    statusOf db' id = some a := by
  obtain ⟨d', hd', rfl⟩ := Option.map_eq_some_iff.mp h
  have hfind : byId db' id = some d' := by
    rw [byId, Table.findFirst_create hc]
    rw [byId] at hd'
    rw [hd', Option.some_or]
  rw [statusOf, hfind]
  rfl

/-- The ways a call moves a status from `a` to `b`. -/
def StatusEffect (c : Call) (th : Thread) (id : String) (a b : DeliveryStatus) : Prop :=
  b = a ∨ (∃ w, th = .locked w ∧ a = w.expectedStatus ∧ b = w.status) ∨
    c.ok = true ∧ ∃ u, th.unlockedWrite = some u ∧ u.id = id ∧ b = u.status

theorem answer_fst (x : Except DeliveryError Delivery × DeliveryTable) : (answer x).1 = x.2 := by
  rcases x with ⟨_ | _, _⟩ <;> rfl

theorem updateWithOptimisticLock_snd (db : DeliveryTable) (w : LockedWrite) :
    (updateWithOptimisticLock db w).2 =
      (setRow db (fun d => d.id == w.id && d.status == w.expectedStatus) w.apply
        (fun _ => rfl)).2 := by
  unfold updateWithOptimisticLock
  split <;> simp_all

/-- The write of one id of a bulk action keeps the status, or is the thread's status write. -/
theorem bulkCheck_status {fleet : Fleet} {companyId : String} {deliveries : List Delivery}
    {action : BulkAction} {id : String} {now : Int}
    {f : { f : Delivery → Delivery // ∀ d, (f d).key = d.key }}
    (h : bulkCheck fleet companyId deliveries action id now = .ok f) (ids : List String)
    (result : BulkResult) (d : Delivery) :
    (f.1 d).status = d.status ∨
      ∃ u, (Thread.bulk companyId deliveries action (id :: ids) result).unlockedWrite = some u ∧
        u.id = id ∧ (f.1 d).status = u.status := by
  unfold bulkCheck at h
  split at h
  · cases h
  · rename_i delivery hfind
    split at h
    · split_ifs at h
      cases h
      exact Or.inl rfl
    · rename_i target
      split_ifs at h with hmem
      cases h
      refine Or.inr ⟨⟨id, delivery.status, target⟩, ?_, rfl, rfl⟩
      simp only [Thread.unlockedWrite, hfind, if_pos hmem]
    · cases h
    · cases h
    · split at h
      · cases h
      · cases h
        exact Or.inl rfl

/-- The write of `update` keeps the status, or is the thread's status write. -/
theorem PatchWrite.status_apply {w : PatchWrite} (htyped : w.wellTyped = true) (d : Delivery) :
    (w.apply d).status = d.status ∨
      ∃ u, (Thread.patch w).unlockedWrite = some u ∧ u.id = w.id ∧ (w.apply d).status = u.status := by
  cases hs : w.status with
  | value t =>
    refine Or.inr ⟨⟨w.id, w.readStatus, t⟩, ?_, rfl, ?_⟩
    · simp only [Thread.unlockedWrite, hs, if_pos htyped]
    · simp only [PatchWrite.apply, hs]
  | undefined =>
    refine Or.inl ?_
    simp only [PatchWrite.apply, hs]
  | null =>
    refine Or.inl ?_
    simp only [PatchWrite.apply, hs]

/-- The write of an imported row keeps the status, or is the thread's status write. -/
theorem ImportWrite.status_apply (w : ImportWrite) (companyId : String) (mode : ImportMode)
    (rows : List ImportRow) (result : ImportResult) (d : Delivery) :
    (w.apply d).status = d.status ∨
      ∃ u, (Thread.importUpdate w companyId mode rows result).unlockedWrite = some u ∧
        u.id = w.id ∧ (w.apply d).status = u.status := by
  cases hns : notStarted w.readStatus with
  | true =>
    refine Or.inr ⟨⟨w.id, w.readStatus, .in_progress⟩, ?_, rfl, ?_⟩
    · simp only [Thread.unlockedWrite, hns, if_true]
    · simp only [ImportWrite.apply, hns, if_true]
  | false =>
    refine Or.inl ?_
    simp [ImportWrite.apply, hns]

/-- A write by id that keeps the status or is the thread's status write. -/
theorem effect_setRow {db : DeliveryTable} {c : Call} {th : Thread} {id i : String}
    {a : DeliveryStatus} (hok : c.ok = true) (h : statusOf db id = some a)
    {f : Delivery → Delivery} {hf : ∀ d, (f d).key = d.key}
    (hwrite : ∀ d, (f d).status = d.status ∨
      ∃ u, th.unlockedWrite = some u ∧ u.id = i ∧ (f d).status = u.status) :
    ∃ b, statusOf (setRow db (fun d => d.id == i) f hf).2 id = some b ∧
      StatusEffect c th id a b := by
  obtain ⟨b, hb, heff⟩ := statusOf_setRow h (fun d => d.id == i) f hf
  refine ⟨b, hb, ?_⟩
  rcases heff with hba | ⟨d, hdid, hda, hp, hbf⟩
  · exact Or.inl hba
  · have hi : i = id := by
      rw [← hdid]; exact (eq_of_beq hp).symm
    rcases hwrite d with hkeep | ⟨u, hu, hui, hus⟩
    · exact Or.inl (hbf.trans (hkeep.trans hda))
    · exact Or.inr (Or.inr ⟨hok, u, hu, hui.trans hi, hbf.trans hus⟩)

/-- Everything one database call does to the status of a delivery. -/
theorem Thread.step_status (fleet : Fleet) {db : DeliveryTable} (c : Call) (th : Thread)
    {id : String} {a : DeliveryStatus} (h : statusOf db id = some a) :
    ∃ b, statusOf (th.step fleet db c).1 id = some b ∧ StatusEffect c th id a b := by
  have hsame : ∃ b, statusOf db id = some b ∧ StatusEffect c th id a b := ⟨a, h, Or.inl rfl⟩
  cases th with
  | start r => exact hsame
  | done o => exact hsame
  | locked w =>
    simp only [Thread.step]
    split
    · rw [answer_fst, updateWithOptimisticLock_snd]
      obtain ⟨b, hb, heff⟩ := statusOf_setRow h
        (fun d => d.id == w.id && d.status == w.expectedStatus) w.apply (fun _ => rfl)
      refine ⟨b, hb, ?_⟩
      rcases heff with hba | ⟨d, -, hda, hp, hbw⟩
      · exact Or.inl hba
      · have hexp : d.status = w.expectedStatus := by
          have := (Bool.and_eq_true_iff.mp hp).2
          simpa using this
        exact Or.inr (Or.inl ⟨w, rfl, hda.symm.trans hexp, hbw⟩)
    · exact hsame
  | patch w =>
    simp only [Thread.step]
    split
    · rename_i hok
      rw [answer_fst]
      unfold updateById
      split
      · rename_i htyped
        exact effect_setRow hok h fun d => PatchWrite.status_apply htyped d
      · exact hsame
    · exact hsame
  | bulk companyId deliveries action ids result =>
    cases ids with
    | nil => exact hsame
    | cons i ids =>
      simp only [Thread.step]
      split
      · exact hsame
      · rename_i f hcheck
        split
        · rename_i hok
          have hb : ∃ b, statusOf (setRow db (fun d => d.id == i) f.1 f.2).2 id = some b ∧
              StatusEffect c (.bulk companyId deliveries action (i :: ids) result) id a b :=
            effect_setRow hok h fun d => bulkCheck_status hcheck ids result d
          split <;> rename_i hset <;> rw [hset] at hb <;> exact hb
        · exact hsame
  | importRow companyId mode rows result =>
    cases rows with
    | nil => exact hsame
    | cons row rows =>
      simp only [Thread.step]
      split
      · exact hsame
      · exact hsame
      · split
        · split
          · exact hsame
          · split <;> exact hsame
        · exact hsame
  | importUpdate w companyId mode rows result =>
    simp only [Thread.step]
    split
    · rename_i hok
      have hb : ∃ b, statusOf (setRow db (fun d => d.id == w.id) w.apply (fun _ => rfl)).2 id
          = some b ∧ StatusEffect c (.importUpdate w companyId mode rows result) id a b :=
        effect_setRow hok h fun d => w.status_apply companyId mode rows result d
      split <;> rename_i hset <;> rw [hset] at hb <;> exact hb
    · exact hsame
  | importCreate row orderRef companyId mode rows result =>
    simp only [Thread.step]
    split
    · split
      · rename_i db' hc
        exact ⟨a, statusOf_create hc h, Or.inl rfl⟩
      · exact hsame
    · exact hsame

/-! ## The law -/

/-- One step changes a status only as the state machine allows, and no delivery vanishes. -/
def StatusLaw (fleet : Fleet) (x : Tick System Event Unit) : Prop :=
  ∀ id a, statusOf x.before.db id = some a →
    ∃ b, statusOf (System.step fleet x.before x.input).2.db id = some b ∧
      (b = a ∨ ∃ i c th, x.input = .call i c ∧ x.before.threads[i]? = some th ∧
        AllowedChange th a b)

/-- The step's call, if it writes a status by id, does not write over a newer one. -/
def FreshTick (x : Tick System Event Unit) : Prop :=
  ∀ i c th, x.input = .call i c → c.ok = true → x.before.threads[i]? = some th →
    Fresh x.before.db th

/-- Step lemma. -/
theorem statusLaw_of_fresh (fleet : Fleet) {x : Tick System Event Unit} (hfresh : FreshTick x) :
    StatusLaw fleet x := by
  intro id a ha
  obtain ⟨s, e, o⟩ := x
  cases e with
  | request r => exact ⟨a, ha, Or.inl rfl⟩
  | call i c =>
    cases hth : s.threads[i]? with
    | none =>
      refine ⟨a, ?_, Or.inl rfl⟩
      simp only [System.step, hth]
      exact ha
    | some th =>
      obtain ⟨b, hb, heff⟩ := Thread.step_status fleet c th ha
      refine ⟨b, ?_, ?_⟩
      · simp only [System.step, hth]
        exact hb
      · rcases heff with hba | ⟨w, rfl, rfl, rfl⟩ | ⟨hok, u, hu, rfl, rfl⟩
        · exact Or.inl hba
        · exact Or.inr ⟨i, c, _, rfl, hth, Or.inl w.allowed⟩
        · rcases hfresh i c th rfl hok hth u hu a ha with rfl | rfl
          · rcases Thread.unlockedWrite_allowed hu with hkeep | hallow
            · exact Or.inl hkeep
            · exact Or.inr ⟨i, c, th, rfl, hth, hallow⟩
          · exact Or.inl rfl

/-- No allowed change leaves a terminal status. -/
theorem not_allowedChange_of_terminal {th : Thread} {a b : DeliveryStatus} (ha : a.Terminal) :
    ¬ AllowedChange th a b := by
  rintro (h | ⟨-, rfl, -⟩)
  · rw [terminal_iff.mp ha] at h
    cases h
  · exact absurd ha (by decide)

/-- Under the law a terminal status stays. -/
theorem terminal_stays {fleet : Fleet} {x : Tick System Event Unit} (hlaw : StatusLaw fleet x)
    {id : String} {a : DeliveryStatus} (ha : a.Terminal) (h : statusOf x.before.db id = some a) :
    statusOf (System.step fleet x.before x.input).2.db id = some a := by
  obtain ⟨b, hb, rfl | ⟨i, c, th, -, -, hallow⟩⟩ := hlaw id a h
  · exact hb
  · exact absurd hallow (not_allowedChange_of_terminal ha)

/-- **In every run of fresh steps, each change of a status is allowed, and a terminal status,
once persisted, is never replaced.** -/
theorem lifecycle_of_fresh (fleet : Fleet) (s : System) (events : List Event)
    (hfresh : ∀ x ∈ trace (System.step fleet) s events, FreshTick x) :
    (∀ x ∈ trace (System.step fleet) s events, StatusLaw fleet x) ∧
    ∀ es₁ es₂, events = es₁ ++ es₂ → ∀ id a, a.Terminal →
      statusOf (final (System.step fleet) s es₁).db id = some a →
      statusOf (final (System.step fleet) s events).db id = some a := by
  have hlaw : ∀ x ∈ trace (System.step fleet) s events, StatusLaw fleet x :=
    fun x hx => statusLaw_of_fresh fleet (hfresh x hx)
  refine ⟨hlaw, ?_⟩
  rintro es₁ es₂ rfl id a ha h
  rw [final_append]
  refine final_invariant_of_trace (I := fun s' : System => statusOf s'.db id = some a) ?_ h
  intro x hx hbefore
  refine terminal_stays (hlaw x ?_) ha hbefore
  rw [trace_append]
  exact List.mem_append_right _ hx

/-! ### A PATCH over a finished delivery -/

instance (db : DeliveryTable) (th : Thread) : Decidable (Fresh db th) :=
  inferInstanceAs (Decidable (∀ u ∈ th.unlockedWrite, ∀ a ∈ statusOf db u.id,
    a = u.readStatus ∨ a = u.status))

instance (x : Tick System Event Unit) : Decidable (FreshTick x) :=
  match hx : x.input with
  | .request _ => .isTrue fun i c th h => by rw [hx] at h; cases h
  | .call i c =>
    decidable_of_iff (c.ok = true → ∀ th ∈ x.before.threads[i]?, Fresh x.before.db th)
      ⟨fun h j c' th hj hok hth => by rw [hx] at hj; cases hj; exact h hok th hth,
        fun h hok th hth => h i c th hx hok hth⟩

def sampleDelivery : Delivery :=
  { id := "d1", companyId := "c1", status := .in_progress, vehicleId := none, driverId := none,
    assignedDriverId := none, externalOrderRef := none, createdAt := 0, completedAt := none,
    deletedAt := none }

def sampleSystem : System :=
  ⟨⟨[sampleDelivery], List.pairwise_singleton _ _⟩, []⟩

/-- A PATCH to `cancelled` and an `updateStatus` to `delivered` both read the delivery in
progress; `updateStatus` writes. -/
def patchAndComplete : List Event :=
  [.request (.update "c1" "d1" ⟨.value .cancelled, .undefined, .undefined⟩),
   .request (.updateStatus "c1" "d1" .delivered),
   .call 0 ⟨1000, "n1", true⟩, .call 1 ⟨2000, "n2", true⟩, .call 1 ⟨3000, "n3", true⟩]

/-- The same calls one after the other: the second finds a cancelled delivery. -/
def patchThenComplete : List Event :=
  [.request (.update "c1" "d1" ⟨.value .cancelled, .undefined, .undefined⟩),
   .call 0 ⟨1000, "n1", true⟩, .call 0 ⟨2000, "n2", true⟩,
   .request (.updateStatus "c1" "d1" .delivered), .call 1 ⟨3000, "n3", true⟩]

theorem lifecycle_of_fresh_sample :
    (∀ x ∈ trace (System.step ⟨[], []⟩) sampleSystem patchThenComplete,
      StatusLaw ⟨[], []⟩ x) ∧
    ∀ es₁ es₂, patchThenComplete = es₁ ++ es₂ → ∀ id a, a.Terminal →
      statusOf (final (System.step ⟨[], []⟩) sampleSystem es₁).db id = some a →
      statusOf (final (System.step ⟨[], []⟩) sampleSystem patchThenComplete).db id = some a :=
  lifecycle_of_fresh ⟨[], []⟩ sampleSystem patchThenComplete (by decide +kernel)

/-- Then the PATCH writes, and the completed delivery is cancelled. -/
theorem stale_patch :
    statusOf (final (System.step ⟨[], []⟩) sampleSystem patchAndComplete).db "d1"
      = some .delivered ∧
    statusOf (final (System.step ⟨[], []⟩) sampleSystem
      (patchAndComplete ++ [.call 0 ⟨4000, "n4", true⟩])).db "d1" = some .cancelled ∧
    ¬ ∀ x ∈ trace (System.step ⟨[], []⟩) sampleSystem
        (patchAndComplete ++ [.call 0 ⟨4000, "n4", true⟩]), StatusLaw ⟨[], []⟩ x := by
  have hbefore : statusOf (final (System.step ⟨[], []⟩) sampleSystem patchAndComplete).db "d1"
      = some .delivered := by decide +kernel
  have hafter : statusOf (final (System.step ⟨[], []⟩) sampleSystem
      (patchAndComplete ++ [.call 0 ⟨4000, "n4", true⟩])).db "d1" = some .cancelled := by
    decide +kernel
  refine ⟨hbefore, hafter, ?_⟩
  intro hlaw
  have hlast := hlaw ⟨final (System.step ⟨[], []⟩) sampleSystem patchAndComplete,
    .call 0 ⟨4000, "n4", true⟩, ()⟩ (by
      rw [trace_append]
      exact List.mem_append_right _ (List.mem_singleton_self _))
  have hstays := terminal_stays hlast (by decide) hbefore
  rw [final_append] at hafter
  have hboth : some DeliveryStatus.delivered = some .cancelled := hstays.symm.trans hafter
  cases hboth

end DeliveryTracking.Deliveries
