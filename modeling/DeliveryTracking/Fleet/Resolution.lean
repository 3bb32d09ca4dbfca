/-
# `DeliveryTracking.Fleet.Resolution` — who had a vehicle at a past time

`assign` and `unassign` date the rows they close and open, and two resolvers of
the tracker bridge read them back.  An operation at `now` does two things to the
rows that cover a time `t`:

    t < now    the same drivers are read as before
    now < t    the drivers read are those of the open rows

so a resolver that reads the table after a run finds at `t` the driver the
vehicle had after the operations before `t`.
-/
import DeliveryTracking.Fleet.History
import DeliveryTracking.Runs
import DeliveryTracking.Traccar.Backfill

namespace DeliveryTracking.Fleet

/-! ## Rows in time -/

namespace AssignmentRow

variable {r r' a b : AssignmentRow} {now n t : Int}

/-- The bridge takes the row for the driver of the vehicle at the time. -/
def Covers (t : Int) (r : AssignmentRow) : Prop :=
  r.assignedAt ≤ t ∧ ∀ u ∈ r.unassignedAt, t ≤ u

/-- Some stretch of time lies in both rows. -/
def Overlaps (a b : AssignmentRow) : Prop :=
  ∃ x y : Int, x < y ∧ a.Covers x ∧ a.Covers y ∧ b.Covers x ∧ b.Covers y

/-- The dates of the row are in order, and none is after `n`. -/
structure Dated (n : Int) (r : AssignmentRow) : Prop where
  assigned : r.assignedAt ≤ n
  unassigned : ∀ u ∈ r.unassignedAt, r.assignedAt ≤ u ∧ u ≤ n

theorem Dated.mono (h : r.Dated n) {n' : Int} (hn : n ≤ n') : r.Dated n' :=
  ⟨h.assigned.trans hn, fun u hu => ⟨(h.unassigned u hu).1, (h.unassigned u hu).2.trans hn⟩⟩

/-- After its dates a row covers a time when it is open. -/
theorem Dated.covers_iff (h : r.Dated n) (hn : n < t) : r.Covers t ↔ r.isOpen = true := by
  rw [isOpen, Option.isNone_iff_eq_none]
  constructor
  · rintro ⟨-, hend⟩
    cases hu : r.unassignedAt with
    | none => rfl
    | some u =>
      have hlate : t ≤ u := hend u hu
      have hearly : u ≤ n := (h.unassigned u hu).2
      omega
  · intro hopen
    refine ⟨h.assigned.trans hn.le, fun u hu => ?_⟩
    rw [hopen] at hu
    cases hu

/-- A row as an operation at `now` leaves it: as it was, or closed. -/
def Left (now : Int) (r r' : AssignmentRow) : Prop :=
  r' = r ∨ r.isOpen = true ∧ r' = { r with unassignedAt := some now }

theorem Left.trans {r'' : AssignmentRow} (h : Left now r r') (h' : Left now r' r'') :
    Left now r r'' := by
  rcases h with rfl | ⟨hopen, rfl⟩
  · exact h'
  · rcases h' with rfl | ⟨hclosed, -⟩
    · exact .inr ⟨hopen, rfl⟩
    · cases hclosed

theorem Left.vehicleId (h : Left now r r') : r'.vehicleId = r.vehicleId := by
  rcases h with rfl | ⟨-, rfl⟩
  · rfl
  · rfl

theorem Left.driverId (h : Left now r r') : r'.driverId = r.driverId := by
  rcases h with rfl | ⟨-, rfl⟩
  · rfl
  · rfl

theorem Left.dated (h : Left now r r') (hdated : r.Dated now) : r'.Dated now := by
  rcases h with rfl | ⟨-, rfl⟩
  · exact hdated
  · refine ⟨hdated.assigned, fun u hu => ?_⟩
    obtain rfl : now = u := Option.some.inj hu
    exact ⟨hdated.assigned, le_rfl⟩

/-- Closing a row takes no time before the close away from it. -/
theorem Left.covers_iff (h : Left now r r') (ht : t < now) : r'.Covers t ↔ r.Covers t := by
  rcases h with rfl | ⟨hopen, rfl⟩
  · rfl
  · rw [isOpen, Option.isNone_iff_eq_none] at hopen
    refine and_congr_right fun _ => ?_
    constructor
    · intro _ u hu
      rw [hopen] at hu
      cases hu
    · intro _ u hu
      obtain rfl : now = u := Option.some.inj hu
      exact ht.le

/-- Closing a row gives it no time. -/
theorem Left.covers (h : Left now r r') (hcovers : r'.Covers t) : r.Covers t := by
  rcases h with rfl | ⟨hopen, rfl⟩
  · exact hcovers
  · rw [isOpen, Option.isNone_iff_eq_none] at hopen
    refine ⟨hcovers.1, fun u hu => ?_⟩
    rw [hopen] at hu
    cases hu

theorem Overlaps.of_left {a' b' : AssignmentRow} (ha : Left now a a') (hb : Left now b b')
    (h : a'.Overlaps b') : a.Overlaps b := by
  obtain ⟨x, y, hxy, hax, hay, hbx, hby⟩ := h
  exact ⟨x, y, hxy, ha.covers hax, ha.covers hay, hb.covers hbx, hb.covers hby⟩

/-- A closed row does not reach into one that starts after its dates. -/
theorem not_overlaps_of_closed (ha : a.Dated now) (hclosed : a.isOpen = false)
    (hb : b.assignedAt = now) : ¬a.Overlaps b := by
  rintro ⟨x, y, hxy, -, hay, hbx, -⟩
  have hx : now ≤ x := hb ▸ hbx.1
  have hopen := (ha.covers_iff (lt_of_le_of_lt hx hxy)).mp hay
  rw [hclosed] at hopen
  cases hopen

end AssignmentRow

/-! ## Operations -/

inductive HistoryOp where
  | assign (params : AssignVehicleParams) (now : Int) (rowId : String)
  | unassign (driverId : String) (now : Int)
  deriving DecidableEq, Repr

def HistoryOp.now : HistoryOp → Int
  | .assign _ now _ => now
  | .unassign _ now => now

/-- Who has a vehicle after the operation. -/
def HistoryOp.change : HistoryOp → Matching String String → Matching String String
  | .assign params _ _, m => m.put params.driverId params.vehicleId
  | .unassign driverId _, m => m.dropLeft driverId

def HistoryTable.call (t : HistoryTable) : HistoryOp → Except PrismaError HistoryTable
  | .assign params now rowId => t.assign params now rowId
  | .unassign driverId now => .ok (t.unassign driverId now)

/-- A call inside the transaction of its caller. -/
inductive HistoryEvent where
  | committed (op : HistoryOp)
  | rolledBack (op : HistoryOp)
  deriving DecidableEq, Repr

def HistoryEvent.now : HistoryEvent → Int
  | .committed op => op.now
  | .rolledBack op => op.now

def HistoryEvent.change : HistoryEvent → Matching String String → Matching String String
  | .committed op => op.change
  | .rolledBack _ => id

/-- A call that throws is rolled back. -/
inductive HistoryStep : HistoryTable → HistoryEvent → HistoryTable → Prop
  | commit {t t' : HistoryTable} {op : HistoryOp} :
      t.call op = .ok t' → HistoryStep t (.committed op) t'
  | rollback {t : HistoryTable} {op : HistoryOp} {e : PrismaError} :
      t.call op = .error e → HistoryStep t (.rolledBack op) t

/-- No driver has a vehicle. -/
def noneHeld : Matching String String where
  rel _ _ := False
  biUnique := ⟨fun _ _ _ h => h.elim, fun _ _ _ h => h.elim⟩

/-- Who had which vehicle at a time, by the operations before it. -/
def heldAt (es : List HistoryEvent) (time : Int) : Matching String String :=
  (es.filter fun e => e.now < time).foldl (fun m e => e.change m) noneHeld

/-! ## What an operation does -/

namespace HistoryTable

open AssignmentRow

variable {t t' : HistoryTable} {now n time : Int} {d v : String}

/-- The rows stay or are closed. -/
def Closes (now : Int) (t t' : HistoryTable) : Prop :=
  ∃ f : AssignmentRow → AssignmentRow, t'.rows = t.rows.map f ∧ ∀ r ∈ t.rows, Left now r (f r)

/-- The rows stay or are closed, and rows that start now may be added. -/
def Becomes (now : Int) (t t' : HistoryTable) : Prop :=
  ∃ t₁ : HistoryTable, ∃ added, Closes now t t₁ ∧ t'.rows = t₁.rows ++ added ∧
    ∀ r ∈ added, r.isOpen = true ∧ r.assignedAt = now

theorem Closes.refl (t : HistoryTable) : Closes now t t :=
  ⟨id, (List.map_id _).symm, fun _ _ => .inl rfl⟩

theorem Closes.trans {t'' : HistoryTable} (h : Closes now t t') (h' : Closes now t' t'') :
    Closes now t t'' := by
  obtain ⟨f, hf, hleft⟩ := h
  obtain ⟨g, hg, hleft'⟩ := h'
  refine ⟨g ∘ f, by rw [hg, hf, List.map_map], fun r hr => ?_⟩
  refine (hleft r hr).trans (hleft' (f r) ?_)
  rw [hf]
  exact List.mem_map_of_mem hr

theorem closes_close {p : AssignmentRow → Bool}
    (hopen : ∀ r ∈ t.rows, p r = true → r.isOpen = true) : Closes now t (t.close p now) := by
  refine ⟨_, rfl, fun r hr => ?_⟩
  split
  · rename_i hp
    exact .inr ⟨hopen r hr hp, rfl⟩
  · exact .inl rfl

theorem closes_closeRow {q : AssignmentRow → Bool}
    (hopen : ∀ r ∈ t.rows, q r = true → r.isOpen = true) :
    Closes now t (t.closeRow (t.findFirst q) now) := by
  cases hfound : t.findFirst q with
  | none => exact Closes.refl t
  | some a =>
    obtain ⟨ha, hqa⟩ := Table.mem_of_findFirst hfound
    refine closes_close fun r hr hid => ?_
    rw [eq_of_id hr ha (beq_iff_eq.mp hid)]
    exact hopen a ha hqa

theorem becomes_assign {params : AssignVehicleParams} {rowId : String}
    (h : t.assign params now rowId = .ok t') : Becomes now t t' := by
  rw [assign] at h
  split at h
  · cases h
  · dsimp only at h
    split at h
    · cases h
      exact ⟨t, [], Closes.refl t, (List.append_nil _).symm, by simp⟩
    · split at h
      · rename_i t₁ hcreate
        cases h
        have hvehicle : Closes now t (t.closeRow (t.openForVehicle params.vehicleId) now) :=
          closes_closeRow (by simp)
        refine ⟨_, [_], hvehicle.trans (closes_closeRow (by simp)), Table.rows_of_create hcreate, ?_⟩
        intro r hr
        rw [List.mem_singleton.mp hr]
        exact ⟨rfl, rfl⟩
      · cases h

theorem becomes_of_call {op : HistoryOp} (h : t.call op = .ok t') : Becomes op.now t t' := by
  cases op with
  | assign params now rowId => exact becomes_assign h
  | unassign driverId now =>
    cases h
    exact ⟨_, [], closes_close (by simp), (List.append_nil _).symm, by simp⟩

theorem opened_of_call {op : HistoryOp} (h : t.call op = .ok t') :
    t'.opened = op.change t.opened := by
  cases op with
  | assign params now rowId => exact opened_assign h
  | unassign driverId now =>
    cases h
    exact opened_unassign driverId now

/-! ## What a resolver reads -/

/-- The driver of some row that covers the time. -/
def ReadAt (t : HistoryTable) (time : Int) (d v : String) : Prop :=
  ∃ r ∈ t.rows, r.driverId = d ∧ r.vehicleId = v ∧ r.Covers time

/-- No row has a date after `n`. -/
def DatedTo (t : HistoryTable) (n : Int) : Prop := ∀ r ∈ t.rows, r.Dated n

/-- After the dates of the table, the open rows are read. -/
theorem DatedTo.readAt_iff (h : t.DatedTo n) (hn : n < time) :
    t.ReadAt time d v ↔ t.opened.rel d v := by
  refine exists_congr fun r => and_congr_right fun hr => ?_
  rw [(h r hr).covers_iff hn]
  tauto

theorem Becomes.datedTo (h : Becomes now t t') (ht : t.DatedTo now) : t'.DatedTo now := by
  obtain ⟨t₁, added, ⟨f, hf, hleft⟩, hrows, hadded⟩ := h
  intro r hr
  rw [hrows, hf, List.mem_append] at hr
  rcases hr with hr | hr
  · obtain ⟨a, ha, rfl⟩ := List.mem_map.mp hr
    exact (hleft a ha).dated (ht a ha)
  · obtain ⟨hopen, rfl⟩ := hadded r hr
    refine ⟨le_rfl, fun u hu => ?_⟩
    rw [isOpen, Option.isNone_iff_eq_none] at hopen
    rw [hopen] at hu
    cases hu

/-- An operation does not change what is read of the times before it. -/
theorem Becomes.readAt_iff (h : Becomes now t t') (htime : time < now) :
    t'.ReadAt time d v ↔ t.ReadAt time d v := by
  obtain ⟨t₁, added, ⟨f, hf, hleft⟩, hrows, hadded⟩ := h
  constructor
  · rintro ⟨r, hr, rfl, rfl, hcovers⟩
    rw [hrows, hf, List.mem_append] at hr
    rcases hr with hr | hr
    · obtain ⟨a, ha, rfl⟩ := List.mem_map.mp hr
      have hl := hleft a ha
      exact ⟨a, ha, hl.driverId.symm, hl.vehicleId.symm, (hl.covers_iff htime).mp hcovers⟩
    · have hstart : r.assignedAt = now := (hadded r hr).2
      have hbefore : r.assignedAt ≤ time := hcovers.1
      omega
  · rintro ⟨a, ha, rfl, rfl, hcovers⟩
    have hl := hleft a ha
    refine ⟨f a, ?_, hl.driverId, hl.vehicleId, (hl.covers_iff htime).mpr hcovers⟩
    rw [hrows, hf]
    exact List.mem_append_left _ (List.mem_map_of_mem ha)

/-- Two rows of a vehicle share no stretch of time. -/
def Disjoint (t : HistoryTable) : Prop :=
  t.rows.Pairwise fun a b => a.vehicleId = b.vehicleId → ¬a.Overlaps b

theorem Becomes.disjoint (h : Becomes now t t') (hdated : t.DatedTo now) (ht : t.Disjoint) :
    t'.Disjoint := by
  have hdated' := h.datedTo hdated
  obtain ⟨t₁, added, ⟨f, hf, hleft⟩, hrows, hadded⟩ := h
  have hunique := t'.unique
  rw [hrows, List.pairwise_append] at hunique
  obtain ⟨-, hnew, hcross⟩ := hunique
  rw [Disjoint, hrows, List.pairwise_append]
  refine ⟨?_, ?_, ?_⟩
  · rw [hf, List.pairwise_map]
    refine List.Pairwise.imp_of_mem ?_ ht
    intro a b ha hb hab hv hoverlaps
    rw [(hleft a ha).vehicleId, (hleft b hb).vehicleId] at hv
    exact hab hv (hoverlaps.of_left (hleft a ha) (hleft b hb))
  · -- two open rows of a vehicle would clash
    refine List.Pairwise.imp_of_mem ?_ hnew
    intro a b ha hb hab hv
    refine absurd (.inr (.inl ?_)) hab
    rw [openVehicle_eq (hadded a ha).1, openVehicle_eq (hadded b hb).1, hv]
    exact taken_some_some.mpr rfl
  · intro a ha b hb hv
    have hmem : a ∈ t'.rows := by
      rw [hrows]
      exact List.mem_append_left _ ha
    refine not_overlaps_of_closed (hdated' a hmem) ?_ (hadded b hb).2
    by_contra hopen
    refine hcross a ha b hb (.inr (.inl ?_))
    rw [openVehicle_eq (Bool.not_eq_false _ ▸ hopen), openVehicle_eq (hadded b hb).1, hv]
    exact taken_some_some.mpr rfl

end HistoryTable

/-! ## One step -/

namespace HistoryStep

open HistoryTable

variable {t t' : HistoryTable} {e : HistoryEvent}

theorem becomes (h : HistoryStep t e t') : Becomes e.now t t' := by
  cases h with
  | commit hcall => exact becomes_of_call hcall
  | rollback _ => exact ⟨t, [], Closes.refl t, (List.append_nil _).symm, by simp⟩

theorem opened (h : HistoryStep t e t') : t'.opened = e.change t.opened := by
  cases h with
  | commit hcall => exact opened_of_call hcall
  | rollback _ => rfl

end HistoryStep

/-! ## Runs -/

/-- Calls that all return are a run. -/
theorem HistoryStep.run_of_foldlM : ∀ {ops : List HistoryOp} {t t' : HistoryTable},
    ops.foldlM (fun t op => (t.call op).toOption) t = some t' →
      Run HistoryStep t (ops.map .committed) t'
  | [], t, t', h => by
      obtain rfl : t = t' := Option.some.inj h
      exact .nil t
  | op :: ops, t, t', h => by
      rw [List.foldlM_cons] at h
      obtain ⟨t₁, hcall, hrest⟩ := Option.bind_eq_some_iff.mp h
      refine .cons (.commit ?_) (HistoryStep.run_of_foldlM hrest)
      cases hok : t.call op with
      | error e =>
        rw [hok] at hcall
        cases hcall
      | ok t₂ =>
        rw [hok] at hcall
        exact congrArg Except.ok (Option.some.inj hcall)

namespace HistoryTable

variable {t t' : HistoryTable} {es : List HistoryEvent} {n time : Int} {d v : String}

/-- The times of the calls do not decrease. -/
def InOrder (es : List HistoryEvent) : Prop := es.Pairwise fun e f => e.now ≤ f.now

instance (es : List HistoryEvent) : Decidable (InOrder es) :=
  inferInstanceAs (Decidable (List.Pairwise _ _))

/-- A run does not change what is read of the times before it. -/
theorem readAt_iff_of_run (h : Run HistoryStep t es t') (htime : ∀ e ∈ es, time < e.now) :
    t'.ReadAt time d v ↔ t.ReadAt time d v := by
  induction h with
  | nil => rfl
  | cons hstep _ ih =>
    rw [List.forall_mem_cons] at htime
    exact (ih htime.2).trans (hstep.becomes.readAt_iff htime.1)

/-- A run from a table without later dates leaves, at each time that is not of a call, the drivers
its calls before that time give. -/
theorem readAt_iff_of_dated (h : Run HistoryStep t es t') (hdated : t.DatedTo n)
    (hn : ∀ e ∈ es, n ≤ e.now) (horder : InOrder es) (hbefore : n < time)
    (htime : ∀ e ∈ es, e.now ≠ time) :
    t'.ReadAt time d v ↔
      ((es.filter fun e => e.now < time).foldl (fun m e => e.change m) t.opened).rel d v := by
  induction h generalizing n with
  | nil => exact hdated.readAt_iff hbefore
  | @cons t t₁ t' e es hstep hrest ih =>
    obtain ⟨hfirst, horder⟩ := List.pairwise_cons.mp horder
    rw [List.forall_mem_cons] at hn htime
    rcases lt_or_gt_of_ne htime.1 with hlt | hgt
    · have hdated₁ : t₁.DatedTo e.now :=
        hstep.becomes.datedTo fun r hr => (hdated r hr).mono hn.1
      rw [ih hdated₁ hfirst horder hlt htime.2, List.filter_cons_of_pos (by simpa using hlt),
        List.foldl_cons, hstep.opened]
    · -- this call and the later ones come after the time
      have hlate : ∀ f ∈ es, time < f.now := fun f hf => lt_of_lt_of_le hgt (hfirst f hf)
      have hnone : (e :: es).filter (fun f => f.now < time) = [] := by
        refine List.filter_eq_nil_iff.mpr fun f hf hlt => ?_
        rcases List.mem_cons.mp hf with rfl | hf
        · have : f.now < time := by simpa using hlt
          omega
        · have hless : f.now < time := by simpa using hlt
          have hmore := hlate f hf
          omega
      rw [hnone, readAt_iff_of_run hrest hlate, hstep.becomes.readAt_iff hgt]
      exact hdated.readAt_iff hbefore

theorem opened_empty : opened .empty = noneHeld := by
  ext d v
  constructor
  · rintro ⟨r, hr, -⟩
    cases hr
  · exact False.elim

/-- Some time before another comes before all the calls. -/
theorem exists_before (horder : InOrder es) (time : Int) :
    ∃ n : Int, n < time ∧ ∀ e ∈ es, n ≤ e.now := by
  cases es with
  | nil => exact ⟨time - 1, by omega, by simp⟩
  | cons e es =>
    refine ⟨min (time - 1) e.now, by omega, List.forall_mem_cons.mpr ⟨by omega, fun f hf => ?_⟩⟩
    have hle : e.now ≤ f.now := (List.pairwise_cons.mp horder).1 f hf
    omega

/-- At each time that is not of a call, the table of a run reads as its calls say. -/
theorem readAt_iff (h : Run HistoryStep .empty es t') (horder : InOrder es)
    (htime : ∀ e ∈ es, e.now ≠ time) : t'.ReadAt time d v ↔ (heldAt es time).rel d v := by
  obtain ⟨n, hbefore, hn⟩ := exists_before horder time
  rw [readAt_iff_of_dated h (n := n) (fun r hr => by cases hr) hn horder hbefore htime, heldAt,
    opened_empty]

/-- The rows of a vehicle stay disjoint. -/
theorem disjoint_of_run (h : Run HistoryStep t es t') (hdated : t.DatedTo n)
    (hn : ∀ e ∈ es, n ≤ e.now) (horder : InOrder es) (ht : t.Disjoint) : t'.Disjoint := by
  induction h generalizing n with
  | nil => exact ht
  | @cons t t₁ t' e es hstep hrest ih =>
    obtain ⟨hfirst, horder⟩ := List.pairwise_cons.mp horder
    rw [List.forall_mem_cons] at hn
    have hdated' : t.DatedTo e.now := fun r hr => (hdated r hr).mono hn.1
    exact ih (hstep.becomes.datedTo hdated') hfirst horder (hstep.becomes.disjoint hdated' ht)

theorem disjoint_of_empty (h : Run HistoryStep .empty es t') (horder : InOrder es) :
    t'.Disjoint := by
  obtain ⟨n, -, hn⟩ := exists_before horder 0
  exact disjoint_of_run h (n := n) (fun r hr => by cases hr) hn horder .nil

end HistoryTable

/-! ## The resolvers -/

section Resolvers

open Tracking Traccar

/-- A read that has an answer if there is one, where all answers give one value. -/
theorem map_eq_some_iff_of_unique {α β : Type*} {o : Option α} {P : α → Prop} {f : α → β} {b : β}
    (hmem : ∀ a, o = some a → P a) (hnone : o = none → ∀ a, ¬P a)
    (hone : ∀ a a', P a → P a' → f a = f a') : o.map f = some b ↔ ∃ a, P a ∧ f a = b := by
  rw [Option.map_eq_some_iff]
  constructor
  · rintro ⟨a, ho, rfl⟩
    exact ⟨a, hmem a ho, rfl⟩
  · rintro ⟨a, ha, rfl⟩
    cases ho : o with
    | none => exact absurd ha (hnone ho a)
    | some a' => exact ⟨a', rfl, hone a' a (hmem a' ho) ha⟩

/-- The columns the bridge selects. -/
def AssignmentRow.assignment (r : AssignmentRow) : Assignment :=
  ⟨r.vehicleId, r.driverId, r.assignedAt, r.unassignedAt⟩

variable {reg : Registry} {t : HistoryTable} {time : Int} {d v : String}

/-- The bridge finds the row. -/
def Answers (reg : Registry) (v : String) (time : Int) (a : Assignment) : Prop :=
  a ∈ reg.assignments ∧ a.vehicleId = v ∧ a.assignedAt ≤ time ∧ ∀ u ∈ a.unassignedAt, time ≤ u

theorem exists_answers_iff (hreg : reg.assignments.Perm (t.rows.map AssignmentRow.assignment)) :
    (∃ a, Answers reg v time a ∧ a.driverId = d) ↔ t.ReadAt time d v := by
  constructor
  · rintro ⟨a, ⟨ha, hv, hcovers⟩, hd⟩
    obtain ⟨r, hr, rfl⟩ := List.mem_map.mp (hreg.mem_iff.mp ha)
    exact ⟨r, hr, hd, hv, hcovers⟩
  · rintro ⟨r, hr, hd, hv, hcovers⟩
    exact ⟨r.assignment, ⟨hreg.mem_iff.mpr (List.mem_map_of_mem hr), hv, hcovers⟩, hd⟩

theorem resolveDriverIdAtTimestamp_iff
    (hone : ∀ a a', Answers reg v time a → Answers reg v time a' → a.driverId = a'.driverId) :
    resolveDriverIdAtTimestamp reg v time = some d ↔
      ∃ a, Answers reg v time a ∧ a.driverId = d := by
  have hanswers : ∀ a, (a ∈ reg.assignments.filter fun a => a.vehicleId == v &&
      a.assignedAt ≤ time && a.unassignedAt.all (time ≤ ·)) ↔ Answers reg v time a := by
    intro a
    simp [Answers, Option.all_eq_true, and_assoc]
  refine map_eq_some_iff_of_unique ?_ ?_ hone
  · intro a ha
    exact (hanswers a).mp (mem_of_lastBy ha)
  · intro hnone a ha
    have hmem := (hanswers a).mpr ha
    rw [lastBy_eq_none_iff.mp hnone] at hmem
    cases hmem

theorem resolveDriver_iff
    (hone : ∀ a a', Answers reg v time a → Answers reg v time a' → a.driverId = a'.driverId) :
    resolveDriver reg v time = some d ↔ ∃ a, Answers reg v time a ∧ a.driverId = d := by
  refine map_eq_some_iff_of_unique ?_ ?_ hone
  · intro a ha
    have hmem := List.mem_of_find?_eq_some ha
    have hq := List.find?_some ha
    rw [List.mem_reverse, List.mem_insertionSort, List.mem_filter] at hmem
    simpa [Answers, Option.all_eq_true, and_assoc] using And.intro hmem hq
  · intro hnone a ha
    obtain ⟨hmem, hv, hstart, hend⟩ := ha
    refine List.find?_eq_none.mp hnone a ?_ ?_
    · rw [List.mem_reverse, List.mem_insertionSort, List.mem_filter]
      exact ⟨hmem, beq_iff_eq.mpr hv⟩
    · simpa [Option.all_eq_true, hstart] using hend

/-- The answers for a time that is not of a call all name the driver that had the vehicle. -/
theorem answers_iff_heldAt {es : List HistoryEvent} (h : Run HistoryStep .empty es t)
    (horder : HistoryTable.InOrder es)
    (hreg : reg.assignments.Perm (t.rows.map AssignmentRow.assignment))
    (htime : ∀ e ∈ es, e.now ≠ time) :
    (∃ a, Answers reg v time a ∧ a.driverId = d) ↔ (heldAt es time).rel d v :=
  (exists_answers_iff hreg).trans (HistoryTable.readAt_iff h horder htime)

/-- Rows that two by two clash are one row at most. -/
theorem countP_le_one_of_clash {p : AssignmentRow → Bool}
    (hclash : ∀ a b, p a = true → p b = true → a.key.Clash b.key) : t.rows.countP p ≤ 1 := by
  refine Table.countP_le_one (t.unique.imp ?_)
  intro a b hab ha
  by_contra hb
  exact hab (hclash a b ha (Bool.not_eq_false _ ▸ hb))

/-- After any sequence of calls in order, a vehicle and a driver have one open row at most, the rows
of a vehicle are disjoint, and at each time that is not of a call both resolvers find the driver
that had the vehicle. -/
theorem history_resolves {es : List HistoryEvent} (h : Run HistoryStep .empty es t)
    (horder : HistoryTable.InOrder es) :
    (∀ v, t.rows.countP (fun r => r.vehicleId == v && r.isOpen) ≤ 1) ∧
      (∀ d, t.rows.countP (fun r => r.driverId == d && r.isOpen) ≤ 1) ∧
      t.Disjoint ∧
      ∀ reg : Registry, reg.assignments.Perm (t.rows.map AssignmentRow.assignment) →
        ∀ v time, (∀ e ∈ es, e.now ≠ time) → ∀ d,
          (resolveDriverIdAtTimestamp reg v time = some d ↔ (heldAt es time).rel d v) ∧
            (resolveDriver reg v time = some d ↔ (heldAt es time).rel d v) := by
  refine ⟨?_, ?_, ?_, ?_⟩
  · intro v
    refine countP_le_one_of_clash fun a b ha hb => .inr (.inl ?_)
    rw [Bool.and_eq_true, beq_iff_eq] at ha hb
    rw [AssignmentRow.openVehicle_eq ha.2, AssignmentRow.openVehicle_eq hb.2, ha.1, hb.1]
    exact taken_some_some.mpr rfl
  · intro d
    refine countP_le_one_of_clash fun a b ha hb => .inr (.inr ?_)
    rw [Bool.and_eq_true, beq_iff_eq] at ha hb
    rw [AssignmentRow.openDriver_eq ha.2, AssignmentRow.openDriver_eq hb.2, ha.1, hb.1]
    exact taken_some_some.mpr rfl
  · exact HistoryTable.disjoint_of_empty h horder
  · intro reg hreg v time htime d
    have hheld := fun d => answers_iff_heldAt (v := v) (d := d) h horder hreg htime
    have hone : ∀ a a', Answers reg v time a → Answers reg v time a' →
        a.driverId = a'.driverId := by
      intro a a' ha ha'
      exact (heldAt es time).left_unique ((hheld _).mp ⟨a, ha, rfl⟩) ((hheld _).mp ⟨a', ha', rfl⟩)
    exact ⟨(resolveDriverIdAtTimestamp_iff hone).trans (hheld d),
      (resolveDriver_iff hone).trans (hheld d)⟩

/-- Two drivers share a vehicle one after the other. -/
def sharedVehicle : List HistoryOp :=
  [.assign ⟨"c1", "d1", "v1"⟩ 10 "r1", .assign ⟨"c1", "d2", "v1"⟩ 20 "r2", .unassign "d2" 30]

theorem history_resolves_sharedVehicle :
    ∃ t, Run HistoryStep .empty (sharedVehicle.map .committed) t ∧
      ∀ reg : Registry, reg.assignments = t.rows.map AssignmentRow.assignment →
        resolveDriver reg "v1" 15 = some "d1" ∧
          resolveDriverIdAtTimestamp reg "v1" 25 = some "d2" ∧ resolveDriver reg "v1" 35 = none := by
  have hsome : (sharedVehicle.foldlM (fun (t : HistoryTable) op => (t.call op).toOption)
      .empty).isSome = true := by
    decide +kernel
  obtain ⟨t, ht⟩ := Option.isSome_iff_exists.mp hsome
  have hrun := HistoryStep.run_of_foldlM ht
  have horder : HistoryTable.InOrder (sharedVehicle.map .committed) := by
    decide
  refine ⟨t, hrun, fun reg hreg => ?_⟩
  have hresolves := (history_resolves hrun horder).2.2.2 reg (List.Perm.of_eq hreg) "v1"
  refine ⟨?_, ?_, ?_⟩
  · exact (hresolves 15 (by decide) "d1").2.mpr (.inl ⟨rfl, rfl⟩)
  · exact (hresolves 25 (by decide) "d2").1.mpr (.inl ⟨rfl, rfl⟩)
  · refine Option.eq_none_iff_forall_ne_some.mpr fun d hd => ?_
    rcases (hresolves 35 (by decide) d).2.mp hd with ⟨hne, ⟨rfl, -⟩ | ⟨-, hne', -⟩⟩
    · exact hne rfl
    · exact hne' rfl

end Resolvers

end DeliveryTracking.Fleet
