/-
# `DeliveryTracking.Tracking.Retention` — what becomes of old positions

The purge of `gps-retention.service.ts`, which takes positions of more than ninety days
a batch at a time, and the archiving of `tracking.service.ts`, which moves those before
a date it is given to another table.  Any number of them run at once, between the
positions that are saved.

    saved = live + archived + purged      each position is in one place
    a purged position is older than ninety days, an archived one than two days

A purge that is left alone takes all that is old, and nothing else (`purgeOldPositions`).
-/
import DeliveryTracking.Runs
import Mathlib.Data.List.Perm.Lattice
import Mathlib.Tactic.Ring

namespace DeliveryTracking.Tracking

/-- `RETENTION_DAYS`, in milliseconds -/
def RETENTION_MS : Int := 90 * 24 * 60 * 60 * 1000

def BATCH_SIZE : Nat := 5000

/-- Younger positions are not archived. -/
def ARCHIVE_MIN_AGE_MS : Int := 48 * 60 * 60 * 1000

/-- A row of `gps_positions`: `columns` are those that the archive takes besides its `id` and
its `timestamp`, `others` those it does not. -/
structure GpsRow (α β : Type) where
  id : String
  companyId : String
  timestamp : Int
  columns : α
  others : β
  deriving DecidableEq, Repr

/-- A row of `gps_positions_archive` -/
structure ArchiveRow (α : Type) where
  id : String
  timestamp : Int
  columns : α
  deriving DecidableEq, Repr

/-- A run of the purge, between its statements; `batch` is what its last `findMany` found. -/
structure Purge where
  cutoff : Int
  batch : Option (List String)
  deriving DecidableEq, Repr

variable {α β : Type}

def GpsRow.archived (r : GpsRow α β) : ArchiveRow α := ⟨r.id, r.timestamp, r.columns⟩

/-- `saved` and `purged` are for the statements; no code reads them. -/
structure Positions (α β : Type) where
  now : Int
  live : List (GpsRow α β)
  archive : List (ArchiveRow α)
  purges : List Purge
  saved : List (GpsRow α β)
  purged : List (GpsRow α β)
  deriving DecidableEq, Repr

inductive RetentionEvent (α β : Type) where
  | advance (t : Int)
  | save (row : GpsRow α β)
  /-- A purge computes its `cutoff`. -/
  | purgeStarts
  | purgeFinds (i : Nat) (batch : List String)
  | purgeDeletes (i : Nat)
  /-- A statement of the purge fails. -/
  | purgeFails (i : Nat)
  /-- `none` is `archiveAllCompaniesPositionsBefore`. -/
  | archive (companyId : Option String) (date : Int)
  deriving DecidableEq, Repr

namespace Positions

def empty (now : Int) : Positions α β := ⟨now, [], [], [], [], []⟩

variable (s : Positions α β)

/-- `findMany` found `batch`: rows before the cutoff, as many as there are or as it takes. -/
def IsBatch (cutoff : Int) (live : List (GpsRow α β)) (batch : List String) : Prop :=
  batch.Nodup ∧ (∀ id ∈ batch, ∃ r ∈ live, r.id = id ∧ r.timestamp < cutoff) ∧
    batch.length = min BATCH_SIZE (live.countP fun r => r.timestamp < cutoff)

instance (cutoff : Int) (live : List (GpsRow α β)) (batch : List String) :
    Decidable (IsBatch cutoff live batch) :=
  inferInstanceAs (Decidable (_ ∧ _ ∧ _))

/-- An empty batch ends the loop. -/
def purgeFinds (i : Nat) (p : Purge) (batch : List String) : Positions α β :=
  if batch = [] then { s with purges := s.purges.eraseIdx i }
  else { s with purges := s.purges.set i { p with batch := some batch } }

/-- So does one that is not full, once its rows are deleted. -/
def purgeDeletes (i : Nat) (p : Purge) (batch : List String) : Positions α β :=
  { s with
    live := s.live.filter fun r => r.id ∉ batch
    purged := s.purged ++ s.live.filter fun r => r.id ∈ batch
    purges :=
      if batch.length < BATCH_SIZE then s.purges.eraseIdx i
      else s.purges.set i { p with batch := none } }

/-- What the archiving takes. -/
def archives (companyId : Option String) (date : Int) (r : GpsRow α β) : Bool :=
  companyId.all (r.companyId = ·) && r.timestamp < date

/-- One statement moves the rows. -/
def archivePositionsBefore (companyId : Option String) (date : Int) : Positions α β :=
  if s.now - ARCHIVE_MIN_AGE_MS < date then s
  else
    { s with
      live := s.live.filter fun r => !archives companyId date r
      archive := s.archive ++ (s.live.filter (archives companyId date)).map GpsRow.archived }

def step (s : Positions α β) : RetentionEvent α β → Option (Positions α β)
  | .advance t => if s.now ≤ t then some { s with now := t } else none
  | .save row =>
      if row.id ∈ s.saved.map GpsRow.id then none
      else some { s with live := row :: s.live, saved := row :: s.saved }
  | .purgeStarts => some { s with purges := s.purges ++ [⟨s.now - RETENTION_MS, none⟩] }
  | .purgeFinds i batch =>
      match s.purges[i]? with
      | some ⟨cutoff, none⟩ =>
          if IsBatch cutoff s.live batch then some (s.purgeFinds i ⟨cutoff, none⟩ batch) else none
      | _ => none
  | .purgeDeletes i =>
      match s.purges[i]? with
      | some ⟨cutoff, some batch⟩ => some (s.purgeDeletes i ⟨cutoff, some batch⟩ batch)
      | _ => none
  | .purgeFails i =>
      if i < s.purges.length then some { s with purges := s.purges.eraseIdx i } else none
  | .archive companyId date => some (s.archivePositionsBefore companyId date)

/-! ## Nothing is lost, and nothing young is taken -/

/-- The batch of a purge, and the cutoff, are about rows that were saved. -/
structure Purge.Sound (s : Positions α β) (p : Purge) : Prop where
  cutoff : p.cutoff ≤ s.now - RETENTION_MS
  batch : ∀ batch, p.batch = some batch → ∀ id ∈ batch, ∃ r ∈ s.saved, r.id = id ∧
    r.timestamp < p.cutoff

structure Kept (s : Positions α β) : Prop where
  nodup : (s.saved.map GpsRow.id).Nodup
  live_saved : ∀ r ∈ s.live, r ∈ s.saved
  perm : (s.saved.map GpsRow.archived).Perm
    ((s.live ++ s.purged).map GpsRow.archived ++ s.archive)
  purges : ∀ p ∈ s.purges, Purge.Sound s p
  purged_old : ∀ r ∈ s.purged, r.timestamp < s.now - RETENTION_MS
  archive_old : ∀ r ∈ s.archive, r.timestamp < s.now - ARCHIVE_MIN_AGE_MS

variable {s t : Positions α β}

/-- Taking the elements with a property out of one list, and putting them behind another. -/
theorem move_perm {γ δ : Type} (f : γ → δ) (p : γ → Bool) (l : List γ) (m : List δ) :
    (l.map f ++ m).Perm ((l.filter (!p ·)).map f ++ (m ++ (l.filter p).map f)) := by
  have hsplit : (l.map f).Perm ((l.filter (!p ·)).map f ++ (l.filter p).map f) := by
    rw [← List.map_append]
    exact ((List.filter_append_perm p l).symm.trans List.perm_append_comm).map f
  refine (hsplit.append_right m).trans ?_
  rw [List.append_assoc]
  exact List.perm_append_comm.append_left _

theorem Kept.purgeDeletes (h : s.Kept) {i : Nat} {p : Purge} {batch : List String}
    (hp : s.purges[i]? = some p) (hbatch : p.batch = some batch) :
    (s.purgeDeletes i p batch).Kept := by
  have hsound : Purge.Sound s p := h.purges p (List.mem_of_getElem? hp)
  have hold : ∀ r ∈ s.live, r.id ∈ batch → r.timestamp < s.now - RETENTION_MS := by
    intro r hr hid
    -- the row of that id is the one that was found
    obtain ⟨r', hr', hid', hlt⟩ := hsound.batch batch hbatch r.id hid
    obtain rfl : r' = r := List.inj_on_of_nodup_map h.nodup hr' (h.live_saved r hr) hid'
    exact lt_of_lt_of_le hlt hsound.cutoff
  refine { nodup := h.nodup, live_saved := ?_, perm := ?_, purges := ?_, purged_old := ?_,
           archive_old := h.archive_old }
  · intro r hr
    exact h.live_saved r (List.mem_filter.mp hr).1
  · refine h.perm.trans (List.Perm.append_right _ ?_)
    have hmove := move_perm GpsRow.archived (fun r => decide (r.id ∈ batch)) s.live
      (s.purged.map GpsRow.archived)
    show ((s.live ++ s.purged).map GpsRow.archived).Perm
      ((s.live.filter _ ++ (s.purged ++ s.live.filter _)).map GpsRow.archived)
    rw [List.map_append, List.map_append, List.map_append]
    simpa only [decide_not] using hmove
  · intro q hq
    have hq' : q = { p with batch := none } ∨ q ∈ s.purges := by
      have hmem : q ∈ (if batch.length < BATCH_SIZE then s.purges.eraseIdx i
        else s.purges.set i { p with batch := none }) := hq
      split at hmem
      · exact Or.inr (List.mem_of_mem_eraseIdx hmem)
      · exact (List.mem_or_eq_of_mem_set hmem).symm
    rcases hq' with rfl | hq'
    · exact { cutoff := hsound.cutoff, batch := by intro b hb; cases hb }
    · exact { h.purges q hq' with }
  · intro r hr
    rcases List.mem_append.mp hr with hr | hr
    · exact h.purged_old r hr
    · obtain ⟨hlive, hid⟩ := List.mem_filter.mp hr
      exact hold r hlive (of_decide_eq_true hid)

theorem Kept.purgeFinds (h : s.Kept) {i : Nat} {cutoff : Int} {batch : List String}
    (hp : s.purges[i]? = some ⟨cutoff, none⟩) (hbatch : IsBatch cutoff s.live batch) :
    (s.purgeFinds i ⟨cutoff, none⟩ batch).Kept := by
  have hsound : Purge.Sound s ⟨cutoff, none⟩ := h.purges _ (List.mem_of_getElem? hp)
  have hpurges : ∀ q ∈ (s.purgeFinds i ⟨cutoff, none⟩ batch).purges, Purge.Sound s q := by
    intro q hq
    unfold Positions.purgeFinds at hq
    split at hq
    · exact h.purges q (List.mem_of_mem_eraseIdx hq)
    · rcases List.mem_or_eq_of_mem_set hq with hq | rfl
      · exact h.purges q hq
      · refine { cutoff := hsound.cutoff, batch := ?_ }
        intro b hb id hid
        obtain rfl := Option.some.inj hb
        obtain ⟨r, hr, hrid, hlt⟩ := hbatch.2.1 id hid
        exact ⟨r, h.live_saved r hr, hrid, hlt⟩
  have hsame : (s.purgeFinds i ⟨cutoff, none⟩ batch) =
      { s with purges := (s.purgeFinds i ⟨cutoff, none⟩ batch).purges } := by
    unfold Positions.purgeFinds
    split <;> rfl
  rw [hsame]
  exact { h with purges := fun q hq => { hpurges q hq with } }

theorem Kept.archive (h : s.Kept) (companyId : Option String) (date : Int) :
    (s.archivePositionsBefore companyId date).Kept := by
  unfold Positions.archivePositionsBefore
  split
  · exact h
  · rename_i hdate
    refine { h with live_saved := ?_, perm := ?_, archive_old := ?_,
                    purges := fun p hp => { h.purges p hp with } }
    · intro r hr
      exact h.live_saved r (List.mem_filter.mp hr).1
    · have hmove := move_perm GpsRow.archived (archives companyId date) s.live
        (s.purged.map GpsRow.archived ++ s.archive)
      refine h.perm.trans ?_
      show ((s.live ++ s.purged).map GpsRow.archived ++ s.archive).Perm
        ((s.live.filter _ ++ s.purged).map GpsRow.archived ++ (s.archive ++ _))
      rw [List.map_append, List.map_append, List.append_assoc, List.append_assoc]
      simpa only [List.append_assoc] using hmove
    · intro r hr
      rcases List.mem_append.mp hr with hr | hr
      · exact h.archive_old r hr
      · obtain ⟨r', hr', rfl⟩ := List.mem_map.mp hr
        obtain ⟨-, harchives⟩ := List.mem_filter.mp hr'
        have hlt : r'.timestamp < date := of_decide_eq_true (Bool.and_eq_true_iff.mp harchives).2
        show r'.timestamp < s.now - ARCHIVE_MIN_AGE_MS
        omega

theorem kept_step {e : RetentionEvent α β} (h : s.Kept) (hstep : step s e = some t) : t.Kept := by
  cases e with
  | advance now =>
      obtain ⟨hnow, ⟨⟩⟩ := Option.ite_none_right_eq_some.mp hstep
      refine { h with purges := ?_, purged_old := ?_, archive_old := ?_ }
      · intro p hp
        have hsound := h.purges p hp
        exact { hsound with cutoff := hsound.cutoff.trans (sub_le_sub_right hnow _) }
      · intro r hr
        exact (h.purged_old r hr).trans_le (sub_le_sub_right hnow _)
      · intro r hr
        exact (h.archive_old r hr).trans_le (sub_le_sub_right hnow _)
  | save row =>
      simp only [step] at hstep
      split_ifs at hstep with hfresh
      obtain rfl := Option.some.inj hstep
      refine { h with nodup := ?_, live_saved := ?_, perm := ?_, purges := ?_ }
      · exact List.nodup_cons.mpr ⟨hfresh, h.nodup⟩
      · intro r hr
        rcases List.mem_cons.mp hr with rfl | hr
        · exact List.mem_cons_self ..
        · exact List.mem_cons_of_mem _ (h.live_saved r hr)
      · exact h.perm.cons _
      · intro p hp
        have hsound := h.purges p hp
        refine { cutoff := hsound.cutoff, batch := ?_ }
        intro b hb id hid
        obtain ⟨r, hr, hrest⟩ := hsound.batch b hb id hid
        exact ⟨r, List.mem_cons_of_mem _ hr, hrest⟩
  | purgeStarts =>
      obtain rfl := Option.some.inj hstep
      refine { h with purges := ?_ }
      intro p hp
      rcases List.mem_append.mp hp with hp | hp
      · exact { h.purges p hp with }
      · rw [List.mem_singleton.mp hp]
        exact { cutoff := le_refl _, batch := by intro b hb; cases hb }
  | purgeFinds i batch =>
      simp only [step] at hstep
      split at hstep
      · rename_i cutoff hp
        obtain ⟨hbatch, ⟨⟩⟩ := Option.ite_none_right_eq_some.mp hstep
        exact h.purgeFinds hp hbatch
      · cases hstep
  | purgeDeletes i =>
      simp only [step] at hstep
      split at hstep
      · rename_i cutoff batch hp
        obtain rfl := Option.some.inj hstep
        exact h.purgeDeletes hp rfl
      · cases hstep
  | purgeFails i =>
      obtain ⟨-, ⟨⟩⟩ := Option.ite_none_right_eq_some.mp hstep
      exact { h with purges := fun p hp => { h.purges p (List.mem_of_mem_eraseIdx hp) with } }
  | archive companyId date =>
      obtain rfl := Option.some.inj hstep
      exact h.archive companyId date

theorem kept_empty (now : Int) : (empty now : Positions α β).Kept where
  nodup := List.nodup_nil
  live_saved := by intro r hr; cases hr
  perm := List.Perm.refl _
  purges := by intro p hp; cases hp
  purged_old := by intro r hr; cases hr
  archive_old := by intro r hr; cases hr

/-- In every run, each position that was saved is once, and in one place: in the table, in the
archive with the columns that it takes, or purged; it is purged only when it is older than ninety
days, and archived only when it is older than two. -/
theorem retention_conserves {now : Int} {es : List (RetentionEvent α β)}
    (h : Run (Steps step) (empty now) es s) :
    (s.saved.map GpsRow.archived).Perm ((s.live ++ s.purged).map GpsRow.archived ++ s.archive) ∧
      ((s.live ++ s.purged).map GpsRow.id ++ s.archive.map ArchiveRow.id).Nodup ∧
      (∀ r ∈ s.purged, r.timestamp < s.now - RETENTION_MS) ∧
      ∀ r ∈ s.archive, r.timestamp < s.now - ARCHIVE_MIN_AGE_MS := by
  have hkept : s.Kept := h.invariant (I := Kept) kept_step (kept_empty now)
  refine ⟨hkept.perm, ?_, hkept.purged_old, hkept.archive_old⟩
  have hids : (s.saved.map GpsRow.id).Perm
      ((s.live ++ s.purged).map GpsRow.id ++ s.archive.map ArchiveRow.id) := by
    have hmap := hkept.perm.map ArchiveRow.id
    have hcomp : ArchiveRow.id ∘ GpsRow.archived = (GpsRow.id : GpsRow α β → String) := rfl
    rw [List.map_append, List.map_map, List.map_map, hcomp] at hmap
    exact hmap
  exact hids.nodup_iff.mp hkept.nodup

/-- A position of the first day is purged, between one that is archived and one that is saved. -/
def ninetyDays : List (RetentionEvent Unit Unit) :=
  [.save ⟨"p1", "c1", 0, (), ()⟩, .save ⟨"p2", "c2", 1, (), ()⟩, .advance 7776000002, .purgeStarts,
    .purgeFinds 0 ["p1", "p2"], .archive (some "c2") 5, .save ⟨"p3", "c1", 7776000002, (), ()⟩,
    .purgeDeletes 0]

theorem retention_conserves_ninetyDays : ∃ s, Run (Steps step) (empty 0) ninetyDays s ∧
    s.purged.map GpsRow.id = ["p1"] ∧
    ((s.live ++ s.purged).map GpsRow.id ++ s.archive.map ArchiveRow.id).Nodup := by
  have hend : (ninetyDays.foldlM step (empty 0)).any (fun s =>
      s.purged.map GpsRow.id = ["p1"]) = true := by decide +kernel
  obtain ⟨s, hrun, hpurged⟩ := Run.of_foldlM_any hend
  exact ⟨s, hrun, of_decide_eq_true hpurged, (retention_conserves hrun).2.1⟩

/-! ## A purge that is left alone -/

/-- A `findMany` that takes the first rows. -/
theorem isBatch_take {cutoff : Int} {live : List (GpsRow α β)}
    (hnodup : (live.map GpsRow.id).Nodup) : IsBatch cutoff live
      (((live.filter fun r => r.timestamp < cutoff).map GpsRow.id).take BATCH_SIZE) := by
  refine ⟨?_, ?_, ?_⟩
  · exact hnodup.sublist ((List.take_sublist ..).trans (List.filter_sublist.map _))
  · intro id hid
    obtain ⟨r, hr, rfl⟩ := List.mem_map.mp (List.mem_of_mem_take hid)
    obtain ⟨hlive, hlt⟩ := List.mem_filter.mp hr
    exact ⟨r, hlive, rfl, of_decide_eq_true hlt⟩
  · rw [List.length_take, List.length_map, List.countP_eq_length_filter]

/-- The rows of a batch, in a table where the ids are distinct, are as many as its ids. -/
theorem length_filter_batch {cutoff : Int} {live : List (GpsRow α β)} {batch : List String}
    (hnodup : (live.map GpsRow.id).Nodup) (h : IsBatch cutoff live batch) :
    (live.filter fun r => r.id ∈ batch).length = batch.length := by
  have hperm : ((live.filter fun r => r.id ∈ batch).map GpsRow.id).Perm batch := by
    refine (List.perm_ext_iff_of_nodup ?_ h.1).mpr ?_
    · exact hnodup.sublist (List.filter_sublist.map _)
    · intro id
      constructor
      · intro hid
        obtain ⟨r, hr, rfl⟩ := List.mem_map.mp hid
        exact of_decide_eq_true (List.mem_filter.mp hr).2
      · intro hid
        obtain ⟨r, hr, rfl, -⟩ := h.2.1 id hid
        exact List.mem_map.mpr ⟨r, List.mem_filter.mpr ⟨hr, decide_eq_true hid⟩, rfl⟩
  rw [← hperm.length_eq, List.length_map]

/-- The rows of a batch are all old. -/
theorem old_of_mem_batch {cutoff : Int} {live : List (GpsRow α β)} {batch : List String}
    (hnodup : (live.map GpsRow.id).Nodup) (h : IsBatch cutoff live batch) {r : GpsRow α β}
    (hr : r ∈ live) (hid : r.id ∈ batch) : r.timestamp < cutoff := by
  obtain ⟨r', hr', hid', hlt⟩ := h.2.1 r.id hid
  obtain rfl : r' = r := List.inj_on_of_nodup_map hnodup hr' hr hid'
  exact hlt

/-- Deleting a batch leaves what is young, and that many fewer that are old. -/
theorem delete_batch {cutoff : Int} {live : List (GpsRow α β)} {batch : List String}
    (hnodup : (live.map GpsRow.id).Nodup) (h : IsBatch cutoff live batch) :
    ((live.filter fun r => r.id ∉ batch).filter fun r => cutoff ≤ r.timestamp) =
        live.filter (fun r => cutoff ≤ r.timestamp) ∧
      batch.length + (live.filter fun r => r.id ∉ batch).countP (fun r => r.timestamp < cutoff) =
        live.countP fun r => r.timestamp < cutoff := by
  constructor
  · rw [List.filter_filter]
    refine List.filter_congr ?_
    intro r hr
    by_cases hid : r.id ∈ batch
    · have hlt : r.timestamp < cutoff := old_of_mem_batch hnodup h hr hid
      simp [hid, hlt]
    · simp [hid]
  · have hall : ((live.filter fun r => r.id ∈ batch).countP fun r => r.timestamp < cutoff) =
        batch.length := by
      rw [← length_filter_batch hnodup h]
      refine List.countP_eq_length.mpr ?_
      intro r hr
      obtain ⟨hlive, hid⟩ := List.mem_filter.mp hr
      exact decide_eq_true (old_of_mem_batch hnodup h hlive (of_decide_eq_true hid))
    have hsplit := (List.filter_append_perm (fun r => decide (r.id ∈ batch)) live).countP_eq
      fun r => decide (r.timestamp < cutoff)
    rw [List.countP_append, hall] at hsplit
    simpa only [decide_not] using hsplit

/-- The loop of `purgeOldPositions`, where nothing comes between its statements: `find` is what
`findMany` answers.  The rows it leaves, and its `totalDeleted`. -/
def purgeOldPositions (find : List (GpsRow α β) → List String) :
    Nat → List (GpsRow α β) → Nat → Option (List (GpsRow α β) × Nat)
  | 0, _, _ => none
  | fuel + 1, live, totalDeleted =>
      if find live = [] then some (live, totalDeleted)
      else if (find live).length < BATCH_SIZE then
        some (live.filter fun r => r.id ∉ find live, totalDeleted + (find live).length)
      else
        purgeOldPositions find fuel (live.filter fun r => r.id ∉ find live)
          (totalDeleted + (find live).length)

theorem filter_young_eq_self {cutoff : Int} {live : List (GpsRow α β)}
    (h : live.countP (fun r => r.timestamp < cutoff) = 0) :
    live.filter (fun r => cutoff ≤ r.timestamp) = live := by
  refine List.filter_eq_self.mpr ?_
  intro r hr
  have hnot := List.countP_eq_zero.mp h r hr
  rw [decide_eq_true_eq, not_lt] at hnot
  exact decide_eq_true hnot

/-- Whatever old rows each `findMany` picks, the loop ends, having deleted the old rows and nothing
else, and counted them. -/
theorem purgeOldPositions_eq {cutoff : Int} {find : List (GpsRow α β) → List String}
    (hfind : ∀ live, (live.map GpsRow.id).Nodup → IsBatch cutoff live (find live)) :
    ∀ (fuel : Nat) (live : List (GpsRow α β)) (totalDeleted : Nat), (live.map GpsRow.id).Nodup →
      live.countP (fun r => r.timestamp < cutoff) < fuel * BATCH_SIZE →
        purgeOldPositions find fuel live totalDeleted =
          some (live.filter fun r => cutoff ≤ r.timestamp,
            totalDeleted + live.countP fun r => r.timestamp < cutoff) := by
  intro fuel
  induction fuel with
  | zero =>
      intro live totalDeleted _ hlt
      rw [Nat.zero_mul] at hlt
      cases hlt
  | succ fuel ih =>
      intro live totalDeleted hnodup hlt
      have hbatch : IsBatch cutoff live (find live) := hfind live hnodup
      obtain ⟨hyoung, hold⟩ := delete_batch hnodup hbatch
      have hlength := hbatch.2.2
      unfold purgeOldPositions
      split
      · rename_i hempty
        rw [hempty, List.length_nil] at hlength
        have hnone : live.countP (fun r => r.timestamp < cutoff) = 0 := by
          unfold BATCH_SIZE at hlength
          omega
        rw [filter_young_eq_self hnone, hnone, Nat.add_zero]
      · split
        · rename_i hshort
          have hnone : (live.filter fun r => r.id ∉ find live).countP
              (fun r => r.timestamp < cutoff) = 0 := by omega
          have hcount : (find live).length = live.countP fun r => r.timestamp < cutoff := by omega
          rw [← hyoung, filter_young_eq_self hnone, hcount]
        · rename_i hfull
          have hnodup' : ((live.filter fun r => r.id ∉ find live).map GpsRow.id).Nodup :=
            hnodup.sublist (List.filter_sublist.map _)
          have hless : (live.filter fun r => r.id ∉ find live).countP
              (fun r => r.timestamp < cutoff) < fuel * BATCH_SIZE := by
            rw [Nat.succ_mul] at hlt
            omega
          rw [ih _ _ hnodup' hless, hyoung]
          refine congrArg some (Prod.ext rfl ?_)
          show _ + _ + _ = _
          omega

theorem purgeOldPositions_eq_take :
    purgeOldPositions (α := Unit) (β := Unit) (fun live =>
      ((live.filter fun r => r.timestamp < 5).map GpsRow.id).take BATCH_SIZE) 1
      [⟨"p1", "c1", 0, (), ()⟩, ⟨"p2", "c1", 9, (), ()⟩] 0 =
        some ([⟨"p2", "c1", 9, (), ()⟩], 1) :=
  purgeOldPositions_eq (fun _ hnodup => isBatch_take hnodup) 1 _ 0 (by decide) (by decide)

end Positions

end DeliveryTracking.Tracking
