/-
# `DeliveryTracking.Phone.LocationQueue` — the native queue of positions

The Android service writes each position to an SQLite table of its own, which
outlives the web view.  The upload worker takes the oldest positions that are not
synced, marks those the server has answered for, and prunes the table: synced
rows after 30 days, the others after 29, and the oldest of these above a cap.

    capUnsynced_deletes   above the cap a row that goes is no younger than the
                          50 000 that stay
-/
import Mathlib.Data.List.Sort

namespace DeliveryTracking.Phone

/-- A row of `position_queue`; `fix` is the vehicle, the delivery and what was measured. -/
structure LocationRow (α : Type) where
  id : Nat
  timestampMs : Int
  synced : Bool
  createdAt : Int
  fix : α
  deriving DecidableEq, Repr

/-- The table, with the next id of its key. -/
structure LocationQueueDb (α : Type) where
  next : Nat
  rows : List (LocationRow α)
  sorted : rows.Pairwise fun p q => p.id < q.id
  fresh : ∀ p ∈ rows, p.id < next

variable {α : Type}

/-- `SYNCED_RETENTION_MS` -/
def syncedRetentionMs : Int := 30 * 24 * 60 * 60 * 1000

/-- `MAX_UNSYNCED_ROWS` -/
def maxUnsyncedRows : Nat := 50000

/-- `UNSYNCED_MAX_AGE_MS` -/
def unsyncedMaxAgeMs : Int := 29 * 24 * 60 * 60 * 1000

/-- `ORDER BY timestamp_ms ASC LIMIT` -/
def oldest (limit : Nat) (rows : List (LocationRow α)) : List (LocationRow α) :=
  (rows.insertionSort fun p q => p.timestampMs ≤ q.timestampMs).take limit

/-- What comes after them. -/
def younger (limit : Nat) (rows : List (LocationRow α)) : List (LocationRow α) :=
  (rows.insertionSort fun p q => p.timestampMs ≤ q.timestampMs).drop limit

/-- `synced = 1` -/
def LocationRow.mark (p : LocationRow α) : LocationRow α := { p with synced := true }

namespace LocationQueueDb

variable (db : LocationQueueDb α)

def insert (timestampMs createdAt : Int) (fix : α) : LocationQueueDb α where
  next := db.next + 1
  rows := db.rows ++ [⟨db.next, timestampMs, false, createdAt, fix⟩]
  sorted := by
    refine List.pairwise_append.mpr ⟨db.sorted, List.pairwise_singleton _ _, ?_⟩
    intro p hp q hq
    rw [List.mem_singleton.mp hq]
    exact db.fresh p hp
  fresh := by
    intro p hp
    rcases List.mem_append.mp hp with hp | hp
    · exact Nat.lt_succ_of_lt (db.fresh p hp)
    · rw [List.mem_singleton.mp hp]
      exact Nat.lt_succ_self _

def unsynced : List (LocationRow α) := db.rows.filter fun p => !p.synced

def countUnsynced : Nat := db.unsynced.length

def getUnsyncedBatch (limit : Nat) : List (LocationRow α) := oldest limit db.unsynced

def markSynced (ids : List Nat) : LocationQueueDb α where
  next := db.next
  rows := db.rows.map fun p => if p.id ∈ ids then p.mark else p
  sorted := by
    rw [List.pairwise_map]
    refine db.sorted.imp ?_
    intro p q hlt
    split <;> split <;> exact hlt
  fresh := by
    refine List.forall_mem_map.mpr ?_
    intro p hp
    split <;> exact db.fresh p hp

/-- `DELETE … WHERE` -/
def deleteWhere (which : LocationRow α → Bool) : LocationQueueDb α where
  next := db.next
  rows := db.rows.filter fun p => !which p
  sorted := db.sorted.filter _
  fresh p hp := db.fresh p (List.mem_filter.mp hp).1

/-! ### `pruneOld` -/

def pruneSynced (now : Int) : LocationQueueDb α :=
  let cutoff := now - syncedRetentionMs
  db.deleteWhere fun p => p.synced && decide (p.createdAt < cutoff)

def pruneStale (now : Int) : LocationQueueDb α :=
  let staleCutoff := now - unsyncedMaxAgeMs
  db.deleteWhere fun p => !p.synced && decide (p.timestampMs < staleCutoff)

def capUnsynced : LocationQueueDb α :=
  let unsyncedCount := db.countUnsynced
  if maxUnsyncedRows < unsyncedCount then
    let overflow := unsyncedCount - maxUnsyncedRows
    db.deleteWhere fun p => ((oldest overflow db.unsynced).map LocationRow.id).contains p.id
  else db

/-! ## What they do to a row -/

variable {db} {p q : LocationRow α}

theorem nodup_ids (db : LocationQueueDb α) : (db.rows.map LocationRow.id).Nodup := by
  rw [List.Nodup, List.pairwise_map]
  exact db.sorted.imp Nat.ne_of_lt

theorem eq_of_id (hp : p ∈ db.rows) (hq : q ∈ db.rows) (h : p.id = q.id) : p = q :=
  List.inj_on_of_nodup_map db.nodup_ids hp hq h

theorem mem_unsynced : p ∈ db.unsynced ↔ p ∈ db.rows ∧ p.synced = false := by
  simp [unsynced, List.mem_filter]

theorem nodup_unsynced (db : LocationQueueDb α) : (db.unsynced.map LocationRow.id).Nodup :=
  db.nodup_ids.sublist (List.filter_sublist.map _)

theorem mem_markSynced {ids : List Nat} (hq : q ∈ (db.markSynced ids).rows) :
    q ∈ db.rows ∨ q.id ∈ ids := by
  obtain ⟨p, hp, rfl⟩ := List.mem_map.mp hq
  split
  · rename_i hid
    exact Or.inr hid
  · exact Or.inl hp

theorem markSynced_keeps (ids : List Nat) (hp : p ∈ db.rows) :
    p ∈ (db.markSynced ids).rows ∨ p.mark ∈ (db.markSynced ids).rows := by
  have hmem : (if p.id ∈ ids then p.mark else p) ∈ (db.markSynced ids).rows :=
    List.mem_map_of_mem hp
  split at hmem
  · exact Or.inr hmem
  · exact Or.inl hmem

theorem mem_deleteWhere {which : LocationRow α → Bool} :
    p ∈ (db.deleteWhere which).rows ↔ p ∈ db.rows ∧ which p = false := by
  simp [deleteWhere, List.mem_filter]

theorem mem_of_mem_capUnsynced (hp : p ∈ db.capUnsynced.rows) : p ∈ db.rows := by
  simp only [capUnsynced] at hp
  split at hp
  · exact (mem_deleteWhere.mp hp).1
  · exact hp

end LocationQueueDb

/-! ## The oldest rows -/

section

variable {limit : Nat} {rows : List (LocationRow α)} {p q : LocationRow α}

theorem oldest_append_younger (limit : Nat) (rows : List (LocationRow α)) :
    (oldest limit rows ++ younger limit rows).Perm rows := by
  rw [oldest, younger, List.take_append_drop]
  exact List.perm_insertionSort _ rows

theorem mem_of_mem_oldest (hp : p ∈ oldest limit rows) : p ∈ rows :=
  (oldest_append_younger limit rows).mem_iff.mp (List.mem_append_left _ hp)

theorem oldest_le_younger (hp : p ∈ oldest limit rows) (hq : q ∈ younger limit rows) :
    p.timestampMs ≤ q.timestampMs := by
  have hsorted : (rows.insertionSort fun p q => p.timestampMs ≤ q.timestampMs).Pairwise
      fun p q => p.timestampMs ≤ q.timestampMs := List.pairwise_insertionSort _ _
  rw [← List.take_append_drop limit (rows.insertionSort _)] at hsorted
  exact (List.pairwise_append.mp hsorted).2.2 p hp q hq

/-- Without the oldest the younger ones are left. -/
theorem filter_oldest_perm (hids : (rows.map LocationRow.id).Nodup) :
    (rows.filter fun p => !((oldest limit rows).map LocationRow.id).contains p.id).Perm
      (younger limit rows) := by
  have hperm := oldest_append_younger limit rows
  have hdisjoint := (hperm.map LocationRow.id).nodup_iff.mpr hids
  rw [List.map_append] at hdisjoint
  have hapart := (List.nodup_append.mp hdisjoint).2.2
  refine (hperm.symm.filter _).trans ?_
  rw [List.filter_append, List.filter_eq_nil_iff.mpr, List.filter_eq_self.mpr, List.nil_append]
  · intro q hq
    have hnot : q.id ∉ (oldest limit rows).map LocationRow.id := by
      intro hmem
      exact hapart q.id hmem q.id (List.mem_map_of_mem hq) rfl
    simpa using hnot
  · intro p hp
    simpa using ⟨p, hp, rfl⟩

end

namespace LocationQueueDb

variable {db : LocationQueueDb α} {p q : LocationRow α}

/-- **Above the cap as many rows stay as it allows, and none of them is older than one that goes.** -/
theorem capUnsynced_deletes (hp : p ∈ db.rows) (hgone : p ∉ db.capUnsynced.rows) :
    db.capUnsynced.countUnsynced = maxUnsyncedRows
      ∧ ∀ q ∈ db.capUnsynced.unsynced, p.timestampMs ≤ q.timestampMs := by
  simp only [capUnsynced] at hgone ⊢
  split at hgone
  · rename_i hover
    rw [if_pos hover]
    have hleft : (db.deleteWhere fun p => ((oldest (db.countUnsynced - maxUnsyncedRows)
        db.unsynced).map LocationRow.id).contains p.id).unsynced.Perm
          (younger (db.countUnsynced - maxUnsyncedRows) db.unsynced) := by
      refine List.Perm.trans (List.Perm.of_eq ?_) (filter_oldest_perm db.nodup_unsynced)
      simp only [unsynced, deleteWhere, List.filter_filter, Bool.and_comm]
    constructor
    · rw [countUnsynced, hleft.length_eq, younger, List.length_drop, List.length_insertionSort]
      exact Nat.sub_sub_self (Nat.le_of_lt hover)
    · intro q hq
      refine oldest_le_younger ?_ (hleft.mem_iff.mp hq)
      have hid : p.id ∈ (oldest (db.countUnsynced - maxUnsyncedRows) db.unsynced).map
          LocationRow.id := by
        by_contra hnot
        exact hgone (mem_deleteWhere.mpr ⟨hp, by simpa using hnot⟩)
      obtain ⟨r, hr, hrid⟩ := List.mem_map.mp hid
      obtain rfl : r = p := eq_of_id (mem_unsynced.mp (mem_of_mem_oldest hr)).1 hp hrid
      exact hr
  · exact absurd hp hgone

end LocationQueueDb

end DeliveryTracking.Phone
