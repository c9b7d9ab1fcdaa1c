import Boron.SnapshotJobs.Retained
import Boron.SnapshotJobs.Downloads

namespace Boron.SnapshotJobs

/-- A worker is between its choice of what to forget and the marks on the runs that referred to it. -/
def Task.isRetaining : Task → Bool
  | .run _ _ (.protect _) | .run _ _ (.forget _) | .run _ _ (.expire _) => true
  | _ => false

structure Facts (store : Store) : Prop where
  sound : Sound store
  consistent : Consistent store

structure Wants (i : Nat) (task : Task) (store : Store) : Prop where
  relies : Relies False i task store
  needs : Needs i task store

theorem fresh_wants : Tasks.Holds Facts Wants Panel.fresh := by
  have known (id : Nat) (row : SnapshotRun) (found : Panel.fresh.store.run id = some row) : False := by cases found
  refine ⟨⟨(@fresh_holds False).shared, List.nodup_nil, fun _ => nofun, fun id row found => (known id row found).elim,
    fun _ => nofun, fun id row found => (known id row found).elim⟩, fun i => ⟨trivial, rfl, trivial⟩⟩

variable {quotaHardMb : Nat → Nat}

theorem reaches_wants {start server : Panel} (initial : Tasks.Holds Facts Wants start)
    (reached : Reaches quotaHardMb Unraced start server) : Tasks.Holds Facts Wants server := by
  refine Tasks.Reaches.holds_at initial (fun server who unraced holds => ?_) reached
  obtain ⟨sound, consistent⟩ := holds.shared
  obtain ⟨relies, needs⟩ := holds.relied who.1
  have turned : Turned False who.1 _ server.store (advance quotaHardMb who.1 who.2 (server.task who.1) server.store) :=
    advance_turned sound relies fun never => never.elim
  have passes := advance_passes quotaHardMb sound consistent relies needs unraced.lives fun id member => unraced.marks id member who.1
  have after := passes.moves.consistent consistent passes.unique needs
  refine ⟨⟨turned.sound, after⟩, ⟨turned.relies, passes.needs⟩, fun j other => ⟨?_, ?_⟩⟩
  · refine relies_turned (fun never => never.elim) ⟨sound, fun i => (holds.relied i).relies⟩ j other turned.leaves
  · exact passes.moves.others sound consistent after relies (holds.relied j).relies (holds.relied j).needs other
      (fun id member row found snapshot refers => unraced.promises id member row found snapshot refers j)
      (fun id member => unraced.marks id member j)

/-- As long as nothing races a worker's retention, the recovery point of a pinned run, or of
one with an active download, is not among those that a worker is about to forget; and with no
worker in its retention, every completed run refers to a recovery point that is there. -/
theorem retention_keeps_promises (quotaHardMb : Nat → Nat) (server : Panel)
    (reached : Reaches quotaHardMb Unraced Panel.fresh server) :
    (∀ i id row snapshot, server.store.run id = some row → row.snapshotId = some snapshot → server.store.Promised id →
      snapshot ∉ (server.task i).chosen) ∧
    ((∀ i, (server.task i).isRetaining = false) → ∀ id row, server.store.run id = some row → row.status = .completed →
      ∃ snapshot, row.snapshotId = some snapshot ∧ server.store.Listed row.job snapshot ∧ snapshot ∉ server.store.forgotten) := by
  have holds := reaches_wants fresh_wants reached
  constructor
  · intro i id row snapshot found refers promised chosen
    have phase := (holds.relied i).needs.phase
    cases task : server.task i with
    | run other job phase' =>
      rw [task] at phase chosen
      cases phase' with
      | forget obsolete => exact phase.2.1 id row found snapshot refers chosen promised
      | _ => cases chosen
    | _ => rw [task] at chosen; cases chosen
  · intro resting id row found completed
    obtain ⟨snapshot, refers, kept⟩ := holds.shared.consistent.kept id row found completed
    refine ⟨snapshot, refers, holds.shared.consistent.origin id row found snapshot refers, ?_⟩
    rcases kept with there | ⟨j, taken⟩
    · exact there
    · have quiet := resting j
      rw [(holds.relied j).needs.taking] at taken
      cases task : server.task j with
      | run other job phase' =>
        rw [task] at taken quiet
        cases phase' with
        | expire obsolete => cases quiet
        | _ => cases taken
      | _ => rw [task] at taken; cases taken

def keepOne : Options :=
  { retentionCount := some 1, retentionDaily := none, retentionWeekly := none, retentionMonthly := none }

def stampAt (instant : Int) : Stamp := { instant, year := 2025, month := 1, day := 1, isoYear := 2025, isoWeek := 1 }

/-- Worker `i` takes a queued run as far as `turns` turns; its repository records `instant`. -/
def workedRun (i id turns : Nat) (instant : Int) : List (Nat × Moment) :=
  [(0, .calling (.queuePolicy 1 keepOne [1] [1] fun _ => false)), (i, .calling (.executeRun id))]
    ++ List.replicate turns (i, { Moment.plain with time := some (stampAt instant) })

/-- No turn of the list pins, downloads, marks or stands before its marks. -/
def unracedTurns (quotaHardMb : Nat → Nat) : List (Nat × Moment) → Panel → Bool
  | [], _ => true
  | who :: rest, panel =>
    (promising who.2 (panel.task who.1) panel.store).isEmpty && (marking who.2 (panel.task who.1) panel.store).isEmpty
      && (panel.task who.1).expiring.isEmpty && unracedTurns quotaHardMb rest (panel.turn (advance quotaHardMb) who)

theorem reaches_unraced {start panel : Panel} (reached : Reaches quotaHardMb Unraced start panel)
    (turns : List (Nat × Moment)) (quiet : unracedTurns quotaHardMb turns panel = true) :
    Reaches quotaHardMb Unraced start (panel.after (advance quotaHardMb) turns) := by
  induction turns generalizing panel with
  | nil => exact reached
  | cons who rest ih =>
    unfold unracedTurns at quiet
    simp only [Bool.and_eq_true, List.isEmpty_iff] at quiet
    obtain ⟨⟨⟨promises, marks⟩, lives⟩, further⟩ := quiet
    refine ih (reached.next who ⟨fun id member => ?_, fun id member => ?_, fun taking => absurd lives taking⟩) further
    · rw [promises] at member
      cases member
    · rw [marks] at member
      cases member

/-- The tasks from 3 on have had no turn. -/
theorem resting_after {turns : List (Nat × Moment)} (few : ∀ who ∈ turns, who.1 ≤ 2)
    (rest : ∀ i ≤ 2, ((Panel.fresh.after (advance quotaHardMb) turns).task i).isRetaining = false) (i : Nat) :
    ((Panel.fresh.after (advance quotaHardMb) turns).task i).isRetaining = false := by
  by_cases low : i ≤ 2
  · exact rest i low
  · rw [Tasks.task_after turns Panel.fresh fun who member => by have := few who member; omega]
    rfl

theorem retention_keeps_promises_completed :
    let server := Panel.fresh.after (advance fun _ => 0) (workedRun 1 1 15 10)
    ∃ row snapshot, server.store.run 1 = some row ∧ row.snapshotId = some snapshot ∧ snapshot ∉ server.store.forgotten := by
  intro server
  have reached : Reaches (fun _ => 0) Unraced Panel.fresh server := reaches_unraced .start _ (by decide)
  have resting : ∀ i, (server.task i).isRetaining = false := resting_after (by decide) (by decide)
  have known : ∃ row, server.store.run 1 = some row ∧ row.status = .completed := by decide
  obtain ⟨row, found, completed⟩ := known
  obtain ⟨snapshot, refers, _, there⟩ := (retention_keeps_promises (fun _ => 0) server reached).2 resting 1 row found completed
  exact ⟨row, snapshot, found, refers, there⟩

/-- A run is pinned between the choice and the forget call; and a run whose own recovery
point has an old time stamp is completed without one. -/
theorem promised_point_forgotten : (∃ server, Reaches (fun _ => 0) (fun _ _ => True) Panel.fresh server ∧
      (server.store.run 1).map (fun row => (row.pinned, row.snapshotId)) = some (true, some 1) ∧
      1 ∈ (server.task 2).chosen) ∧
    ∃ server, Reaches (fun _ => 0) (fun _ _ => True) Panel.fresh server ∧
      (∀ i, (server.task i).isRetaining = false) ∧
      (server.store.run 2).map (fun row => (row.status, row.snapshotId)) = some (.completed, some 2) ∧
      2 ∈ server.store.forgotten :=
  ⟨⟨_, Tasks.Reaches.after .start (workedRun 1 1 15 10 ++ workedRun 2 2 12 20
      ++ [(3, .calling (.setRunPin 1 true)), (3, .plain)]), by decide, by decide⟩,
    ⟨_, Tasks.Reaches.after .start (workedRun 1 1 15 10 ++ workedRun 2 2 17 5),
      resting_after (by decide) (by decide), by decide, by decide⟩⟩

end Boron.SnapshotJobs
