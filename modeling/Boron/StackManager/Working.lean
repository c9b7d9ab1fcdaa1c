import Boron.StackManager.Sound

namespace Boron.StackManager
open List

variable {daemon left : Daemon} {mark : Mark}

theorem cancel_sound {i id : Nat} (sound : Sound daemon) :
    Sound (cancelTurn i id mark daemon) ∧ KeepsEnded daemon (cancelTurn i id mark daemon) := by
  unfold cancelTurn
  cases daemon.cancels i with
  | none =>
    dsimp only
    split
    · exact ⟨⟨sound.placed.same rfl rfl rfl fun _ _ => Iff.rfl, sound.watched.aside ⟨rfl, rfl, rfl, rfl⟩ rfl rfl
        (fun version removes => sound.watched.unused version (removes.same rfl rfl rfl))
        (fun queued => queued) fun j submits => .inr (.inr ⟨j, submits⟩)⟩, keepsEnded_rows rfl⟩
    · exact ⟨sound, keepsEnded_rows rfl⟩
  | some asked =>
    dsimp only
    split
    · exact ⟨⟨sound.placed.same rfl rfl rfl fun _ _ => Iff.rfl, sound.watched.aside ⟨rfl, rfl, rfl, rfl⟩ rfl rfl
        (fun version removes => sound.watched.unused version (removes.same rfl rfl rfl))
        (fun queued => queued) fun j submits => .inr (.inr ⟨j, submits⟩)⟩, keepsEnded_rows rfl⟩
    · refine ⟨⟨?_, ?_⟩, fun job member _ => ?_⟩
      · exact @Placed.notes daemon _ asked (fun job => { job with cancelRequested := true, detail := some cancelDetail })
          sound.placed rfl (fun _ => ⟨⟨rfl, rfl, rfl, rfl⟩, rfl⟩) rfl rfl (fun _ => Iff.rfl)
          fun job stage running => ⟨fun at_ => ⟨stage, at_, running⟩, fun at_ => ⟨stage, at_, running⟩⟩
      · refine sound.watched.aside ⟨rfl, rfl, rfl, rfl⟩ rfl rfl (fun version removes => sound.watched.unused version
          (removes.before (fun _ _ asks => asks) (fun job member waits => ?_) fun _ stage works will => ⟨stage, works, will⟩))
          (fun queued => queued) fun j submits => .inr (.inr ⟨j, submits⟩)
        obtain ⟨earlier, inside, rfl⟩ := mem_setJob member
        split at waits
        · next own =>
          rw [if_pos own]
          exact ⟨earlier, inside, ⟨rfl, rfl, rfl, rfl⟩, waits⟩
        · next other =>
          rw [if_neg other]
          exact ⟨earlier, inside, ⟨rfl, rfl, rfl, rfl⟩, waits⟩
      · refine ⟨_, setJob_mem member, ?_⟩
        split
        · exact ⟨rfl, rfl⟩
        · exact ⟨rfl, rfl⟩

variable {inventory : Inventory}

theorem inventory_self {i : Nat} : (daemon.inventory i inventory).inventories i = inventory := by
  exact Function.update_self ..

theorem inventory_other {i j : Nat} (other : j ≠ i) :
    (daemon.inventory i inventory).inventories j = daemon.inventories j := by
  exact Function.update_of_ne other ..

theorem inventory_moves {i : Nat} (sound : Sound daemon) (before : daemon.inventories i ≠ .submitting) :
    Sound (daemon.inventory i inventory) := by
  refine ⟨sound.placed.same rfl rfl rfl fun _ _ => Iff.rfl, sound.watched.aside ⟨rfl, rfl, rfl, rfl⟩ rfl rfl
    (fun version removes => sound.watched.unused version (removes.same rfl rfl rfl)) (fun queued => queued)
    fun j submits => .inr (.inr ⟨j, ?_⟩)⟩
  rw [inventory_other]
  · exact submits
  · rintro rfl
    exact before submits

theorem inventory_sound {i : Nat} (sound : Sound daemon) (careful : Careful daemon (.inventory i mark)) :
    Sound (inventoryTurn i mark daemon) ∧ KeepsEnded daemon (inventoryTurn i mark daemon) := by
  unfold Careful at careful
  dsimp only at careful
  unfold inventoryTurn
  cases at_ : daemon.inventories i with
  | idle =>
    have before : daemon.inventories i ≠ .submitting := fun submits => by rw [at_] at submits; cases submits
    dsimp only
    split
    · exact ⟨inventory_moves sound before, keepsEnded_rows rfl⟩
    · exact ⟨sound, keepsEnded_rows rfl⟩
  | marking state =>
    have before : daemon.inventories i ≠ .submitting := fun submits => by rw [at_] at submits; cases submits
    cases mark.raises with
    | some error => exact ⟨inventory_moves sound before, keepsEnded_rows rfl⟩
    | none =>
      refine ⟨⟨sound.placed.same rfl rfl rfl fun _ _ => Iff.rfl, ?_⟩, keepsEnded_rows rfl⟩
      refine ⟨fun version removes => sound.watched.unused version (removes.same rfl rfl rfl), sound.watched.removed,
        fun _ => .inr (.inr ⟨i, inventory_self⟩), fun caller => ?_, fun lock => ?_⟩
      · cases caller with
        | some j => exact sound.watched.clears (some j)
        | none => exact sound.watched.clears none
      · obtain ⟨caller, check, made, inside⟩ := sound.watched.held lock
        cases caller with
        | some j => exact ⟨some j, check, made, inside⟩
        | none => exact ⟨none, check, made, inside⟩
  | submitting =>
    rw [at_] at careful
    rw [careful]
    refine ⟨⟨?_, ?_⟩, keepsEnded_rows rfl⟩
    · refine sound.placed.still rfl (fun id place => ?_) ?_ fun job stage running =>
        ⟨fun works => ⟨stage, works, running⟩, fun works => ⟨stage, works, running⟩⟩
      · cases place with
        | queue =>
          refine ⟨fun waits => ?_, fun waits => mem_append_left _ waits⟩
          rcases mem_append.mp waits with old | new
          · exact old
          · cases mem_singleton.mp new
        | start => exact Iff.rfl
        | thread => exact Iff.rfl
      · unfold Daemon.inventory
        rw [filterMap_append]
        exact append_nil _
    · exact sound.watched.aside ⟨rfl, rfl, rfl, rfl⟩ rfl rfl
        (fun version removes => sound.watched.unused version (removes.same rfl rfl rfl))
        (fun queued => mem_append_left _ queued)
        fun _ _ => .inl (mem_append_right _ mem_cons_self)

theorem assign_sound {hosting : Hosting} (sound : Sound daemon) (careful : Careful daemon (.assign hosting)) :
    Sound { daemon with hosting } := by
  refine ⟨sound.placed.same rfl rfl rfl fun _ _ => Iff.rfl, ?_⟩
  refine ⟨fun version removes => careful version (removes.same rfl rfl rfl), sound.watched.removed, sound.watched.flagged,
    fun caller => ?_, fun lock => ?_⟩
  · cases caller with
    | some j => exact sound.watched.clears (some j)
    | none => exact sound.watched.clears none
  · obtain ⟨caller, check, made, inside⟩ := sound.watched.held lock
    cases caller with
    | some j => exact ⟨some j, check, made, inside⟩
    | none => exact ⟨none, check, made, inside⟩

theorem over_nowhere {rows : List StackJob} {hosting : Hosting} {updates : UpdateState} {removals : List (String × Hosting)} :
    (∀ id place, ¬ Waits (.over rows hosting updates removals) id place) ∧
      (∀ caller, (Daemon.over rows hosting updates removals).checkAt caller = none) ∧
      ∀ version, (∀ row ∈ rows, row.isActive ≠ true) → ¬ Removing (.over rows hosting updates removals) version := by
  refine ⟨fun id place waits => ?_, fun caller => ?_, fun version inactive removes => ?_⟩
  · cases place with
    | queue => exact not_mem_nil waits
    | start i => exact Start.noConfusion waits
    | thread => exact Option.noConfusion rfl (heq_of_eq waits)
  · cases caller <;> rfl
  · cases removes with
    | asked _ _ asks => exact Option.noConfusion rfl (heq_of_eq asks)
    | queued job member waits => exact inactive job member (active_queued waits)
    | running _ _ works => exact Option.noConfusion rfl (heq_of_eq works)

theorem restart_sound (sound : Sound daemon) (careful : Careful daemon .restart) :
    Sound (.over daemon.rows daemon.hosting daemon.updates daemon.removals) := by
  obtain ⟨idle, unflagged⟩ := careful
  have inactive : ∀ job ∈ daemon.rows, job.isActive ≠ true := any_eq_false.mp idle
  obtain ⟨nowhere, unchecked, unremoved⟩ := @over_nowhere daemon.rows daemon.hosting daemon.updates daemon.removals
  refine ⟨⟨sound.placed.unique, fun job member _ _ active => absurd active (inactive job member),
    fun id place waits => absurd waits (nowhere id place), fun id place _ waits => absurd waits (nowhere id place),
    nodup_nil, fun row member queued => absurd (active_queued queued) (inactive row member), fun job stage works => ?_,
    fun row member running => absurd (active_running running) (inactive row member)⟩,
    ⟨fun version removes => absurd removes (unremoved version inactive), sound.watched.removed, fun flag => ?_,
      fun caller result writes => ?_, fun lock => Bool.noConfusion lock⟩⟩
  · exact Option.noConfusion rfl (heq_of_eq works)
  · have flagged : daemon.updates.checking = true := flag
    rw [unflagged] at flagged
    exact absurd flagged Bool.false_ne_true
  · rw [unchecked caller] at writes
    cases writes

def Check.rank : Check → Nat
  | .waiting => 4
  | .querying _ => 3
  | .checking _ => 2
  | .writing _ => 1

inductive CheckStep (mark : Mark) (daemon : Daemon) (check : Check) : Outcome × Daemon → Prop
  | waits (waiting : check = .waiting) (locked : daemon.locked = true) : CheckStep mark daemon check (.goes .waiting, daemon)
  | goes (next : Check) (locked : Bool) (inside : next.inside = true)
    (clears : ∀ result, next = .writing result → result.checking = false) (rank : next.rank < check.rank) :
    CheckStep mark daemon check (.goes next, { daemon with locked })
  | returns (result : UpdateState) (wrote : check = .writing result) :
    CheckStep mark daemon check (.returns, { daemon with locked := false, updates := result })
  | raises (error : String) (raised : mark.raises = some error) :
    CheckStep mark daemon check (.raises error, { daemon with locked := false })

theorem checkResult_clears {previous : UpdateState} : (checkResult mark previous).checking = false := by
  unfold checkResult
  cases mark.checked with
  | ok pending => rfl
  | error error => rfl

theorem checkTurn_step (check : Check) : CheckStep mark daemon check (checkTurn mark daemon check) := by
  cases check with
  | waiting =>
    unfold checkTurn
    dsimp only
    split
    · next locked => exact .waits rfl locked
    · exact .goes (.querying daemon.updates) true rfl nofun (Nat.lt_succ_self 3)
  | querying previous =>
    unfold checkTurn
    cases raised : mark.raises with
    | some error => exact .raises error raised
    | none =>
      dsimp only
      split
      · refine .goes (.writing _) daemon.locked rfl (fun result wrote => ?_) (Nat.lt_of_sub_pos (Nat.succ_pos 1))
        cases wrote
        rfl
      · exact .goes (.checking previous) daemon.locked rfl nofun (Nat.lt_succ_self 2)
  | checking previous =>
    refine .goes (.writing (checkResult mark previous)) daemon.locked rfl (fun result wrote => ?_) (Nat.lt_succ_self 1)
    cases wrote
    exact checkResult_clears
  | writing result =>
    unfold checkTurn
    cases raised : mark.raises with
    | some error => exact .raises error raised
    | none => exact .returns result rfl

/-- The checks in progress after one of them has taken a turn. -/
theorem Watched.checked {caller : Option Nat} (watched : Watched daemon)
    (stored : left.hosting = daemon.hosting ∧ left.removals = daemon.removals)
    (others : ∀ other, other ≠ caller → left.checkAt other = daemon.checkAt other)
    (removing : ∀ version, Removing left version → Removing daemon version)
    (updates : left.updates = daemon.updates ∨ left.updates.checking = false)
    (due : left.updates.checking = true → Due daemon → Due left)
    (clears : ∀ result, left.checkAt caller = some (.writing result) → result.checking = false)
    (locked : left.locked = true → daemon.locked = true ∧ left.checkAt caller = daemon.checkAt caller ∨
      ∃ next, left.checkAt caller = some next ∧ next.inside = true) : Watched left := by
  obtain ⟨hosting, removals⟩ := stored
  refine ⟨fun version removes => ?_, ?_, fun flag => ?_, fun other result writes => ?_, fun lock => ?_⟩
  · rw [hosting]
    exact watched.unused version (removing version removes)
  · rw [removals]
    exact watched.removed
  · rcases updates with same | clear
    · exact due flag (watched.flagged (by rw [← same]; exact flag))
    · rw [clear] at flag
      exact absurd flag Bool.false_ne_true
  · by_cases own : other = caller
    · rw [own] at writes
      exact clears result writes
    · rw [others other own] at writes
      exact watched.clears other result writes
  · rcases locked lock with ⟨before, same⟩ | ⟨next, here, inside⟩
    · obtain ⟨holder, made, held, inside⟩ := watched.held before
      by_cases own : holder = caller
      · refine ⟨caller, made, ?_, inside⟩
        rw [same, ← own]
        exact held
      · exact ⟨holder, made, (others holder own).trans held, inside⟩
    · exact ⟨caller, next, here, inside⟩

end Boron.StackManager

namespace Boron.StackManager

variable {daemon left : Daemon} {mark : Mark}

theorem checkAt_update {i : Nat} {next : Option Check} {after : Daemon} (checks : after.checks = daemon.checks)
    (worker : after.worker = daemon.worker) (other : Option Nat) (different : other ≠ some i) :
    ({ after with checks := Function.update after.checks i next } : Daemon).checkAt other = daemon.checkAt other := by
  cases other with
  | some j =>
    have apart : j ≠ i := fun same => different (congrArg some same)
    unfold Daemon.checkAt
    dsimp only
    rw [Function.update_of_ne apart, checks]
  | none =>
    unfold Daemon.checkAt
    rw [worker]

theorem checkAt_own {i : Nat} {next : Option Check} {after : Daemon} :
    ({ after with checks := Function.update after.checks i next } : Daemon).checkAt (some i) = next := by
  exact Function.update_self ..

theorem call_check_sound {i : Nat} (sound : Sound daemon) :
    Sound (callTurn i mark daemon) ∧ KeepsEnded daemon (callTurn i mark daemon) := by
  unfold callTurn
  cases at_ : daemon.checks i with
  | none =>
    dsimp only
    split
    · exact ⟨sound, keepsEnded_rows rfl⟩
    · refine ⟨⟨sound.placed.same rfl rfl rfl fun _ _ => Iff.rfl, sound.watched.frame ⟨rfl, rfl, rfl, rfl⟩
        (fun version removes => sound.watched.unused version (removes.same rfl rfl rfl)) (fun due => due)
        (fun caller check made => ?_) fun caller check made inside => ?_⟩, keepsEnded_rows rfl⟩
      · by_cases own : caller = some i
        · rw [own, checkAt_own] at made
          exact .inr (Option.some.inj made).symm
        · rw [checkAt_update rfl rfl caller own] at made
          exact .inl made
      · have different : caller ≠ some i := by
          rintro rfl
          have absent : daemon.checkAt (some i) = none := at_
          rw [absent] at made
          cases made
        rw [checkAt_update rfl rfl caller different]
        exact made
  | some check =>
    dsimp only
    have step : CheckStep mark daemon check (checkTurn mark daemon check) := checkTurn_step check
    revert step
    generalize checkTurn mark daemon check = turn
    intro step
    have same : turn.2.checks = daemon.checks ∧ turn.2.worker = daemon.worker ∧ turn.2.rows = daemon.rows ∧
        turn.2.queue = daemon.queue ∧ turn.2.starts = daemon.starts ∧ turn.2.hosting = daemon.hosting ∧
        turn.2.removals = daemon.removals ∧ turn.2.inventories = daemon.inventories := by
      cases step <;> exact ⟨rfl, rfl, rfl, rfl, rfl, rfl, rfl, rfl⟩
    obtain ⟨checks, worker, rows, queue, starts, hosting, removals, inventories⟩ := same
    refine ⟨⟨sound.placed.same rows queue worker fun j id => by rw [starts], ?_⟩, keepsEnded_rows rows⟩
    refine @Watched.checked daemon _ (some i) sound.watched ⟨hosting, removals⟩
      (fun other different => checkAt_update checks worker other different)
      (fun version removes => removes.same starts rows worker) ?_ (fun _ due => ?_) (fun result writes => ?_) fun locked => ?_
    · cases step with
      | waits => exact .inl rfl
      | goes => exact .inl rfl
      | returns result wrote => exact .inr (sound.watched.clears (some i) result (by rw [← wrote]; exact at_))
      | raises => exact .inl rfl
    · rw [queue, worker, inventories]
      exact due
    · rw [checkAt_own] at writes
      cases step with
      | waits => cases writes
      | goes next _ _ clears _ => exact clears result (Option.some.inj writes)
      | returns => cases writes
      | raises => cases writes
    · cases step with
      | waits waiting before =>
        refine .inl ⟨before, ?_⟩
        rw [checkAt_own]
        exact (at_.trans (congrArg some waiting)).symm
      | goes next _ inside _ _ => exact .inr ⟨next, checkAt_own, inside⟩
      | returns => cases locked
      | raises => cases locked

def Stage.rank : Stage → Nat
  | .preflight => 19
  | .index => 18
  | .refreshing => 17
  | .simulation => 16
  | .examine => 15
  | .backup => 14
  | .preparing => 13
  | .decide => 12
  | .installing => 11
  | .install => 10
  | .validating => 9
  | .validate => 8
  | .complete _ => 7
  | .checking check => check.rank + 2
  | .cancelling => 2
  | .failing _ => 1

/-- What a turn of a running job can come to: a later stage, or its last status. -/
inductive StageStep (stage : Stage) : Option Stage × (StackJob → StackJob) → Prop
  | goes (later : Stage) (f : StackJob → StackJob) (running : later.running = true)
    (will : later.willRun = true → stage.willRun = true) (tame : ∀ row, Same row (f row) ∧ (f row).status = row.status)
    (rank : later.rank < stage.rank) : StageStep stage (some later, f)
  | ends (last : Option Stage) (f : StackJob → StackJob) (same : ∀ row, (f row).id = row.id)
    (ended : ∀ row, (f row).isActive = false) (check : ∀ later, last = some later → later = .checking .waiting)
    (rank : ∀ later, last = some later → later.rank < stage.rank) : StageStep stage (last, f)

theorem tame_id (row : StackJob) : Same row (id row) ∧ (id row).status = row.status := ⟨⟨rfl, rfl, rfl, rfl⟩, rfl⟩

theorem tame_toPhase {phase detail : String} {progressPct : Nat} (row : StackJob) :
    Same row (toPhase phase progressPct detail row) ∧ (toPhase phase progressPct detail row).status = row.status :=
  ⟨⟨rfl, rfl, rfl, rfl⟩, rfl⟩

theorem stageTurn_step (job : StackJob) (current : Option StackJob) {stage : Stage} (running : stage.running = true) :
    StageStep stage (stageTurn mark job current stage) := by
  cases stage with
  | preflight => exact .goes .index id rfl (fun _ => rfl) tame_id (Nat.le_of_ble_eq_true rfl)
  | index => exact .goes .refreshing _ rfl (fun _ => rfl) tame_toPhase (Nat.le_of_ble_eq_true rfl)
  | refreshing =>
    unfold stageTurn
    cases packageCatalog mark.apt job.component job.action job.target with
    | error error => exact .goes (.failing error) id rfl (fun _ => rfl) tame_id (Nat.le_of_ble_eq_true rfl)
    | ok listed =>
      dsimp only
      split
      · exact .goes .simulation id rfl (fun _ => rfl) tame_id (Nat.le_of_ble_eq_true rfl)
      · split
        · exact .goes (.complete _) id rfl (fun _ => rfl) tame_id (Nat.le_of_ble_eq_true rfl)
        · exact .goes (.failing _) id rfl (fun _ => rfl) tame_id (Nat.le_of_ble_eq_true rfl)
  | simulation => exact .goes .examine _ rfl (fun _ => rfl) tame_toPhase (Nat.le_of_ble_eq_true rfl)
  | examine =>
    change StageStep .examine (some (if _ then _ else _), id)
    split
    · exact .goes .backup id rfl (fun _ => rfl) tame_id (Nat.le_of_ble_eq_true rfl)
    · exact .goes .decide id rfl (fun _ => rfl) tame_id (Nat.le_of_ble_eq_true rfl)
  | backup => exact .goes .preparing _ rfl (fun _ => rfl) tame_toPhase (Nat.le_of_ble_eq_true rfl)
  | preparing => exact .goes .decide _ rfl (fun _ => rfl) (fun _ => ⟨⟨rfl, rfl, rfl, rfl⟩, rfl⟩) (Nat.le_of_ble_eq_true rfl)
  | decide =>
    change StageStep .decide (some (if _ then _ else _), id)
    split
    · exact .goes .cancelling id rfl (fun _ => rfl) tame_id (Nat.le_of_ble_eq_true rfl)
    · exact .goes .installing id rfl (fun _ => rfl) tame_id (Nat.le_of_ble_eq_true rfl)
  | cancelling => exact .ends none _ (fun _ => rfl) (fun _ => rfl) nofun nofun
  | installing => exact .goes .install _ rfl (fun _ => rfl) tame_toPhase (Nat.le_of_ble_eq_true rfl)
  | install => exact .goes .validating id rfl (fun _ => rfl) tame_id (Nat.le_of_ble_eq_true rfl)
  | validating => exact .goes .validate _ rfl (fun will => will) tame_toPhase (Nat.le_of_ble_eq_true rfl)
  | validate => exact .goes (.complete _) id rfl (fun will => will) tame_id (Nat.le_of_ble_eq_true rfl)
  | complete detail =>
    refine .ends (some (.checking .waiting)) _ (fun _ => rfl) (fun _ => rfl) (fun later last => ?_) fun later last => ?_
    · exact (Option.some.inj last).symm
    · rw [← Option.some.inj last]
      exact Nat.le_of_ble_eq_true rfl
  | checking => exact absurd running Bool.false_ne_true
  | failing error => exact .ends none _ (fun _ => rfl) (fun _ => rfl) nofun nofun

theorem goes_sound {job : StackJob} {stage : Stage} {next : Option Stage × (StackJob → StackJob)} (sound : Sound daemon)
    (works : daemon.worker = some (.job job stage)) (running : stage.running = true) (step : StageStep stage next) :
    Sound (daemon.goes job next) ∧ KeepsEnded daemon (daemon.goes job next) := by
  obtain ⟨own, inside, alike, runs⟩ := sound.placed.at_work job stage works running
  have uncalled : daemon.checkAt none = none := by
    unfold Daemon.checkAt
    rw [works]
    cases stage with
    | checking => exact absurd running Bool.false_ne_true
    | _ => rfl
  have ended : ∀ row ∈ daemon.rows, row.isActive = false → row.id ≠ job.id := by
    intro row member inactive named
    rw [eq_of_unique sound.placed.unique member inside (named.trans alike.id.symm), active_running runs] at inactive
    exact Bool.false_ne_true inactive.symm
  have keeps : KeepsEnded daemon (daemon.goes job next) := by
    intro row member inactive
    have set := @setJob_mem job.id next.2 _ _ member
    rw [if_neg (ended row member inactive)] at set
    exact ⟨row, set, rfl, rfl⟩
  have due : Due daemon → Due (daemon.goes job next) := by
    rintro (queued | ⟨check, made⟩ | submits)
    · exact .inl queued
    · rw [works] at made
      cases made
    · exact .inr (.inr submits)
  cases step with
  | goes later f ran will tame rank =>
    refine ⟨⟨?_, ?_⟩, keeps⟩
    · refine @Placed.notes daemon _ job.id f sound.placed rfl tame rfl rfl (fun other => ?_) fun other at_ _ => ⟨fun here => ?_, fun here => ?_⟩
      · rw [works]
        refine ⟨fun begins => ?_, fun begins => ?_⟩
        · cases begins
        · cases begins
      · cases here
        exact ⟨stage, works, running⟩
      · rw [works] at here
        cases here
        exact ⟨later, rfl, ran⟩
    · refine sound.watched.frame ⟨rfl, rfl, rfl, rfl⟩ (fun version removes => sound.watched.unused version
        (removes.before (fun _ _ asks => asks) (fun row member waits => ?_) fun other at_ here wills => ?_)) due
        (fun caller check made => ?_) fun caller check made _ => ?_
      · obtain ⟨earlier, old, rfl⟩ := mem_setJob member
        split at waits
        · next named =>
          rw [if_pos named]
          exact ⟨earlier, old, (tame earlier).1, (tame earlier).2.symm.trans waits⟩
        · next other =>
          rw [if_neg other]
          exact ⟨earlier, old, ⟨rfl, rfl, rfl, rfl⟩, waits⟩
      · cases here
        exact ⟨stage, works, will wills⟩
      · cases caller with
        | some i => exact .inl made
        | none =>
          cases later with
          | checking => exact absurd ran Bool.false_ne_true
          | _ => cases made
      · cases caller with
        | some i => exact made
        | none =>
          rw [uncalled] at made
          cases made
  | ends last f same finished check rank =>
    obtain ⟨placed, _⟩ := @Placed.ends daemon (daemon.goes job (last, f)) job stage f sound.placed works running rfl same finished
      rfl rfl (fun other begins => by
        cases last with
        | none => cases begins
        | some later => cases begins) fun other later here => by
        cases last with
        | none => cases here
        | some only =>
          cases here
          rw [check later rfl]
          rfl
    refine ⟨⟨placed, sound.watched.frame ⟨rfl, rfl, rfl, rfl⟩ (fun version removes => sound.watched.unused version
      (removes.before (fun _ _ asks => asks) (fun row member waits => ?_) fun other at_ here wills => ?_)) due
      (fun caller made here => ?_) fun caller made here _ => ?_⟩, keeps⟩
    · obtain ⟨earlier, old, rfl⟩ := mem_setJob member
      split at waits
      · have active := active_queued waits
        rw [finished earlier] at active
        exact absurd active Bool.false_ne_true
      · next other =>
        rw [if_neg other]
        exact ⟨earlier, old, ⟨rfl, rfl, rfl, rfl⟩, waits⟩
    · cases last with
      | none => cases here
      | some only =>
        cases here
        rw [check at_ rfl] at wills
        cases wills
    · cases caller with
      | some i => exact .inl here
      | none =>
        cases last with
        | none => cases here
        | some only =>
          rw [check only rfl] at here
          exact .inr (Option.some.inj here).symm
    · cases caller with
      | some i => exact here
      | none =>
        rw [uncalled] at here
        cases here

end Boron.StackManager
