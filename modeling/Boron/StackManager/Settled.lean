import Mathlib.Algebra.GroupWithZero.Nat
import Boron.StackManager.Working

namespace Boron.StackManager
open List

variable {daemon left : Daemon} {mark : Mark} {job : StackJob} {stage : Stage}

theorem attempt_sound (sound : Sound daemon)
    (works : daemon.worker = some (.job job stage)) : Sound (daemon.attempt job stage) := by
  unfold Daemon.attempt
  split
  · split
    · next removal =>
      have unused : versionUsage daemon.hosting job.target = 0 :=
        sound.watched.unused job.target (.running job .install works rfl ⟨removal, rfl⟩)
      refine ⟨sound.placed.same rfl rfl rfl fun _ _ => Iff.rfl,
        ⟨fun version removes => sound.watched.unused version (removes.same rfl rfl rfl), fun recorded member => ?_,
          sound.watched.flagged, fun caller => ?_, fun lock => ?_⟩⟩
      · rcases mem_append.mp member with old | new
        · exact sound.watched.removed recorded old
        · rw [mem_singleton.mp new]
          exact unused
      · cases caller with
        | some i => exact sound.watched.clears (some i)
        | none => exact sound.watched.clears none
      · obtain ⟨caller, check, made, inside⟩ := sound.watched.held lock
        cases caller with
        | some i => exact ⟨some i, check, made, inside⟩
        | none => exact ⟨none, check, made, inside⟩
    · exact sound
  · exact sound

theorem attempt_frame {job : StackJob} {stage : Stage} : (daemon.attempt job stage).worker = daemon.worker ∧
    (daemon.attempt job stage).rows = daemon.rows := by
  unfold Daemon.attempt
  split
  · split <;> exact ⟨rfl, rfl⟩
  · exact ⟨rfl, rfl⟩

theorem jobTurn_running (running : stage.running = true) (failing : ∀ error, stage ≠ .failing error) :
    jobTurn mark job stage daemon = (daemon.attempt job stage).goes job (match mark.raises with
        | some error => (some (.failing error), id)
        | none => stageTurn mark job (Rows.byKey StackJob.id daemon.rows job.id) stage) := by
  cases stage with
  | checking => exact absurd running Bool.false_ne_true
  | failing error => exact absurd rfl (failing error)
  | _ =>
    unfold jobTurn
    cases mark.raises <;> rfl

theorem keepsEnded_trans {middle : Daemon} (first : middle.rows = daemon.rows) (then_ : KeepsEnded middle left) :
    KeepsEnded daemon left := by
  unfold KeepsEnded at then_ ⊢
  rw [first] at then_
  exact then_

theorem running_sound (sound : Sound daemon) (works : daemon.worker = some (.job job stage))
    (running : stage.running = true) (failing : ∀ error, stage ≠ .failing error) :
    Sound (jobTurn mark job stage daemon) ∧ KeepsEnded daemon (jobTurn mark job stage daemon) := by
  rw [jobTurn_running running failing]
  obtain ⟨worker, rows⟩ := @attempt_frame daemon job stage
  have still : (daemon.attempt job stage).worker = some (.job job stage) := worker.trans works
  have attempted := attempt_sound sound works
  cases mark.raises with
  | some error =>
    have step : StageStep stage (some (.failing error), id) := by
      refine .goes (.failing error) id rfl (fun will => Bool.noConfusion will) tame_id ?_
      cases stage with
      | checking => exact absurd running Bool.false_ne_true
      | failing error => exact absurd rfl (failing error)
      | _ => exact Nat.le_of_ble_eq_true rfl
    obtain ⟨done, keeps⟩ := goes_sound attempted still running step
    exact ⟨done, keepsEnded_trans rows keeps⟩
  | none =>
    obtain ⟨done, keeps⟩ := goes_sound attempted still running (stageTurn_step job _ running)
    exact ⟨done, keepsEnded_trans rows keeps⟩

theorem thread_check_sound {check : Check} {turn : Outcome × Daemon} {work : Option Work} (sound : Sound daemon)
    (made : daemon.worker.bind Work.current = some check) (step : CheckStep mark daemon check turn)
    (stays : ∀ job stage, stage.running = true → daemon.worker ≠ some (.job job stage) ∧ work ≠ some (.job job stage))
    (begins : ∀ id, daemon.worker ≠ some (.begin id) ∧ work ≠ some (.begin id))
    (due : turn.2.updates.checking = true → (∃ check, daemon.worker = some (.check check)) → ∃ check, work = some (.check check))
    (goes : ∀ next, turn.1 = .goes next → work.bind Work.current = some next)
    (ends : (∀ next, turn.1 ≠ .goes next) → work.bind Work.current = none) :
    Sound { turn.2 with worker := work } ∧ KeepsEnded daemon { turn.2 with worker := work } := by
  have same : turn.2.checks = daemon.checks ∧ turn.2.rows = daemon.rows ∧ turn.2.queue = daemon.queue ∧
      turn.2.starts = daemon.starts ∧ turn.2.hosting = daemon.hosting ∧ turn.2.removals = daemon.removals ∧
      turn.2.inventories = daemon.inventories := by
    cases step <;> exact ⟨rfl, rfl, rfl, rfl, rfl, rfl, rfl⟩
  obtain ⟨checks, rows, queue, starts, hosting, removals, inventories⟩ := same
  have own : Daemon.checkAt { turn.2 with worker := work } none = work.bind Work.current := rfl
  refine ⟨⟨?_, ?_⟩, keepsEnded_rows rows⟩
  · refine sound.placed.still rows (fun id place => ?_) (congrArg (filterMap Item.job) queue) fun job stage running =>
      ⟨fun works => absurd works (stays job stage running).2, fun works => absurd works (stays job stage running).1⟩
    cases place with
    | queue =>
      unfold Waits
      rw [queue]
    | start i =>
      unfold Waits
      rw [starts]
    | thread => exact ⟨fun waits => absurd waits (begins id).2, fun waits => absurd waits (begins id).1⟩
  · refine @Watched.checked daemon _ none sound.watched ⟨hosting, removals⟩ (fun other different => ?_)
      (fun version removes => removes.before (fun i request asks => ?_) (fun job member waits => ?_)
        fun job stage works will => ?_) ?_ (fun flag owed => ?_) (fun result writes => ?_) fun locked => ?_
    · cases other with
      | some i => exact congrFun checks i
      | none => exact absurd rfl different
    · rw [← starts]
      exact asks
    · have inside : job ∈ turn.2.rows := member
      rw [rows] at inside
      exact ⟨job, inside, ⟨rfl, rfl, rfl, rfl⟩, waits⟩
    · have running : stage.running = true := by
        cases stage with
        | checking => exact absurd will Bool.false_ne_true
        | _ => rfl
      exact absurd works (stays job stage running).2
    · cases step with
      | waits => exact .inl rfl
      | goes => exact .inl rfl
      | returns result wrote => exact .inr (sound.watched.clears none result (by rw [← wrote]; exact made))
      | raises => exact .inl rfl
    · rcases owed with queued | busy | submits
      · refine .inl ?_
        rw [queue]
        exact queued
      · exact .inr (.inl (due flag busy))
      · refine .inr (.inr ?_)
        rw [inventories]
        exact submits
    · rw [own] at writes
      cases step with
      | waits =>
        rw [goes .waiting rfl] at writes
        cases writes
      | goes next _ _ clears _ =>
        rw [goes next rfl] at writes
        exact clears result (Option.some.inj writes)
      | returns =>
        rw [ends nofun] at writes
        cases writes
      | raises =>
        rw [ends nofun] at writes
        cases writes
    · cases step with
      | waits waiting before =>
        refine .inl ⟨before, ?_⟩
        rw [own, goes .waiting rfl]
        exact (made.trans (congrArg some waiting)).symm
      | goes next _ inside _ _ => exact .inr ⟨next, goes next rfl, inside⟩
      | returns => cases locked
      | raises => cases locked

section
variable (sound : Sound daemon)
include sound

theorem job_check_sound {check : Check}
    (works : daemon.worker = some (.job job (.checking check))) (calm : mark.raises = none) :
    Sound (jobTurn mark job (.checking check) daemon) ∧ KeepsEnded daemon (jobTurn mark job (.checking check) daemon) := by
  have made : daemon.worker.bind Work.current = some check := by
    rw [works]
    rfl
  have step : CheckStep mark daemon check (checkTurn mark daemon check) := checkTurn_step check
  have idle : ∀ other stage, stage.running = true → daemon.worker ≠ some (.job other stage) := by
    intro other stage running here
    rw [works] at here
    cases here
    exact Bool.false_ne_true running
  have begun : ∀ id, daemon.worker ≠ some (.begin id) := by
    intro id here
    rw [works] at here
    cases here
  have alone : ¬ ∃ check, daemon.worker = some (.check check) := by
    rintro ⟨other, here⟩
    rw [works] at here
    cases here
  unfold jobTurn
  dsimp only
  revert step
  generalize checkTurn mark daemon check = turn
  intro step
  obtain ⟨outcome, after⟩ := turn
  cases outcome with
  | goes next =>
    refine @thread_check_sound daemon mark check (.goes next, after) _ sound made step
      (fun other stage running => ⟨idle other stage running, fun here => ?_⟩) (fun id => ⟨begun id, nofun⟩)
      (fun _ busy => absurd busy alone) (fun later same => ?_) fun none => absurd rfl (none next)
    · cases here
      exact Bool.false_ne_true running
    · cases same
      rfl
  | returns =>
    exact @thread_check_sound daemon mark check (.returns, after) none sound made step
      (fun other stage running => ⟨idle other stage running, nofun⟩) (fun id => ⟨begun id, nofun⟩)
      (fun _ busy => absurd busy alone) nofun fun _ => rfl
  | raises error =>
    cases step with
    | raises _ raised =>
      rw [calm] at raised
      cases raised

theorem check_sound {check : Check} (works : daemon.worker = some (.check check))
    (careful : mark.raises = none ∨ daemon.updates.checking = false) :
    Sound (workTurn mark daemon) ∧ KeepsEnded daemon (workTurn mark daemon) := by
  have made : daemon.worker.bind Work.current = some check := by
    rw [works]
    rfl
  have step : CheckStep mark daemon check (checkTurn mark daemon check) := checkTurn_step check
  have idle : ∀ other stage, stage.running = true → daemon.worker ≠ some (.job other stage) := by
    intro other stage _ here
    rw [works] at here
    cases here
  have begun : ∀ id, daemon.worker ≠ some (.begin id) := by
    intro id here
    rw [works] at here
    cases here
  unfold workTurn
  rw [works]
  dsimp only
  revert step
  generalize checkTurn mark daemon check = turn
  intro step
  obtain ⟨outcome, after⟩ := turn
  cases outcome with
  | goes next =>
    refine @thread_check_sound daemon mark check (.goes next, after) _ sound made step
      (fun other stage running => ⟨idle other stage running, nofun⟩) (fun id => ⟨begun id, nofun⟩)
      (fun _ _ => ⟨next, rfl⟩) (fun later same => ?_) fun none => absurd rfl (none next)
    cases same
    rfl
  | returns =>
    refine @thread_check_sound daemon mark check (.returns, after) none sound made step
      (fun other stage running => ⟨idle other stage running, nofun⟩) (fun id => ⟨begun id, nofun⟩)
      (fun flag _ => ?_) nofun fun _ => rfl
    cases step with
    | returns result wrote =>
      have clear := sound.watched.clears none result (by rw [← wrote]; exact made)
      have flagged : result.checking = true := flag
      rw [clear] at flagged
      exact absurd flagged Bool.false_ne_true
  | raises error =>
    refine @thread_check_sound daemon mark check (.raises error, after) none sound made step
      (fun other stage running => ⟨idle other stage running, nofun⟩) (fun id => ⟨begun id, nofun⟩)
      (fun flag _ => ?_) nofun fun _ => rfl
    cases step with
    | raises _ raised =>
      rcases careful with calm | clear
      · rw [calm] at raised
        cases raised
      · have flagged : daemon.updates.checking = true := flag
        rw [clear] at flagged
        exact absurd flagged Bool.false_ne_true

theorem pop_sound {item : Item} {rest : List Item} (idle : daemon.worker = none)
    (queue : daemon.queue = item :: rest) : Sound (workTurn mark daemon) := by
  have uncalled : daemon.checkAt none = none := by
    unfold Daemon.checkAt
    rw [idle]
    rfl
  unfold workTurn
  rw [idle]
  rw [queue]
  cases item with
  | runJob id =>
    have here : Waits daemon id .queue := by
      unfold Waits
      rw [queue]
      exact mem_cons_self
    have once := sound.placed.once
    rw [queue] at once
    obtain ⟨absent, later⟩ := nodup_cons.mp once
    refine ⟨@Placed.moves daemon _ id .queue .thread sound.placed rfl here rfl later (fun place waits => ?_)
      (fun other place different => ?_) fun job stage _ => ?_, ?_⟩
    · cases place with
      | queue =>
        have listed : id ∈ rest.filterMap Item.job := mem_filterMap.mpr ⟨.runJob id, waits, rfl⟩
        exact absurd listed absent
      | start i => exact Place.noConfusion (sound.placed.single id (.start i) .queue waits here)
      | thread => rfl
    · cases place with
      | queue =>
        unfold Waits
        rw [queue]
        refine ⟨fun waits => mem_cons_of_mem _ waits, fun waits => ?_⟩
        rcases mem_cons.mp waits with same | waits
        · exact absurd (Item.runJob.inj same) different
        · exact waits
      | start i => exact Iff.rfl
      | thread =>
        refine ⟨fun waits => ?_, fun waits => ?_⟩
        · have named : some (Work.begin id) = some (.begin other) := waits
          cases named
          exact absurd rfl different
        · have named : daemon.worker = some (.begin other) := waits
          rw [idle] at named
          cases named
    · rw [idle]
      exact ⟨fun works => (nomatch works), fun works => (nomatch works)⟩
    · refine sound.watched.frame ⟨rfl, rfl, rfl, rfl⟩ (fun version removes => sound.watched.unused version
        (removes.before (fun _ _ asks => asks) (fun row member waits => ⟨row, member, ⟨rfl, rfl, rfl, rfl⟩, waits⟩)
          fun job stage works _ => (nomatch works))) (fun due => ?_) (fun caller check made => ?_) fun caller check made _ => ?_
      · rcases due with queued | ⟨check, made⟩ | submits
        · rw [queue] at queued
          rcases mem_cons.mp queued with same | later
          · cases same
          · exact .inl later
        · rw [idle] at made
          cases made
        · exact .inr (.inr submits)
      · cases caller with
        | some i => exact .inl made
        | none => cases made
      · cases caller with
        | some i => exact made
        | none =>
          rw [uncalled] at made
          cases made
  | checkUpdates =>
    refine ⟨sound.placed.still rfl (fun id place => ?_) ?_ fun job stage _ => ?_, ?_⟩
    · cases place with
      | queue =>
        unfold Waits
        rw [queue]
        refine ⟨fun waits => mem_cons_of_mem _ waits, fun waits => ?_⟩
        rcases mem_cons.mp waits with same | waits
        · cases same
        · exact waits
      | start i => exact Iff.rfl
      | thread =>
        unfold Waits
        rw [idle]
        exact ⟨fun waits => (nomatch waits), fun waits => (nomatch waits)⟩
    · rw [queue]
      rfl
    · rw [idle]
      exact ⟨fun works => (nomatch works), fun works => (nomatch works)⟩
    · refine sound.watched.frame ⟨rfl, rfl, rfl, rfl⟩ (fun version removes => sound.watched.unused version
        (removes.before (fun _ _ asks => asks) (fun row member waits => ⟨row, member, ⟨rfl, rfl, rfl, rfl⟩, waits⟩)
          fun job stage works _ => (nomatch works))) (fun _ => .inr (.inl ⟨.waiting, rfl⟩)) (fun caller check made => ?_)
        fun caller check made _ => ?_
      · cases caller with
        | some i => exact .inl made
        | none => exact .inr (Option.some.inj made).symm
      · cases caller with
        | some i => exact made
        | none =>
          rw [uncalled] at made
          cases made

theorem begin_sound {id : Nat} (works : daemon.worker = some (.begin id)) (calm : mark.raises = none) :
    Sound (workTurn mark daemon) ∧ KeepsEnded daemon (workTurn mark daemon) := by
  obtain ⟨row, member, rfl, queued⟩ := sound.placed.queued id .thread works
  have found := Rows.byKey_of_mem sound.placed.unique member
  unfold workTurn
  rw [works]
  dsimp only
  rw [calm, found]
  refine ⟨⟨sound.placed.takesUp works found, ?_⟩, fun job inside inactive => ?_⟩
  · refine sound.watched.frame ⟨rfl, rfl, rfl, rfl⟩ (fun version removes => ?_) (fun due => ?_) (fun caller check made => ?_)
      fun caller check made _ => ?_
    · cases removes with
      | asked i request asks names => exact sound.watched.unused version (.asked i request asks names)
      | queued job listed waits names =>
        obtain ⟨earlier, old, rfl⟩ := mem_setJob listed
        split at waits
        · cases waits
        · next other =>
          rw [if_neg other] at names
          exact sound.watched.unused version (.queued earlier old waits names)
      | running job stage here will names =>
        cases here
        exact sound.watched.unused version (.queued row member queued names)
    · rcases due with queued | ⟨check, made⟩ | submits
      · exact .inl queued
      · rw [works] at made
        cases made
      · exact .inr (.inr submits)
    · cases caller with
      | some i => exact .inl made
      | none => cases made
    · cases caller with
      | some i => exact made
      | none =>
        unfold Daemon.checkAt at made
        rw [works] at made
        cases made
  · have different : job.id ≠ row.id := by
      intro named
      rw [eq_of_unique sound.placed.unique inside member named, active_queued queued] at inactive
      exact Bool.false_ne_true inactive.symm
    have set := @setJob_mem row.id beginJob _ _ inside
    rw [if_neg different] at set
    exact ⟨job, set, rfl, rfl⟩

theorem work_sound (careful : Careful daemon (.work mark)) :
    Sound (workTurn mark daemon) ∧ KeepsEnded daemon (workTurn mark daemon) := by
  unfold Careful at careful
  cases works : daemon.worker with
  | none =>
    cases queue : daemon.queue with
    | nil =>
      have still : workTurn mark daemon = daemon := by
        unfold workTurn
        rw [works]
        rw [queue]
      rw [still]
      exact ⟨sound, keepsEnded_rows rfl⟩
    | cons item rest =>
      refine ⟨pop_sound sound works queue, keepsEnded_rows ?_⟩
      unfold workTurn
      rw [works]
      rw [queue]
      cases item <;> rfl
  | some work =>
    rw [works] at careful
    cases work with
    | begin id => exact begin_sound sound works careful
    | check check => exact check_sound sound works careful
    | job job stage =>
      have turn : workTurn mark daemon = jobTurn mark job stage daemon := by
        unfold workTurn
        rw [works]
      rw [turn]
      cases stage with
      | checking check => exact job_check_sound sound works careful
      | failing error =>
        have last : jobTurn mark job (.failing error) daemon = daemon.goes job (stageTurn mark job none (.failing error)) := by
          unfold jobTurn
          rw [careful]
        rw [last]
        exact goes_sound sound works rfl (stageTurn_step job none rfl)
      | _ => exact running_sound sound works rfl nofun

theorem step_sound {event : Event} (careful : Careful daemon event) :
    Sound (daemon.step event) ∧ KeepsEnded daemon (daemon.step event) := by
  cases event with
  | call i request =>
    refine ⟨call_sound sound, keepsEnded_rows ?_⟩
    unfold Daemon.step
    dsimp only
    split <;> rfl
  | start i mark => exact start_sound sound careful
  | cancel i id mark => exact cancel_sound sound
  | inventory i mark => exact inventory_sound sound careful
  | check i mark => exact call_check_sound sound
  | work mark => exact work_sound sound careful
  | assign hosting => exact ⟨assign_sound sound careful, keepsEnded_rows rfl⟩
  | restart => exact ⟨restart_sound sound careful, keepsEnded_rows rfl⟩

end

theorem fresh_placed : Placed Daemon.fresh := by
  obtain ⟨nowhere, _, _⟩ := @over_nowhere [] { accounts := [], domains := [] } .empty []
  have absent : ∀ {job : StackJob}, job ∉ Daemon.fresh.rows := by
    intro job
    exact not_mem_nil
  refine ⟨nodup_nil, fun job member => absurd member absent, fun id place waits => absurd waits (nowhere id place),
    fun id place _ waits => absurd waits (nowhere id place), nodup_nil, fun row member => absurd member absent,
    fun job stage works => ?_, fun row member => absurd member absent⟩
  cases works

theorem fresh_watched : Watched Daemon.fresh := by
  obtain ⟨_, unchecked, unremoved⟩ := @over_nowhere [] { accounts := [], domains := [] } .empty []
  refine ⟨fun version removes => absurd removes (unremoved version fun row member => absurd member not_mem_nil),
    fun removal member => ?_, fun flag => ?_, fun caller result writes => ?_, fun lock => ?_⟩
  · cases member
  · cases flag
  · have none : Daemon.fresh.checkAt caller = none := unchecked caller
    rw [none] at writes
    cases writes
  · cases lock
theorem fresh_sound : Sound Daemon.fresh := ⟨fresh_placed, fresh_watched⟩

def Item.weight : Item → Nat
  | .runJob _ => 21
  | .checkUpdates => 5

def Work.rank : Work → Nat
  | .begin _ => 20
  | .job _ stage => stage.rank
  | .check made => made.rank

/-- The turns that the thread needs at most for what it has and what is queued. -/
def Daemon.remaining (daemon : Daemon) : Nat :=
  (daemon.queue.map Item.weight).sum + (daemon.worker.map Work.rank).getD 0

/-- No call is between its commit and its hand-over, or within a check. -/
structure Handed (daemon : Daemon) : Prop where
  starts : ∀ i id, daemon.starts i ≠ .submitting id
  inventories : ∀ i, daemon.inventories i ≠ .submitting
  checks : ∀ i, daemon.checks i = none

theorem workTurn_frame : (workTurn mark daemon).starts = daemon.starts ∧
    (workTurn mark daemon).inventories = daemon.inventories ∧ (workTurn mark daemon).checks = daemon.checks := by
  have checked : ∀ check, (checkTurn mark daemon check).2.starts = daemon.starts ∧
      (checkTurn mark daemon check).2.inventories = daemon.inventories ∧
      (checkTurn mark daemon check).2.checks = daemon.checks := by
    intro check
    have step : CheckStep mark daemon check (checkTurn mark daemon check) := checkTurn_step check
    revert step
    generalize checkTurn mark daemon check = turn
    intro step
    cases step <;> exact ⟨rfl, rfl, rfl⟩
  have attempted : ∀ job stage, (daemon.attempt job stage).starts = daemon.starts ∧
      (daemon.attempt job stage).inventories = daemon.inventories ∧ (daemon.attempt job stage).checks = daemon.checks := by
    intro job stage
    unfold Daemon.attempt
    split
    · split <;> exact ⟨rfl, rfl, rfl⟩
    · exact ⟨rfl, rfl, rfl⟩
  unfold workTurn
  split
  · split <;> exact ⟨rfl, rfl, rfl⟩
  · split <;> exact ⟨rfl, rfl, rfl⟩
  · next job stage works =>
    unfold jobTurn
    split
    · next check =>
      have frame := checked check
      dsimp only
      split <;> exact frame
    · split <;> exact ⟨rfl, rfl, rfl⟩
    · split <;> exact attempted job _
  · next check works =>
    have frame := checked check
    dsimp only
    split <;> exact frame

theorem Handed.work (handed : Handed daemon) : Handed (workTurn mark daemon) := by
  obtain ⟨starts, inventories, checks⟩ := @workTurn_frame daemon mark
  refine ⟨fun i id => ?_, fun i => ?_, fun i => ?_⟩
  · rw [starts]
    exact handed.starts i id
  · rw [inventories]
    exact handed.inventories i
  · rw [checks]
    exact handed.checks i

theorem check_progress {check : Check} (sound : Sound daemon) (handed : Handed daemon)
    (made : daemon.checkAt none = some check) {next : Check} (goes : (checkTurn mark daemon check).1 = .goes next) :
    next.rank < check.rank := by
  have step : CheckStep mark daemon check (checkTurn mark daemon check) := checkTurn_step check
  revert step goes
  generalize checkTurn mark daemon check = turn
  intro goes step
  cases step with
  | waits waiting locked =>
    obtain ⟨caller, holder, held, inside⟩ := sound.watched.held locked
    cases caller with
    | some i =>
      have absent : daemon.checks i = some holder := held
      rw [handed.checks i] at absent
      cases absent
    | none =>
      rw [made] at held
      cases held
      rw [waiting] at inside
      exact absurd inside Bool.false_ne_true
  | goes later _ _ _ rank =>
    cases goes
    exact rank
  | returns => cases goes
  | raises => cases goes

theorem checkTurn_queue (check : Check) : (checkTurn mark daemon check).2.queue = daemon.queue := by
  have step : CheckStep mark daemon check (checkTurn mark daemon check) := checkTurn_step check
  revert step
  generalize checkTurn mark daemon check = turn
  intro step
  cases step <;> rfl

theorem attempt_queue : (daemon.attempt job stage).queue = daemon.queue := by
  unfold Daemon.attempt
  split
  · split <;> rfl
  · rfl

theorem remaining_of {work : Option Work} {queue : List Item} (same : daemon.queue = queue) (works : daemon.worker = work) :
    daemon.remaining = (queue.map Item.weight).sum + (work.map Work.rank).getD 0 := by
  unfold Daemon.remaining
  rw [same, works]

theorem remaining_lt {work later : Option Work} (queue : left.queue = daemon.queue) (works : daemon.worker = work)
    (after : left.worker = later) (fewer : (later.map Work.rank).getD 0 < (work.map Work.rank).getD 0) :
    left.remaining < daemon.remaining := by
  rw [remaining_of queue after, remaining_of rfl works]
  exact Nat.add_lt_add_left fewer _

theorem goes_remaining {next : Option Stage × (StackJob → StackJob)}
    (works : daemon.worker = some (.job job stage)) (same : left.queue = daemon.queue) (step : StageStep stage next) :
    (left.goes job next).remaining < daemon.remaining := by
  have some_rank : 0 < stage.rank := by
    cases stage <;> exact Nat.succ_pos _
  refine @remaining_lt daemon (left.goes job next) _ (next.1.map (Work.job job)) same works rfl ?_
  cases step with
  | goes later f _ _ _ rank => exact rank
  | ends last f _ _ _ rank =>
    cases last with
    | none => exact some_rank
    | some later => exact rank later rfl

theorem work_remaining (sound : Sound daemon) (handed : Handed daemon) (careful : Careful daemon (.work mark))
    (busy : daemon.remaining ≠ 0) : (workTurn mark daemon).remaining < daemon.remaining := by
  unfold Careful at careful
  cases works : daemon.worker with
  | none =>
    cases queue : daemon.queue with
    | nil =>
      rw [remaining_of queue works] at busy
      exact absurd rfl busy
    | cons item rest =>
      rw [remaining_of queue works]
      unfold workTurn
      rw [works]
      rw [queue]
      cases item with
      | runJob id =>
        rw [@remaining_of { daemon with queue := rest, worker := some (.begin id) } _ _ rfl rfl]
        simp only [map_cons, sum_cons, Item.weight, Option.map_some, Option.map_none, Option.getD_some,
          Option.getD_none, Work.rank]
        omega
      | checkUpdates =>
        rw [@remaining_of { daemon with queue := rest, worker := some (.check .waiting) } _ _ rfl rfl]
        simp only [map_cons, sum_cons, Item.weight, Option.map_some, Option.map_none, Option.getD_some,
          Option.getD_none, Work.rank, Check.rank]
        omega
  | some work =>
    rw [works] at careful
    cases work with
    | begin id =>
      unfold workTurn
      rw [works]
      dsimp only
      split
      · exact remaining_lt rfl works rfl (Nat.lt_succ_self 19)
      · exact remaining_lt rfl works rfl (Nat.succ_pos 19)
    | check check =>
      have made : daemon.checkAt none = some check := by
        unfold Daemon.checkAt
        rw [works]
        rfl
      have progress := @check_progress daemon mark check sound handed made
      have queue := @checkTurn_queue daemon mark check
      have positive : 0 < check.rank := by
        cases check <;> exact Nat.succ_pos _
      unfold workTurn
      rw [works]
      dsimp only
      split
      · next next goes => exact remaining_lt queue works rfl (progress goes)
      · exact remaining_lt queue works rfl positive
      · exact remaining_lt queue works rfl positive
    | job job stage =>
      have turn : workTurn mark daemon = jobTurn mark job stage daemon := by
        unfold workTurn
        rw [works]
      rw [turn]
      have running : stage.running = true → (∀ error, stage ≠ .failing error) →
          (jobTurn mark job stage daemon).remaining < daemon.remaining := by
        intro running failing
        rw [jobTurn_running running failing]
        cases mark.raises with
        | some error =>
          refine goes_remaining works attempt_queue (.goes (.failing error) id rfl (fun will => Bool.noConfusion will) tame_id ?_)
          cases stage with
          | checking => exact absurd running Bool.false_ne_true
          | failing error => exact absurd rfl (failing error)
          | _ => exact Nat.le_of_ble_eq_true rfl
        | none => exact goes_remaining works attempt_queue (stageTurn_step job _ running)
      cases stage with
      | checking check =>
        have made : daemon.checkAt none = some check := by
          unfold Daemon.checkAt
          rw [works]
          rfl
        have progress := @check_progress daemon mark check sound handed made
        have queue := @checkTurn_queue daemon mark check
        have positive : 1 < (Stage.checking check).rank := Nat.lt_of_lt_of_le (Nat.lt_succ_self 1) (Nat.le_add_left 2 _)
        unfold jobTurn
        dsimp only
        split
        · next next goes => exact remaining_lt queue works rfl (Nat.add_lt_add_right (progress goes) 2)
        · exact remaining_lt queue works rfl (Nat.lt_trans Nat.one_pos positive)
        · exact remaining_lt queue works rfl positive
      | failing error =>
        have last : jobTurn mark job (.failing error) daemon = daemon.goes job (stageTurn mark job none (.failing error)) := by
          unfold jobTurn
          rw [careful]
        rw [last]
        exact goes_remaining works rfl (stageTurn_step job none rfl)
      | _ => exact running rfl nofun

def Daemon.works (daemon : Daemon) : List Mark → Daemon
  | [] => daemon
  | mark :: rest => (daemon.step (.work mark)).works rest

def CarefulRun (daemon : Daemon) : List Mark → Prop
  | [] => True
  | mark :: rest => Careful daemon (.work mark) ∧ CarefulRun (daemon.step (.work mark)) rest

theorem settled_of_idle (sound : Sound daemon) (handed : Handed daemon) (idle : daemon.remaining = 0) :
    daemon.rows.any StackJob.isActive = false ∧ daemon.updates.checking = false := by
  have queue : daemon.queue = [] := by
    cases held : daemon.queue with
    | nil => rfl
    | cons item rest =>
      rw [remaining_of held rfl] at idle
      simp only [map_cons, sum_cons] at idle
      cases item <;> simp only [Item.weight] at idle <;> omega
  have worker : daemon.worker = none := by
    cases held : daemon.worker with
    | none => rfl
    | some work =>
      have positive : 0 < work.rank := by
        cases work with
        | begin => exact Nat.succ_pos _
        | job job stage => cases stage <;> exact Nat.succ_pos _
        | check check => cases check <;> exact Nat.succ_pos _
      rw [remaining_of rfl held] at idle
      simp only [Option.map_some, Option.getD_some] at idle
      omega
  refine ⟨any_eq_false.mpr fun row member active => ?_, ?_⟩
  · rcases active_iff.mp active with queued | running
    · obtain ⟨place, waits⟩ := sound.placed.waiting row member queued
      cases place with
      | queue =>
        unfold Waits at waits
        rw [queue] at waits
        cases waits
      | start i => exact handed.starts i row.id waits
      | thread =>
        unfold Waits at waits
        rw [worker] at waits
        cases waits
    · obtain ⟨job, stage, works, _⟩ := sound.placed.worked row member running
      rw [worker] at works
      cases works
  · cases flag : daemon.updates.checking with
    | false => rfl
    | true =>
      rcases sound.watched.flagged flag with queued | ⟨check, works⟩ | ⟨i, submits⟩
      · rw [queue] at queued
        cases queued
      · rw [worker] at works
        cases works
      · exact absurd submits (handed.inventories i)

/-- The thread comes to the end of everything it has been given. -/
theorem drains {marks : List Mark} (sound : Sound daemon) (handed : Handed daemon) (careful : CarefulRun daemon marks)
    (enough : daemon.remaining ≤ marks.length) :
    (daemon.works marks).rows.any StackJob.isActive = false ∧ (daemon.works marks).updates.checking = false := by
  induction marks generalizing daemon with
  | nil => exact settled_of_idle sound handed (Nat.le_zero.mp enough)
  | cons mark rest ih =>
    have next := (step_sound sound careful.1).1
    refine ih next handed.work careful.2 ?_
    by_cases busy : daemon.remaining = 0
    · have still : workTurn mark daemon = daemon := by
        cases queue : daemon.queue with
        | nil =>
          cases works : daemon.worker with
          | none =>
            unfold workTurn
            rw [works]
            rw [queue]
          | some work =>
            rw [remaining_of queue works] at busy
            cases work with
            | begin => cases busy
            | job job stage => cases stage <;> cases busy
            | check check => cases check <;> cases busy
        | cons item tail =>
          rw [remaining_of queue rfl] at busy
          simp only [map_cons, sum_cons] at busy
          cases item <;> simp only [Item.weight] at busy <;> omega
      unfold Daemon.step
      dsimp only
      rw [still, busy]
      exact Nat.zero_le _
    · have fewer := work_remaining sound handed careful.1 busy
      exact Nat.le_of_lt_succ (Nat.lt_of_lt_of_le fewer enough)

/-- One job is active at most. -/
theorem Placed.one (placed : Placed daemon) : (daemon.rows.filter StackJob.isActive).length ≤ 1 := by
  have distinct : (daemon.rows.filter StackJob.isActive).Nodup := (Nodup.of_map StackJob.id placed.unique).filter _
  cases found : daemon.rows.filter StackJob.isActive with
  | nil => exact Nat.zero_le 1
  | cons first rest =>
    cases rest with
    | nil => exact Nat.le_refl 1
    | cons second others =>
      have listed : ∀ job ∈ first :: second :: others, job ∈ daemon.rows ∧ job.isActive = true := by
        intro job member
        rw [← found] at member
        exact mem_filter.mp member
      obtain ⟨one, alive⟩ := listed first mem_cons_self
      obtain ⟨two, living⟩ := listed second (mem_cons_of_mem _ mem_cons_self)
      rw [found, placed.exclusive first one second two alive living] at distinct
      exact absurd mem_cons_self (nodup_cons.mp distinct).1

def Daemon.after (daemon : Daemon) : List Event → Daemon
  | [] => daemon
  | event :: rest => (daemon.step event).after rest

theorem reaches_after {begun : Daemon} {events : List Event}
    (reached : Sys.Reaches Daemon.step (fun _ _ => True) begun daemon) :
    Sys.Reaches Daemon.step (fun _ _ => True) begun (daemon.after events) := by
  induction events generalizing daemon with
  | nil => exact reached
  | cons event rest ih => exact ih (reached.next event trivial)

/-- A thread in which nothing raises is careful. -/
theorem calm_run {marks : List Mark} (calm : ∀ mark ∈ marks, mark.raises = none) : CarefulRun daemon marks := by
  induction marks generalizing daemon with
  | nil => trivial
  | cons mark rest ih =>
    have quiet : mark.raises = none := calm mark mem_cons_self
    refine ⟨?_, ih fun later member => calm later (mem_cons_of_mem _ member)⟩
    unfold Careful
    dsimp only
    split
    · exact quiet
    · exact quiet
    · exact quiet
    · exact .inl quiet
    · trivial

/-- Where every turn is careful: one job is active at most, no removal takes a version in use,
a job that has ended keeps its status, and the thread comes to the end of what is stored. -/
theorem stack_maintenance_settles (reached : Sys.Reaches Daemon.step Careful Daemon.fresh daemon) :
    (daemon.rows.filter StackJob.isActive).length ≤ 1 ∧
      (∀ removal ∈ daemon.removals, versionUsage removal.2 removal.1 = 0) ∧
      (∀ event, Careful daemon event → KeepsEnded daemon (daemon.step event)) ∧
      (Handed daemon → ∀ marks, CarefulRun daemon marks → daemon.remaining ≤ marks.length →
        (daemon.works marks).rows.any StackJob.isActive = false ∧ (daemon.works marks).updates.checking = false) := by
  have sound : Sound daemon := reached.invariant fresh_sound fun _ _ careful before => (step_sound before careful).1
  exact ⟨sound.placed.one, sound.watched.removed, fun _ careful => (step_sound sound careful).2,
    fun handed _ careful enough => drains sound handed careful enough⟩

def demoPackages : Packages := { installed := fun _ => [], available := fun _ => true, newer := fun _ => true }

def demoMark : Mark :=
  { now := 100000, raises := none, apt := demoPackages, free := 10 * gib, databaseBytes := none
    backupPath := "", checked := .ok 3 }

def demoRequest : Request := { component := .php, action := .install, target := "8.3", confirm := true }

def demoStart (i : Nat) : List Event :=
  [.call i demoRequest, .start i demoMark, .start i demoMark, .start i demoMark, .start i demoMark]

/-- One installation, from its request until the thread has nothing left. -/
theorem stack_maintenance_settles_demo : (Daemon.fresh.after (demoStart 0)).rows.any StackJob.isActive = true ∧
      ((Daemon.fresh.after (demoStart 0)).works (List.replicate 21 demoMark)).rows.any StackJob.isActive = false := by
  have reached : Sys.Reaches Daemon.step Careful Daemon.fresh (Daemon.fresh.after (demoStart 0)) :=
    ((((Sys.Reaches.start.next (Event.call 0 demoRequest) trivial).next (Event.start 0 demoMark) trivial).next
      (Event.start 0 demoMark) trivial).next (Event.start 0 demoMark) rfl).next (Event.start 0 demoMark) rfl
  have handed : Handed (Daemon.fresh.after (demoStart 0)) := by
    refine ⟨fun i => ?_, nofun, fun _ => rfl⟩
    cases i with
    | zero => exact nofun
    | succ => exact nofun
  have calm : ∀ mark ∈ List.replicate 21 demoMark, mark.raises = none := by
    intro mark member
    rw [List.eq_of_mem_replicate member]
    rfl
  obtain ⟨_, _, _, settles⟩ := stack_maintenance_settles reached
  exact ⟨rfl, (settles handed _ (calm_run calm) (Nat.le_of_ble_eq_true rfl)).1⟩

def demoRace : List Event :=
  [.call 0 demoRequest, .call 1 demoRequest, .start 0 demoMark, .start 1 demoMark, .start 0 demoMark, .start 1 demoMark,
    .start 0 demoMark, .start 1 demoMark]

/-- Two starts that both look before either inserts. -/
theorem two_starts_race : ¬ ∀ daemon, Sys.Reaches Daemon.step (fun _ _ => True) Daemon.fresh daemon →
    (daemon.rows.filter StackJob.isActive).length ≤ 1 := by
  intro claimed
  have reached : Sys.Reaches Daemon.step (fun _ _ => True) Daemon.fresh (Daemon.fresh.after demoRace) :=
    reaches_after .start
  exact absurd (claimed _ reached) (by decide)

end Boron.StackManager
