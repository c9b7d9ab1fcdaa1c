import Boron.ControlTasks.Once

namespace Boron.ControlTasks

/-- A failed task stays failed; a completed one stays completed unless its worker raises. -/
structure Onward (found : Option ControlTask) (story : Story) (later : Option ControlTask) (after : Story) : Prop where
  failed : ∀ row, found = some row → row.status = .failed → ∃ left, later = some left ∧ left.status = .failed
  completed : ∀ row, found = some row → row.status = .completed →
    ∃ left, later = some left ∧ (left.status = .completed ∨ left.status = .failed ∧ after.raised = true)
  raised : story.raised = true → after.raised = true

section
variable {host : Host} {found middle later : Option ControlTask} {story between after : Story}

theorem Onward.same (raised : story.raised = true → after.raised = true) : Onward found story found after :=
  ⟨fun row same status => ⟨row, same, status⟩, fun row same status => ⟨row, same, .inl status⟩, raised⟩

theorem Onward.trans (first : Onward found story middle between) (second : Onward middle between later after) :
    Onward found story later after := by
  refine ⟨fun row same status => ?_, fun row same status => ?_, fun raised => second.raised (first.raised raised)⟩
  · obtain ⟨left, present, failed⟩ := first.failed row same status
    exact second.failed left present failed
  · obtain ⟨left, present, completed | ⟨failed, raised⟩⟩ := first.completed row same status
    · exact second.completed left present completed
    · obtain ⟨last, there, stays⟩ := second.failed left present failed
      exact ⟨last, there, .inr ⟨stays, second.raised raised⟩⟩

/-- A row that is still to be finished may become anything. -/
theorem Onward.open {row : ControlTask} (status : row.status = .queued ∨ row.status = .running)
    (raised : story.raised = true → after.raised = true) : Onward (some row) story later after := by
  refine ⟨fun other same failed => ?_, fun other same completed => ?_, raised⟩
  · cases same
    rcases status with status | status <;> cases status.symm.trans failed
  · cases same
    rcases status with status | status <;> cases status.symm.trans completed

theorem turn_raised {moment : Moment} {phase : Phase} {worker : Worker} (raised : story.raised = true) :
    (story.turn moment phase worker).raised = true := by
  cases worker with
  | idle => exact raised
  | run id next => simp [Story.turn, raised]

theorem workTurn_onward {moment : Moment} {id : Nat} {phase : Phase} {rows : List ControlTask}
    (told : Situation host (taskById rows id) story (some phase)) :
    Onward (taskById rows id) story (taskById (workTurn host moment id phase rows).2 id)
      (story.turn moment phase (workTurn host moment id phase rows).1) := by
  have running (unfinished : phase.unfinished = true) :
      Onward (taskById rows id) story (taskById (workTurn host moment id phase rows).2 id)
        (story.turn moment phase (workTurn host moment id phase rows).1) := by
    obtain ⟨row, same, status, _⟩ := told.running unfinished
    rw [same]
    exact .open (.inr status) turn_raised
  cases phase with
  | record =>
    simp only [workTurn]
    cases moment.outcome with
    | error error => exact .same turn_raised
    | ok reply => exact .same turn_raised
  | failing error =>
    obtain ⟨row, same, _, _, raised, _⟩ := told.failing
    simp only [workTurn]
    cases moment.outcome with
    | error _ => exact .same turn_raised
    | ok reply =>
      have keyed (row : ControlTask) : (row.fail moment).id = row.id := rfl
      rw [taskById_setTask keyed, if_pos rfl, same]
      exact ⟨fun _ _ _ => ⟨_, rfl, rfl⟩, fun _ _ _ => ⟨_, rfl, .inr ⟨rfl, turn_raised raised⟩⟩, turn_raised⟩
  | recordFailed error =>
    simp only [workTurn]
    cases moment.outcome with
    | error _ => exact .same turn_raised
    | ok reply => exact .same turn_raised
  | emit => exact .same turn_raised
  | _ => exact running rfl

end

/-- Without the recovery the daemon has nothing in work. -/
structure Sound (host : Host) (daemon : Daemon) : Prop where
  told : ∀ id, Situation host (taskById daemon.rows id) (daemon.story id) (daemon.worker.phase id)
  stopped : daemon.serving = false → daemon.worker = .idle ∧ daemon.queue = [] ∧ daemon.starting = []

/-- One event keeps the invariant, and takes back no end of a task. -/
structure Advances (host : Host) (daemon left : Daemon) : Prop where
  sound : Sound host left
  onward : ∀ id, Onward (taskById daemon.rows id) (daemon.story id) (taskById left.rows id) (left.story id)

section
variable {host : Host} {daemon : Daemon} {id : Nat} {story : Story} {phase : Option Phase}

theorem Situation.of_none (told : Situation host none story phase) : story = .blank ∧ phase = none := by
  cases told with
  | unknown => exact ⟨rfl, rfl⟩

variable {row : ControlTask}

theorem Situation.of_queued (told : Situation host (some row) story phase) (queued : row.status = .queued) : story = .blank ∧ phase = none := by
  cases told with
  | queued status => exact ⟨rfl, rfl⟩
  | begun status before => cases status.symm.trans queued
  | called status => cases status.symm.trans queued
  | made status carries => cases status.symm.trans queued
  | completed status cleared invoked returned kept stands => cases status.symm.trans queued
  | raised status invoked handed raised => cases status.symm.trans queued
  | left status => cases status.symm.trans queued
  | failed status cleared invoked handed lost stands => cases status.symm.trans queued

theorem Situation.of_completed (told : Situation host (some row) story phase) (completed : row.status = .completed) :
    ∃ secret, row.secretParamsEnc = none ∧ story.invoked = 1 ∧ story.returned = some secret ∧
      Kept host secret row story.handed ∧
      (phase = none ∨ phase = some .record ∨ story.raised = true ∧ ∃ error, phase = some (.failing error)) := by
  cases told with
  | queued status => cases status.symm.trans completed
  | begun status before => cases status.symm.trans completed
  | called status => cases status.symm.trans completed
  | made status carries => cases status.symm.trans completed
  | completed status cleared invoked returned kept stands => exact ⟨_, cleared, invoked, returned, kept, stands⟩
  | raised status invoked handed raised => cases status.symm.trans completed
  | left status => cases status.symm.trans completed
  | failed status cleared invoked handed lost stands => cases status.symm.trans completed

theorem Situation.of_left (told : Situation host (some row) story none)
    (running : row.status = .running) : story.invoked ≤ 1 ∧ story.handed = [] ∧ story.Lost := by
  cases told with
  | queued status => cases status.symm.trans running
  | completed status cleared invoked returned kept stands => cases status.symm.trans running
  | left status invoked handed lost => exact ⟨invoked, handed, lost⟩
  | failed status cleared invoked handed lost stands => cases status.symm.trans running

theorem startTask_eq {moment : Moment} {operation : Operation} {params : Dict} {accountId : Option Int}
    {rows left : List ControlTask} (started : startTask host moment operation params accountId rows = .ok (row, left)) :
    row.id = Rows.next ControlTask.id rows ∧ row.status = .queued ∧ left = rows ++ [row] := by
  unfold startTask at started
  simp only [Checks.bind_eq_ok, Checks.pure_eq_ok] at started
  obtain ⟨named, _, secret, _, reply, _, same⟩ := started
  cases same
  exact ⟨rfl, rfl, rfl⟩

theorem advances_same (sound : Sound host daemon) : Advances host daemon daemon :=
  ⟨sound, fun _ => .same fun raised => raised⟩

theorem advances_start (sound : Sound host daemon) (moment : Moment) (operation : Operation) (params : Dict)
    (accountId : Option Int) : Advances host daemon (daemon.step host (.start moment operation params accountId)) := by
  unfold Daemon.step
  dsimp only
  split
  · next serving =>
    cases started : startTask host moment operation params accountId daemon.rows with
    | error error => exact advances_same sound
    | ok pair =>
      obtain ⟨row, left⟩ := pair
      obtain ⟨fresh, queued, rfl⟩ := startTask_eq started
      have lookup (id : Nat) : taskById (daemon.rows ++ [row]) id = if row.id = id then some row else taskById daemon.rows id :=
        Rows.byKey_append_next fresh id
      have unknown : taskById daemon.rows row.id = none := by
        rw [fresh]
        exact Rows.byKey_next daemon.rows
      refine ⟨⟨fun id => ?_, fun stopped => ?_⟩, fun id => ?_⟩
      · have told := sound.told id
        rw [lookup]
        by_cases own : row.id = id
        · subst own
          rw [unknown] at told
          rw [if_pos rfl, told.of_none.1, told.of_none.2]
          exact .queued queued
        · rw [if_neg own]
          exact told
      · cases serving.symm.trans stopped
      · rw [lookup]
        by_cases own : row.id = id
        · subst own
          rw [unknown]
          exact ⟨by rintro _ ⟨⟩, by rintro _ ⟨⟩, fun raised => raised⟩
        · rw [if_neg own]
          exact .same fun raised => raised
  · exact advances_same sound

theorem advances_submit (sound : Sound host daemon) (id : Nat) : Advances host daemon (daemon.step host (.submit id)) := by
  unfold Daemon.step
  dsimp only
  split
  · next member =>
    refine ⟨⟨sound.told, fun stopped => ?_⟩, fun _ => .same fun raised => raised⟩
    rw [(sound.stopped stopped).2.2] at member
    cases member
  · exact advances_same sound

theorem tell_own (f : Story → Story) : (daemon.tell id f).story id = f (daemon.story id) := if_pos rfl

theorem tell_other {other : Nat} (f : Story → Story) (different : other ≠ id) :
    (daemon.tell id f).story other = daemon.story other := if_neg different

theorem begin_id (moment : Moment) (row : ControlTask) : (row.begin moment).id = row.id := rfl

theorem advances_work (opens : host.Opens) (sound : Sound host daemon) (moment : Moment) :
    Advances host daemon (daemon.step host (.work moment)) := by
  change Advances host daemon (workDaemon host moment daemon)
  unfold workDaemon
  cases held : daemon.worker with
  | idle =>
    have noPhase (id : Nat) : daemon.worker.phase id = none := by
      rw [held]
      rfl
    cases queued : daemon.queue with
    | nil => exact advances_same sound
    | cons id queue =>
      have serving : daemon.serving = true := by
        cases serves : daemon.serving with
        | true => rfl
        | false => cases queued.symm.trans (sound.stopped serves).2.1
      have dropped : Advances host daemon { daemon with queue } :=
        ⟨⟨sound.told, fun stopped => by cases serving.symm.trans stopped⟩, fun _ => .same fun raised => raised⟩
      dsimp only
      cases found : taskById daemon.rows id with
      | none => exact held ▸ dropped
      | some row =>
        dsimp only
        split
        · exact held ▸ dropped
        · next fits =>
          have waiting : row.status = .queued := Decidable.not_not.mp fits
          cases beginTask host moment row with
          | error error => exact held ▸ dropped
          | ok params =>
            have blank : daemon.story id = .blank := by
              have told := sound.told id
              rw [found] at told
              exact (told.of_queued waiting).1
            refine ⟨⟨fun other => ?_, fun stopped => by cases serving.symm.trans stopped⟩, fun other => ?_⟩
            · rw [taskById_setTask (begin_id moment)]
              by_cases own : id = other
              · subst own
                rw [if_pos rfl, found, blank, run_phase_own]
                exact .begun rfl trivial
              · rw [if_neg own, run_phase_other (Ne.symm own), ← noPhase other]
                exact sound.told other
            · rw [taskById_setTask (begin_id moment)]
              by_cases own : id = other
              · subst own
                rw [found]
                exact .open (.inl waiting) fun raised => raised
              · rw [if_neg own]
                exact .same fun raised => raised
  | run id phase =>
    have told := sound.told id
    rw [held, run_phase_own] at told
    obtain ⟨own, others, idle⟩ := workTurn_turned opens moment told
    have serving : daemon.serving = true := by
      cases serves : daemon.serving with
      | true => rfl
      | false => cases held.symm.trans (sound.stopped serves).1
    refine ⟨⟨fun other => ?_, fun stopped => by cases serving.symm.trans stopped⟩, fun other => ?_⟩
    · by_cases same : other = id
      · subst same
        rw [tell_own]
        exact own
      · rw [tell_other _ same]
        change Situation host (taskById (workTurn host moment id phase daemon.rows).2 other) (daemon.story other)
          ((workTurn host moment id phase daemon.rows).1.phase other)
        rw [others other same, idle other same]
        have before := sound.told other
        rwa [held, run_phase_other same] at before
    · by_cases same : other = id
      · subst same
        rw [tell_own]
        exact workTurn_onward told
      · rw [tell_other _ same]
        change Onward _ _ (taskById (workTurn host moment id phase daemon.rows).2 other) (daemon.story other)
        rw [others other same]
        exact .same fun raised => raised

theorem stop_lost {found : Option ControlTask} {phase : Phase} (told : Situation host found story (some phase)) :
    Situation host found (if phase.unfinished then { story with stopped := true } else story) none := by
  cases unfinished : phase.unfinished with
  | true =>
    obtain ⟨row, same, status, once, none⟩ := told.running unfinished
    rw [same, if_pos rfl]
    exact .left status once none fun _ => .inr rfl
  | false =>
    cases phase with
    | record =>
      obtain ⟨row, secret, same, status, cleared, once, returned, kept⟩ := told.recording
      rw [same]
      exact .completed status cleared once returned kept (.inl rfl)
    | failing error =>
      obtain ⟨row, same, once, handed, raised, ⟨status, none⟩ | ⟨secret, status, cleared, only, returned, kept⟩⟩ := told.failing
      · rw [same]
        exact .left status once none fun _ => .inl raised
      · rw [same]
        exact .completed status cleared only returned kept (.inl rfl)
    | recordFailed error => exact told.losing (.inr ⟨error, rfl⟩) none (.inl rfl)
    | emit => exact told.losing (.inl rfl) none (.inl rfl)
    | _ => cases unfinished

theorem advances_stop (sound : Sound host daemon) : Advances host daemon (daemon.step host .stop) := by
  change Advances host daemon (stopDaemon daemon)
  unfold stopDaemon
  cases held : daemon.worker with
  | idle =>
    refine ⟨⟨fun id => ?_, fun _ => ⟨rfl, rfl, rfl⟩⟩, fun _ => .same fun raised => raised⟩
    have told := sound.told id
    rwa [held] at told
  | run id phase =>
    have told := sound.told id
    rw [held, run_phase_own] at told
    have own := stop_lost told
    have others (other : Nat) (different : other ≠ id) :
        Situation host (taskById daemon.rows other) (daemon.story other) none := by
      have before := sound.told other
      rwa [held, run_phase_other different] at before
    dsimp only
    split
    · next unfinished =>
      rw [if_pos unfinished] at own
      refine ⟨⟨fun other => ?_, fun _ => ⟨rfl, rfl, rfl⟩⟩, fun other => ?_⟩
      · by_cases same : other = id
        · subst same
          rw [tell_own]
          exact own
        · rw [tell_other _ same]
          exact others other same
      · by_cases same : other = id
        · subst same
          rw [tell_own]
          exact .same fun raised => raised
        · rw [tell_other _ same]
          exact .same fun raised => raised
    · next finished =>
      rw [if_neg finished] at own
      refine ⟨⟨fun other => ?_, fun _ => ⟨rfl, rfl, rfl⟩⟩, fun _ => .same fun raised => raised⟩
      by_cases same : other = id
      · subst same
        exact own
      · exact others other same

theorem revealResult_eq {moment : Moment} {rows left : List ControlTask} {answer : Dict} {secret : Option Value}
    (revealed : revealResult host moment id rows = .ok (answer, secret, left)) :
    ∃ row, taskById rows id = some row ∧ row.status = .completed ∧ revealSecret host row.oneTimeSecretEnc = .ok secret ∧
      left = setTask id (fun row => { row with oneTimeSecretEnc := none }) rows := by
  unfold revealResult at revealed
  cases found : taskById rows id with
  | none =>
    rw [found] at revealed
    cases revealed
  | some row =>
    simp only [found] at revealed
    split at revealed
    · cases revealed
    · next fits =>
      simp only [Checks.bind_eq_ok, Checks.pure_eq_ok] at revealed
      obtain ⟨own, opened, _, _, same⟩ := revealed
      cases same
      exact ⟨row, rfl, Decidable.not_not.mp fits, opened, rfl⟩

theorem advances_reveal (sound : Sound host daemon) (moment : Moment) (id : Nat) :
    Advances host daemon (daemon.step host (.reveal moment id)) := by
  unfold Daemon.step
  dsimp only
  split
  · next serving =>
    cases revealed : revealResult host moment id daemon.rows with
    | error error => exact advances_same sound
    | ok triple =>
      obtain ⟨answer, secret, left⟩ := triple
      obtain ⟨row, found, completed, opened, same⟩ := revealResult_eq revealed
      subst same
      have keyed (row : ControlTask) : ({ row with oneTimeSecretEnc := none } : ControlTask).id = row.id := rfl
      refine ⟨⟨fun other => ?_, fun stopped => by cases serving.symm.trans stopped⟩, fun other => ?_⟩
      · by_cases same : other = id
        · subst same
          rw [tell_own]
          change Situation host (taskById (setTask other _ daemon.rows) other) _ (daemon.worker.phase other)
          rw [taskById_setTask keyed, if_pos rfl, found]
          have told := sound.told other
          rw [found] at told
          obtain ⟨own, cleared, once, returned, kept, stands⟩ := told.of_completed completed
          refine .completed completed cleared once returned (.inr ⟨rfl, ?_⟩) stands
          rcases kept with ⟨reveals, none⟩ | ⟨absent, handed⟩
          · cases reveals.symm.trans opened
            simp only [none, List.append_nil]
          · rw [absent] at opened
            cases opened
            exact handed
        · rw [tell_other _ same]
          change Situation host (taskById (setTask id _ daemon.rows) other) _ (daemon.worker.phase other)
          rw [taskById_setTask keyed, if_neg (Ne.symm same)]
          exact sound.told other
      · by_cases same : other = id
        · subst same
          rw [tell_own]
          change Onward _ _ (taskById (setTask other _ daemon.rows) other) _
          rw [taskById_setTask keyed, if_pos rfl, found]
          refine ⟨fun row same failed => ?_, fun row same _ => ?_, fun raised => raised⟩
          · cases same
            cases completed.symm.trans failed
          · cases same
            exact ⟨_, rfl, .inl completed⟩
        · rw [tell_other _ same]
          change Onward _ _ (taskById (setTask id _ daemon.rows) other) _
          rw [taskById_setTask keyed, if_neg (Ne.symm same)]
          exact .same fun raised => raised
  · exact advances_same sound

theorem advances_recover (sound : Sound host daemon) (moment : Moment) :
    Advances host daemon (daemon.step host (.recover moment)) := by
  unfold Daemon.step
  dsimp only
  split
  · exact advances_same sound
  · next stopped =>
    have still : daemon.serving = false := by simpa using stopped
    obtain ⟨idle, _, _⟩ := sound.stopped still
    have told (id : Nat) : Situation host (taskById daemon.rows id) (daemon.story id) none := by
      have before := sound.told id
      rwa [idle] at before
    cases recovered : recoverPending moment daemon.rows with
    | error error => exact ⟨⟨sound.told, (fun same => by cases same)⟩, fun _ => .same fun raised => raised⟩
    | ok pair =>
      simp only [recoverPending, Checks.bind_eq_ok, Checks.pure_eq_ok] at recovered
      obtain ⟨_, _, same⟩ := recovered
      cases same
      have lookup (id : Nat) :
          taskById (daemon.rows.map fun row => if row.status = .running then row.interrupted moment else row) id =
            (taskById daemon.rows id).map fun row => if row.status = .running then row.interrupted moment else row :=
        Rows.byKey_map (fun row => by split <;> rfl) daemon.rows id
      refine ⟨⟨fun id => ?_, (fun same => by cases same)⟩, fun id => ?_⟩
      · have before := told id
        rw [lookup, idle]
        cases found : taskById daemon.rows id with
        | none =>
          rw [found] at before
          exact before
        | some row =>
          rw [found] at before
          by_cases running : row.status = .running
          · obtain ⟨once, none, lost⟩ := before.of_left running
            simp only [Option.map_some, running, if_true]
            exact .failed rfl rfl once (by rw [none]; exact Nat.zero_le 1) lost (.inl rfl)
          · simp only [Option.map_some, running, if_false]
            exact before
      · rw [lookup]
        cases found : taskById daemon.rows id with
        | none => exact .same fun raised => raised
        | some row =>
          by_cases running : row.status = .running
          · exact .open (.inr running) fun raised => raised
          · simp only [Option.map_some, running, if_false]
            exact .same fun raised => raised

theorem step_advances (opens : host.Opens) (sound : Sound host daemon) (event : Event) :
    Advances host daemon (daemon.step host event) := by
  cases event with
  | start moment operation params accountId => exact advances_start sound moment operation params accountId
  | submit id => exact advances_submit sound id
  | work moment => exact advances_work opens sound moment
  | reveal moment id => exact advances_reveal sound moment id
  | stop => exact advances_stop sound
  | recover moment => exact advances_recover sound moment

end

section
variable {host : Host} {daemon later : Daemon}

theorem empty_sound : Sound host .empty := ⟨fun _ => .unknown, nofun⟩

theorem Reaches.sound (opens : host.Opens) (reached : Reaches host .empty daemon) : Sound host daemon := by
  induction reached with
  | start => exact empty_sound
  | next event _ _ ih => exact (step_advances opens ih event).sound

theorem Reaches.onward (opens : host.Opens) (sound : Sound host daemon) (reached : Reaches host daemon later) (id : Nat) :
    Onward (taskById daemon.rows id) (daemon.story id) (taskById later.rows id) (later.story id) ∧ Sound host later := by
  induction reached with
  | start => exact ⟨.same fun raised => raised, sound⟩
  | next event _ _ ih =>
    have advances := step_advances opens ih.2 event
    exact ⟨ih.1.trans (advances.onward id), advances.sound⟩

end

/-- What holds of a task in every state of every run. -/
structure Once (host : Host) (id : Nat) (daemon : Daemon) : Prop where
  invoked : (daemon.story id).invoked ≤ 1
  handed : (daemon.story id).handed.length ≤ 1
  cleared : ∀ row, taskById daemon.rows id = some row → row.status = .completed ∨ row.status = .failed →
    row.secretParamsEnc = none
  returned : ∀ secret, (daemon.story id).returned = some secret → (daemon.story id).raised = false →
    (daemon.story id).stopped = false → ∃ row, taskById daemon.rows id = some row ∧
      (row.status = .running ∧ (daemon.worker.phase id).isSome = true ∨
        row.status = .completed ∧ Kept host secret row (daemon.story id).handed)

section
variable {host : Host} {found : Option ControlTask} {story : Story} {phase : Option Phase}

theorem Situation.counts (told : Situation host found story phase) : story.invoked ≤ 1 ∧ story.handed.length ≤ 1 := by
  cases told with
  | unknown => exact ⟨Nat.zero_le 1, Nat.zero_le 1⟩
  | queued status => exact ⟨Nat.zero_le 1, Nat.zero_le 1⟩
  | begun status before => exact ⟨Nat.zero_le 1, Nat.zero_le 1⟩
  | called status => exact ⟨Nat.le_refl 1, Nat.zero_le 1⟩
  | made status carries => exact ⟨Nat.le_refl 1, Nat.zero_le 1⟩
  | completed status cleared invoked returned kept stands => exact ⟨Nat.le_of_eq invoked, kept.handed⟩
  | raised status invoked handed raised =>
    rw [handed]
    exact ⟨invoked, Nat.zero_le 1⟩
  | left status invoked handed lost =>
    rw [handed]
    exact ⟨invoked, Nat.zero_le 1⟩
  | failed status cleared invoked handed lost stands => exact ⟨invoked, handed⟩

theorem Situation.cleared {row : ControlTask} (told : Situation host (some row) story phase)
    (ended : row.status = .completed ∨ row.status = .failed) : row.secretParamsEnc = none := by
  have open_ (status : row.status = .queued ∨ row.status = .running) : False := by
    rcases status with status | status <;> rcases ended with ended | ended <;> cases status.symm.trans ended
  cases told with
  | queued status => exact (open_ (.inl status)).elim
  | begun status before => exact (open_ (.inr status)).elim
  | called status => exact (open_ (.inr status)).elim
  | made status carries => exact (open_ (.inr status)).elim
  | completed status cleared invoked returned kept stands => exact cleared
  | raised status invoked handed raised => exact (open_ (.inr status)).elim
  | left status invoked handed lost => exact (open_ (.inr status)).elim
  | failed status cleared invoked handed lost stands => exact cleared

theorem Situation.returned {secret : Option Value} (told : Situation host found story phase)
    (returned : story.returned = some secret) (raised : story.raised = false) (stopped : story.stopped = false) :
    ∃ row, found = some row ∧ (row.status = .running ∧ phase.isSome = true ∨
      row.status = .completed ∧ Kept host secret row story.handed) := by
  have impossible (lost : story.Lost) : False := by
    rcases lost (by rw [returned]; rfl) with yes | yes
    · cases raised.symm.trans yes
    · cases stopped.symm.trans yes
  cases told with
  | unknown => cases returned
  | queued status => cases returned
  | begun status before => cases returned
  | called status => cases returned
  | made status carries => exact ⟨_, rfl, .inl ⟨status, rfl⟩⟩
  | completed status cleared invoked own kept stands =>
    cases own.symm.trans returned
    exact ⟨_, rfl, .inr ⟨status, kept⟩⟩
  | raised status invoked handed yes => cases raised.symm.trans yes
  | left status invoked handed lost => exact (impossible lost).elim
  | failed status cleared invoked handed lost stands => exact (impossible lost).elim

end

theorem Situation.once {host : Host} {daemon : Daemon} {id : Nat}
    (told : Situation host (taskById daemon.rows id) (daemon.story id) (daemon.worker.phase id)) : Once host id daemon := by
  refine ⟨told.counts.1, told.counts.2, fun row found ended => ?_, fun secret => told.returned⟩
  rw [found] at told
  exact told.cleared ended

/-- In every run, with stops and restarts wherever they fall, an operation is invoked at
most once and its one-time result handed out at most once; a task that has ended keeps no
sealed parameters; one that has failed stays failed, and one that is completed stays so
while its worker does not raise; and what an operation has returned stays with its worker
or with its completed task, unless an error or a stop came before the completion. -/
theorem control_tasks_once {host : Host} (opens : host.Opens) {daemon : Daemon} (reached : Reaches host .empty daemon)
    (id : Nat) : Once host id daemon ∧ ∀ later, Reaches host daemon later →
      Onward (taskById daemon.rows id) (daemon.story id) (taskById later.rows id) (later.story id) := by
  have sound := reached.sound opens
  exact ⟨(sound.told id).once, fun later onwards => (onwards.onward opens sound id).1⟩

def plainHost : Host where
  str _ := ""
  int value := match value with
    | .number n => .ok n
    | _ => .error "int() argument must be a number"
  dumps value := match value with
    | .text password => password
    | _ => ""
  loads text := .ok (some (.text text))
  encrypt _ value := match value with
    | .text secret => .ok ("~" ++ secret)
    | _ => .error "a secret is a str"
  decrypt cipher := .ok (.text (String.ofList (cipher.toList.drop 1)))

theorem plainHost_opens : plainHost.Opens := by
  intro nonce value cipher sealed
  cases value with
  | text secret =>
    cases sealed
    simp [plainHost]
  | _ => cases sealed

def Daemon.after (host : Host) (events : List Event) (daemon : Daemon) : Daemon :=
  events.foldl (fun daemon event => daemon.step host event) daemon

theorem Reaches.after {host : Host} {start daemon : Daemon} (reached : Reaches host start daemon) (events : List Event) :
    Reaches host start (daemon.after host events) := by
  induction events generalizing daemon with
  | nil => exact reached
  | cons event events ih => exact ih (reached.next event trivial)

def replies (outcome : Except String Dict) : Moment :=
  { now := 0, nonce := "", requestId := none, reference := fun _ => "e1", outcome }

def creating : List Event :=
  [.start (replies (.ok []))
     .accountCreate [("_authenticated_username", .text "root"), ("_authenticated_role", .text "admin"),
                     ("username", .text "alice")] none,
   .submit 1, .work (replies (.ok [])), .work (replies (.ok [])), .work (replies (.ok [])),
   .work (replies (.ok [("id", .number 7), ("username", .text "alice"), ("initial_password", .text "pw")]))]

def revealed : Daemon :=
  (Daemon.empty.after plainHost creating).after plainHost
    (List.replicate 5 (.work (replies (.ok []))) ++ [.reveal (replies (.ok [])) 1, .reveal (replies (.ok [])) 1])

theorem control_tasks_once_revealed :
    Once plainHost 1 revealed ∧ (taskById revealed.rows 1).map ControlTask.status = some .completed ∧
    (revealed.story 1).invoked = 1 ∧ (revealed.story 1).handed.length = 1 := by
  refine ⟨(control_tasks_once plainHost_opens ((Reaches.after .start creating).after _) 1).1, ?_, ?_, ?_⟩
  · rfl
  · rfl
  · rfl

/-- The daemon stops between the return of the handler and the completion. -/
def overtaken : Daemon := Daemon.empty.after plainHost (creating ++ [.stop, .recover (replies (.ok []))])

theorem returned_task_fails : ¬ ∀ host : Host, host.Opens → ∀ daemon, Reaches host .empty daemon → ∀ id row secret,
      (daemon.story id).returned = some secret → taskById daemon.rows id = some row → row.status ≠ .failed := by
  intro claimed
  have failed : (taskById overtaken.rows 1).map ControlTask.status = some .failed := rfl
  have returned : (overtaken.story 1).returned.isSome = true := rfl
  obtain ⟨row, found, status⟩ := Option.map_eq_some_iff.mp failed
  obtain ⟨secret, came⟩ := Option.isSome_iff_exists.mp returned
  exact claimed plainHost plainHost_opens overtaken (Reaches.after .start _) 1 row secret came found status

end Boron.ControlTasks
