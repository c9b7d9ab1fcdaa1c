import Boron.ControlTasks.Worker

namespace Boron.ControlTasks

def Worker.phase (id : Nat) : Worker → Option Phase
  | .idle => none
  | .run other phase => if other = id then some phase else none

def Phase.Before : Phase → Prop
  | .execute _ => True
  | .call _ _ _ => True
  | _ => False

def Phase.Carries (secret : Option Value) : Phase → Prop
  | .plan _ made => made.secret = secret
  | .applyPlan _ made => made.secret = secret
  | .address _ made => made.secret = secret
  | .assign _ made => made.secret = secret
  | .accountEvent made => made.secret = secret
  | .complete made => made.secret = secret
  | _ => False

/-- The one-time result is still in the row, or has been handed out. -/
def Kept (host : Host) (secret : Option Value) (row : ControlTask) (handed : List Value) : Prop :=
  revealSecret host row.oneTimeSecretEnc = .ok secret ∧ handed = [] ∨ row.oneTimeSecretEnc = none ∧ handed = secret.toList

def Story.Lost (story : Story) : Prop := story.returned.isSome = true → story.raised = true ∨ story.stopped = true

/-- How a row, the story of its task and the worker's phase in it agree. -/
inductive Situation (host : Host) : Option ControlTask → Story → Option Phase → Prop
  | unknown : Situation host none .blank none
  | queued {row : ControlTask} (status : row.status = .queued) : Situation host (some row) .blank none
  | begun {row : ControlTask} {phase : Phase} (status : row.status = .running) (before : phase.Before) :
      Situation host (some row) .blank (some phase)
  | called {row read : ControlTask} {creation : Creation} {params : Dict} (status : row.status = .running) :
      Situation host (some row) { Story.blank with invoked := 1 } (some (.called read creation params))
  | made {row : ControlTask} {phase : Phase} {secret : Option Value} (status : row.status = .running)
      (carries : phase.Carries secret) :
      Situation host (some row) { Story.blank with invoked := 1, returned := some secret } (some phase)
  | completed {row : ControlTask} {story : Story} {secret : Option Value} {phase : Option Phase}
      (status : row.status = .completed) (cleared : row.secretParamsEnc = none) (invoked : story.invoked = 1)
      (returned : story.returned = some secret) (kept : Kept host secret row story.handed)
      (stands : phase = none ∨ phase = some .record ∨ story.raised = true ∧ ∃ error, phase = some (.failing error)) :
      Situation host (some row) story phase
  | raised {row : ControlTask} {story : Story} {error : String} (status : row.status = .running)
      (invoked : story.invoked ≤ 1) (handed : story.handed = []) (raised : story.raised = true) :
      Situation host (some row) story (some (.failing error))
  | left {row : ControlTask} {story : Story} (status : row.status = .running) (invoked : story.invoked ≤ 1)
      (handed : story.handed = []) (lost : story.Lost) : Situation host (some row) story none
  | failed {row : ControlTask} {story : Story} {phase : Option Phase} (status : row.status = .failed)
      (cleared : row.secretParamsEnc = none) (invoked : story.invoked ≤ 1) (handed : story.handed.length ≤ 1)
      (lost : story.Lost) (stands : phase = none ∨ phase = some .emit ∨ ∃ error, phase = some (.recordFailed error)) :
      Situation host (some row) story phase

section
variable {host : Host} {rows : List ControlTask} {id other : Nat} {f : ControlTask → ControlTask}

theorem taskById_setTask (same : ∀ row, (f row).id = row.id) :
    taskById (setTask id f rows) other = if id = other then (taskById rows other).map f else taskById rows other :=
  Rows.byKey_change same rows id other

variable {story : Story} {phase : Phase} {found : Option ControlTask}

@[simp] theorem progress_id (pct : Nat) (message : String) (row : ControlTask) : (row.progress pct message).id = row.id := rfl
theorem Situation.unfinished (told : Situation host found story (some phase)) (unfinished : phase.unfinished = true) :
    ∃ row, found = some row ∧ row.status = .running ∧ (phase.Before ∧ story = .blank ∨
        (∃ read creation params, phase = .called read creation params) ∧ story = { Story.blank with invoked := 1 } ∨
        ∃ secret, phase.Carries secret ∧ story = { Story.blank with invoked := 1, returned := some secret }) := by
  generalize held : some phase = holds at told
  cases told with
  | unknown => cases held
  | queued status => cases held
  | begun status before =>
    cases held
    exact ⟨_, rfl, status, .inl ⟨before, rfl⟩⟩
  | called status =>
    cases held
    exact ⟨_, rfl, status, .inr (.inl ⟨⟨_, _, _, rfl⟩, rfl⟩)⟩
  | made status carries =>
    cases held
    exact ⟨_, rfl, status, .inr (.inr ⟨_, carries, rfl⟩)⟩
  | completed status cleared invoked returned kept stands =>
    rcases stands with none | record | ⟨_, error, failing⟩
    · cases held.trans none
    · cases held.trans record
      cases unfinished
    · cases held.trans failing
      cases unfinished
  | raised status invoked handed raised =>
    cases held
    cases unfinished
  | left status => cases held
  | failed status cleared invoked handed lost stands =>
    rcases stands with none | emit | ⟨error, failed⟩
    · cases held.trans none
    · cases held.trans emit
      cases unfinished
    · cases held.trans failed
      cases unfinished

theorem Situation.running (told : Situation host found story (some phase)) (unfinished : phase.unfinished = true) :
    ∃ row, found = some row ∧ row.status = .running ∧ story.invoked ≤ 1 ∧ story.handed = [] := by
  obtain ⟨row, same, status, ⟨_, story⟩ | ⟨_, story⟩ | ⟨secret, _, story⟩⟩ := told.unfinished unfinished
  · subst story
    exact ⟨row, same, status, Nat.zero_le 1, rfl⟩
  · subst story
    exact ⟨row, same, status, Nat.le_refl 1, rfl⟩
  · subst story
    exact ⟨row, same, status, Nat.le_refl 1, rfl⟩

theorem Situation.before {found : Option ControlTask} {story : Story} {phase : Phase}
    (told : Situation host found story (some phase)) (before : phase.Before) :
    ∃ row, found = some row ∧ row.status = .running ∧ story = .blank := by
  have unfinished : phase.unfinished = true := by
    cases phase <;> first | rfl | exact absurd before not_false
  obtain ⟨row, same, status, ⟨_, story⟩ | ⟨⟨_, _, _, called⟩, _⟩ | ⟨secret, carries, _⟩⟩ := told.unfinished unfinished
  · exact ⟨row, same, status, story⟩
  · subst called
    exact absurd before not_false
  · cases phase <;> first | exact absurd before not_false | exact absurd carries not_false

variable {secret : Option Value}

theorem Situation.carried (told : Situation host found story (some phase)) (carries : phase.Carries secret) :
    ∃ row, found = some row ∧ row.status = .running ∧
      story = { Story.blank with invoked := 1, returned := some secret } := by
  have unfinished : phase.unfinished = true := by
    cases phase <;> first | rfl | exact absurd carries not_false
  obtain ⟨row, same, status, ⟨before, _⟩ | ⟨⟨_, _, _, called⟩, _⟩ | ⟨own, also, story⟩⟩ := told.unfinished unfinished
  · cases phase <;> first | exact absurd before not_false | exact absurd carries not_false
  · subst called
    exact absurd carries not_false
  · have equal : own = secret := by
      cases phase <;> first | exact absurd carries not_false | exact also.symm.trans carries
    exact ⟨row, same, status, equal ▸ story⟩

theorem Situation.recording (told : Situation host found story (some .record)) :
    ∃ row secret, found = some row ∧ row.status = .completed ∧ row.secretParamsEnc = none ∧ story.invoked = 1 ∧
      story.returned = some secret ∧ Kept host secret row story.handed := by
  cases told with
  | begun status before => exact absurd before not_false
  | made status carries => exact absurd carries not_false
  | completed status cleared invoked returned kept stands => exact ⟨_, _, rfl, status, cleared, invoked, returned, kept⟩
  | failed status cleared invoked handed lost stands =>
    rcases stands with none | emit | ⟨error, failed⟩
    · cases none
    · cases emit
    · cases failed

theorem Kept.handed {row : ControlTask} {handed : List Value}
    (kept : Kept host secret row handed) : handed.length ≤ 1 := by
  rcases kept with ⟨_, none⟩ | ⟨_, all⟩
  · rw [none]
    exact Nat.zero_le 1
  · rw [all]
    cases secret with
    | none => exact Nat.zero_le 1
    | some value => exact Nat.le_refl 1

variable {error : String}

theorem Situation.failing (told : Situation host found story (some (.failing error))) :
    ∃ row, found = some row ∧ story.invoked ≤ 1 ∧ story.handed.length ≤ 1 ∧ story.raised = true ∧
      (row.status = .running ∧ story.handed = [] ∨
        ∃ secret, row.status = .completed ∧ row.secretParamsEnc = none ∧ story.invoked = 1 ∧
          story.returned = some secret ∧ Kept host secret row story.handed) := by
  cases told with
  | begun status before => exact absurd before not_false
  | made status carries => exact absurd carries not_false
  | completed status cleared invoked returned kept stands =>
    rcases stands with none | record | ⟨raised, _⟩
    · cases none
    · cases record
    · exact ⟨_, rfl, Nat.le_of_eq invoked, kept.handed, raised, .inr ⟨_, status, cleared, invoked, returned, kept⟩⟩
  | raised status invoked handed raised =>
    exact ⟨_, rfl, invoked, by rw [handed]; exact Nat.zero_le 1, raised, .inl ⟨status, handed⟩⟩
  | failed status cleared invoked handed lost stands =>
    rcases stands with none | emit | ⟨error, failed⟩
    · cases none
    · cases emit
    · cases failed

theorem Situation.losing (told : Situation host found story (some phase)) (late : phase = .emit ∨ ∃ error, phase = .recordFailed error)
    (next : Option Phase) (stands : next = none ∨ next = some .emit ∨ ∃ error, next = some (.recordFailed error)) :
    Situation host found story next := by
  generalize held : some phase = holds at told
  have finished : phase.unfinished = false ∧ ¬ phase.Before ∧ ∀ secret, ¬ phase.Carries secret := by
    rcases late with rfl | ⟨error, rfl⟩
    · exact ⟨rfl, not_false, fun _ => not_false⟩
    · exact ⟨rfl, not_false, fun _ => not_false⟩
  cases told with
  | unknown => cases held
  | queued status => cases held
  | begun status before =>
    cases held
    exact absurd before finished.2.1
  | called status =>
    cases held
    cases finished.1
  | made status carries =>
    cases held
    exact absurd carries (finished.2.2 _)
  | completed status cleared invoked returned kept early =>
    rcases early with none | record | ⟨_, error, failing⟩
    · cases held.trans none
    · cases held.trans record
      rcases late with same | ⟨_, same⟩ <;> cases same
    · cases held.trans failing
      rcases late with same | ⟨_, same⟩ <;> cases same
  | raised status invoked handed raised =>
    cases held
    rcases late with same | ⟨_, same⟩ <;> cases same
  | left status => cases held
  | failed status cleared invoked handed lost _ => exact .failed status cleared invoked handed lost stands

structure Turned (host : Host) (id : Nat) (story : Story) (rows : List ControlTask) (left : Worker × List ControlTask) : Prop where
  own : Situation host (taskById left.2 id) story (left.1.phase id)
  others : ∀ other, other ≠ id → taskById left.2 other = taskById rows other
  idle : ∀ other, other ≠ id → left.1.phase other = none

theorem run_phase_other (different : other ≠ id) : (Worker.run id phase).phase other = none :=
  if_neg (Ne.symm different)

@[simp] theorem run_phase_own : (Worker.run id phase).phase id = some phase := if_pos rfl

theorem turned_same (own : Situation host (taskById rows id) story (some phase)) :
    Turned host id story rows (.run id phase, rows) :=
  ⟨by rwa [run_phase_own], fun _ _ => rfl, fun _ => run_phase_other⟩

theorem turned_idle (own : Situation host (taskById rows id) story none) :
    Turned host id story rows (.idle, rows) :=
  ⟨own, fun _ _ => rfl, fun _ _ => rfl⟩

theorem turned_set {next : Phase} (same : ∀ row, (f row).id = row.id)
    (own : Situation host ((taskById rows id).map f) story (some next)) :
    Turned host id story rows (.run id next, setTask id f rows) := by
  refine ⟨?_, fun other different => ?_, fun _ => run_phase_other⟩
  · rw [taskById_setTask same, if_pos rfl, run_phase_own]
    exact own
  · rw [taskById_setTask same, if_neg (Ne.symm different)]

theorem turned_failing {story after : Story} (told : Situation host (taskById rows id) story (some phase)) (unfinished : phase.unfinished = true)
    (invoked : after.invoked = story.invoked) (handed : after.handed = story.handed) (raised : after.raised = true) :
    Turned host id after rows (.run id (.failing error), rows) := by
  obtain ⟨row, found, status, once, none⟩ := told.running unfinished
  refine turned_same ?_
  rw [found]
  exact .raised status (by omega) (handed.trans none) raised

def Phase.Quiet : Phase → Prop
  | .call _ _ _ => False
  | .called _ _ _ => False
  | _ => True

variable {moment : Moment} {phase next : Phase}

theorem story_quiet (quiet : phase.Quiet)
    (going : next.isFailing = false) : story.turn moment phase (.run id next) = story := by
  cases phase with
  | call row creation params => exact absurd quiet not_false
  | called row creation params => exact absurd quiet not_false
  | _ => simp [Story.turn, Phase.isCall, going]

theorem story_raised (quiet : phase.Quiet) :
    story.turn moment phase (.run id (.failing error)) = { story with raised := true } := by
  cases phase with
  | call row creation params => exact absurd quiet not_false
  | called row creation params => exact absurd quiet not_false
  | _ => simp [Story.turn, Phase.isCall, Phase.isFailing]

theorem story_idle (quiet : phase.Quiet) : story.turn moment phase .idle = story := by
  cases phase with
  | call row creation params => exact absurd quiet not_false
  | called row creation params => exact absurd quiet not_false
  | _ => simp [Story.turn, Phase.isCall]

theorem turned_raise (told : Situation host (taskById rows id) story (some phase)) (unfinished : phase.unfinished = true)
    (quiet : phase.Quiet) :
    Turned host id (story.turn moment phase (.run id (.failing error))) rows (.run id (.failing error), rows) := by
  rw [story_raised quiet]
  exact turned_failing told unfinished rfl rfl rfl

theorem turned_going (quiet : phase.Quiet)
    (going : next.isFailing = false) (own : Situation host (taskById rows id) story (some next)) :
    Turned host id (story.turn moment phase (.run id next)) rows (.run id next, rows) := by
  rw [story_quiet quiet going]
  exact turned_same own

theorem turned_commit (told : Situation host (taskById rows id) story (some phase)) (unfinished : phase.unfinished = true)
    (quiet : phase.Quiet) (going : next.isFailing = false) (same : ∀ row, (f row).id = row.id)
    (own : Situation host ((taskById rows id).map f) story (some next)) :
    Turned host id (story.turn moment phase (commitTurn moment id f (.run id next) rows).1) rows
      (commitTurn moment id f (.run id next) rows) := by
  unfold commitTurn
  cases moment.outcome with
  | error error => exact turned_raise told unfinished quiet
  | ok reply =>
    rw [story_quiet quiet going]
    exact turned_set same own

theorem executeTurn_turned {params : Dict}
    (told : Situation host (taskById rows id) story (some (.execute params))) :
    Turned host id (story.turn moment (.execute params) (executeTurn host moment id params rows).1) rows
      (executeTurn host moment id params rows) := by
  obtain ⟨row, found, status, blank⟩ := told.before trivial
  have commits (pct : Nat) (message : String) (creation : Creation) (rest : Dict) :
      Turned host id (story.turn moment (.execute params)
        (commitTurn moment id (.progress pct message) (.run id (.call row creation rest)) rows).1) rows
        (commitTurn moment id (.progress pct message) (.run id (.call row creation rest)) rows) := by
    refine turned_commit told rfl trivial rfl (progress_id pct message) ?_
    rw [found, blank]
    exact .begun status trivial
  simp only [executeTurn, found]
  cases row.operation with
  | accountCreate => exact commits ..
  | domainAdd =>
    cases params.find "domain" with
    | none => exact turned_raise told rfl trivial
    | some domain => exact commits ..
  | accountRename =>
    cases params.find "new_username" with
    | none => exact turned_raise told rfl trivial
    | some new => exact commits ..
  | accountTerminate => exact commits ..

theorem returnedTurn_carries (host : Host) (row : ControlTask) (creation : Creation) (params result : Dict) :
    (returnedTurn host row creation params result).Carries (secretOf row.operation result) ∨
      ∃ error, returnedTurn host row creation params result = .failing error := by
  unfold returnedTurn
  cases row.operation with
  | accountCreate =>
    dsimp only
    split
    · exact .inr ⟨_, rfl⟩
    · split
      · exact .inr ⟨_, rfl⟩
      · split
        · exact .inl rfl
        · exact .inl rfl
  | domainAdd => exact .inl rfl
  | accountRename => exact .inl rfl
  | accountTerminate => exact .inl rfl

theorem Phase.Carries.going (carries : phase.Carries secret) : phase.isFailing = false := by
  cases phase <;> first | rfl | exact absurd carries not_false

theorem addressed_secret (made : Made) (moment : Moment) : (made.addressed host moment).secret = made.secret := by
  unfold Made.addressed
  dsimp only
  split <;> split <;> rfl

theorem planned_secret (made : Made) (moment : Moment) : (made.planned host moment).secret = made.secret := by
  unfold Made.planned
  split <;> rfl

theorem workTurn_turned (opens : host.Opens) (moment : Moment) (told : Situation host (taskById rows id) story (some phase)) :
    Turned host id (story.turn moment phase (workTurn host moment id phase rows).1) rows
      (workTurn host moment id phase rows) := by
  -- A phase that carries the secret goes on to another that does.
  have onward {next : Phase} {secret : Option Value} (carries : phase.Carries secret) (also : next.Carries secret) :
      Situation host (taskById rows id) story (some next) := by
    obtain ⟨row, found, status, same⟩ := told.carried carries
    rw [found, same]
    exact .made status also
  have noted (next : Phase) {secret : Option Value} (carries : phase.Carries secret) (quiet : phase.Quiet)
      (unfinished : phase.unfinished = true) (going : next.isFailing = false) (also : next.Carries secret)
      (pct : Nat) (message : String) :
      Turned host id (story.turn moment phase
        (commitTurn moment id (.progress pct message) (.run id next) rows).1) rows
        (commitTurn moment id (.progress pct message) (.run id next) rows) := by
    refine turned_commit told unfinished quiet going (progress_id pct message) ?_
    obtain ⟨row, found, status, same⟩ := told.carried carries
    rw [found, same]
    exact .made status also
  cases phase with
  | execute params => exact executeTurn_turned told
  | call read creation params =>
    obtain ⟨row, found, status, blank⟩ := told.before trivial
    refine turned_same ?_
    rw [found, blank]
    exact .called status
  | called read creation params =>
    obtain ⟨row, found, status, ⟨before, _⟩ | ⟨_, once⟩ | ⟨secret, carries, _⟩⟩ := told.unfinished rfl
    · exact absurd before not_false
    · cases replied : moment.outcome with
      | error error =>
        simp only [workTurn, replied]
        refine turned_failing told rfl ?_ rfl ?_
        · simp [Story.turn, Phase.isCall]
        · simp [Story.turn, Phase.isFailing]
      | ok result =>
        simp only [workTurn, replied]
        rcases returnedTurn_carries host read creation params result with carries | ⟨error, failing⟩
        · refine turned_same ?_
          rw [found, once]
          simp only [Story.turn, replied, carries.going, Phase.isCall]
          exact .made status carries
        · rw [failing]
          refine turned_failing told rfl ?_ rfl ?_
          · simp [Story.turn, Phase.isCall]
          · simp [Story.turn, Phase.isFailing]
    · exact absurd carries not_false
  | plan creation made => exact noted (.applyPlan creation made) rfl trivial rfl rfl rfl ..
  | applyPlan creation made => exact turned_going trivial rfl (onward rfl (planned_secret made moment))
  | address creation made => exact noted (.assign creation made) rfl trivial rfl rfl rfl ..
  | assign creation made =>
    simp only [workTurn, addressedPhase]
    cases (made.addressed host moment).named host with
    | none => exact turned_raise told rfl trivial
    | some username => exact turned_going trivial rfl (onward rfl (addressed_secret made moment))
  | accountEvent made =>
    simp only [workTurn]
    cases moment.outcome with
    | error error => exact turned_raise told rfl trivial
    | ok reply => exact turned_going trivial rfl (onward rfl rfl)
  | complete made =>
    simp only [workTurn]
    cases sealed : sealSecret host moment.nonce made.secret with
    | error error => exact turned_raise told rfl trivial
    | ok stored =>
      refine turned_commit told rfl trivial rfl (fun _ => rfl) ?_
      obtain ⟨row, found, status, same⟩ := told.carried rfl
      rw [found, same]
      exact .completed rfl rfl rfl rfl (.inl ⟨revealSecret_seal opens sealed, rfl⟩) (.inr (.inl rfl))
  | record =>
    have quiet : Phase.record.Quiet := trivial
    obtain ⟨row, secret, found, status, cleared, once, returned, kept⟩ := told.recording
    simp only [workTurn]
    cases moment.outcome with
    | error error =>
      rw [story_raised quiet]
      refine turned_same ?_
      rw [found]
      exact .completed status cleared once returned kept (.inr (.inr ⟨rfl, error, rfl⟩))
    | ok reply =>
      refine turned_idle ?_
      rw [found]
      exact .completed status cleared once returned kept (.inl rfl)
  | failing error =>
    have quiet : (Phase.failing error).Quiet := trivial
    obtain ⟨row, found, once, handed, raised, whose⟩ := told.failing
    simp only [workTurn]
    cases moment.outcome with
    | error _ =>
      refine turned_idle ?_
      rw [found]
      rcases whose with ⟨status, none⟩ | ⟨secret, status, cleared, once, returned, kept⟩
      · exact .left status once none fun _ => .inl raised
      · exact .completed status cleared once returned kept (.inl rfl)
    | ok reply =>
      rw [story_quiet quiet rfl]
      refine turned_set (fun _ => rfl) ?_
      rw [found]
      exact .failed rfl rfl once handed (fun _ => .inl raised) (.inr (.inr ⟨error, rfl⟩))
  | recordFailed error =>
    have quiet : (Phase.recordFailed error).Quiet := trivial
    have lost := told.losing (.inr ⟨error, rfl⟩)
    simp only [workTurn]
    cases moment.outcome with
    | error _ =>
      exact turned_idle (lost none (.inl rfl))
    | ok reply =>
      rw [story_quiet quiet rfl]
      exact turned_same (lost (some .emit) (.inr (.inl rfl)))
  | emit =>
    have lost := told.losing (.inl rfl)
    exact turned_idle (lost none (.inl rfl))

end

end Boron.ControlTasks
