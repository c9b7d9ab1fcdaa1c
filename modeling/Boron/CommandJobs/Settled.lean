import Boron.CommandJobs.Sound

namespace Boron.CommandJobs
open List Rows

section
variable {settings : Settings} {cipher : Cipher} {daemon left : Daemon} {id : Nat} {moment : Moment} {work : Work}
  {job : CommandRun}

theorem CommandRun.isActive_of (status : job.status = .pending ∨ job.status = .running) : job.isActive = true := by
  unfold CommandRun.isActive
  rcases status with pending | running
  · simp [pending]
  · simp [running]

theorem CommandRun.not_isEnded_of (status : job.status = .pending ∨ job.status = .running) : job.isEnded = false := by
  unfold CommandRun.isEnded
  rcases status with pending | running
  · simp [pending]
  · simp [running]

/-- A thread works on a job that has not ended. -/
theorem Work.Fits.status {status : Status} {story : Story} (fits : work.Fits status story) :
    status = .pending ∨ status = .running := by
  obtain ⟨request, phase⟩ := work
  cases phase with
  | lookup => exact .inl fits.1
  | claim accountId => exact .inl fits.1
  | start => exact .inr fits.1
  | command => exact .inr fits.1
  | callback result => exact .inr fits.1
  | record result => exact .inr fits
  | failing error => exact fits.1
  | recordFailed error => exact fits

/-- What a turn of a thread leaves of its job: the change of the row, the next phase and the story. -/
structure Turned (daemon : Daemon) (id : Nat) (job : CommandRun) (left : Daemon) (f : CommandRun → CommandRun) : Prop where
  rows : left.rows = setJob id f daemon.rows
  requests : left.requests = daemon.requests
  works : ∀ other, other ≠ id → left.works other = daemon.works other
  stories : ∀ other, other ≠ id → left.story other = daemon.story other
  handed : (left.story id).handed = (daemon.story id).handed
  tame : Tame f
  secret : (f job).revealedSecret = job.revealedSecret
  fair : (left.story id).Fair
  fits : ∀ work, left.works id = some work → work.Fits (f job).status (left.story id)

theorem Turned.sound (sound : Sound settings daemon) (running : daemon.works id = some work) (inside : job ∈ daemon.rows)
    (same : job.id = id) (status : job.status = .pending ∨ job.status = .running) {f : CommandRun → CommandRun}
    (turned : Turned daemon id job left f) : Sound settings left ∧ KeepsEnded daemon left := by
  have moves : Moves id f daemon left := by
    refine ⟨turned.rows, turned.works, turned.stories, fun i other holds => ?_, fun i holds => ?_⟩
    · rw [turned.requests] at holds
      exact holds
    · rw [turned.requests] at holds
      have idle := (sound.queued i id holds).2.1
      rw [running] at idle
      cases idle
  constructor
  · refine sound.moves moves turned.tame inside same (fun _ => CommandRun.isActive_of status) turned.fair turned.fits ?_
    rw [turned.handed, turned.secret]
    rcases sound.handed id with none | ⟨one, gone⟩
    · exact .inl none
    · exact .inr ⟨one, gone job inside same⟩
  · refine keepsEnded_of_setJob sound.unique turned.rows inside same (turned.tame.id job) fun ended => ?_
    rw [CommandRun.not_isEnded_of status] at ended
    cases ended

theorem setJob_same (rows : List CommandRun) : setJob id (fun job => job) rows = rows := by
  unfold setJob change
  simp

theorem goes_works (daemon : Daemon) (id : Nat) (next : Option Work) : (daemon.goes id next).works id = next :=
  Function.update_self ..

variable {next : Option Work}

theorem Turned.of_goes (fair : (daemon.story id).Fair)
    (fits : ∀ work, next = some work → work.Fits job.status (daemon.story id)) :
    Turned daemon id job (daemon.goes id next) fun job => job where
  rows := (setJob_same daemon.rows).symm
  requests := rfl
  works _ apart := Function.update_of_ne apart ..
  stories _ _ := rfl
  handed := rfl
  tame := ⟨fun _ => rfl, fun _ => rfl, fun _ => rfl⟩
  secret := rfl
  fair := fair
  fits work running := fits work ((goes_works ..).symm.trans running)

theorem Turned.of_tell {happen : Story → Story} (handed : ∀ story, (happen story).handed = story.handed)
    (fair : (happen (daemon.story id)).Fair)
    (fits : ∀ work, next = some work → work.Fits job.status (happen (daemon.story id))) :
    Turned daemon id job ((daemon.tell id happen).goes id next) fun job => job := by
  have own : ((daemon.tell id happen).goes id next).story id = happen (daemon.story id) := Function.update_self ..
  refine ⟨(setJob_same daemon.rows).symm, rfl, fun other apart => Function.update_of_ne apart .., fun other apart =>
    Function.update_of_ne apart .., ?_, ⟨fun _ => rfl, fun _ => rfl, fun _ => rfl⟩, rfl, ?_, fun work running => ?_⟩
  · rw [own, handed]
  · rw [own]
    exact fair
  · rw [own]
    exact fits work ((goes_works ..).symm.trans running)

theorem Turned.of_rows {f : CommandRun → CommandRun} (tame : Tame f)
    (secret : ∀ job, (f job).revealedSecret = job.revealedSecret) (fair : (daemon.story id).Fair)
    (fits : ∀ work, next = some work → work.Fits (f job).status (daemon.story id)) :
    Turned daemon id job ((daemon.onRows (setJob id f)).goes id next) f where
  rows := rfl
  requests := rfl
  works _ apart := Function.update_of_ne apart ..
  stories _ _ := rfl
  handed := rfl
  tame := tame
  secret := secret job
  fair := fair
  fits work running := fits work ((goes_works ..).symm.trans running)

theorem fail_tame (error : String) (now : Int) : Tame (CommandRun.fail error now) :=
  ⟨fun _ => rfl, fun _ => rfl, fun _ => rfl⟩

theorem finish_tame (redact : List String) (result : ProcResult) (now : Int) : Tame (CommandRun.finish redact result now) :=
  ⟨fun _ => rfl, fun _ => rfl, fun _ => rfl⟩

theorem fits_failing {request : Request} {error : String} {status : Status} {story : Story}
    (active : status = .pending ∨ status = .running) (exited : story.exited = none) (uncalled : story.Uncalled) :
    Work.Fits ⟨request, .failing error⟩ status story := ⟨active, fun _ => ⟨exited, uncalled⟩⟩

theorem workTurn_turned (sound : Sound settings daemon) (running : daemon.works id = some work)
    (careful : Careful daemon (.work id moment)) (inside : job ∈ daemon.rows) (same : job.id = id)
    (fits : work.Fits job.status (daemon.story id)) : ∃ f, Turned daemon id job (workTurn moment id work daemon) f := by
  have fair := sound.fair id
  have found : jobById daemon.rows id = some job := by
    rw [← same]
    exact byKey_of_mem sound.unique inside
  have ends {P : Work → Prop} : ∀ work, (none : Option Work) = some work → P work := fun _ never => nomatch never
  obtain ⟨request, phase⟩ := work
  unfold Careful at careful
  dsimp only at careful
  rw [running] at careful
  cases phase with
  | lookup =>
    obtain ⟨pending, unstarted⟩ := fits
    unfold workTurn
    dsimp only
    split
    · refine ⟨_, Turned.of_goes fair ?_⟩
      rintro _ ⟨⟩
      exact fits_failing (.inl pending) unstarted.exited unstarted.uncalled
    · refine ⟨_, Turned.of_goes fair ?_⟩
      rintro _ ⟨⟩
      exact ⟨pending, unstarted⟩
  | claim accountId =>
    obtain ⟨pending, unstarted⟩ := fits
    unfold workTurn
    rw [found]
    dsimp only
    split
    · exact ⟨_, Turned.of_goes fair ends⟩
    · split
      · refine ⟨_, Turned.of_goes fair ?_⟩
        rintro _ ⟨⟩
        exact fits_failing (.inl pending) unstarted.exited unstarted.uncalled
      · split
        · refine ⟨_, Turned.of_goes fair ?_⟩
          rintro _ ⟨⟩
          exact fits_failing (.inl pending) unstarted.exited unstarted.uncalled
        · refine ⟨_, Turned.of_rows ⟨fun _ => rfl, fun _ => rfl, fun _ => rfl⟩ (fun _ => rfl) fair ?_⟩
          rintro _ ⟨⟩
          exact ⟨rfl, unstarted⟩
  | start =>
    obtain ⟨active, unstarted⟩ := fits
    unfold workTurn
    dsimp only
    split
    · refine ⟨_, Turned.of_goes fair ?_⟩
      rintro _ ⟨⟩
      exact fits_failing (.inr active) unstarted.exited unstarted.uncalled
    · have none := unstarted.started
      refine ⟨_, Turned.of_tell (fun _ => rfl) ⟨?_, fair.succeeded, fair.failed, fair.callbacks⟩ ?_⟩
      · dsimp only
        omega
      · rintro _ ⟨⟩
        exact ⟨active, unstarted.exited, unstarted.uncalled.succeeded, unstarted.uncalled.failed⟩
  | command =>
    obtain ⟨active, exited, uncalled⟩ := fits
    unfold workTurn
    dsimp only
    split
    · refine ⟨_, Turned.of_goes fair ?_⟩
      rintro _ ⟨⟩
      exact fits_failing (.inr active) exited uncalled
    · have noSuccess := uncalled.succeeded
      have noFailure := uncalled.failed
      refine ⟨_, Turned.of_tell (fun _ => rfl) ⟨fair.started, ?_, ?_, fair.callbacks⟩ ?_⟩
      · dsimp only
        omega
      · dsimp only
        omega
      · rintro _ ⟨⟩
        exact ⟨active, rfl, noSuccess, noFailure⟩
  | callback result =>
    obtain ⟨active, exited, uncalled⟩ := fits
    unfold workTurn
    dsimp only
    split
    · next calls =>
      have happened : (Story.call (result.returncode = 0) (daemon.story id)).Fair := by
        have noSuccess := uncalled.succeeded
        have noFailure := uncalled.failed
        unfold Story.call
        by_cases zero : result.returncode = 0
        · simp only [zero, decide_true, if_true]
          refine ⟨fair.started, fun _ => ?_, ?_, ?_⟩
          · rw [exited, zero]
          · dsimp only
            omega
          · dsimp only
            omega
        · simp only [zero, decide_false, Bool.false_eq_true, if_false]
          refine ⟨fair.started, ?_, fun _ => ?_, ?_⟩
          · dsimp only
            omega
          · rw [exited]
            exact fun equal => zero (Option.some.inj equal)
          · dsimp only
            omega
      have kept : ∀ story, (Story.call (result.returncode = 0) story).handed = story.handed := by
        intro story
        unfold Story.call
        split <;> rfl
      split
      · next error raises =>
        refine ⟨_, Turned.of_tell kept happened ?_⟩
        rintro _ ⟨⟩
        refine ⟨.inr active, fun onFailure => ?_⟩
        have quiet := careful onFailure calls
        rw [raises] at quiet
        cases quiet
      · refine ⟨_, Turned.of_tell kept happened ?_⟩
        rintro _ ⟨⟩
        exact active
    · refine ⟨_, Turned.of_goes fair ?_⟩
      rintro _ ⟨⟩
      exact active
  | record result =>
    unfold workTurn
    rw [found]
    cases raises : moment.raises with
    | some error =>
      refine ⟨_, Turned.of_goes fair ?_⟩
      rintro _ ⟨⟩
      refine ⟨.inr fits, fun onFailure => ?_⟩
      have quiet := careful onFailure
      rw [raises] at quiet
      cases quiet
    | none => exact ⟨_, Turned.of_rows (finish_tame ..) (fun _ => rfl) fair ends⟩
  | failing error =>
    obtain ⟨active, untouched⟩ := fits
    unfold workTurn
    dsimp only
    split
    · next onFailure =>
      obtain ⟨exited, uncalled⟩ := untouched onFailure
      have noSuccess := uncalled.succeeded
      have noFailure := uncalled.failed
      refine ⟨_, Turned.of_tell (fun _ => rfl) ⟨fair.started, fair.succeeded, fun _ => ?_, ?_⟩ ?_⟩
      · unfold Story.call
        simp [exited]
      · unfold Story.call
        simp only [Bool.false_eq_true, if_false]
        omega
      · rintro _ ⟨⟩
        exact active
    · refine ⟨_, Turned.of_goes fair ?_⟩
      rintro _ ⟨⟩
      exact active
  | recordFailed error =>
    unfold workTurn
    dsimp only
    split
    · exact ⟨_, Turned.of_goes fair ends⟩
    · exact ⟨_, Turned.of_rows (fail_tame ..) (fun _ => rfl) fair ends⟩

theorem work_sound (sound : Sound settings daemon) (running : daemon.works id = some work)
    (careful : Careful daemon (.work id moment)) :
    Sound settings (workTurn moment id work daemon) ∧ KeepsEnded daemon (workTurn moment id work daemon) := by
  obtain ⟨job, inside, same, fits⟩ := sound.works id work running
  obtain ⟨f, turned⟩ := workTurn_turned sound running careful inside same fits
  exact turned.sound sound running inside same fits.status

theorem Submission.holds_queue {request : Request} : (Submission.queue request id).Holds id := rfl

theorem Submission.holds_refuse : (Submission.refuse id).Holds id := rfl

section
variable {i : Nat} {submission : Submission}

theorem request_own (daemon : Daemon) (i : Nat) (submission : Submission) :
    (daemon.request i submission).requests i = submission := Function.update_self ..

theorem request_other {j : Nat} (apart : j ≠ i) : (daemon.request i submission).requests j = daemon.requests j :=
  Function.update_of_ne apart ..

/-- A job that leaves the hands of its request. -/
theorem Sound.release (sound : Sound settings daemon) (holds : (daemon.requests i).Holds id)
    (free : ∀ other, ¬ submission.Holds other) {mid : Daemon} (requests : mid.requests = daemon.requests) :
    (∀ j other, ((mid.request i submission).requests j).Holds other → (daemon.requests j).Holds other) ∧
      ∀ j, ¬ ((mid.request i submission).requests j).Holds id := by
  constructor
  · intro j other held
    by_cases same : j = i
    · subst same
      rw [request_own] at held
      exact absurd held (free other)
    · rw [request_other same, requests] at held
      exact held
  · intro j held
    by_cases same : j = i
    · subst same
      rw [request_own] at held
      exact free id held
    · rw [request_other same, requests] at held
      exact same (sound.apart j i id held holds)

theorem admission_ok {request : Request} {accountId : Nat} {rows : List CommandRun}
    (entered : admission settings cipher moment request accountId daemon.rows = .ok (id, rows)) :
    accountActive accountId daemon.rows < settings.maxActivePerAccount ∧ globalActive daemon.rows < settings.maxActiveGlobal ∧
      ∃ job, rows = daemon.rows ++ [job] ∧ job.id = id ∧ id = Rows.next CommandRun.id daemon.rows ∧
        job.accountId = accountId ∧ job.kind = request.caller.kind ∧ job.status = .pending := by
  unfold admission at entered
  by_cases full : settings.maxActivePerAccount ≤ accountActive accountId daemon.rows
  · simp only [full, if_true] at entered
    cases entered
  · by_cases crowded : settings.maxActiveGlobal ≤ globalActive daemon.rows
    · simp only [full, crowded, if_true, if_false] at entered
      cases entered
    · simp only [full, crowded, if_false] at entered
      cases hidden : sealSecret cipher moment.nonce request.revealedSecret with
      | error error =>
        rw [hidden] at entered
        cases entered
      | ok stored =>
        rw [hidden] at entered
        cases raises : moment.raises with
        | some error =>
          rw [raises] at entered
          cases entered
        | none =>
          rw [raises] at entered
          cases entered
          exact ⟨Nat.lt_of_not_le full, Nat.lt_of_not_le crowded, _, rfl, rfl, rfl, rfl, rfl, rfl⟩

theorem Sound.enter (sound : Sound settings daemon) {request : Request} {accountId : Nat} {rows : List CommandRun}
    (entered : admission settings cipher moment request accountId daemon.rows = .ok (id, rows)) :
    Sound settings ((daemon.onRows fun _ => rows).request i (.queue request id)) ∧
      KeepsEnded daemon ((daemon.onRows fun _ => rows).request i (.queue request id)) := by
  obtain ⟨room, space, job, rfl, named, fresh, account, kind, pending⟩ := admission_ok entered
  have absent : ∀ other ∈ daemon.rows, other.id ≠ id := by
    intro other member
    rw [fresh]
    exact Nat.ne_of_lt (lt_next member)
  obtain ⟨idle, blank⟩ := sound.unborn id absent
  have active : job.isActive = true := CommandRun.isActive_of (.inl pending)
  have nobody (j : Nat) : ¬ (daemon.requests j).Holds id := by
    intro holds
    obtain ⟨⟨other, member, same, -⟩, -⟩ := sound.queued j id holds
    exact absent other member same
  have held (j other : Nat) (holds : (((daemon.onRows fun _ => daemon.rows ++ [job]).request i (.queue request id)).requests j).Holds other) :
      (j = i ∧ other = id) ∨ (daemon.requests j).Holds other := by
    by_cases same : j = i
    · subst same
      rw [request_own] at holds
      exact .inl ⟨rfl, holds.symm⟩
    · rw [request_other same] at holds
      exact .inr holds
  have earlier {other : CommandRun} (member : other ∈ daemon.rows) : other ∈ daemon.rows ++ [job] :=
    mem_append_left _ member
  have last : job ∈ daemon.rows ++ [job] := mem_append_right _ (mem_singleton_self job)
  constructor
  · refine ⟨?_, ?_, sound.fair, ?_, ?_, ?_, ?_, ?_, ?_, ?_⟩
    · refine unique_append sound.unique fun other member => ?_
      rw [named]
      exact absent other member
    · intro other member
      rcases mem_append.mp member with before | new
      · exact sound.kinds other before
      · rw [mem_singleton.mp new, kind]
        exact ⟨request.caller, rfl⟩
    · intro other work running
      obtain ⟨row, member, same, fits⟩ := sound.works other work running
      exact ⟨row, earlier member, same, fits⟩
    · intro j other holds
      rcases held j other holds with ⟨-, rfl⟩ | before
      · refine ⟨⟨job, last, named, pending⟩, idle, ?_⟩
        have own : (daemon.story other).Unstarted := by
          rw [blank]
          exact Story.blank_unstarted
        exact own
      · obtain ⟨⟨row, member, same, waits⟩, rest⟩ := sound.queued j other before
        exact ⟨⟨row, earlier member, same, waits⟩, rest⟩
    · intro j k other first second
      rcases held j other first with ⟨rfl, rfl⟩ | before
      · rcases held k other second with ⟨rfl, -⟩ | also
        · rfl
        · exact absurd also (nobody k)
      · rcases held k other second with ⟨rfl, rfl⟩ | also
        · exact absurd before (nobody j)
        · exact sound.apart j k other before also
    · intro other none
      exact sound.unborn other fun row member => none row (earlier member)
    · intro other
      rcases sound.handed other with none | ⟨one, gone⟩
      · exact .inl none
      · refine .inr ⟨one, fun row member same => ?_⟩
        rcases mem_append.mp member with before | new
        · exact gone row before same
        · have equal : other = id := by
            rw [← same, mem_singleton.mp new, named]
          have nothing : (daemon.story id).handed.length = 0 := by
            rw [blank]
            rfl
          rw [equal] at one
          omega
    · intro other
      have bound := sound.perAccount other
      have sum : accountActive other (daemon.rows ++ [job]) = accountActive other daemon.rows +
          if job.accountId = other then 1 else 0 := by
        unfold accountActive
        simp [active]
      have goal : accountActive other (daemon.rows ++ [job]) ≤ settings.maxActivePerAccount := by
        rw [sum]
        split
        · next hit =>
          rw [← hit, account]
          omega
        · omega
      exact goal
    · have sum : globalActive (daemon.rows ++ [job]) = globalActive daemon.rows + 1 := by
        unfold globalActive
        rw [countP_append, countP_singleton, if_pos active]
      have goal : globalActive (daemon.rows ++ [job]) ≤ settings.maxActiveGlobal := by
        omega
      exact goal
  · intro row member _
    exact ⟨row, earlier member, rfl, rfl⟩

theorem submit_sound (sound : Sound settings daemon) : Sound settings (submitTurn settings cipher moment i daemon) ∧
      KeepsEnded daemon (submitTurn settings cipher moment i daemon) := by
  have rest {submission : Submission} (free : ∀ id, ¬ submission.Holds id) :
      Sound settings (daemon.request i submission) ∧ KeepsEnded daemon (daemon.request i submission) :=
    ⟨sound.request free, keepsEnded_of_rows rfl⟩
  unfold submitTurn
  cases state : daemon.requests i with
  | idle => exact ⟨sound, keepsEnded_of_rows rfl⟩
  | account request =>
    dsimp only
    split
    · exact rest fun _ never => never
    · exact rest fun _ never => never
  | enter request accountId =>
    dsimp only
    split
    · exact rest fun _ never => never
    · next id rows entered => exact sound.enter entered
  | queue request id =>
    have holds : (daemon.requests i).Holds id := by
      rw [state]
      exact Submission.holds_queue
    obtain ⟨⟨job, inside, same, pending⟩, idle, unstarted⟩ := sound.queued i id holds
    dsimp only
    split
    · refine ⟨sound.of_requests fun j other held => ?_, keepsEnded_of_rows rfl⟩
      by_cases equal : j = i
      · subst equal
        rw [Function.update_self] at held
        rw [state]
        exact held
      · rw [Function.update_of_ne equal] at held
        exact held
    · have free : ∀ other, ¬ (Submission.answer id).Holds other := fun _ never => never
      have mid : (daemon.goes id (some ⟨request, .lookup⟩)).requests = daemon.requests := rfl
      obtain ⟨others, released⟩ := sound.release holds free mid
      have moves : Moves id (fun job => job) daemon ((daemon.goes id (some ⟨request, .lookup⟩)).request i (.answer id)) :=
        ⟨(setJob_same daemon.rows).symm, fun other apart => Function.update_of_ne apart .., fun _ _ => rfl, others, released⟩
      refine ⟨sound.moves moves ⟨fun _ => rfl, fun _ => rfl, fun _ => rfl⟩ inside same (fun active => active) (sound.fair id) ?_ ?_,
        keepsEnded_of_rows rfl⟩
      · intro work running
        have started : ((daemon.goes id (some ⟨request, .lookup⟩)).request i (.answer id)).works id = some ⟨request, .lookup⟩ :=
          goes_works ..
        rw [started] at running
        cases running
        exact ⟨pending, unstarted⟩
      · rcases sound.handed id with none | ⟨one, gone⟩
        · exact .inl none
        · exact .inr ⟨one, gone job inside same⟩
  | refuse id =>
    have holds : (daemon.requests i).Holds id := by
      rw [state]
      exact Submission.holds_refuse
    obtain ⟨⟨job, inside, same, pending⟩, idle, unstarted⟩ := sound.queued i id holds
    dsimp only
    split
    · exact rest fun _ never => never
    · have free : ∀ other, ¬ Submission.idle.Holds other := fun _ never => never
      have mid : (daemon.onRows (setJob id (CommandRun.fail notQueued moment.now))).requests = daemon.requests := rfl
      obtain ⟨others, released⟩ := sound.release holds free mid
      have moves : Moves id (CommandRun.fail notQueued moment.now) daemon
          ((daemon.onRows (setJob id (CommandRun.fail notQueued moment.now))).request i .idle) :=
        ⟨rfl, fun _ _ => rfl, fun _ _ => rfl, others, released⟩
      constructor
      · refine sound.moves moves (fail_tame ..) inside same (fun _ => CommandRun.isActive_of (.inl pending)) (sound.fair id) ?_ ?_
        · intro work running
          have none : daemon.works id = some work := running
          rw [idle] at none
          cases none
        · rcases sound.handed id with none | ⟨one, gone⟩
          · exact .inl none
          · exact .inr ⟨one, gone job inside same⟩
      · refine keepsEnded_of_setJob sound.unique rfl inside same rfl fun ended => ?_
        rw [CommandRun.not_isEnded_of (.inl pending)] at ended
        cases ended
  | answer id => exact rest fun _ never => never

end

variable {dict : JobDict}

theorem jobDict_secret {reveal : Bool} (shown : jobDict cipher job reveal = .ok dict) :
    reveal = false → dict.revealedSecret = none := by
  rintro rfl
  cases shown
  rfl

theorem getRun_ok {username : String} {rows : List CommandRun}
    (got : getRun cipher moment id username daemon.rows = .ok (dict, rows)) : ∃ job, jobById daemon.rows id = some job ∧
      ((dict.revealedSecret = none ∧ rows = daemon.rows) ∨ (job.isEnded = true ∧ job.revealedSecret.isSome = true ∧
          rows = setJob id (fun job => { job with revealedSecret := none }) daemon.rows)) := by
  unfold getRun at got
  cases found : jobById daemon.rows id with
  | none =>
    rw [found] at got
    cases got
  | some job =>
    rw [found] at got
    refine ⟨job, rfl, ?_⟩
    dsimp only at got
    by_cases stranger : moment.owner ≠ some username
    · rw [if_pos stranger] at got
      cases got
    · rw [if_neg stranger] at got
      cases shown : jobDict cipher job (job.isEnded && job.revealedSecret.isSome) with
      | error error =>
        simp only [shown] at got
        cases got
      | ok value =>
        simp only [shown] at got
        cases raises : moment.raises with
        | some error =>
          rw [raises] at got
          cases got
        | none =>
          rw [raises] at got
          cases got
          cases reveal : (job.isEnded && job.revealedSecret.isSome) with
          | false =>
            rw [reveal] at shown
            exact .inl ⟨jobDict_secret shown rfl, rfl⟩
          | true =>
            obtain ⟨ended, secret⟩ := Bool.and_eq_true_iff.mp reveal
            exact .inr ⟨ended, secret, rfl⟩

theorem hide_tame : Tame fun job => { job with revealedSecret := none } := ⟨fun _ => rfl, fun _ => rfl, fun _ => rfl⟩

theorem getRun_sound (sound : Sound settings daemon) {username : String} {rows : List CommandRun}
    (got : getRun cipher moment id username daemon.rows = .ok (dict, rows)) :
    Sound settings ((daemon.onRows fun _ => rows).tell id fun story =>
        { story with handed := story.handed ++ dict.revealedSecret.toList }) ∧
      KeepsEnded daemon ((daemon.onRows fun _ => rows).tell id fun story =>
        { story with handed := story.handed ++ dict.revealedSecret.toList }) := by
  obtain ⟨job, found, either⟩ := getRun_ok got
  obtain ⟨inside, same⟩ := byKey_some found
  rcases either with ⟨nothing, rfl⟩ | ⟨ended, secret, rfl⟩
  · have still : ((daemon.onRows fun _ => daemon.rows).tell id fun story =>
        { story with handed := story.handed ++ dict.revealedSecret.toList }) = daemon := by
      unfold Daemon.tell Daemon.onRows
      simp [nothing]
    rw [still]
    exact ⟨sound, keepsEnded_of_rows rfl⟩
  · have unended (status : job.status = .pending ∨ job.status = .running) : False := by
      rw [CommandRun.not_isEnded_of status] at ended
      cases ended
    have only {row : CommandRun} (member : row ∈ daemon.rows) (named : row.id = id) : row = job :=
      inj_on_of_nodup_map sound.unique member inside (named.trans same.symm)
    obtain ⟨left, isLeft⟩ : ∃ left, left = (daemon.onRows fun _ =>
        setJob id (fun job => { job with revealedSecret := none }) daemon.rows).tell id fun story =>
          { story with handed := story.handed ++ dict.revealedSecret.toList } := ⟨_, rfl⟩
    have own : left.story id = { daemon.story id with handed := (daemon.story id).handed ++ dict.revealedSecret.toList } := by
      rw [isLeft]
      exact Function.update_self ..
    have moves : Moves id (fun job => { job with revealedSecret := none }) daemon left := by
      rw [isLeft]
      refine ⟨rfl, fun _ _ => rfl, fun other apart => Function.update_of_ne apart .., fun _ _ holds => holds, fun i holds => ?_⟩
      obtain ⟨⟨row, member, named, pending⟩, -⟩ := sound.queued i id holds
      rw [only member named] at pending
      exact unended (.inl pending)
    have rows : left.rows = setJob id (fun job => { job with revealedSecret := none }) daemon.rows := by
      rw [isLeft]
      rfl
    have works : left.works = daemon.works := by
      rw [isLeft]
      rfl
    rw [← isLeft]
    constructor
    · refine sound.moves moves hide_tame inside same (fun active => active) ?_ ?_ ?_
      · have fair := sound.fair id
        rw [own]
        exact ⟨fair.started, fair.succeeded, fair.failed, fair.callbacks⟩
      · intro work running
        rw [works] at running
        obtain ⟨row, member, named, fits⟩ := sound.works id work running
        rw [only member named] at fits
        exact absurd fits.status unended
      · rw [own]
        rcases sound.handed id with none | ⟨-, gone⟩
        · rw [none, nil_append]
          cases dict.revealedSecret with
          | none => exact .inl rfl
          | some value => exact .inr ⟨rfl, rfl⟩
        · rw [gone job inside same] at secret
          cases secret
    · exact keepsEnded_of_setJob sound.unique rows inside same rfl fun _ => rfl

theorem recoveredKinds_all (caller : Caller) : recoveredKinds.contains caller.kind = true := by
  cases caller <;> decide

/-- A restart whose recovery succeeds leaves no job pending or running. -/
theorem recovered_ended (sound : Sound settings daemon) (quiet : moment.raises = none) :
    ∀ job ∈ recoverInterrupted moment daemon.rows, job.isActive = false := by
  intro job member
  unfold recoverInterrupted at member
  rw [quiet] at member
  obtain ⟨row, inside, rfl⟩ := mem_map.mp member
  obtain ⟨caller, kind⟩ := sound.kinds row inside
  have known : recoveredKinds.contains row.kind = true := by
    rw [kind]
    exact recoveredKinds_all caller
  rw [known, Bool.and_true]
  split
  · rfl
  · next idle => exact Bool.eq_false_iff.mpr idle

theorem recoverInterrupted_map (moment : Moment) : ∃ f, Tame f ∧ (∀ job, (f job).revealedSecret = job.revealedSecret) ∧
    (∀ job, (f job).isActive = true → job.isActive = true) ∧ (∀ job, job.isEnded = true → (f job).status = job.status) ∧
      ∀ rows, recoverInterrupted moment rows = rows.map f := by
  unfold recoverInterrupted
  cases moment.raises with
  | some error =>
    refine ⟨fun job => job, ⟨fun _ => rfl, fun _ => rfl, fun _ => rfl⟩, fun _ => rfl, fun _ active => active, fun _ _ => rfl,
      fun rows => ?_⟩
    exact (map_id' rows).symm
  | none =>
    refine ⟨_, ⟨fun job => ?_, fun job => ?_, fun job => ?_⟩, fun job => ?_, fun job active => ?_, fun job ended => ?_, fun rows => rfl⟩
    · split <;> rfl
    · split <;> rfl
    · split <;> rfl
    · split <;> rfl
    · split at active
      · cases active
      · exact active
    · have idle : job.isActive = false := by
        cases active : job.isActive with
        | false => rfl
        | true =>
          have either : job.status = .pending ∨ job.status = .running := by simpa [CommandRun.isActive] using active
          rw [CommandRun.not_isEnded_of either] at ended
          cases ended
      rw [idle]
      rfl

theorem restart_sound (sound : Sound settings daemon) :
    Sound settings (daemon.step settings cipher (.restart moment)) ∧
      KeepsEnded daemon (daemon.step settings cipher (.restart moment)) := by
  obtain ⟨f, tame, secret, active, status, map⟩ := recoverInterrupted_map moment
  have rows : (daemon.step settings cipher (.restart moment)).rows = daemon.rows.map f := map daemon.rows
  constructor
  · refine ⟨?_, ?_, sound.fair, (fun _ _ never => nomatch never), (fun _ _ never => False.elim never),
      (fun _ _ _ never => False.elim never), fun id absent => ?_, fun id => ?_, fun accountId => ?_, ?_⟩
    · rw [rows]
      exact unique_map tame.id sound.unique
    · rw [rows]
      intro job member
      obtain ⟨row, inside, rfl⟩ := mem_map.mp member
      rw [tame.kind]
      exact sound.kinds row inside
    · rw [rows] at absent
      refine ⟨rfl, (sound.unborn id fun row inside => ?_).2⟩
      rw [← tame.id]
      exact absent (f row) (mem_map_of_mem inside)
    · rw [rows]
      rcases sound.handed id with none | ⟨one, gone⟩
      · exact .inl none
      · refine .inr ⟨one, fun job member named => ?_⟩
        obtain ⟨row, inside, rfl⟩ := mem_map.mp member
        rw [secret]
        exact gone row inside ((tame.id row).symm.trans named)
    · rw [rows]
      refine Nat.le_trans (countP_map_le fun row _ => ?_) (sound.perAccount accountId)
      rw [Bool.and_eq_true, Bool.and_eq_true, tame.account]
      exact fun both => ⟨both.1, active row both.2⟩
    · rw [rows]
      exact Nat.le_trans (countP_map_le fun row _ => active row) sound.global
  · intro job member ended
    rw [rows]
    exact ⟨f job, mem_map_of_mem member, tame.id job, status job ended⟩

theorem step_sound (sound : Sound settings daemon) {event : Event} (careful : Careful daemon event) :
    Sound settings (daemon.step settings cipher event) ∧ KeepsEnded daemon (daemon.step settings cipher event) := by
  cases event with
  | arrive i request =>
    unfold Daemon.step
    dsimp only
    split
    · exact ⟨sound.request fun _ never => never, keepsEnded_of_rows rfl⟩
    · exact ⟨sound, keepsEnded_of_rows rfl⟩
  | submit i moment => exact submit_sound sound
  | work id moment =>
    unfold Daemon.step
    dsimp only
    split
    · exact ⟨sound, keepsEnded_of_rows rfl⟩
    · next work running => exact work_sound sound running careful
  | getRun id username moment =>
    unfold Daemon.step
    dsimp only
    split
    · exact ⟨sound, keepsEnded_of_rows rfl⟩
    · next dict rows got => exact getRun_sound sound got
  | restart moment => exact restart_sound sound

theorem fresh_sound : Sound settings Daemon.fresh where
  unique := nodup_nil
  kinds _ never := nomatch never
  fair _ := Story.blank_unstarted.fair
  works _ _ never := nomatch never
  queued _ _ never := False.elim never
  apart _ _ _ never := False.elim never
  unborn _ _ := ⟨rfl, rfl⟩
  handed _ := .inl rfl
  perAccount _ := Nat.zero_le _
  global := Nat.zero_le _

end

def defaults : Settings := { maxActivePerAccount := 2, maxActiveGlobal := 12 }

def plainCipher : Cipher := { encrypt := fun _ value => .ok value, decrypt := .ok }

/-- A clone of a site: its database goes if the command fails, and it is shown if it succeeds. -/
def clone : Request where
  username := "demo"
  caller := .wpmanager
  target := "/home/demo/public_html"
  commandDisplay := "WordPress clone: demo.test"
  redact := []
  revealedSecret := none
  onFailure := true
  onSuccess := true

def quiet : Moment :=
  { now := 0, raises := none, account := 1, owner := some "demo", nonce := 0, result := ⟨0, "", ""⟩ }

def commandStarted : List Event :=
  [.arrive 0 clone, .submit 0 quiet, .submit 0 quiet, .submit 0 quiet, .work 1 quiet, .work 1 quiet, .work 1 quiet, .work 1 quiet]

def Daemon.after (events : List Event) (daemon : Daemon) : Daemon :=
  events.foldl (fun daemon event => daemon.step defaults plainCipher event) daemon

end Boron.CommandJobs
