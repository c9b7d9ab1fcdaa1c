import Boron.CommandJobs.Daemon

namespace Boron.CommandJobs

/-- The callbacks called so far fit the exit of the command. -/
structure Story.Fair (story : Story) : Prop where
  started : story.started ≤ 1
  succeeded : 0 < story.succeeded → story.exited = some 0
  failed : 0 < story.failed → story.exited ≠ some 0
  callbacks : story.succeeded + story.failed ≤ 1

structure Story.Uncalled (story : Story) : Prop where
  succeeded : story.succeeded = 0
  failed : story.failed = 0

structure Story.Unstarted (story : Story) : Prop where
  started : story.started = 0
  exited : story.exited = none
  uncalled : story.Uncalled

def Work.Fits (work : Work) (status : Status) (story : Story) : Prop :=
  match work.phase with
  | .lookup => status = .pending ∧ story.Unstarted
  | .claim _ => status = .pending ∧ story.Unstarted
  | .start => status = .running ∧ story.Unstarted
  | .command => status = .running ∧ story.exited = none ∧ story.Uncalled
  | .callback result => status = .running ∧ story.exited = some result.returncode ∧ story.Uncalled
  | .record _ => status = .running
  | .failing _ => (status = .pending ∨ status = .running) ∧
      (work.request.onFailure = true → story.exited = none ∧ story.Uncalled)
  | .recordFailed _ => status = .pending ∨ status = .running

/-- A request that has added a job and not yet handed it to the executor. -/
def Submission.Holds (submission : Submission) (id : Nat) : Prop :=
  match submission with
  | .queue _ held => held = id
  | .refuse held => held = id
  | _ => False

structure Sound (settings : Settings) (daemon : Daemon) : Prop where
  unique : Rows.Unique CommandRun.id daemon.rows
  kinds : ∀ job ∈ daemon.rows, ∃ caller : Caller, job.kind = caller.kind
  fair : ∀ id, (daemon.story id).Fair
  works : ∀ id work, daemon.works id = some work →
    ∃ job ∈ daemon.rows, job.id = id ∧ work.Fits job.status (daemon.story id)
  queued : ∀ i id, (daemon.requests i).Holds id →
    (∃ job ∈ daemon.rows, job.id = id ∧ job.status = .pending) ∧ daemon.works id = none ∧ (daemon.story id).Unstarted
  apart : ∀ i j id, (daemon.requests i).Holds id → (daemon.requests j).Holds id → i = j
  unborn : ∀ id, (∀ job ∈ daemon.rows, job.id ≠ id) → daemon.works id = none ∧ daemon.story id = .blank
  handed : ∀ id, (daemon.story id).handed = [] ∨ ((daemon.story id).handed.length = 1 ∧
    ∀ job ∈ daemon.rows, job.id = id → job.revealedSecret = none)
  perAccount : ∀ accountId, accountActive accountId daemon.rows ≤ settings.maxActivePerAccount
  global : globalActive daemon.rows ≤ settings.maxActiveGlobal

theorem Sound.settled {settings : Settings} {daemon : Daemon} (sound : Sound settings daemon) : Settled settings daemon where
  started id := (sound.fair id).started
  succeeded id := (sound.fair id).succeeded
  failed id := (sound.fair id).failed
  callbacks id := (sound.fair id).callbacks
  handed id := by
    rcases sound.handed id with none | ⟨one, -⟩
    · rw [none]
      exact Nat.zero_le 1
    · exact Nat.le_of_eq one
  perAccount := sound.perAccount
  global := sound.global

theorem Story.blank_unstarted : Story.blank.Unstarted := ⟨rfl, rfl, rfl, rfl⟩

theorem Story.Unstarted.fair {story : Story} (unstarted : story.Unstarted) : story.Fair := by
  obtain ⟨started, exited, succeeded, failed⟩ := unstarted
  exact ⟨by omega, fun called => by omega, fun called => by omega, by omega⟩

structure Tame (f : CommandRun → CommandRun) : Prop where
  id : ∀ job, (f job).id = job.id
  account : ∀ job, (f job).accountId = job.accountId
  kind : ∀ job, (f job).kind = job.kind

section
variable {settings : Settings} {daemon left : Daemon} {f : CommandRun → CommandRun} {id : Nat} {job : CommandRun}
  {rows : List CommandRun}

theorem countP_map_le {P : CommandRun → Bool} (shrinks : ∀ job ∈ rows, P (f job) = true → P job = true) :
    (rows.map f).countP P ≤ rows.countP P := by
  rw [List.countP_map]
  exact List.countP_mono_left shrinks

theorem active_setJob_le (unique : Rows.Unique CommandRun.id rows) (tame : Tame f) (inside : job ∈ rows) (same : job.id = id)
    (active : (f job).isActive = true → job.isActive = true) :
    (∀ accountId, accountActive accountId (setJob id f rows) ≤ accountActive accountId rows) ∧
      globalActive (setJob id f rows) ≤ globalActive rows := by
  have shrinks : ∀ row ∈ rows, (if row.id = id then f row else row).isActive = true → row.isActive = true := by
    intro row member
    split
    · next hit =>
      rw [List.inj_on_of_nodup_map unique member inside (hit.trans same.symm)]
      exact active
    · exact fun active => active
  have account (row : CommandRun) : (if row.id = id then f row else row).accountId = row.accountId := by
    split
    · exact tame.account row
    · rfl
  refine ⟨fun accountId => countP_map_le fun row member => ?_, countP_map_le shrinks⟩
  rw [Bool.and_eq_true, Bool.and_eq_true, account]
  exact fun both => ⟨both.1, shrinks row member both.2⟩

structure Moves (id : Nat) (f : CommandRun → CommandRun) (daemon left : Daemon) : Prop where
  rows : left.rows = setJob id f daemon.rows
  works : ∀ other, other ≠ id → left.works other = daemon.works other
  stories : ∀ other, other ≠ id → left.story other = daemon.story other
  requests : ∀ i other, (left.requests i).Holds other → (daemon.requests i).Holds other
  released : ∀ i, ¬ (left.requests i).Holds id

theorem mem_setJob (unique : Rows.Unique CommandRun.id rows) (inside : job ∈ rows) (same : job.id = id)
    {other : CommandRun} : other ∈ setJob id f rows ↔ other = f job ∨ (other ∈ rows ∧ other.id ≠ id) := by
  unfold setJob Rows.change
  rw [List.mem_map]
  constructor
  · rintro ⟨old, member, rfl⟩
    by_cases hit : old.id = id
    · rw [if_pos hit, List.inj_on_of_nodup_map unique member inside (hit.trans same.symm)]
      exact .inl rfl
    · rw [if_neg hit]
      exact .inr ⟨member, hit⟩
  · rintro (rfl | ⟨member, apart⟩)
    · exact ⟨job, inside, if_pos same⟩
    · exact ⟨other, member, if_neg apart⟩

theorem Sound.moves (sound : Sound settings daemon) (moves : Moves id f daemon left) (tame : Tame f) (inside : job ∈ daemon.rows)
    (same : job.id = id) (active : (f job).isActive = true → job.isActive = true) (fair : (left.story id).Fair)
    (fits : ∀ work, left.works id = some work → work.Fits (f job).status (left.story id))
    (handed : (left.story id).handed = [] ∨ ((left.story id).handed.length = 1 ∧ (f job).revealedSecret = none)) :
    Sound settings left := by
  have table {other : CommandRun} : other ∈ left.rows ↔ other = f job ∨ (other ∈ daemon.rows ∧ other.id ≠ id) := by
    rw [moves.rows]
    exact mem_setJob sound.unique inside same
  have own : (f job).id = id := (tame.id job).trans same
  have stays {other : CommandRun} (member : other ∈ daemon.rows) (apart : other.id ≠ id) : other ∈ left.rows :=
    table.mpr (.inr ⟨member, apart⟩)
  refine ⟨?_, ?_, fun other => ?_, fun other work running => ?_, fun i other holds => ?_, fun i j other first second => ?_,
    fun other absent => ?_, fun other => ?_, fun accountId => ?_, ?_⟩
  · rw [moves.rows]
    exact Rows.unique_change tame.id sound.unique
  · intro other member
    rcases table.mp member with rfl | ⟨earlier, -⟩
    · rw [tame.kind]
      exact sound.kinds job inside
    · exact sound.kinds other earlier
  · by_cases hit : other = id
    · rw [hit]
      exact fair
    · rw [moves.stories other hit]
      exact sound.fair other
  · by_cases hit : other = id
    · subst hit
      exact ⟨f job, table.mpr (.inl rfl), own, fits work running⟩
    · rw [moves.works other hit] at running
      obtain ⟨row, member, named, holds⟩ := sound.works other work running
      rw [moves.stories other hit]
      exact ⟨row, stays member (named ▸ hit), named, holds⟩
  · have apart : other ≠ id := fun equal => moves.released i (equal ▸ holds)
    obtain ⟨⟨row, member, named, pending⟩, idle, unstarted⟩ := sound.queued i other (moves.requests i other holds)
    rw [moves.works other apart, moves.stories other apart]
    exact ⟨⟨row, stays member (named ▸ apart), named, pending⟩, idle, unstarted⟩
  · exact sound.apart i j other (moves.requests i other first) (moves.requests j other second)
  · have apart : other ≠ id := fun equal => absent (f job) (table.mpr (.inl rfl)) (own.trans equal.symm)
    rw [moves.works other apart, moves.stories other apart]
    refine sound.unborn other fun row member named => ?_
    exact absent row (stays member (named ▸ apart)) named
  · by_cases hit : other = id
    · subst hit
      rcases handed with none | ⟨one, gone⟩
      · exact .inl none
      · refine .inr ⟨one, fun row member named => ?_⟩
        rcases table.mp member with rfl | ⟨-, apart⟩
        · exact gone
        · exact absurd named apart
    · rw [moves.stories other hit]
      rcases sound.handed other with none | ⟨one, gone⟩
      · exact .inl none
      · refine .inr ⟨one, fun row member named => ?_⟩
        rcases table.mp member with rfl | ⟨earlier, -⟩
        · exact absurd (named.symm.trans own) hit
        · exact gone row earlier named
  · rw [moves.rows]
    exact Nat.le_trans ((active_setJob_le sound.unique tame inside same active).1 accountId) (sound.perAccount accountId)
  · rw [moves.rows]
    exact Nat.le_trans (active_setJob_le sound.unique tame inside same active).2 sound.global

theorem keepsEnded_of_setJob (unique : Rows.Unique CommandRun.id daemon.rows) (rows : left.rows = setJob id f daemon.rows)
    (inside : job ∈ daemon.rows) (same : job.id = id) (own : (f job).id = job.id)
    (status : job.isEnded = true → (f job).status = job.status) : KeepsEnded daemon left := by
  intro row member ended
  rw [rows]
  by_cases hit : row.id = id
  · have equal : row = job := List.inj_on_of_nodup_map unique member inside (hit.trans same.symm)
    rw [equal] at ended ⊢
    exact ⟨f job, (mem_setJob unique inside same).mpr (.inl rfl), own, status ended⟩
  · exact ⟨row, (mem_setJob unique inside same).mpr (.inr ⟨member, hit⟩), rfl, rfl⟩

theorem keepsEnded_of_rows (rows : left.rows = daemon.rows) : KeepsEnded daemon left := by
  intro row member _
  exact ⟨row, rows ▸ member, rfl, rfl⟩

theorem Sound.of_requests (sound : Sound settings daemon) {requests : Nat → Submission}
    (less : ∀ i id, (requests i).Holds id → (daemon.requests i).Holds id) :
    Sound settings { daemon with requests := requests } :=
  { sound with
    queued := fun i id holds => sound.queued i id (less i id holds)
    apart := fun i j id first second => sound.apart i j id (less i id first) (less j id second) }

/-- A request goes on without a job in its hands. -/
theorem Sound.request (sound : Sound settings daemon) {i : Nat} {submission : Submission}
    (free : ∀ id, ¬ submission.Holds id) : Sound settings (daemon.request i submission) := by
  refine sound.of_requests fun j id holds => ?_
  by_cases same : j = i
  · subst same
    rw [Function.update_self] at holds
    exact absurd holds (free id)
  · rw [Function.update_of_ne same] at holds
    exact holds

end

end Boron.CommandJobs
