import Boron.StackManager.Daemon

namespace Boron.StackManager
open List Rows

def Stage.running : Stage → Bool
  | .checking _ => false
  | _ => true

inductive Place
  | queue
  | start (i : Nat)
  | thread

def Waits (daemon : Daemon) (id : Nat) : Place → Prop
  | .queue => .runJob id ∈ daemon.queue
  | .start i => daemon.starts i = .submitting id
  | .thread => daemon.worker = some (.begin id)

def Item.job : Item → Option Nat
  | .runJob id => some id
  | .checkUpdates => none

structure Same (job row : StackJob) : Prop where
  id : row.id = job.id
  component : row.component = job.component
  action : row.action = job.action
  target : row.target = job.target

/-- One active job at most; it waits at one place, or the thread is at work on it. -/
structure Placed (daemon : Daemon) : Prop where
  unique : Rows.Unique StackJob.id daemon.rows
  exclusive : ∀ job ∈ daemon.rows, ∀ other ∈ daemon.rows, job.isActive = true → other.isActive = true → job = other
  queued : ∀ id place, Waits daemon id place → ∃ row ∈ daemon.rows, row.id = id ∧ row.status = .queued
  single : ∀ id place other, Waits daemon id place → Waits daemon id other → place = other
  once : (daemon.queue.filterMap Item.job).Nodup
  waiting : ∀ row ∈ daemon.rows, row.status = .queued → ∃ place, Waits daemon row.id place
  at_work : ∀ job stage, daemon.worker = some (.job job stage) → stage.running = true →
    ∃ row ∈ daemon.rows, Same job row ∧ row.status = .running
  worked : ∀ row ∈ daemon.rows, row.status = .running →
    ∃ job stage, daemon.worker = some (.job job stage) ∧ stage.running = true ∧ job.id = row.id

def KeepsEnded (daemon left : Daemon) : Prop :=
  ∀ job ∈ daemon.rows, job.isActive = false → ∃ row ∈ left.rows, row.id = job.id ∧ row.status = job.status

theorem keepsEnded_rows {daemon left : Daemon} (rows : left.rows = daemon.rows) : KeepsEnded daemon left := by
  intro job member _
  rw [rows]
  exact ⟨job, member, rfl, rfl⟩

variable {daemon left : Daemon} {id : Nat} {job : StackJob}

theorem active_queued (queued : job.status = .queued) : job.isActive = true := by
  unfold StackJob.isActive
  rw [queued]
  rfl

theorem active_running (running : job.status = .running) : job.isActive = true := by
  unfold StackJob.isActive
  rw [running]
  rfl

theorem active_iff : job.isActive = true ↔ job.status = .queued ∨ job.status = .running := by
  unfold StackJob.isActive
  rw [Bool.or_eq_true, decide_eq_true_eq, decide_eq_true_eq]

/-- A turn that moves no job. -/
theorem Placed.still (placed : Placed daemon) (rows : left.rows = daemon.rows)
    (waits : ∀ id place, Waits left id place ↔ Waits daemon id place)
    (once : left.queue.filterMap Item.job = daemon.queue.filterMap Item.job)
    (worker : ∀ job stage, stage.running = true →
      (left.worker = some (.job job stage) → ∃ earlier, daemon.worker = some (.job job earlier) ∧ earlier.running = true) ∧
      (daemon.worker = some (.job job stage) → ∃ later, left.worker = some (.job job later) ∧ later.running = true)) :
    Placed left := by
  refine ⟨?_, ?_, fun id place here => ?_, fun id place other here there => ?_, ?_, fun row member queued => ?_, ?_, ?_⟩
  · rw [rows]
    exact placed.unique
  · rw [rows]
    exact placed.exclusive
  · rw [rows]
    exact placed.queued id place ((waits id place).mp here)
  · exact placed.single id place other ((waits id place).mp here) ((waits id other).mp there)
  · rw [once]
    exact placed.once
  · rw [rows] at member
    obtain ⟨place, here⟩ := placed.waiting row member queued
    exact ⟨place, (waits row.id place).mpr here⟩
  · intro job stage at_ running
    obtain ⟨earlier, before, ran⟩ := (worker job stage running).1 at_
    rw [rows]
    exact placed.at_work job earlier before ran
  · intro row member running
    rw [rows] at member
    obtain ⟨job, stage, at_, ran, named⟩ := placed.worked row member running
    obtain ⟨later, after, still⟩ := (worker job stage ran).2 at_
    exact ⟨job, later, after, still, named⟩

theorem Placed.same (placed : Placed daemon) (rows : left.rows = daemon.rows) (queue : left.queue = daemon.queue)
    (worker : left.worker = daemon.worker)
    (starts : ∀ i id, left.starts i = .submitting id ↔ daemon.starts i = .submitting id) : Placed left := by
  refine placed.still rows (fun id place => ?_) (by rw [queue]) fun job stage running => ?_
  · cases place with
    | queue =>
      unfold Waits
      rw [queue]
    | start i => exact starts i id
    | thread =>
      unfold Waits
      rw [worker]
  · rw [worker]
    exact ⟨fun at_ => ⟨stage, at_, running⟩, fun at_ => ⟨stage, at_, running⟩⟩

/-- The insert of a start that finds no active job. -/
theorem Placed.insert {i : Nat} {request : Request} (placed : Placed daemon)
    (start : daemon.starts i = .inserting request) (idle : daemon.rows.any StackJob.isActive = false) :
    Placed ({ daemon with rows := daemon.rows ++ [newJob (Rows.next StackJob.id daemon.rows) request] }.start i
      (.submitting (Rows.next StackJob.id daemon.rows))) := by
  have inactive : ∀ job ∈ daemon.rows, job.isActive ≠ true := any_eq_false.mp idle
  have none_waits : ∀ id place, ¬ Waits daemon id place := by
    intro id place here
    obtain ⟨row, member, _, queued⟩ := placed.queued id place here
    exact inactive row member (active_queued queued)
  have moved : ∀ id place, Waits ({ daemon with
      rows := daemon.rows ++ [newJob (Rows.next StackJob.id daemon.rows) request] }.start i
      (.submitting (Rows.next StackJob.id daemon.rows))) id place →
      place = .start i ∧ id = Rows.next StackJob.id daemon.rows := by
    intro id place here
    cases place with
    | queue => exact absurd here (none_waits id .queue)
    | thread => exact absurd here (none_waits id .thread)
    | start j =>
      by_cases own : j = i
      · subst own
        have given : Function.update daemon.starts j (.submitting (Rows.next StackJob.id daemon.rows)) j = .submitting id := here
        rw [Function.update_self] at given
        exact ⟨rfl, (Start.submitting.inj given).symm⟩
      · have given : Function.update daemon.starts i (.submitting (Rows.next StackJob.id daemon.rows)) j = .submitting id := here
        rw [Function.update_of_ne own] at given
        exact absurd given (none_waits id (.start j))
  have listed : ∀ row, row ∈ daemon.rows ++ [newJob (Rows.next StackJob.id daemon.rows) request] →
      row ∈ daemon.rows ∨ row = newJob (Rows.next StackJob.id daemon.rows) request := by
    intro row member
    rcases mem_append.mp member with old | new
    · exact .inl old
    · exact .inr (mem_singleton.mp new)
  refine ⟨?_, ?_, fun id place here => ?_, fun id place other here there => ?_, placed.once, ?_, ?_, ?_⟩
  · refine unique_append placed.unique fun row member same => ?_
    exact Nat.lt_irrefl _ (Nat.lt_of_lt_of_eq (lt_next member) same.symm)
  · intro job member other another active alive
    rcases listed job member with old | rfl
    · exact absurd active (inactive job old)
    · rcases listed other another with old | rfl
      · exact absurd alive (inactive other old)
      · rfl
  · obtain ⟨_, rfl⟩ := moved id place here
    exact ⟨newJob _ request, mem_append_right _ mem_cons_self, rfl, rfl⟩
  · rw [(moved id place here).1, (moved id other there).1]
  · intro row member queued
    rcases listed row member with old | rfl
    · exact absurd (active_queued queued) (inactive row old)
    · exact ⟨.start i, Function.update_self ..⟩
  · intro job stage at_ running
    obtain ⟨row, member, _, runs⟩ := placed.at_work job stage at_ running
    exact absurd (active_running runs) (inactive row member)
  · intro row member running
    rcases listed row member with old | rfl
    · exact absurd (active_running running) (inactive row old)
    · cases running

theorem Placed.moves {before after : Place} (placed : Placed daemon) (rows : left.rows = daemon.rows)
    (here : Waits daemon id before) (there : Waits left id after) (once : (left.queue.filterMap Item.job).Nodup)
    (gone : ∀ place, Waits left id place → place = after)
    (others : ∀ other place, other ≠ id → (Waits left other place ↔ Waits daemon other place))
    (worker : ∀ job stage, stage.running = true →
      (left.worker = some (.job job stage) ↔ daemon.worker = some (.job job stage))) : Placed left := by
  have known : ∀ other place, Waits left other place → ∃ place, Waits daemon other place := by
    intro other place waits
    by_cases own : other = id
    · exact ⟨before, own ▸ here⟩
    · exact ⟨place, (others other place own).mp waits⟩
  refine ⟨?_, ?_, fun other place waits => ?_, fun other place another waits too => ?_, once, fun row member queued => ?_,
    fun job stage at_ running => ?_, fun row member running => ?_⟩
  · rw [rows]
    exact placed.unique
  · rw [rows]
    exact placed.exclusive
  · obtain ⟨place, earlier⟩ := known other place waits
    rw [rows]
    exact placed.queued other place earlier
  · by_cases own : other = id
    · subst own
      rw [gone place waits, gone another too]
    · exact placed.single other place another ((others other place own).mp waits) ((others other another own).mp too)
  · rw [rows] at member
    by_cases own : row.id = id
    · exact ⟨after, own ▸ there⟩
    · obtain ⟨place, waits⟩ := placed.waiting row member queued
      exact ⟨place, (others row.id place own).mpr waits⟩
  · rw [rows]
    exact placed.at_work job stage ((worker job stage running).mp at_) running
  · rw [rows] at member
    obtain ⟨job, stage, at_, ran, named⟩ := placed.worked row member running
    exact ⟨job, stage, (worker job stage ran).mpr at_, ran, named⟩

theorem setJob_unique {f : StackJob → StackJob} (same : ∀ row, (f row).id = row.id) {rows : List StackJob}
    (unique : Rows.Unique StackJob.id rows) (id : Nat) : Rows.Unique StackJob.id (setJob id f rows) :=
  unique_change same unique

theorem mem_setJob {f : StackJob → StackJob} {rows : List StackJob} {row : StackJob} (member : row ∈ setJob id f rows) :
    ∃ earlier ∈ rows, row = if earlier.id = id then f earlier else earlier := by
  obtain ⟨earlier, inside, same⟩ := mem_map.mp member
  exact ⟨earlier, inside, same.symm⟩

theorem setJob_mem {f : StackJob → StackJob} {rows : List StackJob} {row : StackJob} (member : row ∈ rows) :
    (if row.id = id then f row else row) ∈ setJob id f rows := mem_map.mpr ⟨row, member, rfl⟩

theorem eq_of_unique {rows : List StackJob} (unique : Rows.Unique StackJob.id rows) {row other : StackJob}
    (member : row ∈ rows) (another : other ∈ rows) (same : row.id = other.id) : row = other := by
  have first := byKey_of_mem unique member
  rw [same, byKey_of_mem unique another] at first
  exact (Option.some.inj first).symm

theorem Placed.notes {f : StackJob → StackJob} (placed : Placed daemon) (rows : left.rows = setJob id f daemon.rows)
    (same : ∀ row, Same row (f row) ∧ (f row).status = row.status) (queue : left.queue = daemon.queue)
    (starts : left.starts = daemon.starts)
    (begins : ∀ other, left.worker = some (.begin other) ↔ daemon.worker = some (.begin other))
    (worker : ∀ job stage, stage.running = true →
      (left.worker = some (.job job stage) → ∃ earlier, daemon.worker = some (.job job earlier) ∧ earlier.running = true) ∧
      (daemon.worker = some (.job job stage) → ∃ later, left.worker = some (.job job later) ∧ later.running = true)) :
    Placed left := by
  have waits : ∀ other place, Waits left other place ↔ Waits daemon other place := by
    intro other place
    cases place with
    | queue =>
      unfold Waits
      rw [queue]
    | start i =>
      unfold Waits
      rw [starts]
    | thread => exact begins other
  have noted : ∀ row, Same row (if row.id = id then f row else row) ∧ (if row.id = id then f row else row).status = row.status := by
    intro row
    split
    · exact same row
    · exact ⟨⟨rfl, rfl, rfl, rfl⟩, rfl⟩
  refine ⟨?_, ?_, fun other place here => ?_, fun other place another here there => ?_, ?_, fun row member queued => ?_,
    fun job stage at_ running => ?_, fun row member running => ?_⟩
  · rw [rows]
    exact setJob_unique (fun row => (same row).1.id) placed.unique id
  · rw [rows]
    intro job member other another active alive
    obtain ⟨earlier, inside, rfl⟩ := mem_setJob member
    obtain ⟨before, within, rfl⟩ := mem_setJob another
    unfold StackJob.isActive at active alive
    rw [(noted earlier).2] at active
    rw [(noted before).2] at alive
    rw [placed.exclusive earlier inside before within active alive]
  · obtain ⟨row, member, named, queued⟩ := placed.queued other place ((waits other place).mp here)
    rw [rows]
    exact ⟨_, setJob_mem member, (noted row).1.id.trans named, (noted row).2.trans queued⟩
  · exact placed.single other place another ((waits other place).mp here) ((waits other another).mp there)
  · rw [queue]
    exact placed.once
  · rw [rows] at member
    obtain ⟨earlier, inside, rfl⟩ := mem_setJob member
    rw [(noted earlier).2] at queued
    obtain ⟨place, here⟩ := placed.waiting earlier inside queued
    rw [(noted earlier).1.id]
    exact ⟨place, (waits earlier.id place).mpr here⟩
  · obtain ⟨earlier, before, ran⟩ := (worker job stage running).1 at_
    obtain ⟨row, member, alike, runs⟩ := placed.at_work job earlier before ran
    have kept := (noted row).1
    rw [rows]
    exact ⟨_, setJob_mem member, ⟨kept.id.trans alike.id, kept.component.trans alike.component,
      kept.action.trans alike.action, kept.target.trans alike.target⟩, (noted row).2.trans runs⟩
  · rw [rows] at member
    obtain ⟨earlier, inside, rfl⟩ := mem_setJob member
    rw [(noted earlier).2] at running
    obtain ⟨job, stage, at_, ran, named⟩ := placed.worked earlier inside running
    obtain ⟨later, after, still⟩ := (worker job stage ran).2 at_
    exact ⟨job, later, after, still, named.trans (noted earlier).1.id.symm⟩

theorem Placed.takesUp {row : StackJob} (placed : Placed daemon) (begins : daemon.worker = some (.begin id))
    (found : byKey StackJob.id daemon.rows id = some row) :
    Placed { daemon with rows := setJob id beginJob daemon.rows, worker := some (.job (beginJob row) .preflight) } := by
  obtain ⟨member, named⟩ := byKey_some found
  have queued : row.status = .queued := by
    obtain ⟨other, inside, same, queued⟩ := placed.queued id .thread begins
    rw [eq_of_unique placed.unique member inside (named.trans same.symm)]
    exact queued
  have others : ∀ other ∈ daemon.rows, other.id ≠ id → other.isActive ≠ true := by
    intro other inside different active
    have same := placed.exclusive other inside row member active (active_queued queued)
    exact different ((congrArg StackJob.id same).trans named)
  have waits : ∀ other place, Waits { daemon with
      rows := setJob id beginJob daemon.rows, worker := some (.job (beginJob row) .preflight) } other place →
      Waits daemon other place ∧ other ≠ id := by
    intro other place here
    cases place with
    | queue =>
      refine ⟨here, ?_⟩
      rintro rfl
      exact Place.noConfusion (placed.single other .queue .thread here begins)
    | start i =>
      refine ⟨here, ?_⟩
      rintro rfl
      exact Place.noConfusion (placed.single other (.start i) .thread here begins)
    | thread => cases here
  refine ⟨@setJob_unique beginJob (fun _ => rfl) _ placed.unique id, ?_, fun other place here => ?_,
    fun other place another here there => ?_, placed.once, fun other inside waiting => ?_, fun job stage at_ _ => ?_,
    fun other inside running => ?_⟩
  · intro job inside other within active alive
    obtain ⟨earlier, old, rfl⟩ := mem_setJob inside
    obtain ⟨before, former, rfl⟩ := mem_setJob within
    by_cases first : earlier.id = id
    · by_cases second : before.id = id
      · rw [eq_of_unique placed.unique old former (first.trans second.symm)]
      · rw [if_neg second] at alive
        exact absurd alive (others before former second)
    · rw [if_neg first] at active
      exact absurd active (others earlier old first)
  · obtain ⟨earlier, different⟩ := waits other place here
    obtain ⟨old, inside, same, waited⟩ := placed.queued other place earlier
    have kept : old.id ≠ id := fun own => different (same.symm.trans own)
    have set : old ∈ setJob id beginJob daemon.rows := by
      have moved := @setJob_mem id beginJob _ _ inside
      rw [if_neg kept] at moved
      exact moved
    exact ⟨old, set, same, waited⟩
  · exact placed.single other place another (waits other place here).1 (waits other another there).1
  · obtain ⟨old, former, rfl⟩ := mem_setJob inside
    by_cases own : old.id = id
    · rw [if_pos own] at waiting
      cases waiting
    · rw [if_neg own] at waiting
      exact absurd (active_queued waiting) (others old former own)
  · cases at_
    have set := @setJob_mem id beginJob _ _ member
    rw [if_pos named] at set
    exact ⟨beginJob row, set, ⟨rfl, rfl, rfl, rfl⟩, rfl⟩
  · obtain ⟨old, former, rfl⟩ := mem_setJob inside
    by_cases own : old.id = id
    · rw [if_pos own]
      exact ⟨beginJob row, .preflight, rfl, rfl, named.trans own.symm⟩
    · rw [if_neg own] at running
      exact absurd (active_running running) (others old former own)

/-- A last status: no job is active then. -/
theorem Placed.ends {job : StackJob} {stage : Stage} {f : StackJob → StackJob} (placed : Placed daemon)
    (works : daemon.worker = some (.job job stage)) (running : stage.running = true)
    (rows : left.rows = setJob job.id f daemon.rows) (same : ∀ row, (f row).id = row.id)
    (ended : ∀ row, (f row).isActive = false) (queue : left.queue = daemon.queue) (starts : left.starts = daemon.starts)
    (begins : ∀ other, left.worker ≠ some (.begin other))
    (worker : ∀ other later, left.worker = some (.job other later) → later.running = false) :
    Placed left ∧ left.rows.any StackJob.isActive = false := by
  obtain ⟨own, member, alike, runs⟩ := placed.at_work job stage works running
  have inactive : ∀ row ∈ left.rows, row.isActive ≠ true := by
    intro row inside active
    rw [rows] at inside
    obtain ⟨earlier, old, rfl⟩ := mem_setJob inside
    by_cases named : earlier.id = job.id
    · rw [if_pos named, ended earlier] at active
      exact Bool.false_ne_true active
    · rw [if_neg named] at active
      have equal := placed.exclusive earlier old own member active (active_running runs)
      exact named ((congrArg StackJob.id equal).trans alike.id)
  have nobody : ∀ other place, ¬ Waits left other place := by
    intro other place here
    have earlier : Waits daemon other place := by
      cases place with
      | queue =>
        unfold Waits at here ⊢
        rw [← queue]
        exact here
      | start i =>
        unfold Waits at here ⊢
        rw [← starts]
        exact here
      | thread => exact absurd here (begins other)
    obtain ⟨row, inside, named, queued⟩ := placed.queued other place earlier
    have equal := placed.exclusive row inside own member (active_queued queued) (active_running runs)
    rw [equal, runs] at queued
    cases queued
  refine ⟨⟨?_, fun first inside second within active _ => absurd active (inactive first inside),
    fun other place here => absurd here (nobody other place), fun other place another here _ => absurd here (nobody other place),
    ?_, fun row inside queued => absurd (active_queued queued) (inactive row inside), fun other later at_ ran => ?_,
    fun row inside runs => absurd (active_running runs) (inactive row inside)⟩, ?_⟩
  · rw [rows]
    exact setJob_unique same placed.unique job.id
  · rw [queue]
    exact placed.once
  · rw [worker other later at_] at ran
    exact absurd ran Bool.false_ne_true
  · exact any_eq_false.mpr inactive

end Boron.StackManager
