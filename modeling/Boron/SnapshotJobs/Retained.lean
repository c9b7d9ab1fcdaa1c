import Boron.SnapshotJobs.Points

namespace Boron.SnapshotJobs

section
variable {i id snapshot : Nat} {job : Job} {phase : RunPhase} {moment : Moment} {task next : Task} {store left : Store}
  {row later : SnapshotRun}

theorem moves_apart (consistent : Consistent store) (needs : Needs i task store) (idle : task.expiring = [])
    (marks : marking moment task store = []) (runs : left.runs = store.runs) (saved : left.saved = store.saved)
    (forgotten : left.forgotten = store.forgotten) (taking : ∀ j, j ≠ i → left.taking j = store.taking j)
    (downloads : ∀ download ∈ left.downloads, ∃ before ∈ store.downloads, before.runId = download.runId ∧
      before.accountId = download.accountId ∧ (download.status.isActive = true → before.status.isActive = true)) :
    Moves i moment task store left := by
  have same (id : Nat) : left.run id = store.run id := by
    unfold Store.run
    rw [runs]
  refine ⟨fun item inside => ?_, taking, fun snapshot taken => .inl ?_, fun snapshot taken => ?_, fun id member => ?_,
    fun id row found => ⟨row, (same id).trans found, rfl, .inl rfl⟩,
    fun id later found => .inl ⟨later, (same id).symm.trans found, rfl, .inl, .inl rfl⟩, fun id promised => .inl ?_,
    fun download member => ?_⟩
  · rwa [saved]
  · rwa [forgotten] at taken
  · rw [needs.taking, idle] at taken
    cases taken
  · rw [marks] at member
    cases member
  · obtain ⟨row, found, why⟩ := promised
    refine ⟨row, (same id).symm.trans found, why.imp_right ?_⟩
    rintro ⟨download, inside, named, active⟩
    obtain ⟨before, inside', run, _, was⟩ := downloads download inside
    exact ⟨before, inside', run.trans named, was active⟩
  · obtain ⟨before, inside, run, account, _⟩ := downloads download member
    rw [← run, ← account]
    exact consistent.downloads before inside

theorem moves_update (consistent : Consistent store) (needs : Needs i task store) (idle : task.expiring = [])
    (marks : marking moment task store = []) {f : SnapshotRun → SnapshotRun} (same : ∀ row, (f row).id = row.id)
    (kept : ∀ row, (f row).job = row.job)
    (completed : ∀ row, (f row).status = .completed → row.status = .completed ∨ ∃ job, task = .run id job .complete)
    (refers : ∀ row, store.run id = some row → (f row).snapshotId = row.snapshotId ∨
      task.engaged = some id ∧ OwnPoint i store (store.update id f) (f row))
    (promises : (∀ row, (f row).pinned = true → row.pinned = true) ∨ id ∈ promising moment task store) :
    Moves i moment task store (store.update id f) := by
  have now (other : Nat) : (store.update id f).run other =
      if id = other then (store.run other).map f else store.run other := run_update same other
  refine ⟨fun _ inside => inside, fun _ _ => rfl, fun _ => .inl, fun snapshot taken => ?_, fun id member => ?_,
    fun other row found => ?_, fun other later found => .inl ?_, fun other promised => ?_, consistent.downloads⟩
  · rw [needs.taking, idle] at taken
    cases taken
  · rw [marks] at member
    cases member
  · rw [now]
    split
    · next own =>
      subst own
      rw [found]
      refine ⟨f row, rfl, kept row, ?_⟩
      rcases refers row found with same | ⟨own, _⟩
      · exact .inl same
      · exact .inr own
    · exact ⟨row, found, rfl, .inl rfl⟩
  · rw [now] at found
    split at found
    · next own =>
      subst own
      obtain ⟨row, before, became⟩ := Option.map_eq_some_iff.mp found
      subst became
      refine ⟨row, before, kept row, completed row, ?_⟩
      rcases refers row before with same | ⟨_, own⟩
      · exact .inl same
      · exact .inr own
    · exact ⟨later, found, rfl, .inl, .inl rfl⟩
  · obtain ⟨later, found, why⟩ := promised
    rw [now] at found
    split at found
    · next own =>
      subst own
      obtain ⟨row, before, became⟩ := Option.map_eq_some_iff.mp found
      subst became
      rcases promises with pinned | now
      · exact .inl ⟨row, before, why.imp_left (pinned row)⟩
      · exact .inr now
    · exact .inl ⟨later, found, why⟩

/-- What a turn of task `i` has to show for the recovery points. -/
structure Passes (i : Nat) (moment : Moment) (task : Task) (store : Store) (result : Task × Store) : Prop where
  unique : Rows.Unique Snapshot.id result.2.saved
  moves : Moves i moment task store result.2
  needs : Needs i result.1 result.2

section
variable (consistent : Consistent store)
include consistent

section
variable (needs : Needs i task store)
include needs

section
variable (idle : task.expiring = [])
include idle

section
variable (marks : marking moment task store = [])
include marks

theorem passes_apart (quiet : next.expiring = []) (goes : TaskNeeds next left)
    (runs : left.runs = store.runs) (saved : left.saved = store.saved) (forgotten : left.forgotten = store.forgotten)
    (taking : left.taking = store.taking)
    (downloads : ∀ download ∈ left.downloads, ∃ before ∈ store.downloads, before.runId = download.runId ∧
      before.accountId = download.accountId ∧ (download.status.isActive = true → before.status.isActive = true)) :
    Passes i moment task store (next, left) := by
  refine ⟨?_, moves_apart consistent needs idle marks runs saved forgotten (fun j _ => by rw [taking]) downloads, ?_, goes⟩
  · rw [saved]
    exact consistent.unique
  · rw [taking, needs.taking, idle, quiet]

theorem passes_same (quiet : next.expiring = []) (goes : TaskNeeds next store) :
    Passes i moment task store (next, store) :=
  passes_apart consistent needs idle marks quiet goes rfl rfl rfl rfl fun download inside =>
    ⟨download, inside, rfl, rfl, fun active => active⟩

theorem moves_release : Moves i moment task store (store.release i) :=
  moves_apart consistent needs idle marks rfl rfl rfl (fun j other => by simp only [Store.release, if_neg other])
    fun download inside => ⟨download, inside, rfl, rfl, fun active => active⟩

theorem passes_release (quiet : next.expiring = []) (goes : TaskNeeds next (store.release i)) :
    Passes i moment task store (next, store.release i) :=
  ⟨consistent.unique, moves_release consistent needs idle marks, by simp [Store.release, quiet], goes⟩

theorem passes_lock {name : LockName} {waiting granted : Task} (quiet : waiting.expiring = [])
    (quiet' : granted.expiring = []) (waits : TaskNeeds waiting store) (goes : TaskNeeds granted (store.acquire i name)) :
    Passes i moment task store (lockTurn i name waiting granted store) := by
  unfold lockTurn
  split
  · exact passes_apart consistent needs idle marks quiet' goes rfl rfl rfl rfl fun download inside =>
      ⟨download, inside, rfl, rfl, fun active => active⟩
  · exact passes_same consistent needs idle marks quiet waits

theorem passes_update (quiet : next.expiring = []) {f : SnapshotRun → SnapshotRun}
    (goes : TaskNeeds next (store.update id f)) (same : ∀ row, (f row).id = row.id) (kept : ∀ row, (f row).job = row.job)
    (completed : ∀ row, (f row).status = .completed → row.status = .completed ∨ ∃ job, task = .run id job .complete)
    (refers : ∀ row, (f row).snapshotId = row.snapshotId)
    (promises : (∀ row, (f row).pinned = true → row.pinned = true) ∨ id ∈ promising moment task store) :
    Passes i moment task store (next, store.update id f) := by
  refine ⟨consistent.unique, moves_update consistent needs idle marks same kept completed (fun row _ => .inl (refers row)) promises,
    ?_, goes⟩
  have kept : (store.update id f).taking i = store.taking i := rfl
  rw [kept, needs.taking, idle, quiet]

end

end

end

end

theorem moves_congr {other : Store} (moves : Moves i moment task store left) (runs : other.runs = left.runs)
    (saved : other.saved = left.saved) (forgotten : other.forgotten = left.forgotten) (taking : other.taking = left.taking)
    (downloads : other.downloads = left.downloads) : Moves i moment task store other := by
  obtain ⟨kept, mine, gone, freed, marked, forth, back, promised, known⟩ := moves
  constructor <;>
    simp only [Store.run, Store.Promised, OwnPoint, Store.Listed, runs, saved, forgotten, taking, downloads] at * <;>
    assumption

end

section
variable {i id snapshot : Nat} {job : Job} {phase : RunPhase} {moment : Moment} {task next : Task} {store left : Store}
  {row later : SnapshotRun} {obsolete : List Nat} {items : List Snapshot}

section
variable (consistent : Consistent store)
include consistent

theorem save_passes (needs : Needs i (.run id job .save) store) :
    Passes i moment (.run id job .save) store (runTurn moment i id job .save store) := by
  have fresh (item : Snapshot) (inside : item ∈ store.saved) : item.id < Rows.next Snapshot.id store.saved := Rows.lt_next inside
  refine ⟨?_, ?_, needs.taking, ?_⟩
  · unfold Rows.Unique runTurn Store.backup
    rw [List.map_append]
    refine List.Nodup.append consistent.unique (List.nodup_singleton _) fun key earlier newest => ?_
    obtain ⟨item, inside, named⟩ := List.mem_map.mp earlier
    have drawn : key = Rows.next Snapshot.id store.saved := List.mem_singleton.mp newest
    have below := fresh item inside
    omega
  · refine ⟨fun item inside => List.mem_append_left _ inside, fun _ _ => rfl, fun _ => .inl, fun snapshot taken => ?_,
      fun id member => ?_, fun id row found => ⟨row, found, rfl, .inl rfl⟩,
      fun id later found => .inl ⟨later, found, rfl, .inl, .inl rfl⟩, fun _ => .inl, consistent.downloads⟩
    · rw [needs.taking] at taken
      cases taken
    · simp [marking] at member
  · refine ⟨⟨_, List.mem_append_right _ (List.mem_singleton.mpr rfl), rfl, rfl, rfl⟩, fun taken => ?_⟩
    obtain ⟨item, inside, named⟩ := consistent.forgotten _ taken
    have below := fresh item inside
    omega

theorem refer_passes (relies : RunRelies False i id job phase store)
    (needs : Needs i (.run id job phase) store) (busy : (phase.isEarly || phase.isLate) = true) (locked : phase.isLocked = true)
    (idle : (Task.run id job phase).expiring = []) (marks : marking moment (.run id job phase) store = [])
    (listed : store.Listed job snapshot) (there : snapshot ∉ store.forgotten) {f : SnapshotRun → SnapshotRun}
    (same : ∀ row, (f row).id = row.id) (kept : ∀ row, (f row).job = row.job)
    (completed : ∀ row, (f row).status = .completed → row.status = .completed)
    (refers : ∀ row, (f row).snapshotId = some snapshot) (pinned : ∀ row, (f row).pinned = row.pinned)
    (quiet : next.expiring = []) (goes : TaskNeeds next (store.update id f)) :
    Passes i moment (.run id job phase) store (next, store.update id f) := by
  obtain ⟨own, known, named, _⟩ := relies.known
  have named' (row : SnapshotRun) (found : store.run id = some row) : (f row).job = job := by
    rw [found] at known
    cases known
    rw [kept, named]
  refine ⟨consistent.unique, moves_update consistent needs idle marks same kept (fun row done => .inl (completed row done))
    (fun row found => .inr ⟨?_, snapshot, refers row, ?_, there, ?_⟩) (.inl fun row now => by rwa [pinned row] at now), ?_,
    goes⟩
  · simp only [Task.engaged, busy, if_true]
  · rw [named' row found]
    exact listed
  · rw [named' row found]
    exact relies.locked locked
  · have unchanged : (store.update id f).taking i = store.taking i := rfl
    rw [unchanged, needs.taking, idle, quiet]

theorem list_passes (needs : Needs i (.run id job .list) store) :
    Passes i moment (.run id job .list) store (runTurn moment i id job .list store) := by
  refine passes_same consistent needs rfl (by simp [marking]) rfl ⟨fun item member => ?_, needs.phase⟩
  obtain ⟨inside, chosen⟩ := List.mem_filter.mp member
  simp only [Bool.and_eq_true, decide_eq_true_eq] at chosen
  exact ⟨item, inside, rfl, chosen.1.1.2, chosen.1.1.1⟩

theorem promised_protected (listed : store.Listed job snapshot) (found : store.run id = some row)
    (refers : row.snapshotId = some snapshot) (promised : store.Promised id) : snapshot ∈ store.protected_ job := by
  obtain ⟨item, inside, named, account, destination⟩ := listed
  obtain ⟨item', inside', named', account', destination'⟩ := consistent.origin id row found snapshot refers
  have same : item' = item := List.inj_on_of_nodup_map consistent.unique inside' inside (named'.trans named.symm)
  rw [same, account] at account'
  rw [same, destination] at destination'
  obtain ⟨own, known, why⟩ := promised
  rw [found] at known
  cases known
  obtain ⟨member, named⟩ := run_id found
  rcases why with pinned | ⟨download, member', reads, active⟩
  · refine List.mem_append_left _ (List.mem_filterMap.mpr ⟨row, List.mem_filter.mpr ⟨member, ?_⟩, refers⟩)
    simp [← account', ← destination', pinned]
  · obtain ⟨own, known, account''⟩ := consistent.downloads download member'
    rw [reads, found] at known
    cases known
    refine List.mem_append_right _ (List.mem_filterMap.mpr ⟨row, List.mem_filter.mpr ⟨member, ?_⟩, refers⟩)
    refine List.any_eq_true.mpr ⟨download, List.mem_filter.mpr ⟨member', ?_⟩, ?_⟩
    · simp [← account'', ← account', active]
    · simp [reads, named]

theorem protect_passes (needs : Needs i (.run id job (.protect items)) store) :
    Passes i moment (.run id job (.protect items)) store (runTurn moment i id job (.protect items) store) := by
  obtain ⟨listed, own⟩ := needs.phase
  unfold runTurn
  dsimp only
  split
  · exact passes_same consistent needs rfl (by simp [marking]) rfl own
  · refine passes_same consistent needs rfl (by simp [marking]) rfl ⟨fun snapshot member => ?_, ?_, own⟩
    · obtain ⟨⟨item, inside, named⟩, _⟩ := obsolete_listed member
      rw [← named]
      exact listed item inside
    · intro other row found snapshot refers member promised
      obtain ⟨⟨item, inside, named⟩, unprotected⟩ := obsolete_listed member
      have point := listed item inside
      rw [named] at point
      exact unprotected (promised_protected consistent point found refers promised)

end

theorem Moves.still_kept (moves : Moves i moment task store left) (unmarked : id ∉ marking moment task store)
    (same : ∀ row, store.run id = some row → ∃ later, left.run id = some later ∧ later.snapshotId = row.snapshotId)
    (known : ∃ row, store.run id = some row)
    (kept : ∀ row, store.run id = some row → ∃ snapshot, row.snapshotId = some snapshot ∧ store.Kept snapshot) :
    ∀ row, left.run id = some row → ∃ snapshot, row.snapshotId = some snapshot ∧ left.Kept snapshot := by
  intro later found'
  obtain ⟨row, found⟩ := known
  obtain ⟨snapshot, refers, holds⟩ := kept row found
  obtain ⟨later', found'', unchanged⟩ := same row found
  rw [found'] at found''
  cases found''
  exact ⟨snapshot, unchanged.trans refers, moves.keeps holds found refers unmarked⟩

theorem forget_passes (consistent : Consistent store) (relies : RunRelies False i id job (.forget obsolete) store)
    (needs : Needs i (.run id job (.forget obsolete)) store) :
    Passes i moment (.run id job (.forget obsolete)) store (runTurn moment i id job (.forget obsolete) store) := by
  obtain ⟨listed, _, own⟩ := needs.phase
  have moves : Moves i moment (.run id job (.forget obsolete)) store (store.forget i obsolete) := by
    refine ⟨fun _ inside => inside, fun j other => by simp only [Store.forget, if_neg other], fun snapshot taken => ?_,
      fun snapshot taken => ?_, fun id member => ?_, fun id row found => ⟨row, found, rfl, .inl rfl⟩,
      fun id later found => .inl ⟨later, found, rfl, .inl, .inl rfl⟩, fun _ => .inl, consistent.downloads⟩
    · rcases List.mem_append.mp taken with newest | earlier
      · obtain ⟨item, inside, named, account, _⟩ := listed snapshot newest
        refine .inr ⟨by simpa [Store.forget] using newest, item, inside, named, ?_⟩
        rw [account]
        exact relies.locked rfl
      · exact .inl earlier
    · rw [needs.taking] at taken
      cases taken
    · simp [marking] at member
  obtain ⟨row, found, _⟩ := relies.known
  refine ⟨consistent.unique, moves, by simp [runTurn, Store.forget, Task.expiring], listed, ?_⟩
  exact moves.still_kept (by simp [marking]) (fun row found => ⟨row, found, rfl⟩) ⟨row, found⟩ own

theorem expire_passes (sound : Sound store) (consistent : Consistent store) (relies : RunRelies False i id job (.expire obsolete) store)
    (needs : Needs i (.run id job (.expire obsolete)) store)
    (marks : marking moment (.run id job (.expire obsolete)) store = (store.expiring job obsolete).map SnapshotRun.id)
    (spared : id ∉ marking moment (.run id job (.expire obsolete)) store) :
    Passes i moment (.run id job (.expire obsolete)) store (runTurn moment i id job (.expire obsolete) store) := by
  obtain ⟨listed, own⟩ := needs.phase
  have forth (other : Nat) (row : SnapshotRun) (found : store.run other = some row) :
      ∃ later, (store.expire i job obsolete).run other = some later ∧ later.job = row.job ∧ later.snapshotId = row.snapshotId := by
    rw [run_expire, found, Option.map_some]
    refine ⟨_, rfl, ?_⟩
    split <;> exact ⟨rfl, rfl⟩
  have moves : Moves i moment (.run id job (.expire obsolete)) store (store.expire i job obsolete) := by
    refine ⟨fun _ inside => inside, fun j other => by simp only [Store.expire, if_neg other], fun _ => .inl,
      fun snapshot taken _ other row found refers => ?_, fun other member row found => ?_, fun other row found => ?_,
      fun other later found => .inl ?_, fun other promised => .inl ?_, consistent.downloads⟩
    · rw [needs.taking] at taken
      obtain ⟨item, inside, named, account, destination⟩ := listed snapshot taken
      obtain ⟨item', inside', named', account', destination'⟩ := consistent.origin other row found snapshot refers
      have same : item' = item := List.inj_on_of_nodup_map consistent.unique inside' inside (named'.trans named.symm)
      rw [same, account] at account'
      rw [same, destination] at destination'
      obtain ⟨member, own⟩ := run_id found
      rw [marks]
      refine List.mem_map.mpr ⟨row, List.mem_filter.mpr ⟨member, ?_⟩, own⟩
      have chosen : snapshot ∈ obsolete := taken
      simp [← account', ← destination', refers, chosen]
    · rw [marks] at member
      obtain ⟨marked, inside, named⟩ := List.mem_map.mp member
      obtain ⟨inside, chosen⟩ := List.mem_filter.mp inside
      rw [run_expire] at found
      obtain ⟨before, found', became⟩ := Option.map_eq_some_iff.mp found
      have same : before = marked := by
        obtain ⟨inside', named'⟩ := run_id found'
        exact List.inj_on_of_nodup_map sound.unique inside' inside (named'.trans named.symm)
      subst same
      rw [if_pos chosen] at became
      rw [← became]
    · obtain ⟨later, found', job, refers⟩ := forth other row found
      exact ⟨later, found', job, .inl refers⟩
    · rw [run_expire] at found
      obtain ⟨row, found', became⟩ := Option.map_eq_some_iff.mp found
      refine ⟨row, found', ?_⟩
      rw [← became]
      split
      · exact ⟨rfl, nofun, .inl rfl⟩
      · exact ⟨rfl, .inl, .inl rfl⟩
    · obtain ⟨later, found, why⟩ := promised
      rw [run_expire] at found
      obtain ⟨row, found', became⟩ := Option.map_eq_some_iff.mp found
      refine ⟨row, found', ?_⟩
      rw [← became] at why
      split at why <;> exact why
  obtain ⟨row, found, _⟩ := relies.known
  refine ⟨consistent.unique, moves, by simp [runTurn, Store.expire, Task.expiring], ?_⟩
  refine moves.still_kept spared (fun row found => ?_) ⟨row, found⟩ own
  obtain ⟨later, found', _, refers⟩ := forth id row found
  exact ⟨later, found', refers⟩

end

section
variable {i id : Nat} {job : Job} {phase : RunPhase} {moment : Moment} {task : Task} {store : Store}

theorem runTurn_passes (sound : Sound store) (consistent : Consistent store) (relies : RunRelies False i id job phase store)
    (needs : Needs i (.run id job phase) store) (fine : (moment.stops || moment.raises) = false)
    (spared : (Task.run id job phase).engaged = some id → id ∉ marking moment (.run id job phase) store) :
    Passes i moment (.run id job phase) store (runTurn moment i id job phase store) := by
  obtain ⟨row, found, _⟩ := relies.known
  have quiet (other : ∀ obsolete, phase ≠ .expire obsolete) : marking moment (.run id job phase) store = [] := by
    unfold marking
    rw [fine]
    cases phase with
    | expire obsolete => exact absurd rfl (other obsolete)
    | _ => rfl
  cases phase with
  | lockAccount => exact passes_lock consistent needs rfl (quiet (by simp)) rfl rfl trivial trivial
  | lockRepository => exact passes_lock consistent needs rfl (quiet (by simp)) rfl rfl trivial trivial
  | check =>
    unfold runTurn
    simp only [found]
    split
    · exact passes_same consistent needs rfl (quiet (by simp)) rfl trivial
    · split
      · exact passes_same consistent needs rfl (quiet (by simp)) rfl trivial
      · exact passes_same consistent needs rfl (quiet (by simp)) rfl trivial
  | cancelEarly =>
    exact passes_update consistent needs rfl (quiet (by simp)) rfl trivial (fun _ => rfl) (fun _ => rfl) (fun _ => nofun)
      (fun _ => rfl) (.inl fun _ pinned => pinned)
  | verify => exact passes_same consistent needs rfl (quiet (by simp)) rfl trivial
  | start =>
    have started : Moves i moment (.run id job .start) store
        (store.update id fun row => { row with status := .running }) :=
      moves_update consistent needs rfl (quiet (by simp)) (fun _ => rfl) (fun _ => rfl) (fun _ => nofun)
        (fun _ _ => .inl rfl) (.inl fun _ pinned => pinned)
    exact ⟨consistent.unique, moves_congr started rfl rfl rfl rfl rfl, needs.taking, trivial⟩
  | prepare => exact passes_same consistent needs rfl (quiet (by simp)) rfl trivial
  | checkPrepared =>
    unfold runTurn
    simp only [found]
    split
    · exact passes_same consistent needs rfl (quiet (by simp)) rfl trivial
    · exact passes_same consistent needs rfl (quiet (by simp)) rfl trivial
  | cancelPrepared =>
    exact passes_update consistent needs rfl (quiet (by simp)) rfl trivial (fun _ => rfl) (fun _ => rfl) (fun _ => nofun)
      (fun _ => rfl) (.inl fun _ pinned => pinned)
  | save => exact save_passes consistent needs
  | checkSaved snapshot =>
    unfold runTurn
    simp only [found]
    split
    · exact passes_same consistent needs rfl (quiet (by simp)) rfl needs.phase
    · exact passes_same consistent needs rfl (quiet (by simp)) rfl needs.phase
  | cancelSaved snapshot =>
    exact refer_passes consistent relies needs rfl rfl rfl (quiet (by simp)) needs.phase.1 needs.phase.2 (fun _ => rfl)
      (fun _ => rfl) (fun _ => nofun) (fun _ => rfl) (fun _ => rfl) rfl trivial
  | record snapshot =>
    obtain ⟨listed, there⟩ := needs.phase
    have same (row : SnapshotRun) : ({ row with snapshotId := some snapshot } : SnapshotRun).id = row.id := rfl
    refine refer_passes consistent relies needs rfl rfl rfl (quiet (by simp)) listed there same (fun _ => rfl)
      (fun _ done => done) (fun _ => rfl) (fun _ => rfl) rfl fun later found' => ?_
    rw [run_update same, if_pos rfl, found] at found'
    cases found'
    exact ⟨snapshot, rfl, .inl there⟩
  | list => exact list_passes consistent needs
  | protect items => exact protect_passes consistent needs
  | forget obsolete => exact forget_passes consistent relies needs
  | expire obsolete =>
    refine expire_passes sound consistent relies needs ?_ (spared rfl)
    simp [marking, fine]
  | safety =>
    have moves : Moves i moment (.run id job .safety) store (store.release i) :=
      moves_release consistent needs rfl (quiet (by simp))
    refine passes_release consistent needs rfl (quiet (by simp)) rfl ?_
    exact moves.still_kept (spared rfl) (fun row found => ⟨row, found, rfl⟩) ⟨row, found⟩ needs.phase
  | leave => exact passes_release consistent needs rfl (quiet (by simp)) rfl trivial
  | complete =>
    exact passes_update consistent needs rfl (quiet (by simp)) rfl trivial (fun _ => rfl) (fun _ => rfl)
      (fun _ _ => .inr ⟨job, rfl⟩) (fun _ => rfl) (.inl fun _ pinned => pinned)
  | fail =>
    exact passes_update consistent needs rfl (quiet (by simp)) rfl trivial (fun _ => rfl) (fun _ => rfl) (fun _ => nofun)
      (fun _ => rfl) (.inl fun _ pinned => pinned)

theorem moves_queued {left : Store} (consistent : Consistent store) (needs : Needs i task store) (idle : task.expiring = [])
    (marks : marking moment task store = []) (queued : Queued store left) : Moves i moment task store left := by
  have unknown (other : Nat) (later : SnapshotRun) (found : left.run other = some later) (absent : store.run other = none) :
      later.status = .pending ∧ later.snapshotId = none ∧ later.pinned = false := by
    obtain ⟨inside, named⟩ := run_id found
    rcases queued.added later inside with earlier | added
    · exact absurd named (Rows.byKey_none.mp absent later earlier)
    · exact added
  refine ⟨fun item inside => ?_, fun j _ => by rw [queued.taking], fun snapshot taken => .inl ?_, fun snapshot taken => ?_,
    fun other member => ?_, fun other row found => ⟨row, queued.rows other row found, rfl, .inl rfl⟩,
    fun other later found => ?_, fun other promised => .inl ?_, fun download member => ?_⟩
  · rwa [queued.saved]
  · rwa [queued.forgotten] at taken
  · rw [needs.taking, idle] at taken
    cases taken
  · rw [marks] at member
    cases member
  · cases before : store.run other with
    | none =>
      obtain ⟨pending, none, _⟩ := unknown other later found before
      exact .inr ⟨by rw [pending]; nofun, none⟩
    | some row =>
      rw [queued.rows other row before] at found
      cases found
      exact .inl ⟨_, rfl, rfl, .inl, .inl rfl⟩
  · obtain ⟨later, found, why⟩ := promised
    rw [queued.downloads] at why
    cases before : store.run other with
    | none =>
      obtain ⟨_, _, unpinned⟩ := unknown other later found before
      rcases why with pinned | ⟨download, member, reads, _⟩
      · rw [unpinned] at pinned
        cases pinned
      · obtain ⟨row, known, _⟩ := consistent.downloads download member
        rw [reads, before] at known
        cases known
    | some row =>
      rw [queued.rows other row before] at found
      cases found
      exact ⟨_, before, why⟩
  · rw [queued.downloads] at member
    exact consistent.downloads download member

theorem passes_queued {left : Store} (consistent : Consistent store) (needs : Needs i .idle store)
    (queued : Queued store left) : Passes i moment .idle store (.idle, left) := by
  refine ⟨?_, moves_queued consistent needs rfl (by simp [marking]) queued, ?_, trivial⟩
  · rw [queued.saved]
    exact consistent.unique
  · rw [queued.taking]
    exact needs.taking

theorem cleaned_before (now : Nat) (missing : Nat → Bool) (download : SnapshotDownload)
    (member : download ∈ (store.cleanupDownloads now missing).downloads) : ∃ before ∈ store.downloads,
      before.runId = download.runId ∧ before.accountId = download.accountId ∧
        (download.status.isActive = true → before.status.isActive = true) := by
  obtain ⟨before, inside, became⟩ := List.mem_map.mp member
  refine ⟨before, inside, ?_⟩
  rw [← became]
  unfold SnapshotDownload.cleaned
  split
  · split
    · exact ⟨rfl, rfl, fun never => by cases never⟩
    · split
      · exact ⟨rfl, rfl, fun active => active⟩
      · split
        · exact ⟨rfl, rfl, fun active => active⟩
        · exact ⟨rfl, rfl, fun never => by cases never⟩
  · exact ⟨rfl, rfl, fun active => active⟩

section
variable (consistent : Consistent store)
include consistent

theorem call_passes (needs : Needs i .idle store) : Passes i moment .idle store (callTurn moment store) := by
  have marks : marking moment .idle store = [] := by simp [marking]
  unfold callTurn
  cases call : moment.call with
  | queuePolicy policyId options destinationIds accountIds busy =>
    exact passes_queued consistent needs (queuePolicy_keeps (fun _ job queued => queued.queueRun job) policyId options
      destinationIds busy accountIds store (Queued.refl store))
  | executeRun id =>
    dsimp only
    split
    · exact passes_same consistent needs rfl marks rfl trivial
    · exact passes_same consistent needs rfl marks rfl trivial
  | cancelRun id =>
    dsimp only
    unfold Store.cancelRun
    split
    · exact passes_same consistent needs rfl marks rfl trivial
    · split
      · have cancelled : Moves i moment .idle store
            (store.update id fun row => { row with status := .cancelled, cancelRequested := true }) :=
          moves_update consistent needs rfl marks (fun _ => rfl) (fun _ => rfl) (fun _ completed => by cases completed)
            (fun _ _ => .inl rfl) (.inl fun _ pinned => pinned)
        exact ⟨consistent.unique, moves_congr cancelled rfl rfl rfl rfl rfl, needs.taking, trivial⟩
      · exact passes_update consistent needs rfl marks rfl trivial (fun _ => rfl) (fun _ => rfl) (fun _ => .inl)
          (fun _ => rfl) (.inl fun _ pinned => pinned)
      · exact passes_same consistent needs rfl marks rfl trivial
  | retryRun id =>
    dsimp only
    unfold Store.retryRun
    split
    · exact passes_same consistent needs rfl marks rfl trivial
    · split
      · exact passes_queued consistent needs ((Queued.refl store).queueRun _)
      · exact passes_same consistent needs rfl marks rfl trivial
  | setRunPin id pinned =>
    dsimp only
    split
    · exact passes_same consistent needs rfl marks rfl trivial
    · split
      · exact passes_same consistent needs rfl marks rfl trivial
      · exact passes_same consistent needs rfl marks rfl trivial
  | queueDownload accountId runId => exact passes_same consistent needs rfl marks rfl trivial
  | executeDownload id =>
    dsimp only
    split
    · exact passes_same consistent needs rfl marks rfl trivial
    · exact passes_same consistent needs rfl marks rfl trivial
  | cleanupDownloads =>
    exact passes_apart consistent needs rfl marks rfl trivial rfl rfl rfl rfl (cleaned_before moment.now moment.missing)
  | recoverRuns => exact passes_same consistent needs rfl marks rfl trivial

theorem reserve_passes {accountId runId estimate : Nat} (quotaHardMb : Nat → Nat)
    (needs : Needs i (.queue accountId runId (.reserve estimate)) store) (fine : (moment.stops || moment.raises) = false) :
    Passes i moment (.queue accountId runId (.reserve estimate)) store
      (queueTurn quotaHardMb moment accountId runId (.reserve estimate) store) := by
  have marks : marking moment (.queue accountId runId (.reserve estimate)) store = [] := by simp [marking]
  obtain ⟨row, found, account⟩ := needs.phase
  unfold queueTurn Store.reserve
  dsimp only
  split_ifs
  · exact passes_same consistent needs rfl marks rfl trivial
  · exact passes_same consistent needs rfl marks rfl trivial
  · exact passes_same consistent needs rfl marks rfl trivial
  · exact passes_same consistent needs rfl marks rfl trivial
  · refine ⟨consistent.unique, ⟨fun _ inside => inside, fun _ _ => rfl, fun _ => .inl, fun snapshot taken => ?_,
      fun other member => ?_, fun other row found => ⟨row, found, rfl, .inl rfl⟩,
      fun other later found => .inl ⟨later, found, rfl, .inl, .inl rfl⟩, fun other promised => ?_,
      fun download member => ?_⟩, needs.taking, trivial⟩
    · rw [needs.taking] at taken
      cases taken
    · rw [marks] at member
      cases member
    · obtain ⟨own, known, why⟩ := promised
      rcases why with pinned | ⟨download, member, reads, active⟩
      · exact .inl ⟨own, known, .inl pinned⟩
      · rcases List.mem_append.mp member with earlier | newest
        · exact .inl ⟨own, known, .inr ⟨download, earlier, reads, active⟩⟩
        · rw [List.mem_singleton.mp newest] at reads
          refine .inr ?_
          simp [promising, fine, ← reads]
    · rcases List.mem_append.mp member with earlier | newest
      · exact consistent.downloads download earlier
      · rw [List.mem_singleton.mp newest]
        exact ⟨row, found, account⟩

theorem queue_passes {accountId runId : Nat} {phase : QueuePhase} (quotaHardMb : Nat → Nat)
    (needs : Needs i (.queue accountId runId phase) store) (fine : (moment.stops || moment.raises) = false) :
    Passes i moment (.queue accountId runId phase) store (queueTurn quotaHardMb moment accountId runId phase store) := by
  have marks : marking moment (.queue accountId runId phase) store = [] := by simp [marking]
  cases phase with
  | cleanup =>
    exact passes_apart consistent needs rfl marks rfl trivial rfl rfl rfl rfl (cleaned_before moment.now moment.missing)
  | read =>
    unfold queueTurn
    dsimp only
    split
    · exact passes_same consistent needs rfl marks rfl trivial
    · next row found =>
      split
      · next ready => exact passes_same consistent needs rfl marks rfl ⟨row, found, ready.1⟩
      · exact passes_same consistent needs rfl marks rfl trivial
  | measure => exact passes_same consistent needs rfl marks rfl needs.phase
  | reserve estimate => exact reserve_passes consistent quotaHardMb needs fine

theorem passes_download (needs : Needs i task store) (idle : task.expiring = [])
    (marks : marking moment task store = []) (quiet : next.expiring = []) {f : SnapshotDownload → SnapshotDownload}
    (goes : TaskNeeds next (store.updateDownload id f)) (runs : ∀ row, (f row).runId = row.runId)
    (accounts : ∀ row, (f row).accountId = row.accountId) (rests : ∀ row, (f row).status.isActive = false) :
    Passes i moment task store (next, store.updateDownload id f) := by
  refine passes_apart consistent needs idle marks quiet goes rfl rfl rfl rfl fun download member => ?_
  obtain ⟨before, inside, became⟩ := List.mem_map.mp member
  refine ⟨before, inside, ?_⟩
  rw [← became]
  split
  · refine ⟨(runs before).symm, (accounts before).symm, fun active => ?_⟩
    rw [rests before] at active
    cases active
  · exact ⟨rfl, rfl, fun active => active⟩

theorem start_passes {runId accountId : Nat} (quotaHardMb : Nat → Nat)
    (needs : Needs i (.download id runId accountId .start) store) (fine : (moment.stops || moment.raises) = false) :
    Passes i moment (.download id runId accountId .start) store
      (downloadTurn quotaHardMb moment i id runId accountId .start store) := by
  have marks : marking moment (.download id runId accountId .start) store = [] := by simp [marking]
  refine ⟨consistent.unique, ⟨fun _ inside => inside, fun _ _ => rfl, fun _ => .inl, fun snapshot taken => ?_,
    fun other member => ?_, fun other row found => ⟨row, found, rfl, .inl rfl⟩,
    fun other later found => .inl ⟨later, found, rfl, .inl, .inl rfl⟩, fun other promised => ?_,
    fun download member => ?_⟩, needs.taking, trivial⟩
  · rw [needs.taking] at taken
    cases taken
  · rw [marks] at member
    cases member
  · obtain ⟨own, known, why⟩ := promised
    rcases why with pinned | ⟨download, member, reads, active⟩
    · exact .inl ⟨own, known, .inl pinned⟩
    · obtain ⟨before, inside, became⟩ := List.mem_map.mp member
      split at became
      · next named =>
        refine .inr ?_
        have same : before.runId = other := by
          rw [← became] at reads
          exact reads
        simp only [promising, fine, Bool.false_eq_true, if_false]
        exact List.mem_map.mpr ⟨before, List.mem_filter.mpr ⟨inside, by simpa using named⟩, same⟩
      · subst became
        exact .inl ⟨own, known, .inr ⟨before, inside, reads, active⟩⟩
  · obtain ⟨before, inside, became⟩ := List.mem_map.mp member
    rw [← became]
    split
    · exact consistent.downloads before inside
    · exact consistent.downloads before inside

theorem download_passes {runId accountId : Nat} {phase : DownloadPhase}
    (quotaHardMb : Nat → Nat) (needs : Needs i (.download id runId accountId phase) store)
    (fine : (moment.stops || moment.raises) = false) :
    Passes i moment (.download id runId accountId phase) store
      (downloadTurn quotaHardMb moment i id runId accountId phase store) := by
  have marks : marking moment (.download id runId accountId phase) store = [] := by simp [marking]
  cases phase with
  | lockDownload => exact passes_lock consistent needs rfl marks rfl rfl trivial trivial
  | lockStaging => exact passes_lock consistent needs rfl marks rfl rfl trivial trivial
  | lockRepository =>
    unfold downloadTurn
    dsimp only
    split
    · exact passes_release consistent needs rfl marks rfl trivial
    · exact passes_lock consistent needs rfl marks rfl rfl trivial trivial
  | check =>
    unfold downloadTurn
    dsimp only
    split
    · exact passes_release consistent needs rfl marks rfl trivial
    · split
      · exact passes_same consistent needs rfl marks rfl trivial
      · exact passes_same consistent needs rfl marks rfl trivial
  | checkRun =>
    unfold downloadTurn
    dsimp only
    split
    · split
      · exact passes_same consistent needs rfl marks rfl trivial
      · exact passes_release consistent needs rfl marks rfl trivial
    · exact passes_release consistent needs rfl marks rfl trivial
  | start => exact start_passes consistent quotaHardMb needs fine
  | build => exact passes_same consistent needs rfl marks rfl trivial
  | reserve size =>
    unfold downloadTurn
    dsimp only
    split
    · exact passes_release consistent needs rfl marks rfl trivial
    · exact passes_same consistent needs rfl marks rfl trivial
  | publish size =>
    exact passes_download consistent needs rfl marks rfl trivial (fun _ => rfl) (fun _ => rfl) fun _ => rfl
  | notify => exact passes_same consistent needs rfl marks rfl trivial
  | leave => exact passes_release consistent needs rfl marks rfl trivial
  | fail => exact passes_download consistent needs rfl marks rfl trivial (fun _ => rfl) (fun _ => rfl) fun _ => rfl

theorem recover_passes {phase : RecoverPhase} (needs : Needs i (.recover phase) store) :
    Passes i moment (.recover phase) store (recoverTurn moment i phase store) := by
  have marks : marking moment (.recover phase) store = [] := by simp [marking]
  cases phase with
  | runs rows =>
    cases rows with
    | nil => exact passes_same consistent needs rfl marks rfl trivial
    | cons row rest =>
      unfold recoverTurn
      dsimp only
      split
      · exact passes_same consistent needs rfl marks rfl trivial
      · split
        · exact passes_apart consistent needs rfl marks rfl trivial rfl rfl rfl rfl fun download inside =>
            ⟨download, inside, rfl, rfl, fun active => active⟩
        · exact passes_same consistent needs rfl marks rfl trivial
  | check row rest =>
    unfold recoverTurn
    dsimp only
    split
    · exact passes_release consistent needs rfl marks rfl trivial
    · split
      · exact passes_same consistent needs rfl marks rfl trivial
      · exact passes_same consistent needs rfl marks rfl trivial
  | interrupt row rest =>
    exact passes_update consistent needs rfl marks rfl trivial (fun _ => rfl) (fun _ => rfl) (fun _ => nofun)
      (fun _ => rfl) (.inl fun _ pinned => pinned)
  | leave rest => exact passes_release consistent needs rfl marks rfl trivial
  | readDownloads => exact passes_same consistent needs rfl marks rfl trivial
  | downloads items =>
    cases items with
    | nil => exact passes_same consistent needs rfl marks rfl trivial
    | cons item rest =>
      unfold recoverTurn
      dsimp only
      split
      · exact passes_same consistent needs rfl marks rfl trivial
      · exact passes_download consistent needs rfl marks rfl trivial (fun _ => rfl) (fun _ => rfl) fun _ => rfl
  | cleanup =>
    exact passes_apart consistent needs rfl marks rfl trivial rfl rfl rfl rfl (cleaned_before moment.now moment.missing)

end

theorem raised_quiet (task : Task) : task.raised.expiring = [] ∧ ∀ store, TaskNeeds task.raised store := by
  cases task with
  | run id job phase => cases phase <;> exact ⟨rfl, fun _ => trivial⟩
  | download id runId accountId phase => cases phase <;> exact ⟨rfl, fun _ => trivial⟩
  | _ => exact ⟨rfl, fun _ => trivial⟩

theorem advance_passes (quotaHardMb : Nat → Nat) (sound : Sound store) (consistent : Consistent store)
    (relies : Relies False i task store) (needs : Needs i task store)
    (lives : task.expiring ≠ [] → moment.stops = false ∧ moment.raises = false)
    (spared : ∀ id ∈ marking moment task store, task.engaged ≠ some id) :
    Passes i moment task store (advance quotaHardMb i moment task store) := by
  have ended (stopped : (moment.stops || moment.raises) = true) : task.expiring = [] ∧ marking moment task store = [] := by
    refine ⟨?_, by simp [marking, stopped]⟩
    by_contra taking
    obtain ⟨running, fine⟩ := lives taking
    rw [running, fine] at stopped
    cases stopped
  unfold advance
  split
  · next stops =>
    obtain ⟨idle, marks⟩ := ended (by simp [stops])
    exact passes_release consistent needs idle marks rfl trivial
  · next running =>
    split
    · next raises =>
      obtain ⟨idle, marks⟩ := ended (by simp [raises])
      obtain ⟨quiet, goes⟩ := raised_quiet task
      exact passes_release consistent needs idle marks quiet (goes _)
    · next fine =>
      have goes : (moment.stops || moment.raises) = false := by simp [running, fine]
      cases task with
      | idle => exact call_passes consistent needs
      | run id job phase =>
        exact runTurn_passes sound consistent relies needs goes fun engaged member => spared id member engaged
      | pin id pinned =>
        refine passes_update consistent needs rfl (by simp [marking]) rfl trivial (fun _ => rfl) (fun _ => rfl)
          (fun _ => .inl) (fun _ => rfl) ?_
        cases pinned with
        | false => exact .inl fun _ never => by cases never
        | true => exact .inr (by simp [promising, goes])
      | queue accountId runId phase => exact queue_passes consistent quotaHardMb needs goes
      | download id runId accountId phase => exact download_passes consistent quotaHardMb needs goes
      | recover phase => exact recover_passes consistent needs

end

end Boron.SnapshotJobs
