import Boron.Accounts.Enforcement

namespace Boron.Accounts.Quotas
open List Rows

section Management
variable {panel : Panel} {i : Nat} {action : Action} {username : String} {id : Nat} {moment : Moment} {left : Store} {task : Task}
  {phase : ManagePhase}

theorem manage_quiet (action : Action) (username : String) (id : Nat) (before : phase ≠ .commit) :
    Quiet (.manage action username id phase) := by
  refine ⟨rfl, rfl, rfl, ?_⟩
  cases action <;> cases phase <;> first | rfl | exact absurd rfl before

section
variable (steady : Steady panel)
include steady

theorem after_gone (stands : panel.task i = .manage action username id phase)
    (dead : isDead phase = true) (before : phase ≠ .commit) (frame : Frame i (· = username) panel.store left)
    (accounts : left.accounts = panel.store.accounts) (own : Relies i task left)
    (apart : ∀ j, j ≠ i → Apart task (panel.task j) ∧ Apart (panel.task j) task) (writes : writing task = none) :
    After panel i (task, left) := by
  have relies := steady.relies i
  rw [stands] at relies
  obtain ⟨⟨row, found, named, gone, _⟩, locked⟩ := relies
  have held : panel.store.locks (.account id) = some i := locked (by rintro rfl; cases dead)
  refine after_dead steady frame accounts (.inl ⟨row, found⟩) (fun row' found' => ?_) (fun j other renews => ?_) ?_ own apart writes
  · have same : some row' = some row := found'.symm.trans found
    cases same
    exact gone dead
  · obtain ⟨row', found', _, theirs⟩ := renewing_found (steady.relies j) renews
    have same : some row' = some row := found'.symm.trans found
    cases same
    rw [named, held] at theirs
    exact other (Option.some.inj theirs).symm
  · rw [stands]
    exact manage_quiet action username id before

theorem begin_after (stands : panel.task i = .manage action username id .begin) :
    After panel i (beginTurn i action username id panel.store) := by
  have relies := steady.relies i
  rw [stands] at relies
  obtain ⟨⟨row, found, named, _⟩, locked⟩ := relies
  have held : panel.store.locks (.account id) = some i := locked (by simp)
  have was : Quiet (panel.task i) := by
    rw [stands]
    exact manage_quiet action username id (by simp)
  have leaves : After panel i (leave i panel.store) := after_leave steady was.writes was.records
  have calm : Quiet .idle := ⟨rfl, rfl, rfl, rfl⟩
  have changed (status : Status) (before : row.status.isLive = true) :
      After panel i (leave i (panel.store.update username fun row => { row with status })) := by
    refine after_status steady was (f := fun row => { row with status }) ⟨fun _ => rfl, fun _ => rfl⟩ found rfl rfl
      (fun _ => before) (fun dead => ?_) rfl rfl (fun _ _ other held => release_locks other held) trivial calm
    rw [before] at dead
    cases dead
  unfold beginTurn
  rw [found]
  cases action with
  | suspend =>
    dsimp only
    split
    · next active => exact changed .suspended (by rw [active]; rfl)
    · exact leaves
  | unsuspend =>
    dsimp only
    split
    · next suspended => exact changed .active (by rw [suspended]; rfl)
    · exact leaves
  | terminate =>
    dsimp only
    split
    · exact leaves
    · have now : (panel.store.update username fun row => { row with status := .terminating }).account username
          = some { row with status := .terminating } :=
        account_changed (f := fun row => { row with status := .terminating }) (fun _ => rfl) rfl found
      exact after_status steady was (f := fun row => { row with status := .terminating }) ⟨fun _ => rfl, fun _ => rfl⟩ found rfl
        rfl nofun (fun _ => rfl) rfl rfl (fun _ _ _ held => held) ⟨⟨_, now, named, fun _ => rfl, nofun⟩, fun _ => held⟩
        (manage_quiet _ username id (by simp))
  | reactivate softMb hardMb =>
    dsimp only
    split
    · next fine =>
      have dead : row.status.isLive = false := by
        rcases fine.1 with ended | failed
        · rw [ended]
          rfl
        · rw [failed]
          rfl
      refine after_on steady ⟨⟨row, found, named, fun _ => dead, nofun⟩, fun _ => held⟩
        was.writes.symm was.records.symm nofun nofun
    · exact leaves

theorem finish_after {errors : Bool} (stands : panel.task i = .manage action username id (.finish errors)) :
    After panel i (leave i (panel.store.finish username errors)) := by
  have relies := steady.relies i
  rw [stands] at relies
  obtain ⟨⟨row, found, named, dead, _⟩, locked⟩ := relies
  have was : Quiet (panel.task i) := by
    rw [stands]
    exact manage_quiet action username id (by simp)
  have ended : ({ row with status := if errors then .error_ else .terminated } : Account).status.isLive = false := by
    cases errors <;> rfl
  have calm : Quiet .idle := ⟨rfl, rfl, rfl, rfl⟩
  refine after_status steady was (f := fun row => { row with status := if errors then .error_ else .terminated })
    ⟨fun _ => rfl, fun _ => rfl⟩ found rfl rfl (fun live => ?_) (fun _ => ended) rfl rfl
    (fun _ _ other held => release_locks other held) trivial calm
  rw [ended] at live
  cases live

theorem reactivated_after {softMb hardMb : Nat} {renewed : Store}
    (stands : panel.task i = .manage (.reactivate softMb hardMb) username id .commit)
    (done : panel.store.reactivate username softMb hardMb = some renewed) : After panel i (leave i renewed) := by
  have relies := steady.relies i
  rw [stands] at relies
  obtain ⟨⟨row, found, named, dead, commits⟩, locked⟩ := relies
  obtain ⟨quiet, sent⟩ := commits softMb hardMb rfl rfl
  have held : panel.store.locks (.account row.id) = some i := by
    rw [named]
    exact locked (by simp)
  have mine : renewing (panel.task i) = some username := by
    rw [stands]
    rfl
  unfold Store.reactivate at done
  rw [found] at done
  dsimp only at done
  split at done
  · cases done
  · next panelUsers _ =>
    cases done
    let f (row : Account) : Account := { row with status := .active, quotaSoftMb := softMb, quotaHardMb := hardMb }
    have keeps : KeepsKeys f := ⟨fun _ => rfl, fun _ => rfl⟩
    have found' : ({ panel.store.update username f with panelUsers } : Store).account username = some (f row) :=
      account_changed keeps.username rfl found
    have frame : Frame i (· = username) panel.store (({ panel.store.update username f with panelUsers } : Store).release i) :=
      frame_update keeps.username rfl rfl fun _ _ other held => release_locks other held
    have elsewhere : Elsewhere panel i username (leave i { panel.store.update username f with panelUsers }) := by
      refine ⟨frame, ?_, nofun⟩
      rw [stands]
      exact ⟨nofun, nofun⟩
    have calm : Quiet .idle := ⟨rfl, rfl, rfl, rfl⟩
    refine ⟨unique_change keeps.id steady.ids, unique_change keeps.username steady.names, trivial, fun j other => ?_,
      fun j _ => calm.apart _, elsewhere.present steady fun row' known lives => ⟨_, sent⟩,
      elsewhere.agrees steady fun row' limits known _ now _ _ => .inl ?_⟩
    · have apart := (steady.apart i j (Ne.symm other)).2 username mine
      refine row_others (steady.relies j) other frame rfl found found' rfl (fun writes => absurd writes apart.2) (.inr held)
        (fun _ => rfl) fun inside => absurd inside apart.1
    · have same : some row' = some (f row) := known.symm.trans found'
      cases same
      have now' : some limits = some (blocks softMb hardMb 0 0) := now.symm.trans sent
      cases now'
      have still : isEnforced (f row) = false := quiet
      rw [still]
      rfl

theorem manage_after (stands : panel.task i = .manage action username id phase)
    (free : ∀ softMb hardMb, action = .reactivate softMb hardMb → phase = .setQuota →
      (∀ j, username ∉ enforcing (panel.task j) ∧ writing (panel.task j) ≠ some username) ∧
        ∀ row, panel.store.account username = some row → isEnforced row = false) :
    After panel i (manageTurn moment i action username id phase panel.store) := by
  have relies := steady.relies i
  rw [stands] at relies
  obtain ⟨⟨row, found, named, dead, commits⟩, locked⟩ := relies
  have writes : writing (panel.task i) = none := by
    rw [stands]
    rfl
  have records : recording (panel.task i) = none := by
    rw [stands]
    rfl
  have leaves : After panel i (leave i panel.store) := after_leave steady writes records
  have on (phase' : ManagePhase) (past : phase ≠ .lock) (still : isDead phase' = true → isDead phase = true) (before : phase' ≠ .commit) :
      After panel i (.manage action username id phase', panel.store) := by
    have calm := manage_quiet action username id before
    refine after_on steady ⟨⟨row, found, named, fun gone => dead (still gone), fun _ _ _ commits => absurd commits before⟩,
      fun _ => locked past⟩ writes.symm records.symm (fun _ member => by cases member) fun name renews => ?_
    rw [calm.renews] at renews
    cases renews
  have relies_on (left : Store) (phase' : ManagePhase) (past : phase ≠ .lock) (still : isDead phase' = true → isDead phase = true)
      (before : phase' ≠ .commit) (accounts : left.accounts = panel.store.accounts) (locks : left.locks = panel.store.locks) :
      Relies i (.manage action username id phase') left := by
    refine ⟨⟨row, ?_, named, fun gone => dead (still gone), fun _ _ _ commits => absurd commits before⟩, fun _ => ?_⟩
    · unfold Store.account
      rw [accounts]
      exact found
    · rw [locks]
      exact locked past
  cases phase with
  | lock =>
    have first : isDead action.first = false ∧ action.first ≠ .commit := by cases action <;> exact ⟨rfl, by simp [Action.first]⟩
    have calm := manage_quiet action username id first.2
    refine after_tryLock steady ⟨⟨row, found, named, fun gone => ?_, fun _ _ _ commits => absurd commits first.2⟩,
      fun _ => by simp [Store.acquire]⟩ ⟨writes, records⟩ ⟨calm.writes, calm.records, calm.enforces, calm.renews⟩
    rw [first.1] at gone
    cases gone
  | recheck =>
    unfold manageTurn
    dsimp only
    split
    · exact leaves
    · split
      · exact on .begin (by simp) (fun same => by cases same) (by simp)
      · exact leaves
  | begin => exact begin_after steady stands
  | hooks => exact on .removeQuota (by simp) (fun _ => rfl) (by simp)
  | removeQuota =>
    have removed : panel.store.removeQuota username = panel.store ∨
        panel.store.removeQuota username = panel.store.setKernel username (some (blocks 0 0 0 0)) := by
      unfold Store.removeQuota
      cases set : panel.store.setQuota username 0 0 0 0 with
      | none => exact .inl rfl
      | some left => exact .inr (setQuota_cases set)
    unfold manageTurn
    rcases removed with same | set
    · rw [same]
      exact on .userdel (by simp) (fun _ => rfl) (by simp)
    · rw [set]
      exact after_gone steady stands rfl (by simp) (frame_setKernel _) rfl (relies_on _ .userdel (by simp) (fun _ => rfl) (by simp) rfl rfl)
        (fun j _ => (manage_quiet action username id (by simp)).apart _) rfl
  | userdel =>
    exact after_gone steady stands rfl (by simp) (frame_setKernel _) rfl
      (relies_on _ (.finish false) (by simp) (fun _ => rfl) (by simp) rfl rfl)
      (fun j _ => (manage_quiet action username id (by simp)).apart _) rfl
  | finish errors => exact finish_after steady stands
  | useradd =>
    unfold manageTurn
    dsimp only
    split
    · exact leaves
    · exact after_gone steady stands rfl (by simp) (frame_setKernel _) rfl
        (relies_on _ .prepareHome (by simp) (fun _ => rfl) (by simp) rfl rfl)
        (fun j _ => (manage_quiet action username id (by simp)).apart _) rfl
  | prepareHome => exact on .setQuota (by simp) (fun _ => rfl) (by simp)
  | setQuota =>
    unfold manageTurn
    cases action with
    | reactivate softMb hardMb =>
      obtain ⟨nobody, quiet⟩ := free softMb hardMb rfl rfl
      dsimp only
      split
      · exact on .rollback (by simp) (fun _ => rfl) (by simp)
      · next set applied =>
        cases setQuota_cases applied
        refine after_gone steady stands rfl (by simp) (frame_setKernel _) rfl
          ⟨⟨row, found, named, fun _ => dead rfl, fun softMb' hardMb' acts _ => ⟨quiet row found, ?_⟩⟩, fun _ => locked (by simp)⟩
          (fun j _ => ⟨⟨(fun _ member => by cases member), fun name renews => ?_⟩, (fun _ _ inside => by cases inside),
            fun name _ => ⟨(fun same => by cases same), (fun same => by cases same)⟩⟩) rfl
        · cases acts
          exact kernel_setKernel _
        · cases renews
          exact nobody j
    | _ => exact leaves
  | commit =>
    unfold manageTurn
    cases action with
    | reactivate softMb hardMb =>
      dsimp only
      cases done : panel.store.reactivate username softMb hardMb with
      | none => exact leaves
      | some renewed => exact reactivated_after steady stands done
    | _ => exact leaves
  | rollback =>
    have calm : Quiet .idle := ⟨rfl, rfl, rfl, rfl⟩
    exact after_gone steady stands rfl (by simp) (frame_setKernel _).release rfl trivial (fun j _ => calm.apart _) rfl

end

end Management

section Reconciliation
variable {panel : Panel} {i : Nat} {candidate : Candidate} {rest : List Candidate} {moment : Moment}

theorem enforce_tail {phase : EnforcePhase} {store : Store} (relies : Relies i (.enforce phase (candidate :: rest)) store) :
    Relies i (.enforce .setQuota rest) store :=
  ⟨fun other member => relies.1 other (mem_cons_of_mem candidate member), nofun⟩

theorem enforce_apart (steady : Steady panel) {task : Task} (writes : writing task = none) (renews : renewing task = none)
    (enforces : ∀ username ∈ enforcing task, username ∈ enforcing (panel.task i)) (j : Nat) (other : j ≠ i) :
    Apart task (panel.task j) ∧ Apart (panel.task j) task := by
  obtain ⟨written, renewed⟩ := steady.apart j i other
  refine ⟨⟨fun username never => ?_, fun username never => ?_⟩, fun username writes' inside => ?_, fun username renews' => ⟨fun inside => ?_, ?_⟩⟩
  · rw [writes] at never
    cases never
  · rw [renews] at never
    cases never
  · exact written username writes' (enforces username inside)
  · exact (renewed username renews').1 (enforces username inside)
  · rw [writes]
    exact nofun

theorem limited_after {set : Store} (steady : Steady panel) (stands : panel.task i = .enforce .setQuota (candidate :: rest))
    (done : panel.store.setQuota candidate.username candidate.quotaSoftMb candidate.quotaHardMb candidate.inodeSoftLimit
      candidate.inodeHardLimit = some set) : After panel i (.enforce .record (candidate :: rest), set) := by
  have relies := steady.relies i
  rw [stands] at relies
  obtain ⟨known, _⟩ := relies
  obtain ⟨row, found, equal, limited⟩ := known candidate mem_cons_self
  have mine : candidate.username ∈ enforcing (panel.task i) := by
    rw [stands]
    exact mem_cons_self
  cases setQuota_cases done
  have frame : Frame i (· = candidate.username) panel.store
      (panel.store.setKernel candidate.username (some (Candidate.limits candidate))) := frame_setKernel _
  have elsewhere : Elsewhere panel i candidate.username (.enforce .record (candidate :: rest),
      panel.store.setKernel candidate.username (some (Candidate.limits candidate))) := by
    refine ⟨frame, ?_, nofun⟩
    rw [stands]
    exact ⟨nofun, nofun⟩
  refine ⟨steady.ids, steady.names, ⟨known, fun other more _ split row' found' _ => ?_⟩, fun j other => ?_,
    enforce_apart steady rfl rfl fun username inside => ?_, elsewhere.present steady fun _ _ _ => ⟨_, kernel_setKernel _⟩,
    elsewhere.agrees steady fun row' limits found' _ now _ _ => .inr ⟨.inl rfl, ?_⟩⟩
  · cases split
    exact kernel_setKernel _
  · refine kernel_others (steady.relies j) other frame rfl (.inl ⟨row, found⟩) (fun renews => ?_) fun _ row' found' _ => ?_
    · exact ((steady.apart j i other).2 _ renews).1 mine
    · have same : some row' = some row := found'.symm.trans found
      cases same
      rw [kernel_setKernel, equal]
      rfl
  · rw [stands]
    exact inside
  · have same : some row' = some row := found'.symm.trans found
    cases same
    rw [kernel_setKernel] at now
    cases now
    rw [← equal]
    rfl

theorem recorded_values (candidate : Candidate) (row : Account) : (row.recorded candidate).candidate = row.candidate ∧
    (row.recorded candidate).status = row.status := by
  unfold Account.recorded
  split <;> exact ⟨rfl, rfl⟩

theorem recorded_after (steady : Steady panel) (stands : panel.task i = .enforce .record (candidate :: rest)) :
    After panel i (.enforce .setQuota rest, panel.store.recordEnforced candidate) := by
  have relies := steady.relies i
  rw [stands] at relies
  obtain ⟨known, set⟩ := relies
  obtain ⟨row, found, equal, limited⟩ := known candidate mem_cons_self
  obtain ⟨member, named⟩ := byKey_some found
  have sameId : row.id = candidate.id := congrArg Candidate.id equal
  have sameSoft : row.inodeSoftLimit = candidate.inodeSoftLimit := congrArg Candidate.inodeSoftLimit equal
  have sameHard : row.inodeHardLimit = candidate.inodeHardLimit := congrArg Candidate.inodeHardLimit equal
  have mine : candidate.username ∈ enforcing (panel.task i) := by
    rw [stands]
    exact mem_cons_self
  obtain ⟨keepsId, keepsName, keepsStatus, _⟩ := recorded_keeps candidate
  have keeps : KeepsKeys fun other : Account => if other.id = candidate.id then other.recorded candidate else other := by
    constructor
    · intro other
      split
      · exact keepsId other
      · rfl
    · intro other
      split
      · exact keepsName other
      · rfl
  have lookup (username : String) : (panel.store.recordEnforced candidate).account username = (panel.store.account username).map
      fun other => if other.id = candidate.id then other.recorded candidate else other :=
    byKey_map keeps.username panel.store.accounts username
  have found' : (panel.store.recordEnforced candidate).account candidate.username = some (row.recorded candidate) := by
    rw [lookup, found, Option.map_some, if_pos sameId]
  have frame : Frame i (· = candidate.username) panel.store (panel.store.recordEnforced candidate) := by
    refine ⟨fun _ _ _ held => held, fun username different => ?_, fun _ _ => rfl⟩
    rw [lookup]
    cases other : panel.store.account username with
    | none => rfl
    | some row' =>
      obtain ⟨member', named'⟩ := byKey_some other
      have apart : row'.id ≠ candidate.id := by
        intro same
        have equal' : row' = row := inj_on_of_nodup_map steady.ids member' member (same.trans sameId.symm)
        rw [equal', named] at named'
        exact different named'.symm
      rw [Option.map_some, if_neg apart]
  have elsewhere : Elsewhere panel i candidate.username (.enforce .setQuota rest, panel.store.recordEnforced candidate) := by
    refine ⟨frame, ?_, nofun⟩
    rw [stands]
    refine ⟨nofun, fun name records => ?_⟩
    cases records
    rfl
  have values := recorded_values candidate row
  refine ⟨unique_map keeps.id steady.ids, unique_map keeps.username steady.names, ⟨fun other inside => ?_, nofun⟩,
    fun j other => ?_, enforce_apart steady rfl rfl fun username inside => ?_, elsewhere.present steady fun row' known' lives => ?_,
    elsewhere.agrees steady fun row' limits known' lives now _ _ => .inl ?_⟩
  · obtain ⟨row', known', equal', limited'⟩ := known other (mem_cons_of_mem candidate inside)
    rw [lookup, known', Option.map_some]
    split
    · have values' := recorded_values candidate row'
      have hard : (row'.recorded candidate).inodeHardLimit = row'.inodeHardLimit := congrArg Candidate.inodeHardLimit values'.1
      exact ⟨_, rfl, values'.1.trans equal', by rwa [hard]⟩
    · exact ⟨row', rfl, equal', limited'⟩
  · refine row_others (steady.relies j) other frame rfl found found' (keepsId row) (fun writes => ?_) (.inl fun dead => ?_)
      (fun renews => ?_) fun _ => ⟨values.1, fun live => ?_⟩
    · exact absurd mine ((steady.apart j i other).1 _ writes)
    · rw [keepsStatus]
      exact dead
    · exact absurd mine ((steady.apart j i other).2 _ renews).1
    · rwa [keepsStatus] at live
  · rw [stands]
    exact mem_cons_of_mem candidate.username inside
  · have same : some row' = some (row.recorded candidate) := known'.symm.trans found'
    cases same
    rw [keepsStatus] at lives
    exact steady.present _ row found lives
  · have same : some row' = some (row.recorded candidate) := known'.symm.trans found'
    cases same
    rw [keepsStatus] at lives
    have sent : panel.store.kernel candidate.username = some (Candidate.limits candidate) := set candidate rest rfl rfl row found lives
    have now' : some limits = some (Candidate.limits candidate) := now.symm.trans sent
    cases now'
    have enforced : isEnforced (row.recorded candidate) = true := by
      unfold Account.recorded
      rw [if_pos ⟨sameSoft, sameHard⟩]
      simp [isEnforced, limited]
    have whole : Candidate.limits candidate = Candidate.limits (row.recorded candidate).candidate := by
      rw [values.1, equal]
    rw [enforced, whole]
    rfl

theorem enforce_after (steady : Steady panel) {phase : EnforcePhase} {candidates : List Candidate}
    (stands : panel.task i = .enforce phase candidates) : After panel i (enforceTurn i phase candidates panel.store) := by
  have relies := steady.relies i
  rw [stands] at relies
  cases candidates with
  | nil =>
    have leaves : After panel i (leave i panel.store) := by
      refine after_leave steady ?_ ?_
      · rw [stands]
        rfl
      · rw [stands]
        cases phase <;> rfl
    cases phase <;> exact leaves
  | cons candidate rest =>
    cases phase with
    | record => exact recorded_after steady stands
    | setQuota =>
      unfold enforceTurn
      dsimp only
      split
      · refine after_on steady (enforce_tail relies) (by rw [stands]; rfl) (by rw [stands]; rfl) (fun username inside => ?_)
          nofun
        rw [stands]
        exact mem_cons_of_mem candidate.username inside
      · next set done => exact limited_after steady stands done

theorem candidates_mem {store : Store} {now : Nat} (member : candidate ∈ store.candidates now) :
    ∃ row ∈ store.accounts, row.candidate = candidate ∧ row.status.isLive = true ∧ row.inodeHardLimit ≠ 0 := by
  obtain ⟨row, listed, equal⟩ := mem_map.mp member
  obtain ⟨inside, due⟩ := mem_filter.mp (mem_mergeSort.mp listed)
  unfold Account.isDue at due
  simp only [Bool.and_eq_true, decide_eq_true_eq] at due
  exact ⟨row, inside, equal, due.1.1, Nat.pos_iff_ne_zero.mp due.1.2⟩

theorem reconcile_after (steady : Steady panel) (stands : panel.task i = .idle) (now : Nat)
    (free : ∀ candidate ∈ panel.store.candidates now, ∀ j, writing (panel.task j) ≠ some candidate.username) :
    After panel i (.enforce .setQuota (panel.store.candidates now), panel.store) := by
  have found (row : Account) (inside : row ∈ panel.store.accounts) : panel.store.account row.username = some row :=
    byKey_of_mem steady.names inside
  refine ⟨steady.ids, steady.names, ⟨fun candidate member => ?_, nofun⟩, fun j _ => steady.relies j,
    fun j _ => ⟨⟨nofun, nofun⟩, fun username writes inside => ?_,
      fun username renews => ⟨fun inside => ?_, nofun⟩⟩, steady.present, fun username row limits known live sent mine theirs => ?_⟩
  · obtain ⟨row, inside, equal, _, limited⟩ := candidates_mem member
    have named : row.username = candidate.username := congrArg Candidate.username equal
    exact ⟨row, named ▸ found row inside, equal, limited⟩
  · obtain ⟨candidate, member, named⟩ := mem_map.mp inside
    rw [← named] at writes
    exact free candidate member j writes
  · obtain ⟨candidate, member, named⟩ := mem_map.mp inside
    obtain ⟨row, inside', equal, live, _⟩ := candidates_mem member
    obtain ⟨row', known, dead, _⟩ := renewing_found (steady.relies j) renews
    have named' : row.username = username := (congrArg Candidate.username equal).trans named
    have same : some row' = some row := known.symm.trans (named' ▸ found row inside')
    cases same
    rw [dead] at live
    cases live
  · have free' (j : Nat) : writing (panel.task j) ≠ some username := by
      by_cases own : j = i
      · subst own
        rw [stands]
        exact nofun
      · exact theirs j own
    refine (steady.agrees username row limits known live sent free').imp_right fun recorded => ⟨?_, recorded.2⟩
    obtain ⟨j, records⟩ := recorded.1
    by_cases own : j = i
    · subst own
      rw [stands] at records
      cases records
    · exact .inr ⟨j, own, records⟩

end Reconciliation

end Boron.Accounts.Quotas
