import Boron.Accounts.Granting

namespace Boron.Accounts.Quotas

/-- The user whose new limits are in the table and not in the kernel yet. -/
def writing : Task → Option String
  | .apply username (.limits _) | .apply username (.setQuota _) => some username
  | _ => none

/-- The users whose limits a reconciliation has read, and not dealt with yet. -/
def enforcing : Task → List String
  | .enforce _ candidates => candidates.map Candidate.username
  | _ => []

/-- The user whose inode limits are in the kernel, and not recorded yet. -/
def recording : Task → Option String
  | .enforce .record (candidate :: _) => some candidate.username
  | _ => none

/-- The user whose limits are in the kernel, and whose account is not active again yet. -/
def renewing : Task → Option String
  | .manage (.reactivate ..) username _ .commit => some username
  | _ => none

def isEnforced (row : Account) : Bool := row.inodeHardLimit ≠ 0 && row.inodeEnforceAt.isNone

/-- The condition of one turn: nothing fails; a plan is applied to no account that a reconciliation
still has to deal with; a reconciliation reads no account whose plan is not in the kernel yet;
and an account is reactivated when neither of both is under way for it, and its inode limits
are not enforced. -/
structure Separate (panel : Panel) (who : Nat × Moment) : Prop where
  calm : who.2.stops = false ∧ who.2.raises = false
  applies : ∀ username planId, panel.task who.1 = .apply username (.commit planId) →
    ∀ j, username ∉ enforcing (panel.task j)
  reconciles : panel.task who.1 = .idle → who.2.call = .enforceDue →
    ∀ candidate ∈ panel.store.candidates who.2.now, ∀ j, writing (panel.task j) ≠ some candidate.username
  reactivates : ∀ softMb hardMb username id, panel.task who.1 = .manage (.reactivate softMb hardMb) username id .setQuota →
    (∀ j, username ∉ enforcing (panel.task j) ∧ writing (panel.task j) ≠ some username) ∧
      ∀ row, panel.store.account username = some row → isEnforced row = false

def blocks (softMb hardMb inodeSoft inodeHard : Nat) : Limits :=
  { softBlocks := softMb * 1024, hardBlocks := hardMb * 1024, inodeSoft, inodeHard }

def Candidate.limits (candidate : Candidate) : Limits :=
  blocks candidate.quotaSoftMb candidate.quotaHardMb candidate.inodeSoftLimit candidate.inodeHardLimit

/-- The inode limits are in the kernel while they are enforced, or while somebody is about
to record that they are. -/
def Agrees (recorded : Prop) (row : Account) (limits : Limits) : Prop :=
  limits = (if isEnforced row then blocks row.quotaSoftMb row.quotaHardMb row.inodeSoftLimit row.inodeHardLimit
    else blocks row.quotaSoftMb row.quotaHardMb 0 0) ∨
    recorded ∧ limits = blocks row.quotaSoftMb row.quotaHardMb row.inodeSoftLimit row.inodeHardLimit

/-- The creation has found no account of this name, and has added none yet. -/
def isNew : CreatePhase → Bool
  | .useradd | .prepareHome | .setQuota | .insert | .rollback => true
  | _ => false

/-- The account is neither active nor suspended at this line. -/
def isDead : ManagePhase → Bool
  | .lock | .recheck | .begin => false
  | _ => true

def Relies (i : Nat) (task : Task) (store : Store) : Prop :=
  match task with
  | .create _ username softMb hardMb phase =>
    (phase ≠ .lock → store.locks .databaseMutations = some i) ∧ (isNew phase = true → store.account username = none) ∧
      (phase = .insert → store.kernel username = some (blocks softMb hardMb 0 0))
  | .apply username phase =>
    ((∀ planId, phase ≠ .lock planId) → store.locks .databaseMutations = some i) ∧
      ∀ plan, phase = .limits plan ∨ phase = .setQuota plan → ∃ row, store.account username = some row ∧
        row.quotaSoftMb = plan.quotaSoftMb ∧ row.quotaHardMb = plan.quotaHardMb ∧ isEnforced row = false
  | .manage action username id phase =>
    (∃ row, store.account username = some row ∧ row.id = id ∧ (isDead phase = true → row.status.isLive = false) ∧
      ∀ softMb hardMb, action = .reactivate softMb hardMb → phase = .commit →
        isEnforced row = false ∧ store.kernel username = some (blocks softMb hardMb 0 0)) ∧
      (phase ≠ .lock → store.locks (.account id) = some i)
  | .enforce phase candidates =>
    (∀ candidate ∈ candidates, ∃ row, store.account candidate.username = some row ∧ row.candidate = candidate ∧
      row.inodeHardLimit ≠ 0) ∧
      ∀ candidate rest, phase = .record → candidates = candidate :: rest → ∀ row, store.account candidate.username = some row →
        row.status.isLive = true → store.kernel candidate.username = some (Candidate.limits candidate)
  | _ => True

/-- No reconciliation and no plan application is under way for what another task applies or
reactivates. -/
def Apart (first second : Task) : Prop :=
  (∀ username, writing first = some username → username ∉ enforcing second) ∧
    ∀ username, renewing first = some username → username ∉ enforcing second ∧ writing second ≠ some username

structure Steady (panel : Panel) : Prop where
  ids : Rows.Unique Account.id panel.store.accounts
  names : Rows.Unique Account.username panel.store.accounts
  relies : ∀ i, Relies i (panel.task i) panel.store
  apart : ∀ i j, i ≠ j → Apart (panel.task i) (panel.task j)
  present : ∀ username row, panel.store.account username = some row → row.status.isLive = true →
    ∃ limits, panel.store.kernel username = some limits
  agrees : ∀ username row limits, panel.store.account username = some row → row.status.isLive = true →
    panel.store.kernel username = some limits → (∀ j, writing (panel.task j) ≠ some username) →
      Agrees (∃ j, recording (panel.task j) = some username) row limits

/-- What a turn of task `i` has to show. -/
structure After (panel : Panel) (i : Nat) (left : Task × Store) : Prop where
  ids : Rows.Unique Account.id left.2.accounts
  names : Rows.Unique Account.username left.2.accounts
  own : Relies i left.1 left.2
  others : ∀ j, j ≠ i → Relies j (panel.task j) left.2
  apart : ∀ j, j ≠ i → Apart left.1 (panel.task j) ∧ Apart (panel.task j) left.1
  present : ∀ username row, left.2.account username = some row → row.status.isLive = true →
    ∃ limits, left.2.kernel username = some limits
  agrees : ∀ username row limits, left.2.account username = some row → row.status.isLive = true →
    left.2.kernel username = some limits → writing left.1 ≠ some username →
      (∀ j, j ≠ i → writing (panel.task j) ≠ some username) →
        Agrees (recording left.1 = some username ∨ ∃ j, j ≠ i ∧ recording (panel.task j) = some username) row limits

section
variable {panel : Panel} {i j : Nat} {who : Nat × Moment} {task task' : Task} {store left : Store} {username name : String}
  {row : Account}

theorem After.steady (after : After panel who.1 (advance who.1 who.2 (panel.task who.1) panel.store)) (steady : Steady panel) :
    Steady (panel.turn advance who) := by
  refine ⟨after.ids, after.names, fun j => ?_, fun j k different => ?_, after.present, fun username row limits found live known free => ?_⟩
  · by_cases own : j = who.1
    · subst own
      rw [Tasks.turn_own]
      exact after.own
    · rw [Tasks.turn_other own]
      exact after.others j own
  · by_cases own : j = who.1
    · subst own
      rw [Tasks.turn_own, Tasks.turn_other (Ne.symm different)]
      exact (after.apart k (Ne.symm different)).1
    · by_cases own' : k = who.1
      · subst own'
        rw [Tasks.turn_own, Tasks.turn_other own]
        exact (after.apart j own).2
      · rw [Tasks.turn_other own, Tasks.turn_other own']
        exact steady.apart j k different
  · have mine := free who.1
    rw [Tasks.turn_own] at mine
    have theirs (j : Nat) (other : j ≠ who.1) : writing (panel.task j) ≠ some username := by
      have quiet := free j
      rw [Tasks.turn_other other] at quiet
      exact quiet
    rcases after.agrees username row limits found live known mine theirs with same | ⟨own | ⟨j, other, recorded⟩, same⟩
    · exact .inl same
    · refine .inr ⟨⟨who.1, ?_⟩, same⟩
      rw [Tasks.turn_own]
      exact own
    · refine .inr ⟨⟨j, ?_⟩, same⟩
      rw [Tasks.turn_other other]
      exact recorded

/-- A turn that changes nothing of the users it does not touch. -/
structure Frame (i : Nat) (touched : String → Prop) (store left : Store) : Prop where
  locks : ∀ lock j, j ≠ i → store.locks lock = some j → left.locks lock = some j
  account : ∀ username, ¬ touched username → left.account username = store.account username
  kernel : ∀ username, ¬ touched username → left.kernel username = store.kernel username

def concerns : Task → List String
  | .create _ username _ _ _ | .apply username _ | .manage _ username _ _ => [username]
  | .enforce _ candidates => candidates.map Candidate.username
  | _ => []

/-- A task that has nothing to do with the user relies on the same. -/
theorem Relies.frame {touched : String → Prop} (relies : Relies j task store) (other : j ≠ i) (frame : Frame i touched store left)
    (foreign : ∀ username ∈ concerns task, ¬ touched username) : Relies j task left := by
  cases task with
  | create owner username softMb hardMb phase =>
    have free := foreign username List.mem_cons_self
    obtain ⟨locked, new, set⟩ := relies
    refine ⟨fun past => frame.locks _ j other (locked past), fun isNew => ?_, fun inserts => ?_⟩
    · rw [frame.account username free]
      exact new isNew
    · rw [frame.kernel username free]
      exact set inserts
  | apply username phase =>
    obtain ⟨locked, written⟩ := relies
    refine ⟨fun past => frame.locks _ j other (locked past), fun plan stands => ?_⟩
    rw [frame.account username (foreign username List.mem_cons_self)]
    exact written plan stands
  | manage action username id phase =>
    have free := foreign username List.mem_cons_self
    obtain ⟨known, locked⟩ := relies
    refine ⟨?_, fun past => frame.locks _ j other (locked past)⟩
    rw [frame.account username free, frame.kernel username free]
    exact known
  | enforce phase candidates =>
    obtain ⟨known, set⟩ := relies
    have free (candidate : Candidate) (member : candidate ∈ candidates) := foreign _ (List.mem_map_of_mem member)
    refine ⟨fun candidate member => ?_, fun candidate rest records same row found live => ?_⟩
    · rw [frame.account _ (free candidate member)]
      exact known candidate member
    · have member : candidate ∈ candidates := by
        rw [same]
        exact List.mem_cons_self
      rw [frame.account _ (free candidate member)] at found
      rw [frame.kernel _ (free candidate member)]
      exact set candidate rest records same row found live
  | _ => exact trivial

theorem after_quiet (steady : Steady panel) (frame : Frame i (fun _ => False) panel.store left)
    (accounts : left.accounts = panel.store.accounts) (own : Relies i task left)
    (writes : writing task = writing (panel.task i)) (records : recording task = recording (panel.task i))
    (enforces : ∀ username ∈ enforcing task, username ∈ enforcing (panel.task i))
    (renews : ∀ username, renewing task = some username → renewing (panel.task i) = some username) : After panel i (task, left) := by
  have others (j : Nat) (other : j ≠ i) : Relies j (panel.task j) left :=
    (steady.relies j).frame other frame fun _ _ never => never
  refine ⟨?_, ?_, own, others, fun j other => ?_, fun username row found live => ?_, fun username row limits found live known mine theirs => ?_⟩
  · rw [accounts]
    exact steady.ids
  · rw [accounts]
    exact steady.names
  · obtain ⟨written, renewed⟩ := steady.apart i j (Ne.symm other)
    obtain ⟨written', renewed'⟩ := steady.apart j i other
    refine ⟨⟨fun username writes' => ?_, fun username renews' => renewed username (renews username renews')⟩,
      fun username writes' inside => written' username writes' (enforces username inside), fun username renews' => ?_⟩
    · rw [writes] at writes'
      exact written username writes'
    · obtain ⟨absent, quiet⟩ := renewed' username renews'
      refine ⟨fun inside => absent (enforces username inside), ?_⟩
      rw [writes]
      exact quiet
  · rw [frame.account username (fun never => never)] at found
    rw [frame.kernel username (fun never => never)]
    exact steady.present username row found live
  · rw [frame.account username (fun never => never)] at found
    rw [frame.kernel username (fun never => never)] at known
    have free (j : Nat) : writing (panel.task j) ≠ some username := by
      by_cases same : j = i
      · subst same
        rw [← writes]
        exact mine
      · exact theirs j same
    refine (steady.agrees username row limits found live known free).imp_right fun recorded => ⟨?_, recorded.2⟩
    obtain ⟨j, records'⟩ := recorded.1
    by_cases same : j = i
    · subst same
      rw [← records] at records'
      exact .inl records'
    · exact .inr ⟨j, same, records'⟩

/-- The users other than the one a turn is about. -/
structure Elsewhere (panel : Panel) (i : Nat) (name : String) (left : Task × Store) : Prop where
  frame : Frame i (· = name) panel.store left.2
  before : (∀ username, writing (panel.task i) = some username → username = name) ∧
    ∀ username, recording (panel.task i) = some username → username = name
  now : ∀ username, writing left.1 = some username → username = name

theorem Elsewhere.present {result : Task × Store} (elsewhere : Elsewhere panel i name result) (steady : Steady panel)
    (here : ∀ row, result.2.account name = some row → row.status.isLive = true → ∃ limits, result.2.kernel name = some limits) :
    ∀ username row, result.2.account username = some row → row.status.isLive = true →
      ∃ limits, result.2.kernel username = some limits := by
  intro username row found live
  by_cases same : username = name
  · subst same
    exact here row found live
  · rw [elsewhere.frame.account username same] at found
    rw [elsewhere.frame.kernel username same]
    exact steady.present username row found live

theorem Elsewhere.agrees {result : Task × Store} (elsewhere : Elsewhere panel i name result) (steady : Steady panel)
    (here : ∀ row limits, result.2.account name = some row → row.status.isLive = true → result.2.kernel name = some limits →
      writing result.1 ≠ some name → (∀ j, j ≠ i → writing (panel.task j) ≠ some name) →
        Agrees (recording result.1 = some name ∨ ∃ j, j ≠ i ∧ recording (panel.task j) = some name) row limits) :
    ∀ username row limits, result.2.account username = some row → row.status.isLive = true →
      result.2.kernel username = some limits → writing result.1 ≠ some username →
        (∀ j, j ≠ i → writing (panel.task j) ≠ some username) →
          Agrees (recording result.1 = some username ∨ ∃ j, j ≠ i ∧ recording (panel.task j) = some username) row limits := by
  intro username row limits found live known mine theirs
  by_cases same : username = name
  · subst same
    exact here row limits found live known mine theirs
  · rw [elsewhere.frame.account username same] at found
    rw [elsewhere.frame.kernel username same] at known
    have free (j : Nat) : writing (panel.task j) ≠ some username := by
      by_cases own : j = i
      · subst own
        exact fun writes => same (elsewhere.before.1 username writes)
      · exact theirs j own
    refine (steady.agrees username row limits found live known free).imp_right fun recorded => ⟨?_, recorded.2⟩
    obtain ⟨j, records⟩ := recorded.1
    by_cases own : j = i
    · subst own
      exact absurd (elsewhere.before.2 username records) same
    · exact .inr ⟨j, own, records⟩

theorem Relies.concerned (relies : Relies j task store) (other : j ≠ i) (frame : Frame i (· = name) store left)
    (here : name ∈ concerns task → Relies j task left) : Relies j task left := by
  by_cases concerned : name ∈ concerns task
  · exact here concerned
  · exact relies.frame other frame fun username inside same => concerned (same ▸ inside)

end

end Boron.Accounts.Quotas

namespace Boron.Accounts.Quotas

section
variable {panel : Panel} {i j : Nat} {task : Task} {store left : Store} {name : String} {row later : Account}

theorem kernel_others (relies : Relies j task store) (other : j ≠ i) (frame : Frame i (· = name) store left)
    (accounts : left.accounts = store.accounts)
    (mine : (∃ row, store.account name = some row) ∨ store.locks .databaseMutations = some i)
    (renews : renewing task ≠ some name)
    (sets : name ∈ enforcing task → ∀ row, store.account name = some row → row.status.isLive = true →
      left.kernel name = some (Candidate.limits row.candidate)) : Relies j task left := by
  have same (username : String) : left.account username = store.account username := by
    unfold Store.account
    rw [accounts]
  refine relies.concerned other frame fun concerned => ?_
  cases task with
  | create owner username softMb hardMb phase =>
    cases List.mem_singleton.mp concerned
    obtain ⟨locked, new, set⟩ := relies
    refine ⟨fun past => frame.locks _ j other (locked past), fun isNew => ?_, fun inserts => ?_⟩
    · rw [same]
      exact new isNew
    · subst inserts
      rcases mine with ⟨row, found⟩ | held
      · rw [new rfl] at found
        cases found
      · rw [locked (by simp)] at held
        exact absurd (Option.some.inj held) other
  | apply username phase =>
    obtain ⟨locked, written⟩ := relies
    refine ⟨fun past => frame.locks _ j other (locked past), ?_⟩
    rw [same]
    exact written
  | manage action username id phase =>
    cases List.mem_singleton.mp concerned
    obtain ⟨⟨row, found, named, dead, renewed⟩, locked⟩ := relies
    refine ⟨⟨row, ?_, named, dead, fun softMb hardMb acts commits => ?_⟩, fun past => frame.locks _ j other (locked past)⟩
    · rw [same]
      exact found
    · subst acts commits
      exact absurd rfl renews
  | enforce phase candidates =>
    obtain ⟨known, set⟩ := relies
    refine ⟨fun candidate member => ?_, fun candidate rest records split row found live => ?_⟩
    · rw [same]
      exact known candidate member
    · have member : candidate ∈ candidates := by
        rw [split]
        exact List.mem_cons_self
      rw [same] at found
      by_cases here : candidate.username = name
      · obtain ⟨row', found', equal, _⟩ := known candidate member
        rw [found] at found'
        cases found'
        have inside : name ∈ enforcing (.enforce phase candidates) := by
          rw [← here]
          exact List.mem_map_of_mem member
        rw [here] at found ⊢
        rw [sets inside row found live, equal]
      · rw [frame.kernel _ here]
        exact set candidate rest records split row found live
  | _ => exact trivial

theorem row_others (relies : Relies j task store) (other : j ≠ i) (frame : Frame i (· = name) store left)
    (kernel : left.kernel = store.kernel) (found : store.account name = some row) (found' : left.account name = some later)
    (named : later.id = row.id)
    (writes : writing task = some name → store.locks .databaseMutations = some i ∨ later.quotaSoftMb = row.quotaSoftMb ∧
      later.quotaHardMb = row.quotaHardMb ∧ isEnforced later = isEnforced row)
    (dead : (row.status.isLive = false → later.status.isLive = false) ∨ store.locks (.account row.id) = some i)
    (renews : renewing task = some name → isEnforced later = isEnforced row)
    (enforces : name ∈ enforcing task → later.candidate = row.candidate ∧ (later.status.isLive = true → row.status.isLive = true)) :
    Relies j task left := by
  refine relies.concerned other frame fun concerned => ?_
  cases task with
  | create owner username softMb hardMb phase =>
    cases List.mem_singleton.mp concerned
    obtain ⟨locked, new, set⟩ := relies
    have old (isNew : isNew phase = true) : False := by
      rw [new isNew] at found
      cases found
    refine ⟨fun past => frame.locks _ j other (locked past), fun isNew => (old isNew).elim, fun inserts => ?_⟩
    subst inserts
    exact (old rfl).elim
  | apply username phase =>
    cases List.mem_singleton.mp concerned
    obtain ⟨locked, written⟩ := relies
    refine ⟨fun past => frame.locks _ j other (locked past), fun plan stands => ?_⟩
    obtain ⟨row', known, soft, hard, quiet⟩ := written plan stands
    rw [found] at known
    cases known
    have names : writing (.apply name phase) = some name := by
      rcases stands with limits | sets
      · rw [limits]
        rfl
      · rw [sets]
        rfl
    rcases writes names with held | ⟨sameSoft, sameHard, sameEnforced⟩
    · have past (planId : Nat) : phase ≠ .lock planId := by
        rintro rfl
        rcases stands with never | never <;> cases never
      rw [locked past] at held
      exact absurd (Option.some.inj held) other
    · exact ⟨later, found', sameSoft.trans soft, sameHard.trans hard, sameEnforced.trans quiet⟩
  | manage action username id phase =>
    cases List.mem_singleton.mp concerned
    obtain ⟨⟨row', known, named', isGone, renewed⟩, locked⟩ := relies
    rw [found] at known
    cases known
    refine ⟨⟨later, found', named.trans named', fun gone => ?_, fun softMb hardMb acts commits => ?_⟩,
      fun past => frame.locks _ j other (locked past)⟩
    · rcases dead with stays | held
      · exact stays (isGone gone)
      · rw [named', locked (by rintro rfl; cases gone)] at held
        exact absurd (Option.some.inj held) other
    · obtain ⟨quiet, known⟩ := renewed softMb hardMb acts commits
      rw [kernel]
      subst acts commits
      exact ⟨(renews rfl).trans quiet, known⟩
  | enforce phase candidates =>
    obtain ⟨sameCandidate, alive⟩ := enforces concerned
    obtain ⟨known, set⟩ := relies
    refine ⟨fun candidate member => ?_, fun candidate rest records split row' known' live => ?_⟩
    · obtain ⟨row', known', equal, limited⟩ := known candidate member
      by_cases here : candidate.username = name
      · rw [here] at known' ⊢
        rw [found] at known'
        cases known'
        have sameHard : later.inodeHardLimit = row.inodeHardLimit := congrArg Candidate.inodeHardLimit sameCandidate
        exact ⟨later, found', sameCandidate.trans equal, by rwa [sameHard]⟩
      · rw [frame.account _ here]
        exact ⟨row', known', equal, limited⟩
    · rw [kernel]
      by_cases here : candidate.username = name
      · rw [here] at known'
        rw [found'] at known'
        cases known'
        exact set candidate rest records split row (by rw [here]; exact found) (alive live)
      · rw [frame.account _ here] at known'
        exact set candidate rest records split row' known' live
  | _ => exact trivial

theorem insert_others (relies : Relies j task store) (other : j ≠ i) (frame : Frame i (· = name) store left)
    (absent : store.account name = none) (held : store.locks .databaseMutations = some i) : Relies j task left := by
  refine relies.concerned other frame fun concerned => ?_
  cases task with
  | create owner username softMb hardMb phase =>
    cases List.mem_singleton.mp concerned
    obtain ⟨locked, new, set⟩ := relies
    have before : phase = .lock := by
      by_contra past
      rw [locked past] at held
      exact other (Option.some.inj held)
    subst before
    exact ⟨fun past => absurd rfl past, nofun, nofun⟩
  | apply username phase =>
    cases List.mem_singleton.mp concerned
    obtain ⟨locked, written⟩ := relies
    refine ⟨fun past => frame.locks _ j other (locked past), fun plan stands => ?_⟩
    obtain ⟨row, known, _⟩ := written plan stands
    rw [absent] at known
    cases known
  | manage action username id phase =>
    cases List.mem_singleton.mp concerned
    obtain ⟨⟨row, known, _⟩, _⟩ := relies
    rw [absent] at known
    cases known
  | enforce phase candidates =>
    obtain ⟨candidate, member, here⟩ := List.mem_map.mp concerned
    obtain ⟨row, known, _⟩ := relies.1 candidate member
    rw [here, absent] at known
    cases known
  | _ => exact trivial

end

end Boron.Accounts.Quotas
