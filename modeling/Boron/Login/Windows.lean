import Boron.Login.Effects

namespace Boron.Login
open List

def opensWindow (bucket : String) : Event → Bool
  | .opened other _ => other = bucket
  | _ => false

def endsLock (bucket : String) : Event → Bool
  | .opened other _ => other = bucket
  | .cleared other => other = bucket
  | _ => false

def reserves (bucket : String) : Event → Bool
  | .reserved other _ => other = bucket
  | _ => false

def Event.isOf (bucket : String) : Event → Bool
  | .opened other _ => other = bucket
  | .reserved other _ => other = bucket
  | .locked other _ => other = bucket
  | .cleared other => other = bucket
  | _ => false

abbrev window (bucket : String) (log : List Event) : List Event := Log.since (opensWindow bucket) log

/-- The attempts that the gate has let through in the present window. -/
def reservations (bucket : String) (log : List Event) : Nat := (window bucket log).countP (reserves bucket)

def Unlocked (bucket : String) (log : List Event) : Prop :=
  ∀ expiry, .locked bucket expiry ∉ Log.since (endsLock bucket) log

/-- The first window, a window after a cleared counter, or a window after an expired lock. -/
def MayOpen (bucket : String) (now : Int) (log : List Event) : Prop :=
  (∀ event ∈ log, opensWindow bucket event = false) ∨ .cleared bucket ∈ window bucket log ∨
    ∃ expiry, expiry ≤ now ∧ .locked bucket expiry ∈ window bucket log

/-- When the gate lets an attempt through, and when it opens a window. -/
def Windowed (older : List Event) : Event → Prop
  | .reserved bucket _ => reservations bucket older < lockoutThreshold ∧ Unlocked bucket older
  | .opened bucket now => MayOpen bucket now older ∧
    ∀ expiry, .locked bucket expiry ∈ Log.since (endsLock bucket) older → expiry ≤ now
  | _ => True

/-- What the row of a bucket says about its window. -/
structure BucketKept (bucket : String) (attempt : Option LoginAttempt) (log : List Event) : Prop where
  few : reservations bucket log ≤ lockoutThreshold
  counting : ∀ row, attempt = some row → row.lockedUntil = none →
    reservations bucket log ≤ row.failedCount ∧ Unlocked bucket log
  locked : ∀ row lockedUntil, attempt = some row → row.lockedUntil = some lockedUntil →
    MayOpen bucket lockedUntil log ∧ ∀ expiry, .locked bucket expiry ∈ Log.since (endsLock bucket) log → expiry = lockedUntil
  absent : attempt = none → (∀ now, MayOpen bucket now log) ∧ Unlocked bucket log

section
variable {bucket : String} {event : Event} {log : List Event}

theorem opensWindow_of {event : Event} (other : event.isOf bucket = false) : opensWindow bucket event = false := by
  cases event <;> first | exact other | rfl

theorem reservations_other (log : List Event) (other : event.isOf bucket = false) :
    reservations bucket (event :: log) = reservations bucket log := by
  have uncounted : reserves bucket event = false := by cases event <;> first | exact other | rfl
  rw [reservations, window, Log.since_of_keeps (opensWindow_of other),
    countP_cons_of_neg (by simp [uncounted]), reservations]

theorem MayOpen.later {now : Int} (may : MayOpen bucket now log) (kept : opensWindow bucket event = false) :
    MayOpen bucket now (event :: log) := by
  rcases may with first | cleared | ⟨expiry, early, locked⟩
  · refine .inl fun other member => ?_
    rcases mem_cons.mp member with newest | earlier
    · rw [newest]
      exact kept
    · exact first other earlier
  · refine .inr (.inl ?_)
    rw [window, Log.since_of_keeps kept]
    exact mem_cons_of_mem event cleared
  · refine .inr (.inr ⟨expiry, early, ?_⟩)
    rw [window, Log.since_of_keeps kept]
    exact mem_cons_of_mem event locked

theorem locked_other {expiry : Int} (other : event.isOf bucket = false)
    (member : .locked bucket expiry ∈ Log.since (endsLock bucket) (event :: log)) :
    .locked bucket expiry ∈ Log.since (endsLock bucket) log := by
  obtain ⟨_, newest | earlier⟩ := Log.since_cons member
  · rw [← newest] at other
    simp [Event.isOf] at other
  · exact earlier

theorem BucketKept.other {attempt : Option LoginAttempt} (kept : BucketKept bucket attempt log)
    (other : event.isOf bucket = false) : BucketKept bucket attempt (event :: log) := by
  have same := reservations_other log other
  refine ⟨same ▸ kept.few, fun row found unlocked => ?_, fun row lockedUntil found locked => ?_, fun none => ?_⟩
  · obtain ⟨count, free⟩ := kept.counting row found unlocked
    exact ⟨same ▸ count, fun expiry member => free expiry (locked_other other member)⟩
  · obtain ⟨may, until_⟩ := kept.locked row lockedUntil found locked
    exact ⟨may.later (opensWindow_of other), fun expiry member => until_ expiry (locked_other other member)⟩
  · obtain ⟨may, free⟩ := kept.absent none
    exact ⟨fun now => (may now).later (opensWindow_of other), fun expiry member => free expiry (locked_other other member)⟩

theorem MayOpen.mono {now later : Int} (may : MayOpen bucket now log) (order : now ≤ later) :
    MayOpen bucket later log := by
  rcases may with first | cleared | ⟨expiry, early, locked⟩
  · exact .inl first
  · exact .inr (.inl cleared)
  · exact .inr (.inr ⟨expiry, by omega, locked⟩)

end

/-- The table of attempts and the log agree on every bucket. -/
structure GateKept (store : Store) : Prop where
  windowed : Log.Throughout Windowed store.log
  buckets : ∀ bucket, BucketKept bucket (store.attempt bucket) store.log

structure Counting (row : LoginAttempt) (log : List Event) : Prop where
  free : row.lockedUntil = none
  few : reservations row.username log ≤ lockoutThreshold
  counted : reservations row.username log ≤ row.failedCount
  unlocked : Unlocked row.username log

theorem GateKept.quiet {store left : Store} (kept : GateKept store) (events : List Event)
    (attempts : left.attempts = store.attempts) (logged : left.log = events ++ store.log)
    (quiet : ∀ event ∈ events, ∀ bucket, event.isOf bucket = false) : GateKept left := by
  have attempt : left.attempt = store.attempt := by
    funext bucket
    simp only [Store.attempt, attempts]
  suffices both : Log.Throughout Windowed (events ++ store.log) ∧
      ∀ bucket, BucketKept bucket (store.attempt bucket) (events ++ store.log) by
    rw [← logged] at both
    exact ⟨both.1, fun bucket => attempt ▸ both.2 bucket⟩
  clear logged
  induction events with
  | nil => exact ⟨kept.windowed, kept.buckets⟩
  | cons event events ih =>
    obtain ⟨windowed, buckets⟩ := ih fun other member => quiet other (mem_cons_of_mem event member)
    have silent := quiet event mem_cons_self
    refine ⟨windowed.cons ?_, fun bucket => (buckets bucket).other (silent bucket)⟩
    cases event <;> first | trivial | simp [Event.isOf] at silent

theorem attempt_put (store : Store) (row : LoginAttempt) (log : List Event) (bucket : String) :
    { store with attempts := Rows.put LoginAttempt.username row store.attempts, log }.attempt bucket =
      if row.username = bucket then some row else store.attempt bucket :=
  Rows.byKey_put LoginAttempt.username row store.attempts bucket

variable {store : Store}

theorem reserve_kept {row : LoginAttempt} (windowed : Log.Throughout Windowed store.log)
    (others : ∀ bucket, row.username ≠ bucket → BucketKept bucket (store.attempt bucket) store.log)
    (counting : Counting row store.log) (request : Nat) (now : Int) : GateKept (reserve request now row store).2 := by
  have elsewhere {event : Event} {bucket : String} (other : row.username ≠ bucket) (of : event.isOf bucket = false) :
      BucketKept bucket (store.attempt bucket) (event :: store.log) := (others bucket other).other of
  by_cases many : row.failedCount + 1 > lockoutThreshold
  · simp only [reserve, many, if_true]
    refine ⟨windowed.cons trivial, fun bucket => ?_⟩
    rw [attempt_put]
    by_cases own : row.username = bucket
    · subst own
      have same : reservations row.username (.locked row.username (now + seconds lockoutDurationSeconds) :: store.log) =
          reservations row.username store.log := by
        rw [reservations, window, Log.since_of_keeps rfl, countP_cons_of_neg (by simp [reserves]), reservations]
      rw [if_pos rfl]
      refine ⟨same ▸ counting.few, ?_, ?_, ?_⟩
      · rintro _ ⟨⟩ ⟨⟩
      · rintro _ lockedUntil ⟨⟩ ⟨⟩
        refine ⟨.inr (.inr ⟨_, Int.le_refl _, ?_⟩), fun expiry member => ?_⟩
        · exact mem_cons_self
        · obtain ⟨_, newest | earlier⟩ := Log.since_cons member
          · cases newest
            rfl
          · exact absurd earlier (counting.unlocked expiry)
      · rintro ⟨⟩
    · rw [if_neg own]
      exact elsewhere own (by simpa [Event.isOf] using own)
  · simp only [reserve, many, if_false]
    have room : reservations row.username store.log < lockoutThreshold := by
      have := counting.counted
      omega
    refine ⟨windowed.cons ⟨room, counting.unlocked⟩, fun bucket => ?_⟩
    rw [attempt_put]
    by_cases own : row.username = bucket
    · subst own
      have more : reservations row.username (.reserved row.username request :: store.log) =
          reservations row.username store.log + 1 := by
        rw [reservations, window, Log.since_of_keeps rfl, countP_cons_of_pos (by simp [reserves]), reservations]
      rw [if_pos rfl]
      refine ⟨by simp only [more]; omega, ?_, ?_, ?_⟩
      · rintro _ ⟨⟩ _
        refine ⟨?_, fun expiry member => ?_⟩
        · have := counting.counted
          simp only [more]
          omega
        · obtain ⟨_, newest | earlier⟩ := Log.since_cons member
          · cases newest
          · exact counting.unlocked expiry earlier
      · rintro _ lockedUntil ⟨⟩ locked
        simp only [counting.free] at locked
        cases locked
      · rintro ⟨⟩
    · rw [if_neg own]
      exact elsewhere own (by simpa [Event.isOf] using own)

theorem opened_counting (row : LoginAttempt) (free : row.lockedUntil = none) (now : Int) (log : List Event) :
    Counting row (.opened row.username now :: log) := by
  have fresh : reservations row.username (.opened row.username now :: log) = 0 := by
    rw [reservations, window, Log.since_of_renews (by simp [opensWindow]), countP_nil]
  refine ⟨free, by omega, by omega, fun expiry member => ?_⟩
  rw [Log.since_of_renews (by simp [endsLock])] at member
  cases member

theorem open_kept {store : Store} (kept : GateKept store) {row : LoginAttempt} (free : row.lockedUntil = none) {now : Int}
    (may : MayOpen row.username now store.log)
    (ended : ∀ expiry, .locked row.username expiry ∈ Log.since (endsLock row.username) store.log → expiry ≤ now)
    (request : Nat) : GateKept (reserve request now row (store.note (.opened row.username now))).2 := by
  have opened : Windowed store.log (.opened row.username now) := ⟨may, ended⟩
  refine reserve_kept (kept.windowed.cons opened) (fun bucket other => ?_) (opened_counting row free now store.log) request now
  exact (kept.buckets bucket).other (by simpa [Event.isOf] using other)

theorem gate_kept (kept : GateKept store) (request : Nat) (now : Int) (username : String) :
    GateKept (checkLoginLockout request now username store).2 := by
  have bucket := kept.buckets username
  unfold checkLoginLockout
  cases found : store.attempt username with
  | none =>
    obtain ⟨may, free⟩ := bucket.absent found
    exact open_kept kept rfl (may now) (fun expiry member => absurd member (free expiry)) request
  | some row =>
    have named : row.username = username := (Rows.byKey_some found).2
    subst named
    cases state : row.lockedUntil with
    | none =>
      obtain ⟨counted, free⟩ := bucket.counting row found state
      simp only [state]
      exact reserve_kept kept.windowed (fun other _ => kept.buckets other) ⟨state, bucket.few, counted, free⟩ request now
    | some lockedUntil =>
      simp only [state]
      split
      · exact kept
      · next expired =>
        obtain ⟨may, only⟩ := bucket.locked row lockedUntil found state
        have later : MayOpen row.username now store.log := may.mono (by omega)
        have ended : ∀ expiry, .locked row.username expiry ∈ Log.since (endsLock row.username) store.log → expiry ≤ now := by
          intro expiry member
          have := only expiry member
          omega
        exact @open_kept store kept { row with lockedUntil := none, failedCount := 0 } rfl now later ended request

theorem clear_kept (kept : GateKept store) (username : String) :
    GateKept (recordLoginResult username true store) := by
  refine ⟨kept.windowed.cons trivial, fun bucket => ?_⟩
  have attempt : (recordLoginResult username true store).attempt bucket =
      if username = bucket then none else store.attempt bucket := Rows.byKey_drop LoginAttempt.username store.attempts username bucket
  rw [attempt]
  by_cases own : username = bucket
  · subst own
    have same : reservations username (.cleared username :: store.log) = reservations username store.log := by
      rw [reservations, window, Log.since_of_keeps rfl, countP_cons_of_neg (by simp [reserves]), reservations]
    rw [if_pos rfl]
    refine ⟨same ▸ (kept.buckets username).few, ?_, ?_, fun _ => ⟨fun now => .inr (.inl ?_), fun expiry member => ?_⟩⟩
    · rintro _ ⟨⟩
    · rintro _ _ ⟨⟩
    · exact mem_cons_self
    · rw [recordLoginResult, if_pos rfl, Log.since_of_renews (by simp [endsLock])] at member
      cases member
  · rw [if_neg own]
    exact (kept.buckets bucket).other (by simpa [Event.isOf] using own)

theorem Effect.keeps_gate {allowance : Allowance} {store left : Store} (effect : Effect allowance store left)
    (kept : GateKept store) : GateKept left := by
  cases effect with
  | look request username now permitted => exact kept.quiet [_] rfl rfl (by simp [Event.isOf])
  | gate request now username permitted => exact gate_kept kept request now username
  | clear username => exact clear_kept kept username
  | password panelUserId passwordHash permitted => exact kept.quiet [_] rfl rfl (by simp [Event.isOf])
  | enroll row unused => exact kept.quiet [_] rfl rfl (by simp [Event.isOf])
  | accept known credential step found same later => exact kept.quiet [_] rfl rfl (by simp [Event.isOf])
  | renew panelUserId fresh => exact kept.quiet _ rfl rfl (by simp [Event.isOf])
  | recovery now row present unused => exact kept.quiet [_] rfl rfl (by simp [Event.isOf])
  | consume request digest now =>
    obtain ⟨challenges, events, same, consumed⟩ := consumeChallenge_frame request digest now store
    rw [same]
    refine kept.quiet events rfl rfl fun event member => ?_
    rw [consumed event member]
    exact fun _ => rfl
  | _ => exact kept.quiet [] rfl rfl (by simp)

end Boron.Login
