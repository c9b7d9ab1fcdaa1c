import Boron.Login.Challenges

namespace Boron.Login
open List

/-- What is left to log in with was granted after the last password change. -/
structure CutOff (store : Store) : Prop where
  sessions : ∀ row ∈ store.sessions, row.revoked = false → row.generation = store.generation row.panelUserId
  challenges : ∀ row ∈ store.challenges, row.usedAt = none → row.generation = store.generation row.panelUserId

/-- A login gets its session before the password changes again, and a password is changed
when every challenge of the user is used. -/
def PasswordSettled (server : Server) (who : Nat × Moment) : Prop :=
  match server.task who.1 with
  | .beginCreate _ verified => verified.generation = server.store.generation verified.panelUserId
  | .finishCreate factor => factor.generation = server.store.generation factor.panelUserId
  | .operation (.setPanelUserPassword username _) => ∀ user, server.store.userNamed username = some user →
    ∀ row ∈ server.store.challenges, row.panelUserId = user.id → row.usedAt ≠ none
  | _ => True

def Allowance.settled : Allowance where
  gate _ _ := True
  look _ _ _ := True
  grant store row := row.generation = store.generation row.panelUserId
  change store panelUserId := ∀ row ∈ store.challenges, row.panelUserId = panelUserId → row.usedAt ≠ none
  internal _ _ _ current := current

theorem PasswordSettled.permitted {server : Server} {who : Nat × Moment} (settled : PasswordSettled server who) :
    (server.task who.1).Permitted Allowance.settled who.1 server.store := by
  unfold PasswordSettled at settled
  cases task : server.task who.1 with
  | beginCreate origin verified =>
    simp only [task] at settled
    rintro row user _ generation
    change row.generation = server.store.generation row.panelUserId
    rw [user, generation]
    exact settled
  | finishCreate factor =>
    simp only [task] at settled
    rintro row user _ generation
    change row.generation = server.store.generation row.panelUserId
    rw [user, generation]
    exact settled
  | operation operation =>
    cases operation with
    | setPanelUserPassword username password =>
      simp only [task] at settled
      exact settled
    | _ => trivial
  | beginVerify credentials known => exact fun _ => trivial
  | _ => trivial

variable {store left : Store}

theorem generation_quiet {events : List Event} (logged : left.log = events ++ store.log)
    (quiet : ∀ event ∈ events, ∀ panelUserId, event ≠ .changed panelUserId) : left.generation = store.generation := by
  funext panelUserId
  have none : events.countP (· = .changed panelUserId) = 0 :=
    countP_eq_zero.mpr fun event member => by simpa using quiet event member panelUserId
  rw [Store.generation, logged, countP_append, none, Nat.zero_add, Store.generation]

theorem CutOff.quiet (cut : CutOff store) (events : List Event)
    (sessions : ∀ row ∈ left.sessions, row.revoked = false → ∃ earlier ∈ store.sessions, earlier.revoked = false ∧
      earlier.panelUserId = row.panelUserId ∧ earlier.generation = row.generation)
    (challenges : ∀ row ∈ left.challenges, row.usedAt = none → row ∈ store.challenges)
    (logged : left.log = events ++ store.log) (quiet : ∀ event ∈ events, ∀ panelUserId, event ≠ .changed panelUserId) :
    CutOff left := by
  have same := generation_quiet logged quiet
  refine ⟨fun row member unrevoked => ?_, fun row member unused => ?_⟩
  · obtain ⟨earlier, inside, before, user, generation⟩ := sessions row member unrevoked
    rw [same, ← user, ← generation]
    exact cut.sessions earlier inside before
  · rw [same]
    exact cut.challenges row (challenges row member unused) unused

theorem CutOff.password {store : Store} (cut : CutOff store) (users : List PanelUser) {panelUserId : Nat}
    (settled : ∀ row ∈ store.challenges, row.panelUserId = panelUserId → row.usedAt ≠ none) :
    CutOff { store with users, sessions := revokeSessions panelUserId store.sessions,
                        log := .changed panelUserId :: store.log } := by
  have others {user : Nat} (other : user ≠ panelUserId) :
      countP (· = Event.changed user) (.changed panelUserId :: store.log) = store.generation user := by
    rw [countP_cons_of_neg (by simpa using Ne.symm other), Store.generation]
  refine ⟨fun row member unrevoked => ?_, fun row member unused => ?_⟩
  · obtain ⟨earlier, inside, same⟩ := mem_map.mp member
    split at same
    · subst same
      cases unrevoked
    · next other =>
      subst same
      rw [Store.generation, others other]
      exact cut.sessions earlier inside unrevoked
  · have other : row.panelUserId ≠ panelUserId := fun same => settled row member same unused
    rw [Store.generation, others other]
    exact cut.challenges row member unused

theorem LoginChallenge.use_unused {digest : String} {now : Int} {row : LoginChallenge}
    (unused : (row.use digest now).usedAt = none) : row.use digest now = row := by
  unfold LoginChallenge.use at unused ⊢
  split at unused
  · cases unused
  · next other => rw [if_neg other]

theorem Effect.cuts_off (effect : Effect Allowance.settled store left) (cut : CutOff store) : CutOff left := by
  have sessions : ∀ row ∈ store.sessions, row.revoked = false → ∃ earlier ∈ store.sessions, earlier.revoked = false ∧
      earlier.panelUserId = row.panelUserId ∧ earlier.generation = row.generation :=
    fun row member unrevoked => ⟨row, member, unrevoked, rfl, rfl⟩
  have challenges : ∀ row ∈ store.challenges, row.usedAt = none → row ∈ store.challenges := fun _ member _ => member
  cases effect with
  | look request username now permitted => exact cut.quiet [_] sessions challenges rfl (by simp)
  | record failures policy => exact cut.quiet [] sessions challenges rfl (by simp)
  | gate request now username permitted =>
    obtain ⟨attempts, events, same, gate⟩ := gate_frame store request now username
    rw [same]
    refine cut.quiet events sessions challenges rfl fun event member panelUserId equal => ?_
    have := gate event member
    rw [equal] at this
    cases this
  | clear username => exact cut.quiet [_] sessions challenges rfl (by simp)
  | session row permitted =>
    refine ⟨fun other member unrevoked => ?_, cut.challenges⟩
    rcases mem_append.mp member with earlier | newest
    · exact cut.sessions other earlier unrevoked
    · rw [mem_singleton.mp newest]
      exact permitted
  | password panelUserId passwordHash permitted => exact cut.password _ permitted
  | enroll row unused => exact cut.quiet [_] sessions challenges rfl (by simp)
  | accept known credential step found same later => exact cut.quiet [_] sessions challenges rfl (by simp)
  | renew panelUserId fresh => exact cut.quiet _ sessions challenges rfl (by simp)
  | disable panelUserId => exact cut.quiet [] sessions challenges rfl (by simp)
  | recovery now row present unused => exact cut.quiet [_] sessions challenges rfl (by simp)
  | challenge row unknown current =>
    refine ⟨cut.sessions, fun other member unused => ?_⟩
    rcases mem_append.mp member with earlier | newest
    · exact cut.challenges other earlier unused
    · rw [mem_singleton.mp newest]
      exact current
  | consume request digest now =>
    by_cases open_ : (store.challenge digest).any (·.usedAt.isNone) = true
    · simp only [consumeChallenge, open_, if_true]
      refine cut.quiet [.consumed request digest] sessions (fun row member unused => ?_) rfl (by simp)
      obtain ⟨earlier, inside, same⟩ := mem_map.mp member
      rw [← same] at unused ⊢
      rw [LoginChallenge.use_unused unused]
      exact inside
    · simp only [consumeChallenge, open_, Bool.false_eq_true, if_false]
      exact cut
  | outside disabled policy revoked =>
    refine cut.quiet [] (fun row member unrevoked => ?_) challenges rfl (by simp)
    obtain ⟨earlier, inside, same⟩ := mem_map.mp member
    subst same
    simp only [Bool.or_eq_false_iff] at unrevoked
    exact ⟨earlier, inside, unrevoked.1, rfl, rfl⟩

/-- In every run in which no login gets its session across a password change and no
password is changed while a challenge of the user is unused, a changed password cuts off
every session and challenge that rests on the old one. -/
theorem changed_password_cuts_off {host : Host} {start server : Server} (fresh : Fresh start)
    (reached : Reaches host PasswordSettled start server) : CutOff server.store := by
  have initial (panelUserId : Nat) : start.store.generation panelUserId = 0 := by
    simp [Store.generation, fresh.log]
  have before : CutOff start.store := by
    refine ⟨fun row member _ => ?_, fun row member _ => ?_⟩
    · rw [initial]
      exact (fresh.sessions row member).2
    · rw [initial]
      exact fresh.challenges row member
  exact kept_by_runs (fun _ _ settled => settled.permitted) (fun _ _ effect => effect.cuts_off) before reached

def changing : Server where
  store := { plainStore [] with
    challenges := []
    sessions := [{ sessionId := "sha256:first", panelUserId := 1, expiresAt := seconds 600, ipAddress := none,
                   userAgent := none, lastSeenAt := 0, revoked := false, grant := none, generation := 0 }] }
  task _ := .operation (.setPanelUserPassword "alice" "new")

theorem changing_fresh : Fresh changing := by
  refine ⟨rfl, ?_, ?_, fun _ => trivial⟩
  · simp [changing]
  · simp [changing]

theorem changed_password_cuts_off_session : CutOff (changing.turn (advance plainHost) (turnAt 0 0 "salt")).store ∧
    (changing.turn (advance plainHost) (turnAt 0 0 "salt")).store.sessions.map Session.revoked = [true] ∧
    (changing.turn (advance plainHost) (turnAt 0 0 "salt")).store.users.map PanelUser.passwordHash = ["#new"] := by
  refine ⟨changed_password_cuts_off changing_fresh (.next _ .start ?_), ?_, ?_⟩
  · intro user _ row member
    simp [changing] at member
  · rfl
  · rfl

def overtaken : Server where
  store := { plainStore [] with challenges := [] }
  task i := if i = 0 then .loginBegin { username := some "alice", password := some "old", origin := nowhere }
    else .operation (.setPanelUserPassword "alice" "new")

/-- The password is changed between the check of the old one and the session. -/
def overtakenTurns : List (Nat × Moment) := [0, 0, 0, 1, 0, 0].map fun who => turnAt who 0 "drawn"

theorem login_overtakes_password_change :
    ¬ ∀ (host : Host) (start server : Server), Fresh start → Reaches host (fun _ _ => True) start server →
      CutOff server.store := by
  intro claimed
  have fresh : Fresh overtaken := by
    refine ⟨rfl, ?_, ?_, fun i => ?_⟩
    · simp [overtaken, plainStore]
    · simp [overtaken]
    · by_cases first : i = 0 <;> simp [overtaken, first, Task.Unbegun]
  have cut := claimed plainHost overtaken _ fresh (Tasks.Reaches.after .start overtakenTurns)
  have kept : ¬ ∀ row ∈ (overtaken.after (advance plainHost) overtakenTurns).store.sessions, row.revoked = false →
      row.generation = (overtaken.after (advance plainHost) overtakenTurns).store.generation row.panelUserId := by
    decide
  exact kept cut.sessions

end Boron.Login
