import Boron.Login.SecondFactors

namespace Boron.Login
open List Relation

def Store.granted (store : Store) : List Nat := store.sessions.filterMap fun row => row.grant.map Grant.request

structure GrantsKept (store : Store) : Prop where
  distinct : store.granted.Nodup
  consumed : ∀ row ∈ store.sessions, ∀ request digest,
    row.grant = some { request, challenge := some digest } → .consumed request digest ∈ store.log
  used : ∀ request digest, .consumed request digest ∈ store.log →
    ∃ row, store.challenge digest = some row ∧ row.usedAt ≠ none
  once : ∀ first second digest, .consumed first digest ∈ store.log → .consumed second digest ∈ store.log → first = second

def Task.isEnded : Task → Bool
  | .ended _ => true
  | _ => false

def Task.holding : Task → Option SecondFactor
  | .finishResult factor => some factor
  | .finishCreate factor => some factor
  | _ => none

/-- A request makes its session last, after it has consumed its challenge. -/
structure Task.Relies (request : Nat) (task : Task) (store : Store) : Prop where
  none : task.isEnded = false → request ∉ store.granted
  consumed : ∀ factor, task.holding = some factor → .consumed request factor.digest ∈ store.log

/-- The sessions that keep `GrantsKept`. -/
def Allowance.granting : Allowance where
  gate _ _ := True
  look _ _ _ := True
  grant store row := ∀ grant, row.grant = some grant →
    grant.request ∉ store.granted ∧ ∀ digest, grant.challenge = some digest → .consumed grant.request digest ∈ store.log
  change _ _ := True
  internal := by
    intro store row none _ grant some
    rw [none] at some
    cases some

def Allowance.without (request : Nat) : Allowance where
  gate _ _ := True
  look _ _ _ := True
  grant _ row := row.grant.map Grant.request ≠ some request
  change _ _ := True
  internal := by
    intro store row none _
    simp [none]

variable {store left : Store} {allowance : Allowance}

theorem Effect.log_grows (effect : Effect allowance store left) : ∃ events, left.log = events ++ store.log := by
  cases effect with
  | look request username now permitted => exact ⟨[_], rfl⟩
  | gate request now username permitted =>
    obtain ⟨attempts, events, same, _⟩ := gate_frame store request now username
    exact ⟨events, by rw [same]⟩
  | clear username => exact ⟨[_], rfl⟩
  | password panelUserId passwordHash permitted => exact ⟨[_], rfl⟩
  | enroll row unused => exact ⟨[_], rfl⟩
  | accept known credential step found same later => exact ⟨[_], rfl⟩
  | renew panelUserId fresh => exact ⟨_, rfl⟩
  | recovery now row present unused => exact ⟨[_], rfl⟩
  | consume request digest now =>
    obtain ⟨challenges, events, same, _⟩ := consumeChallenge_frame request digest now store
    exact ⟨events, by rw [same]⟩
  | _ => exact ⟨[], rfl⟩

theorem effects_log (effects : Effects allowance store left) {event : Event}
    (member : event ∈ store.log) : event ∈ left.log := by
  refine @effects_keep allowance store (fun store => event ∈ store.log) (fun store left effect inside => ?_) left effects member
  obtain ⟨events, grown⟩ := effect.log_grows
  rw [grown]
  exact mem_append_right events inside

/-- A revoked or granted session aside, the sessions stay as they are. -/
theorem Effect.granted (effect : Effect allowance store left) :
    left.granted = store.granted ∨ ∃ row, allowance.grant store row ∧ left.sessions = store.sessions ++ [row] := by
  cases effect with
  | gate request now username permitted =>
    obtain ⟨attempts, events, same, _⟩ := gate_frame store request now username
    exact .inl (by rw [same]; rfl)
  | session row permitted => exact .inr ⟨row, permitted, rfl⟩
  | password panelUserId passwordHash permitted =>
    refine .inl ?_
    simp only [Store.granted, revokeSessions, filterMap_map]
    refine filterMap_congr fun row _ => ?_
    simp only [Function.comp]
    split <;> rfl
  | consume request digest now =>
    obtain ⟨challenges, events, same, _⟩ := consumeChallenge_frame request digest now store
    exact .inl (by rw [same]; rfl)
  | outside disabled policy revoked =>
    refine .inl ?_
    simp only [Store.granted, filterMap_map]
    rfl
  | _ => exact .inl rfl

theorem effects_without {request : Nat} (effects : Effects (Allowance.without request) store left)
    (none : request ∉ store.granted) : request ∉ left.granted := by
  refine @effects_keep _ store (fun store => request ∉ store.granted) (fun store left effect none => ?_) left effects none
  rcases effect.granted with same | ⟨row, other, same⟩
  · rw [same]
    exact none
  · intro member
    simp only [Store.granted, same, filterMap_append, mem_append] at member
    rcases member with earlier | newest
    · exact none earlier
    · obtain ⟨found, inside, named⟩ := mem_filterMap.mp newest
      rw [mem_singleton.mp inside] at named
      exact other named

theorem GrantsKept.carry (kept : GrantsKept store) (events : List Event) (granted : left.granted = store.granted)
    (rows : ∀ row ∈ left.sessions, ∃ earlier ∈ store.sessions, earlier.grant = row.grant)
    (challenges : ∀ digest row, store.challenge digest = some row → left.challenge digest = some row)
    (logged : left.log = events ++ store.log) (quiet : ∀ event ∈ events, ∀ request digest, event ≠ .consumed request digest) :
    GrantsKept left := by
  have before : ∀ request digest, .consumed request digest ∈ left.log → .consumed request digest ∈ store.log := by
    intro request digest member
    rw [logged, mem_append] at member
    exact member.resolve_left fun newer => quiet _ newer request digest rfl
  refine ⟨granted ▸ kept.distinct, fun row member request digest grant => ?_, fun request digest consumed => ?_,
    fun first second digest one other => kept.once first second digest (before _ _ one) (before _ _ other)⟩
  · obtain ⟨earlier, inside, same⟩ := rows row member
    rw [logged]
    exact mem_append_right events (kept.consumed earlier inside request digest (same.trans grant))
  · obtain ⟨row, found, used⟩ := kept.used request digest (before _ _ consumed)
    exact ⟨row, challenges digest row found, used⟩

variable {store : Store}

theorem GrantsKept.session (kept : GrantsKept store) {row : Session}
    (permitted : Allowance.granting.grant store row) :
    GrantsKept { store with sessions := store.sessions ++ [row] } := by
  refine ⟨?_, fun other member request digest grant => ?_, kept.used, kept.once⟩
  · simp only [Store.granted, filterMap_append]
    cases grant : row.grant with
    | none =>
      simp only [filterMap_cons, grant, Option.map_none, filterMap_nil, append_nil]
      exact kept.distinct
    | some named =>
      have fresh := (permitted named grant).1
      simp only [filterMap_cons, grant, Option.map_some, filterMap_nil]
      refine kept.distinct.append (nodup_singleton _) ?_
      intro request earlier newest
      rw [mem_singleton.mp newest] at earlier
      exact fresh earlier
  · rcases mem_append.mp member with earlier | newest
    · exact kept.consumed other earlier request digest grant
    · rw [mem_singleton.mp newest] at grant
      exact (permitted _ grant).2 digest rfl

theorem LoginChallenge.use_usedAt {digest : String} {now : Int} {row : LoginChallenge}
    (used : row.tokenHash = digest ∨ row.usedAt ≠ none) : (row.use digest now).usedAt ≠ none := by
  unfold LoginChallenge.use
  split
  · simp
  · next other =>
    intro unused
    rcases used with same | used
    · exact other ⟨same, by simp [unused]⟩
    · exact used unused

theorem LoginChallenge.use_tokenHash (digest : String) (now : Int) (row : LoginChallenge) :
    (row.use digest now).tokenHash = row.tokenHash := by
  unfold LoginChallenge.use
  split <;> rfl

theorem GrantsKept.consume (kept : GrantsKept store) (request : Nat) (digest : String) (now : Int) :
    GrantsKept (consumeChallenge request digest now store).2 := by
  by_cases unused : (store.challenge digest).any (·.usedAt.isNone) = true
  · obtain ⟨row, found, free⟩ : ∃ row, store.challenge digest = some row ∧ row.usedAt = none := by
      cases found : store.challenge digest with
      | none => simp [found] at unused
      | some row => exact ⟨row, rfl, by simpa [found] using unused⟩
    have never : ∀ other, .consumed other digest ∉ store.log := by
      intro other member
      obtain ⟨again, same, used⟩ := kept.used other digest member
      rw [found] at same
      cases same
      exact used free
    have through (other : String) : Rows.byKey LoginChallenge.tokenHash (store.challenges.map (LoginChallenge.use digest now)) other =
        (store.challenge other).map (LoginChallenge.use digest now) :=
      Rows.byKey_map (LoginChallenge.use_tokenHash digest now) store.challenges other
    simp only [consumeChallenge, unused, if_true]
    refine ⟨kept.distinct, fun row member other hash grant => ?_, fun other hash member => ?_, fun first second hash one two => ?_⟩
    · exact mem_cons_of_mem _ (kept.consumed row member other hash grant)
    · simp only [Store.challenge] at found ⊢
      rw [through]
      rcases mem_cons.mp member with newest | earlier
      · cases newest
        exact ⟨row.use digest now, by simp only [Store.challenge, found, Option.map_some],
          LoginChallenge.use_usedAt (.inl (Rows.byKey_some found).2)⟩
      · obtain ⟨row, present, used⟩ := kept.used other hash earlier
        exact ⟨row.use digest now, by rw [present, Option.map_some], LoginChallenge.use_usedAt (.inr used)⟩
    · rcases mem_cons.mp one with newest | earlier
      · cases newest
        rcases mem_cons.mp two with again | before
        · cases again
          rfl
        · exact absurd before (never second)
      · rcases mem_cons.mp two with newest | before
        · cases newest
          exact absurd earlier (never first)
        · exact kept.once first second hash earlier before
  · simp only [consumeChallenge, unused, Bool.false_eq_true, if_false]
    exact kept

theorem Effect.keeps_grants (effect : Effect Allowance.granting store left) (kept : GrantsKept store) :
    GrantsKept left := by
  have rows : ∀ row ∈ store.sessions, ∃ earlier ∈ store.sessions, earlier.grant = row.grant :=
    fun row member => ⟨row, member, rfl⟩
  have challenges : ∀ digest row, store.challenge digest = some row → store.challenge digest = some row :=
    fun _ _ found => found
  have granted := effect.granted
  cases effect with
  | look request username now permitted => exact kept.carry [_] rfl rows challenges rfl (by simp)
  | record failures policy => exact kept.carry [] rfl rows challenges rfl (by simp)
  | gate request now username permitted =>
    obtain ⟨attempts, events, same, gate⟩ := gate_frame store request now username
    rw [same]
    refine kept.carry events rfl rows challenges rfl fun event member request digest equal => ?_
    have := gate event member
    rw [equal] at this
    cases this
  | clear username => exact kept.carry [_] rfl rows challenges rfl (by simp)
  | session row permitted => exact kept.session permitted
  | password panelUserId passwordHash permitted =>
    refine kept.carry [.changed panelUserId] (granted.resolve_right ?_) ?_ challenges rfl (by simp)
    · rintro ⟨row, _, same⟩
      simpa [revokeSessions] using congrArg length same
    · intro row member
      obtain ⟨earlier, inside, same⟩ := mem_map.mp member
      refine ⟨earlier, inside, ?_⟩
      rw [← same]
      split <;> rfl
  | enroll row unused => exact kept.carry [_] rfl rows challenges rfl (by simp)
  | accept known credential step found same later => exact kept.carry [_] rfl rows challenges rfl (by simp)
  | renew panelUserId fresh => exact kept.carry _ rfl rows challenges rfl (by simp)
  | disable panelUserId => exact kept.carry [] rfl rows challenges rfl (by simp)
  | recovery now row present unused => exact kept.carry [_] rfl rows challenges rfl (by simp)
  | challenge row unknown current =>
    exact kept.carry [] rfl rows (fun digest other found => Rows.byKey_append found) rfl (by simp)
  | consume request digest now => exact kept.consume request digest now
  | outside disabled policy revoked =>
    refine kept.carry [] (granted.resolve_right ?_) ?_ challenges rfl (by simp)
    · rintro ⟨row, _, same⟩
      simpa using congrArg length same
    · intro row member
      obtain ⟨earlier, inside, same⟩ := mem_map.mp member
      exact ⟨earlier, inside, by rw [← same]⟩

theorem Task.Relies.permitted {request : Nat} {task : Task} (relies : task.Relies request store) :
    task.Permitted Allowance.granting request store := by
  refine Task.permitted_of trivial (fun _ => trivial) (fun _ => trivial) ?_ ?_
  · rintro origin verified rfl row _ granted _ grant named
    rw [granted] at named
    cases named
    exact ⟨relies.none rfl, by simp⟩
  · rintro factor rfl row _ granted _ grant named
    rw [granted] at named
    cases named
    exact ⟨relies.none rfl, by rintro digest ⟨⟩; exact relies.consumed _ rfl⟩

theorem Task.permitted_without {request other : Nat} (different : other ≠ request) (task : Task) (store : Store) :
    task.Permitted (Allowance.without other) request store := by
  refine Task.permitted_of trivial (fun _ => trivial) (fun _ => trivial) ?_ ?_
  · rintro origin verified _ row _ granted _
    simpa [Allowance.without, granted] using Ne.symm different
  · rintro factor _ row _ granted _
    simpa [Allowance.without, granted] using Ne.symm different

theorem turn_next {α : Type} {transaction : Transaction α} {next : α → Task} {store : Store} {P : Task → Prop}
    (answered : ∀ answer, P (next answer)) (raised : ∀ message, P (.ended (.raised message))) :
    P (transaction.turn next store).1 := by
  unfold Transaction.turn
  split
  · exact answered _
  · exact raised _

section
variable {host : Host} {request : Nat} {moment : Moment} {task : Task} {store : Store}

theorem gateTurn_holding (gate : Option Int × Store) (next : Task) (none : next.holding = none) :
    (gateTurn gate next).1.holding = Option.none := by
  unfold gateTurn
  split
  · rfl
  · exact none

theorem advance_holding {factor : SecondFactor}
    (holds : (advance host request moment task store).1.holding = some factor) :
    task.holding = some factor ∨ task = .finishConsume factor ∧ .consumed request factor.digest ∈
      (advance host request moment task store).2.log := by
  have elsewhere : (advance host request moment task store).1.holding = none ∨
      (∃ other, task = .finishConsume other) ∨ ∃ other, task = .finishResult other := by
    unfold advance
    split
    · split
      · exact .inl rfl
      · split <;> exact .inl rfl
    · exact .inl rfl
    · exact .inl (gateTurn_holding _ _ rfl)
    · refine .inl (turn_next (P := fun next => next.holding = none) (fun answer => ?_) fun _ => rfl)
      cases answer <;> rfl
    · refine .inl ?_
      simp only
      split <;> rfl
    · exact .inl (turn_next (P := fun next => next.holding = none) (fun _ => rfl) fun _ => rfl)
    · split
      · exact .inl rfl
      · split <;> exact .inl rfl
    · exact .inl rfl
    · exact .inl (gateTurn_holding _ _ rfl)
    · refine .inl (turn_next (P := fun next => next.holding = none) (fun answer => ?_) fun _ => rfl)
      split <;> rfl
    · exact .inl rfl
    · next other => exact .inr (.inl ⟨other, rfl⟩)
    · next other => exact .inr (.inr ⟨other, rfl⟩)
    · exact .inl (turn_next (P := fun next => next.holding = none) (fun _ => rfl) fun _ => rfl)
    · exact .inl (turn_next (P := fun next => next.holding = none) (fun _ => rfl) fun _ => rfl)
    · exact .inl rfl
  rcases elsewhere with none | ⟨other, same⟩ | ⟨other, same⟩
  · rw [none] at holds
    cases holds
  · subst same
    by_cases unused : (store.challenge other.digest).any (·.usedAt.isNone) = true
    · simp only [advance, consumeChallenge, unused, if_true, Task.holding, Option.some.injEq] at holds ⊢
      subst holds
      exact .inr ⟨rfl, mem_cons_self⟩
    · simp [advance, consumeChallenge, unused, Task.holding] at holds
  · subst same
    exact .inl holds

theorem Task.Relies.turn (relies : task.Relies request store) :
    (advance host request moment task store).1.Relies request (advance host request moment task store).2 := by
  refine ⟨fun running => ?_, fun factor holds => ?_⟩
  · have simple : task.Permitted (Allowance.without request) request store := by
      refine Task.permitted_of trivial (fun _ => trivial) (fun _ => trivial) ?_ ?_
      · rintro origin verified rfl
        exact absurd running (turn_next (P := fun next => next.isEnded ≠ false) (fun _ => by simp [Task.isEnded])
          fun _ => by simp [Task.isEnded])
      · rintro factor rfl
        exact absurd running (turn_next (P := fun next => next.isEnded ≠ false) (fun _ => by simp [Task.isEnded])
          fun _ => by simp [Task.isEnded])
    refine effects_without (advance_effects request task simple) (relies.none ?_)
    cases task with
    | ended answer => cases running
    | _ => rfl
  · rcases advance_holding holds with before | ⟨_, now⟩
    · exact effects_log (advance_effects request task relies.permitted) (relies.consumed factor before)
    · exact now

theorem Task.Relies.other {other : Nat} {waiting : Task} (different : other ≠ request)
    (relies : waiting.Relies other store) : waiting.Relies other (advance host request moment task store).2 := by
  have simple := Task.permitted_without different task store
  exact ⟨fun running => effects_without (advance_effects request task simple) (relies.none running),
    fun factor holds => effects_log (advance_effects request task simple) (relies.consumed factor holds)⟩

theorem grants_turn (kept : GrantsKept store) (relies : task.Relies request store) :
    Tasks.Keeps GrantsKept (fun request task store => task.Relies request store) request store
      (advance host request moment task store) where
  shared := effects_keep (fun _ _ effect => effect.keeps_grants) (advance_effects request task relies.permitted) kept
  own := relies.turn
  others _ _ different relies := relies.other different

end

theorem at_most_one (kept : GrantsKept store) (digest : String) :
    (store.sessions.filter (Session.restsOn digest)).length ≤ 1 := by
  have named : ∀ row ∈ store.sessions.filter (Session.restsOn digest),
      row ∈ store.sessions ∧ ∃ request, row.grant = some { request, challenge := some digest } := by
    intro row member
    obtain ⟨inside, rests⟩ := mem_filter.mp member
    refine ⟨inside, ?_⟩
    cases grant : row.grant with
    | none => simp [Session.restsOn, grant] at rests
    | some given =>
      obtain ⟨request, challenge⟩ := given
      simp only [Session.restsOn, grant, Option.any_some, decide_eq_true_eq] at rests
      exact ⟨request, by rw [rests]⟩
  have distinct : ((store.sessions.filter (Session.restsOn digest)).filterMap fun row => row.grant.map Grant.request).Nodup :=
    kept.distinct.sublist (filter_sublist.filterMap _)
  rcases rows : store.sessions.filter (Session.restsOn digest) with _ | ⟨first, _ | ⟨second, rest⟩⟩
  · exact Nat.zero_le 1
  · exact Nat.le_refl 1
  · rw [rows] at named distinct
    obtain ⟨firstInside, one, firstGrant⟩ := named first (by simp)
    obtain ⟨secondInside, two, secondGrant⟩ := named second (by simp)
    have same := kept.once one two digest (kept.consumed first firstInside one digest firstGrant)
      (kept.consumed second secondInside two digest secondGrant)
    simp [firstGrant, secondGrant, same] at distinct

theorem Fresh.grants {server : Server} (fresh : Fresh server) :
    Tasks.Holds GrantsKept (fun request task store => task.Relies request store) server := by
  have none : server.store.granted = [] := by
    refine filterMap_eq_nil_iff.mpr fun row member => ?_
    simp [(fresh.sessions row member).1]
  refine ⟨⟨?_, fun row member request digest grant => ?_, ?_, ?_⟩, fun i => ⟨fun _ => by simp [none], fun factor holds => ?_⟩⟩
  · rw [none]
    exact nodup_nil
  · rw [(fresh.sessions row member).1] at grant
    cases grant
  · simp [fresh.log]
  · simp [fresh.log]
  · have unbegun := fresh.tasks i
    cases task : server.task i <;> rw [task] at unbegun holds <;> first | cases holds; done | exact unbegun.elim

/-- In every stretch of a run without a new setup the accepted time steps of a user increase,
in every stretch in which a recovery code is not issued again it is accepted at most once,
and no challenge has more than one session. -/
theorem secondFactors_single_use {host : Host} {start server : Server} (fresh : Fresh start)
    (reached : Reaches host (fun _ _ => True) start server) :
    (∀ panelUserId stretch older, server.store.log = stretch ++ older → .enrolled panelUserId ∉ stretch →
      (acceptedSteps panelUserId stretch).Pairwise (· > ·)) ∧
    (∀ codeHash stretch older, server.store.log = stretch ++ older → .issued codeHash ∉ stretch →
      stretch.count (.acceptedRecovery codeHash) ≤ 1) ∧
    ∀ digest, (server.store.sessions.filter (Session.restsOn digest)).length ≤ 1 := by
  have permits : ∀ (server : Server) (who : Nat × Moment), True →
      (server.task who.1).Permitted Allowance.all who.1 server.store :=
    fun server who _ => Task.permitted_all _ _ _
  have steps : StepsKept server.store := kept_by_runs permits (fun _ _ effect => effect.keeps_steps)
      ⟨by simp [fresh.log, acceptedSteps], by simp [fresh.log, acceptedSteps]⟩ reached
  have codes : CodesKept server.store :=
    kept_by_runs permits (fun _ _ effect => effect.keeps_codes) ⟨by simp [fresh.log], by simp [fresh.log]⟩ reached
  have grants := Tasks.Reaches.holds fresh.grants (fun server who _ holds => grants_turn holds.shared (holds.relied who.1)) reached
  refine ⟨fun panelUserId stretch older logged kept => ?_, fun codeHash stretch older logged kept => ?_,
    at_most_one grants.shared⟩
  · have increasing := steps.increasing panelUserId
    rw [logged] at increasing
    refine increasing.sublist (List.Sublist.filterMap _ (List.IsPrefix.sublist (Log.prefix_since ?_)))
    intro event member
    exact decide_eq_false fun same => kept (same ▸ member)
  · have bound := codes.once codeHash
    rw [logged] at bound
    refine Nat.le_trans (List.Sublist.count_le _ (List.IsPrefix.sublist (Log.prefix_since ?_))) bound
    intro event member
    exact decide_eq_false fun same => kept (same ▸ member)

def replayed : Server where
  store := plainStore [{ panelUserId := 1, secret := "seed", enabled := true, lastUsedStep := none }]
  task _ := .loginFinish { pendingToken := some "token", code := some "111111", origin := nowhere }

/-- Both have read the challenge and passed the gate before either checks its code. -/
def replayedTurns : List (Nat × Moment) := [0, 1, 0, 1, 0, 1, 0, 1, 0, 1, 0].map fun who => turnAt who 0 "drawn"

theorem replayed_fresh : Fresh replayed := by
  refine ⟨rfl, by simp [replayed, plainStore], ?_, fun _ => trivial⟩
  simp [replayed, plainStore]

theorem secondFactors_single_use_replayed :
    (∀ digest, ((replayed.after (advance plainHost) replayedTurns).store.sessions.filter
      (Session.restsOn digest)).length ≤ 1) ∧
    ((replayed.after (advance plainHost) replayedTurns).store.sessions.filter
      (Session.restsOn "sha256:token")).length = 1 ∧
    acceptedSteps 1 (replayed.after (advance plainHost) replayedTurns).store.log = [0] :=
  ⟨(secondFactors_single_use replayed_fresh (Tasks.Reaches.after .start replayedTurns)).2.2, rfl, rfl⟩

end Boron.Login
