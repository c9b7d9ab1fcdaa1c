import Boron.Login.Challenges
import Boron.Login.Windows

namespace Boron.Login
open List

/-- A request passes the gate once, and looks at a password or a code once and on its own
reservation in the bucket of that user. -/
def Backed (host : Host) (older : List Event) : Event → Prop
  | .reserved _ request => ∀ bucket, .reserved bucket request ∉ older
  | .verified request username _ => .reserved (host.loginBucket username true) request ∈ older ∧
    ∀ name now, .verified request name now ∉ older
  | _ => True

def Task.isUngated : Task → Bool
  | .loginBegin _ => true
  | .beginGate .. => true
  | .loginFinish _ => true
  | .finishGate _ => true
  | .operation _ => true
  | _ => false

def Task.isUnlooked : Task → Bool
  | .beginVerify .. => true
  | .finishCheck _ => true
  | other => other.isUngated

def Task.gates : Task → Bool
  | .beginGate .. => true
  | .finishGate _ => true
  | _ => false

def Task.looks : Task → Bool
  | .beginVerify .. => true
  | .finishCheck _ => true
  | _ => false

def Task.ticket (host : Host) : Task → Option String
  | .beginVerify credentials known => some (host.loginBucket credentials.username known)
  | .finishCheck factor => some (host.loginBucket factor.username true)
  | _ => none

def Task.asks : Task → Option (String × Bool)
  | .beginGate credentials known => some (credentials.username, known)
  | .beginVerify credentials known => some (credentials.username, known)
  | _ => none

structure Task.Backed (host : Host) (request : Nat) (task : Task) (store : Store) : Prop where
  ungated : task.isUngated = true → ∀ bucket, .reserved bucket request ∉ store.log
  unlooked : task.isUnlooked = true → ∀ name now, .verified request name now ∉ store.log
  ticket : ∀ bucket, task.ticket host = some bucket → .reserved bucket request ∈ store.log
  known : ∀ username known, task.asks = some (username, known) → known = (store.userNamed username).isSome

def Allowance.backed (host : Host) : Allowance where
  gate store request := ∀ bucket, .reserved bucket request ∉ store.log
  look store request username := .reserved (host.loginBucket username true) request ∈ store.log ∧
    ∀ name now, .verified request name now ∉ store.log
  grant _ _ := True
  change _ _ := True
  internal _ _ _ _ := trivial

/-- Only these requests may pass the gate, and only those may look. -/
def Allowance.only (gate look : Nat → Prop) : Allowance where
  gate _ request := gate request
  look _ request _ := look request
  grant _ _ := True
  change _ _ := True
  internal _ _ _ _ := trivial

section
variable {store : Store}

theorem reserve_log (store : Store) (request : Nat) (now : Int) (row : LoginAttempt) :
    (reserve request now row store).2.log = .reserved row.username request :: store.log ∨
      (reserve request now row store).1.isSome ∧ ∃ expiry,
        (reserve request now row store).2.log = .locked row.username expiry :: store.log := by
  by_cases many : row.failedCount + 1 > lockoutThreshold
  · simp only [reserve, many, if_true]
    exact .inr ⟨rfl, _, rfl⟩
  · exact .inl (by simp only [reserve, many, if_false])

theorem gate_log (store : Store) (request : Nat) (now : Int) (username : String) : ∃ earlier,
    (earlier = store.log ∨ earlier = .opened username now :: store.log) ∧
      ((checkLoginLockout request now username store).2.log = .reserved username request :: earlier ∨
        (checkLoginLockout request now username store).1.isSome ∧
          ((checkLoginLockout request now username store).2.log = earlier ∨ ∃ expiry,
            (checkLoginLockout request now username store).2.log = .locked username expiry :: earlier)) := by
  have reserving {row : LoginAttempt} (named : row.username = username) (before : Store) :
      (reserve request now row before).2.log = .reserved username request :: before.log ∨
        (reserve request now row before).1.isSome ∧ ((reserve request now row before).2.log = before.log ∨
          ∃ expiry, (reserve request now row before).2.log = .locked username expiry :: before.log) := by
    rcases reserve_log before request now row with reserved | ⟨shut, locked⟩
    · exact .inl (named ▸ reserved)
    · exact .inr ⟨shut, .inr (named ▸ locked)⟩
  unfold checkLoginLockout
  cases found : store.attempt username with
  | none => exact ⟨.opened username now :: store.log, .inr rfl, reserving rfl (store.note (.opened username now))⟩
  | some row =>
    have named : row.username = username := (Rows.byKey_some found).2
    cases state : row.lockedUntil with
    | none =>
      simp only [state]
      exact ⟨store.log, .inl rfl, reserving named store⟩
    | some lockedUntil =>
      simp only [state]
      split
      · exact ⟨store.log, .inl rfl, .inr ⟨rfl, .inl rfl⟩⟩
      · refine ⟨.opened username now :: store.log, .inr rfl, ?_⟩
        have named' : ({ row with lockedUntil := none, failedCount := 0 } : LoginAttempt).username = username := named
        exact reserving named' (store.note (.opened username now))

def Event.isPlain : Event → Bool
  | .reserved .. => false
  | .verified .. => false
  | _ => true

variable {left : Store} {allowance : Allowance}

theorem Effect.logs (effect : Effect allowance store left) :
    (∃ events, left.log = events ++ store.log ∧ ∀ event ∈ events, event.isPlain = true) ∨
    (∃ request username now, allowance.look store request username ∧
      left.log = .verified request username now :: store.log) ∨
    ∃ request username events, allowance.gate store request ∧
      left.log = .reserved username request :: events ++ store.log ∧ ∀ event ∈ events, event.isPlain = true := by
  cases effect with
  | look request username now permitted => exact .inr (.inl ⟨request, username, now, permitted, rfl⟩)
  | gate request now username permitted =>
    obtain ⟨earlier, same | opened, reserved | ⟨_, shut | ⟨expiry, locked⟩⟩⟩ := gate_log store request now username
    · exact .inr (.inr ⟨request, username, [], permitted, by rw [reserved, same]; rfl, by simp⟩)
    · exact .inl ⟨[], by rw [shut, same]; rfl, by simp⟩
    · exact .inl ⟨[.locked username expiry], by rw [locked, same]; rfl, by simp [Event.isPlain]⟩
    · exact .inr (.inr ⟨request, username, [.opened username now], permitted, by rw [reserved, opened]; rfl,
        by simp [Event.isPlain]⟩)
    · exact .inl ⟨[.opened username now], by rw [shut, opened]; rfl, by simp [Event.isPlain]⟩
    · exact .inl ⟨[.locked username expiry, .opened username now], by rw [locked, opened]; rfl, by simp [Event.isPlain]⟩
  | clear username => exact .inl ⟨[_], rfl, by simp [Event.isPlain]⟩
  | password panelUserId passwordHash permitted => exact .inl ⟨[_], rfl, by simp [Event.isPlain]⟩
  | enroll row unused => exact .inl ⟨[_], rfl, by simp [Event.isPlain]⟩
  | accept known credential step found same later => exact .inl ⟨[_], rfl, by simp [Event.isPlain]⟩
  | renew panelUserId fresh => exact .inl ⟨_, rfl, by simp [Event.isPlain]⟩
  | recovery now row present unused => exact .inl ⟨[_], rfl, by simp [Event.isPlain]⟩
  | consume request digest now =>
    obtain ⟨challenges, events, same, consumed⟩ := consumeChallenge_frame request digest now store
    refine .inl ⟨events, by rw [same], fun event member => ?_⟩
    rw [consumed event member]
    rfl
  | _ => exact .inl ⟨[], rfl, by simp⟩

theorem plain_backed {host : Host} {events log : List Event} (plain : ∀ event ∈ events, event.isPlain = true)
    (backed : Log.Throughout (Backed host) log) : Log.Throughout (Backed host) (events ++ log) := by
  refine backed.append fun event member older => ?_
  have := plain event member
  cases event <;> trivial

theorem Effect.keeps_backed {host : Host} (effect : Effect (Allowance.backed host) store left)
    (backed : Log.Throughout (Backed host) store.log) : Log.Throughout (Backed host) left.log := by
  rcases effect.logs with ⟨events, logged, plain⟩ | ⟨request, username, now, permitted, logged⟩ |
    ⟨request, username, events, permitted, logged, plain⟩
  · rw [logged]
    exact plain_backed plain backed
  · rw [logged]
    exact backed.cons permitted
  · rw [logged]
    refine (plain_backed plain backed).cons fun bucket member => ?_
    rcases mem_append.mp member with newer | older
    · cases plain _ newer
    · exact permitted bucket older

variable {gate look : Nat → Prop}

theorem effects_ungated (effects : Effects (Allowance.only gate look) store left)
    {request : Nat} (shut : ¬ gate request) (none : ∀ bucket, .reserved bucket request ∉ store.log) :
    ∀ bucket, .reserved bucket request ∉ left.log := by
  refine @effects_keep _ store (fun store => ∀ bucket, .reserved bucket request ∉ store.log)
    (fun store left effect none bucket member => ?_) left effects none
  rcases effect.logs with ⟨events, logged, plain⟩ | ⟨other, username, now, _, logged⟩ |
    ⟨other, username, events, permitted, logged, plain⟩
  · rw [logged, mem_append] at member
    rcases member with newer | older
    · cases plain _ newer
    · exact none bucket older
  · rw [logged, mem_cons] at member
    exact none bucket (member.resolve_left (by simp))
  · rw [logged, cons_append, mem_cons, mem_append] at member
    rcases member with own | newer | older
    · cases own
      exact shut permitted
    · cases plain _ newer
    · exact none bucket older

theorem effects_unlooked (effects : Effects (Allowance.only gate look) store left)
    {request : Nat} (blind : ¬ look request) (none : ∀ name now, .verified request name now ∉ store.log) :
    ∀ name now, .verified request name now ∉ left.log := by
  refine @effects_keep _ store (fun store => ∀ name now, .verified request name now ∉ store.log)
    (fun store left effect none name now member => ?_) left effects none
  rcases effect.logs with ⟨events, logged, plain⟩ | ⟨other, username, moment, permitted, logged⟩ |
    ⟨other, username, events, _, logged, plain⟩
  · rw [logged, mem_append] at member
    rcases member with newer | older
    · cases plain _ newer
    · exact none name now older
  · rw [logged, mem_cons] at member
    rcases member with own | older
    · cases own
      exact blind permitted
    · exact none name now older
  · rw [logged, cons_append, mem_cons, mem_append] at member
    rcases member with own | newer | older
    · cases own
    · cases plain _ newer
    · exact none name now older

theorem Effect.keeps_users (effect : Effect allowance store left) (username : String) :
    (left.userNamed username).isSome = (store.userNamed username).isSome := by
  cases effect with
  | gate request now bucket permitted =>
    obtain ⟨attempts, events, same, _⟩ := gate_frame store request now bucket
    rw [same]
    rfl
  | password panelUserId passwordHash permitted =>
    simp only [Store.userNamed]
    rw [Rows.byKey_map (by intro row; split <;> rfl), Option.isSome_map]
  | consume request digest now =>
    obtain ⟨challenges, events, same, _⟩ := consumeChallenge_frame request digest now store
    rw [same]
    rfl
  | outside disabled policy revoked =>
    simp only [Store.userNamed]
    rw [Rows.byKey_map (by intro row; rfl), Option.isSome_map]
  | _ => rfl

theorem effects_users (effects : Effects allowance store left) (username : String) :
    (left.userNamed username).isSome = (store.userNamed username).isSome :=
  @effects_keep allowance store (fun left => (left.userNamed username).isSome = (store.userNamed username).isSome)
    (fun _ _ effect same => (effect.keeps_users username).trans same) left effects rfl

variable {host : Host} {request : Nat} {moment : Moment} {task : Task}

theorem Task.Backed.permitted (backed : task.Backed host request store) :
    task.Permitted (Allowance.backed host) request store := by
  unfold Task.Permitted
  split
  · exact backed.ungated rfl
  · exact backed.ungated rfl
  · next credentials known =>
    intro found
    have asked : known = true := (backed.known credentials.username known rfl).trans found
    subst asked
    exact ⟨backed.ticket _ rfl, backed.unlooked rfl⟩
  · exact ⟨backed.ticket _ rfl, backed.unlooked rfl⟩
  · exact fun _ _ _ _ => trivial
  · exact fun _ _ _ _ => trivial
  · exact fun _ _ => trivial
  · trivial

theorem Task.permitted_only (passes : task.gates = true → gate request)
    (looks : task.looks = true → look request) : task.Permitted (Allowance.only gate look) request store := by
  unfold Task.Permitted
  split
  · exact passes rfl
  · exact passes rfl
  · exact fun _ => looks rfl
  · exact looks rfl
  · exact fun _ _ _ _ => trivial
  · exact fun _ _ _ _ => trivial
  · exact fun _ _ => trivial
  · trivial

theorem gateTurn_unlooked {now : Int} {username : String} {next : Task}
    (unlooked : (gateTurn (checkLoginLockout request now username store) next).1.isUnlooked = true) :
    (gateTurn (checkLoginLockout request now username store) next).1 = next ∧
      .reserved username request ∈ (gateTurn (checkLoginLockout request now username store) next).2.log := by
  obtain ⟨earlier, _, reserved | ⟨shut, _⟩⟩ := gate_log store request now username
  · unfold gateTurn at unlooked ⊢
    split
    · next refused =>
      rw [refused] at unlooked
      cases unlooked
    · refine ⟨rfl, ?_⟩
      rw [reserved]
      exact mem_cons_self
  · obtain ⟨retry, refused⟩ := Option.isSome_iff_exists.mp shut
    rw [gateTurn, refused] at unlooked
    cases unlooked

theorem advance_unlooked (unlooked : (advance host request moment task store).1.isUnlooked = true) :
    (∃ credentials, (advance host request moment task store) =
        (.beginGate credentials (store.userNamed credentials.username).isSome, store) ∧ task.isUngated = true) ∨
    (∃ factor, (advance host request moment task store) = (.finishGate factor, store) ∧ task.isUngated = true) ∨
    (∃ credentials known, task = .beginGate credentials known ∧
      (advance host request moment task store).1 = .beginVerify credentials known ∧
      .reserved (host.loginBucket credentials.username known) request ∈ (advance host request moment task store).2.log) ∨
    ∃ factor, task = .finishGate factor ∧ (advance host request moment task store).1 = .finishCheck factor ∧
      .reserved (host.loginBucket factor.username true) request ∈ (advance host request moment task store).2.log := by
  have ended {α : Type} {transaction : Transaction α} {next : α → Task} {before : Store}
      (blind : ∀ answer, (next answer).isUnlooked = false)
      (unlooked : (transaction.turn next before).1.isUnlooked = true) : False := by
    have shut := @turn_next α transaction next before (fun next => next.isUnlooked = false) blind fun _ => rfl
    rw [shut] at unlooked
    cases unlooked
  generalize result : advance host request moment task store = left at unlooked ⊢
  unfold advance at result
  split at result
  · split at result
    · subst result
      cases unlooked
    · split at result
      · subst result
        cases unlooked
      · exact .inl ⟨_, result.symm, rfl⟩
  · subst result
    cases unlooked
  · next credentials known =>
    subst result
    obtain ⟨same, reserved⟩ := gateTurn_unlooked unlooked
    exact .inr (.inr (.inl ⟨credentials, known, rfl, same, reserved⟩))
  · subst result
    refine (ended (fun answer => ?_) unlooked).elim
    cases answer <;> rfl
  · subst result
    simp only at unlooked
    split at unlooked <;> cases unlooked
  · subst result
    exact (ended (fun _ => rfl) unlooked).elim
  · split at result
    · subst result
      cases unlooked
    · split at result
      · subst result
        cases unlooked
      · next factor found => exact .inr (.inl ⟨factor, result.symm, rfl⟩)
  · subst result
    cases unlooked
  · next factor =>
    subst result
    obtain ⟨same, reserved⟩ := gateTurn_unlooked unlooked
    exact .inr (.inr (.inr ⟨factor, rfl, same, reserved⟩))
  · subst result
    refine (ended (fun answer => ?_) unlooked).elim
    split <;> rfl
  · subst result
    cases unlooked
  · subst result
    simp only at unlooked
    split at unlooked <;> cases unlooked
  · subst result
    cases unlooked
  · subst result
    exact (ended (fun _ => rfl) unlooked).elim
  · subst result
    exact (ended (fun _ => rfl) unlooked).elim
  · subst result
    cases unlooked

/-- Where a request stands with its reservation, after its own turn. -/
theorem Task.Backed.turn (backed : task.Backed host request store) :
    (advance host request moment task store).1.Backed host request (advance host request moment task store).2 := by
  by_cases unlooked : (advance host request moment task store).1.isUnlooked = true
  · rcases advance_unlooked unlooked with ⟨credentials, result, ungated⟩ | ⟨factor, result, ungated⟩ |
      ⟨credentials, known, same, result, reserved⟩ | ⟨factor, same, result, reserved⟩
    · have blind : task.isUnlooked = true := by cases task <;> first | rfl | exact ungated
      rw [result]
      refine ⟨fun _ => backed.ungated ungated, fun _ => backed.unlooked blind, ?_, ?_⟩
      · rintro _ ⟨⟩
      · rintro _ _ ⟨⟩
        rfl
    · have blind : task.isUnlooked = true := by cases task <;> first | rfl | exact ungated
      rw [result]
      refine ⟨fun _ => backed.ungated ungated, fun _ => backed.unlooked blind, ?_, ?_⟩
      · rintro _ ⟨⟩
      · rintro _ _ ⟨⟩
    · subst same
      have effects : Effects (Allowance.only (fun _ => True) fun _ => False) store
          (advance host request moment (.beginGate credentials known) store).2 :=
        advance_effects request _ (Task.permitted_only (fun _ => trivial) (by rintro ⟨⟩))
      rw [result]
      refine ⟨by rintro ⟨⟩, fun _ => effects_unlooked effects id (backed.unlooked rfl), ?_, ?_⟩
      · rintro _ ⟨⟩
        exact reserved
      · rintro _ _ ⟨⟩
        rw [effects_users effects]
        exact backed.known _ _ rfl
    · subst same
      have effects : Effects (Allowance.only (fun _ => True) fun _ => False) store
          (advance host request moment (.finishGate factor) store).2 :=
        advance_effects request _ (Task.permitted_only (fun _ => trivial) (by rintro ⟨⟩))
      rw [result]
      refine ⟨by rintro ⟨⟩, fun _ => effects_unlooked effects id (backed.unlooked rfl), ?_, ?_⟩
      · rintro _ ⟨⟩
        exact reserved
      · rintro _ _ ⟨⟩
  · refine ⟨fun ungated => absurd ?_ unlooked, fun blind => absurd blind unlooked, fun bucket held => absurd ?_ unlooked,
      fun username known asked => absurd ?_ unlooked⟩
    · cases next : (advance host request moment task store).1 <;> rw [next] at ungated <;> first | rfl | cases ungated
    · cases next : (advance host request moment task store).1 <;> rw [next] at held <;> first | rfl | cases held
    · cases next : (advance host request moment task store).1 <;> rw [next] at asked <;> first | rfl | cases asked

theorem Task.Backed.other {other : Nat} {waiting : Task} (different : other ≠ request)
    (backed : waiting.Backed host other store) : waiting.Backed host other (advance host request moment task store).2 := by
  have effects : Effects (Allowance.only (· = request) (· = request)) store
      (advance host request moment task store).2 :=
    advance_effects request task (Task.permitted_only (fun _ => rfl) fun _ => rfl)
  refine ⟨fun ungated => effects_ungated effects different (backed.ungated ungated),
    fun blind => effects_unlooked effects different (backed.unlooked blind),
    fun bucket held => effects_log effects (backed.ticket bucket held), fun username known asked => ?_⟩
  rw [effects_users effects]
  exact backed.known username known asked

theorem backed_turn (kept : Log.Throughout (Login.Backed host) store.log) (backed : task.Backed host request store) :
    Tasks.Keeps (fun store => Log.Throughout (Login.Backed host) store.log)
      (fun request task store => task.Backed host request store) request store
      (advance host request moment task store) where
  shared := effects_keep (fun _ _ effect => effect.keeps_backed) (advance_effects request task backed.permitted) kept
  own := backed.turn
  others _ _ different backed := backed.other different

end

theorem Fresh.backed {host : Host} {server : Server} (fresh : Fresh server) :
    Tasks.Holds (fun store => Log.Throughout (Backed host) store.log)
      (fun request task store => task.Backed host request store) server := by
  refine ⟨?_, fun i => ⟨?_, ?_, fun bucket held => ?_, fun username known asked => ?_⟩⟩
  · rw [fresh.log]
    exact .nil
  · simp [fresh.log]
  · simp [fresh.log]
  · have unbegun := fresh.tasks i
    cases task : server.task i <;> rw [task] at unbegun held <;> first | cases held; done | exact unbegun.elim
  · have unbegun := fresh.tasks i
    cases task : server.task i <;> rw [task] at unbegun asked <;> first | cases asked; done | exact unbegun.elim

def lookers (log : List Event) : List Nat := log.filterMap fun
  | .verified request _ _ => some request
  | _ => none

def reservers (bucket : String) (log : List Event) : List Nat := log.filterMap fun
  | .reserved other request => if other = bucket then some request else none
  | _ => none

theorem mem_lookers {request : Nat} {log : List Event} :
    request ∈ lookers log ↔ ∃ name now, .verified request name now ∈ log := by
  constructor
  · intro member
    obtain ⟨event, inside, same⟩ := mem_filterMap.mp member
    cases event <;> simp only [Option.some.injEq, reduceCtorEq] at same
    subst same
    exact ⟨_, _, inside⟩
  · rintro ⟨name, now, inside⟩
    exact mem_filterMap.mpr ⟨_, inside, rfl⟩

theorem lookers_nodup {host : Host} {log : List Event} (backed : Log.Throughout (Backed host) log) : (lookers log).Nodup := by
  induction backed with
  | nil => exact nodup_nil
  | @cons older event _ admissible ih =>
    cases event with
    | verified request username now =>
      refine Nodup.cons (fun again => ?_) ih
      obtain ⟨name, earlier, inside⟩ := mem_lookers.mp again
      exact admissible.2 name earlier inside
    | _ => exact ih

theorem reservers_length (bucket : String) (log : List Event) : (reservers bucket log).length = log.countP (reserves bucket) := by
  induction log with
  | nil => rfl
  | cons event log ih =>
    cases event with
    | reserved other request =>
      by_cases same : other = bucket
      · simpa [reservers, reserves, same] using ih
      · simpa [reservers, reserves, same] using ih
    | _ => simpa [reservers, reserves] using ih

theorem stretch_few {bucket : String} {stretch older : List Event} (windowed : Log.Throughout Windowed (stretch ++ older))
    (within : ∀ event ∈ stretch, opensWindow bucket event = false) : stretch.countP (reserves bucket) ≤ lockoutThreshold := by
  induction stretch with
  | nil => exact Nat.zero_le _
  | cons event stretch ih =>
    cases windowed with
    | cons earlier admissible =>
      have inside : ∀ other ∈ stretch, opensWindow bucket other = false :=
        fun other member => within other (mem_cons_of_mem event member)
      by_cases counted : reserves bucket event = true
      · cases event <;> simp only [reserves, Bool.false_eq_true, decide_eq_true_eq] at counted
        subst counted
        have before : stretch.countP (reserves _) ≤ reservations _ (stretch ++ older) :=
          (Log.prefix_since inside).sublist.countP_le
        rw [countP_cons_of_pos (by simp [reserves])]
        exact Nat.lt_of_le_of_lt before admissible.1
      · rw [countP_cons_of_neg counted]
        exact ih earlier inside

/-- Every look at a password or a code rests on a reservation of its own, made before it in
the bucket of that user. In a stretch without a new window a bucket makes at most
`lockoutThreshold` reservations, so that no more looks rest on them. No reservation is made
between a lock and its end: a window ends only with a cleared counter or with a lock whose
time is over by the clock of the request that opens the next window. -/
theorem login_throttled {host : Host} {start server : Server} (fresh : Fresh start)
    (reached : Reaches host (fun _ _ => True) start server) :
    Log.Throughout (Backed host) server.store.log ∧ Log.Throughout Windowed server.store.log ∧
      ∀ bucket newer stretch older, server.store.log = newer ++ (stretch ++ older) →
        (∀ event ∈ stretch, opensWindow bucket event = false) →
        ((lookers server.store.log).filter (· ∈ reservers bucket stretch)).length ≤ lockoutThreshold := by
  have backed := Tasks.Reaches.holds fresh.backed (fun server who _ holds => backed_turn holds.shared (holds.relied who.1)) reached
  have before : GateKept start.store := by
    refine ⟨fresh.log ▸ .nil, fun bucket => ?_⟩
    rw [fresh.log]
    refine ⟨Nat.zero_le _, ?_, ?_, ?_⟩
    · exact fun row _ _ => ⟨Nat.zero_le _, by simp [Unlocked]⟩
    · exact fun row lockedUntil _ _ => ⟨.inl (by simp), by simp⟩
    · exact fun _ => ⟨fun now => .inl (by simp), by simp [Unlocked]⟩
  have gate : GateKept server.store :=
    kept_by_runs (fun server who _ => Task.permitted_all _ _ _) (fun _ _ effect => effect.keeps_gate) before reached
  refine ⟨backed.shared, gate.windowed, fun bucket newer stretch older logged within => ?_⟩
  have windowed := gate.windowed
  rw [logged] at windowed
  have distinct := (lookers_nodup backed.shared).filter (· ∈ reservers bucket stretch)
  have inside : (lookers server.store.log).filter (· ∈ reservers bucket stretch) ⊆ reservers bucket stretch :=
    fun request member => of_decide_eq_true (List.mem_filter.mp member).2
  calc ((lookers server.store.log).filter (· ∈ reservers bucket stretch)).length
      ≤ (reservers bucket stretch).length := (List.subperm_of_subset distinct inside).length_le
    _ = stretch.countP (reserves bucket) := reservers_length bucket stretch
    _ ≤ lockoutThreshold := stretch_few windowed.older within

def guessing : Server where
  store := plainStore []
  task i := .loginBegin { username := some "alice", password := some (if i = 0 then "old" else "guess"), origin := nowhere }

/-- All six read the user and pass by the gate, which locks at the sixth, and then the first
looks at its password. -/
def guessingTurns : List (Nat × Moment) :=
  [0, 1, 2, 3, 4, 5, 0, 1, 2, 3, 4, 5, 0].map fun who => turnAt who 0 "drawn"

theorem guessing_fresh : Fresh guessing := ⟨rfl, by simp [guessing, plainStore], by simp [guessing, plainStore], fun _ => trivial⟩

theorem login_throttled_guessing :
    (∀ stretch older, (guessing.after (advance plainHost) guessingTurns).store.log = stretch ++ older →
      (∀ event ∈ stretch, opensWindow "$login-user-alice$" event = false) →
      ((lookers (guessing.after (advance plainHost) guessingTurns).store.log).filter
        (· ∈ reservers "$login-user-alice$" stretch)).length ≤ lockoutThreshold) ∧
    reservations "$login-user-alice$" (guessing.after (advance plainHost) guessingTurns).store.log = 5 ∧
    lookers (guessing.after (advance plainHost) guessingTurns).store.log = [0] :=
  ⟨fun stretch older logged within => (login_throttled guessing_fresh (Tasks.Reaches.after .start guessingTurns)).2.2
      "$login-user-alice$" [] stretch older logged within,
    rfl, by decide +kernel⟩

/-- While the bucket of the user is locked, nobody looks at a password or a code of the user. -/
def NeverWhileLocked (host : Host) (log : List Event) : Prop :=
  ∀ newer older request username now, log = newer ++ .verified request username now :: older →
    ∀ expiry, .locked (host.loginBucket username true) expiry ∈
      Log.since (endsLock (host.loginBucket username true)) older → expiry ≤ now

theorem reserved_attempt_looks_while_locked :
    ¬ ∀ (host : Host) (start server : Server), Fresh start → Reaches host (fun _ _ => True) start server →
      NeverWhileLocked host server.store.log := by
  intro claimed
  have never := claimed plainHost guessing _ guessing_fresh (Tasks.Reaches.after .start guessingTurns)
  have log : (guessing.after (advance plainHost) guessingTurns).store.log =
      [] ++ .verified 0 "alice" 0 :: .locked "$login-user-alice$" (seconds 900) ::
        (guessing.after (advance plainHost) guessingTurns).store.log.drop 2 := by
    rfl
  have locked : .locked (plainHost.loginBucket "alice" true) (seconds 900) ∈
      Log.since (endsLock (plainHost.loginBucket "alice" true)) (.locked "$login-user-alice$" (seconds 900) ::
        (guessing.after (advance plainHost) guessingTurns).store.log.drop 2) := by
    decide
  have passed := never _ _ _ _ _ log _ locked
  exact absurd passed (by decide)

end Boron.Login
