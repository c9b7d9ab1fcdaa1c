import Mathlib.Data.List.Pairwise
import Boron.HealthAlerts.Alerts

namespace Boron.HealthAlerts
open List
open Notices (Channel Dispatch Settings Store Target EventKey)

variable {ι : Type} {i : ι} {settings : Settings} {state : State} {nows : List Nat}

/-- What else happens leaves the records of health alerts as they are. -/
def Aside (store after : Store ι) : Prop := ∀ alert : Alert, ∀ channel : Channel,
  after.recorded (alert.call.eventKey channel) = store.recorded (alert.call.eventKey channel)

/-- The calls of `dispatch`, one after another, and what each raises. -/
inductive Sends (settings : Settings) (i : ι) : List Alert → Store ι → List (Alert × Target) → Prop
  | done (store : Store ι) : Sends settings i [] store []
  | next {rest : List Alert} {store before middle : Store ι} {raised : List Target} {later : List (Alert × Target)}
    (alert : Alert) (now : Nat) (aside : Aside store before)
    (ran : Notices.Ran settings i (Notices.begins (.dispatch alert.call) now) before raised .idle middle)
    (sends : Sends settings i rest middle later) :
    Sends settings i (alert :: rest) store (raised.map (alert, ·) ++ later)

/-- No health alert has been raised yet. -/
def Unsent (store : Store ι) : Prop :=
  ∀ alert : Alert, ∀ channel : Channel, store.recorded (alert.call.eventKey channel) = false

def Alert.key (alert : Alert) (channel : Channel) : EventKey := alert.call.eventKey channel

variable {alert : Alert} {channel : Channel}

theorem key_run : (alert.key channel).runId ≠ none := nofun

variable {alert other : Alert}

theorem key_inj {channel again : Channel} (same : alert.key channel = other.key again) :
    channel = again ∧ alert.kind.event = other.kind.event ∧ alert.jobId = other.jobId := by
  have run : some alert.jobId = some other.jobId := congrArg EventKey.runId same
  exact ⟨congrArg EventKey.channel same, congrArg EventKey.event same, Option.some.inj run⟩

variable {store : Store ι} {target : Target}

theorem mem_due : target ∈ Notices.due settings store alert.call ↔ target ∈ alert.call.targets settings ∧
      (target.2 = none → store.recorded (alert.key target.1) = false) := by
  unfold Notices.due Alert.key
  rw [mem_filter, Bool.or_eq_true, Bool.not_eq_true']
  refine and_congr Iff.rfl ?_
  cases target.2 with
  | none => exact ⟨fun either _ => either.resolve_left Bool.false_ne_true, fun fresh => .inr (fresh rfl)⟩
  | some recipient => exact ⟨fun _ => nofun, fun _ => .inl rfl⟩

variable {call : Dispatch}

theorem nodup_digestRecipients : (call.digestRecipients settings channel).Nodup := by
  unfold Dispatch.digestRecipients
  cases channel with
  | email => exact Nodup.map (fun _ _ same => Option.some.inj same) (Notices.nodup_emailRecipients settings _ _ _)
  | telegram =>
    dsimp only
    split
    · exact nodup_singleton _
    · exact nodup_nil
  | webhook => exact nodup_nil
  | other => exact nodup_singleton _

theorem nodup_targets : (call.targets settings).Nodup := by
  unfold Dispatch.targets
  split
  · exact nodup_nil
  · refine nodup_append.mpr ⟨?_, ?_, fun one first other second => ?_⟩
    · split
      · refine nodup_flatMap.mpr ⟨fun channel _ => ?_, ?_⟩
        · exact Nodup.map (fun _ _ same => Option.some.inj (congrArg Prod.snd same)) nodup_digestRecipients
        · refine (Notices.nodup_fromKeys call.channels).imp fun {one other} different target first second => ?_
          obtain ⟨_, _, rfl⟩ := mem_map.mp first
          obtain ⟨_, _, same⟩ := mem_map.mp second
          exact different (congrArg Prod.fst same).symm
      · exact nodup_nil
    · exact Nodup.map (fun _ _ same => congrArg Prod.fst same) ((Notices.nodup_fromKeys call.channels).filter _)
    · obtain ⟨_, _, rfl⟩ := mem_map.mp second
      split at first
      · obtain ⟨_, _, inside⟩ := mem_flatMap.mp first
        obtain ⟨_, _, rfl⟩ := mem_map.mp inside
        nofun
      · cases first

def sentKeys (log : List (Alert × Target)) : List EventKey :=
  log.filterMap fun entry => if entry.2.2 = none then some (entry.1.key entry.2.1) else none

theorem mem_sentKeys {log : List (Alert × Target)} {key : EventKey} :
    key ∈ sentKeys log ↔ ∃ alert channel, (alert, (channel, none)) ∈ log ∧ alert.key channel = key := by
  unfold sentKeys
  rw [mem_filterMap]
  constructor
  · rintro ⟨⟨alert, channel, recipient⟩, member, sent⟩
    split at sent
    · next none =>
      subst none
      exact ⟨alert, channel, member, Option.some.inj sent⟩
    · cases sent
  · rintro ⟨alert, channel, member, rfl⟩
    exact ⟨(alert, channel, none), member, rfl⟩

structure Raised (settings : Settings) (list : List Alert) (store : Store ι) (log : List (Alert × Target)) : Prop where
  listed : ∀ alert target, (alert, target) ∈ log → alert ∈ list ∧ target ∈ alert.call.targets settings
  once : (sentKeys log).Nodup
  fresh : ∀ (alert : Alert) channel, alert.key channel ∈ sentKeys log → store.recorded (alert.key channel) = false
  covered : ∀ alert ∈ list, ∀ channel, (channel, none) ∈ alert.call.targets settings →
    store.recorded (alert.key channel) = true ∨ alert.key channel ∈ sentKeys log
  digests : ∀ alert channel recipient,
    log.count (alert, (channel, some recipient)) = list.count alert * (alert.call.targets settings).count (channel, some recipient)

theorem sentKeys_append {one other : List (Alert × Target)} : sentKeys (one ++ other) = sentKeys one ++ sentKeys other :=
  filterMap_append

variable {raised : List Target}

theorem mem_own : (other, target) ∈ raised.map (alert, ·) ↔ other = alert ∧ target ∈ raised := by
  rw [mem_map]
  constructor
  · rintro ⟨inside, member, same⟩
    cases same
    exact ⟨rfl, member⟩
  · rintro ⟨rfl, member⟩
    exact ⟨target, member, rfl⟩

theorem sentKeys_own :
    sentKeys (raised.map (alert, ·)) = (raised.filter fun target => target.2.isNone).map fun target => alert.key target.1 := by
  induction raised with
  | nil => rfl
  | cons target raised ih =>
    obtain ⟨channel, recipient⟩ := target
    cases recipient with
    | none => exact congrArg (alert.key channel :: ·) ih
    | some recipient => exact ih

theorem nodup_own (distinct : raised.Nodup) : (sentKeys (raised.map (alert, ·))).Nodup := by
  rw [sentKeys_own]
  refine Nodup.map_on (fun one first other second same => ?_) (distinct.filter _)
  obtain ⟨channel, recipient⟩ := one
  obtain ⟨again, another⟩ := other
  cases Option.isNone_iff_eq_none.mp (mem_filter.mp first).2
  cases Option.isNone_iff_eq_none.mp (mem_filter.mp second).2
  cases (key_inj same).1
  rfl

theorem count_own :
    (raised.map (alert, ·)).count (other, target) = if alert = other then raised.count target else 0 := by
  split
  · next same =>
    subst same
    exact count_map_of_injective raised (alert, ·) (fun _ _ same => congrArg Prod.snd same) target
  · next different =>
    refine count_eq_zero.mpr fun member => different ?_
    exact (mem_own.mp member).1.symm

theorem count_due {recipient : Option String} :
    (Notices.due settings store alert.call).count (channel, some recipient) =
      (alert.call.targets settings).count (channel, some recipient) := by
  exact count_filter rfl

theorem sends_raised {list : List Alert} {log : List (Alert × Target)}
    (sends : Sends settings i list store log) : Raised settings list store log := by
  induction sends with
  | done store =>
    refine ⟨fun _ _ member => absurd member not_mem_nil, nodup_nil, fun _ _ member => ?_,
      fun _ member => absurd member not_mem_nil, fun alert channel recipient => ?_⟩
    · exact absurd member not_mem_nil
    · rw [count_nil, count_nil, Nat.zero_mul]
  | @next rest store before middle raised later alert now aside ran sends ih =>
    obtain ⟨listed, once, fresh, covered, digests⟩ := ih
    obtain ⟨rfl, recorded⟩ := Notices.dispatch_ran (Option.some_ne_none alert.jobId) ran
    have same : ∀ (other : Alert) channel, before.recorded (other.key channel) = store.recorded (other.key channel) :=
      fun other channel => aside other channel
    have own : ∀ (other : Alert) channel, other.key channel ∈ sentKeys ((Notices.due settings before alert.call).map (alert, ·)) →
        store.recorded (other.key channel) = false ∧ middle.recorded (other.key channel) = true := by
      intro other channel member
      obtain ⟨sender, again, entry, named⟩ := mem_sentKeys.mp member
      obtain ⟨rfl, due⟩ := mem_own.mp entry
      rw [← named]
      refine ⟨(same sender again).symm.trans ((mem_due.mp due).2 rfl), ?_⟩
      exact (recorded _ key_run).mpr (.inr ⟨again, due, rfl⟩)
    refine ⟨fun other target member => ?_, ?_, fun other channel member => ?_, fun other member channel targeted => ?_,
      fun other channel recipient => ?_⟩
    · rcases mem_append.mp member with first | second
      · obtain ⟨rfl, due⟩ := mem_own.mp first
        exact ⟨mem_cons_self, (mem_due.mp due).1⟩
      · obtain ⟨inside, targeted⟩ := listed other target second
        exact ⟨mem_cons_of_mem alert inside, targeted⟩
    · rw [sentKeys_append]
      refine nodup_append.mpr ⟨nodup_own (nodup_targets.filter _), once, fun key first key' second => ?_⟩
      rintro rfl
      obtain ⟨sender, channel, _, rfl⟩ := mem_sentKeys.mp second
      have stored := (own sender channel first).2
      rw [fresh sender channel second] at stored
      cases stored
    · rw [sentKeys_append] at member
      rcases mem_append.mp member with first | second
      · exact (own other channel first).1
      · have unstored := fresh other channel second
        rw [← same]
        by_contra stored
        have later := (recorded (other.key channel) key_run).mpr (.inl (Bool.of_not_eq_false stored))
        rw [unstored] at later
        cases later
    · rw [sentKeys_append]
      rcases mem_cons.mp member with rfl | inside
      · cases known : store.recorded (other.key channel) with
        | true => exact .inl rfl
        | false =>
          refine .inr (mem_append_left _ (mem_sentKeys.mpr ⟨other, channel, mem_own.mpr ⟨rfl, ?_⟩, rfl⟩))
          exact mem_due.mpr ⟨targeted, fun _ => (same other channel).trans known⟩
      · rcases covered other inside channel targeted with stored | sent
        · rcases (recorded _ key_run).mp stored with before | ⟨again, due, named⟩
          · exact .inl ((same other channel).symm.trans before)
          · exact .inr (mem_append_left _ (mem_sentKeys.mpr ⟨alert, again, mem_own.mpr ⟨rfl, due⟩, named.symm⟩))
        · exact .inr (mem_append_right _ sent)
    · rw [count_append, count_own, digests, count_due, count_cons]
      by_cases mine : alert = other
      · subst mine
        rw [if_pos rfl, if_pos (beq_self_eq_true alert), Nat.succ_mul, Nat.add_comm]
      · rw [if_neg mine, if_neg (fun same => mine (beq_iff_eq.mp same)), Nat.zero_add, Nat.add_zero]

/-- Two unhealthy things that have one delivery key: the destinations of a pair, or two pairs that were never
backed up and whose made-up run numbers agree. -/
inductive Clash : Alert → Alert → Prop
  | destination (policy : Policy) (account : Account) (latest : Option Run) (one other : Nat) (different : one ≠ other) :
    Clash { kind := .unavailable one, policy, account, latest } { kind := .unavailable other, policy, account, latest }
  | number (alert other : Alert) (event : alert.kind.event = other.kind.event) (never : alert.latest = none)
    (neither : other.latest = none) (pairs : (alert.policy.id, alert.account.id) ≠ (other.policy.id, other.account.id))
    (same : alert.policy.id * 1000000 + alert.account.id = other.policy.id * 1000000 + other.account.id) : Clash alert other

theorem Unhealthy.known {now : Nat} (unhealthy : Unhealthy state now alert) :
    alert.policy ∈ state.policies ∧ alert.account ∈ state.accounts ∧
      alert.latest = latest state alert.policy alert.account := by
  cases unhealthy with
  | overdue policy account known _ hosted => exact ⟨known, hosted, rfl⟩
  | unavailable policy account destinationId known _ hosted => exact ⟨known, hosted, rfl⟩

theorem latest_belongs {policy : Policy} {account : Account} {run : Run} (newest : latest state policy account = some run) :
    run ∈ state.runs ∧ run.policyId = policy.id ∧ run.accountId = account.id := by
  have member := mem_mergeSort.mp (List.mem_of_head? newest)
  obtain ⟨stored, chosen⟩ := mem_filter.mp member
  obtain ⟨⟨_, policy⟩, account⟩ := (Bool.and_eq_true_iff.trans (and_congr_left' Bool.and_eq_true_iff)).mp chosen
  exact ⟨stored, of_decide_eq_true policy, of_decide_eq_true account⟩

theorem synthetic_neg {policy : Policy} (positive : 0 < policy.id) (account : Account) (id : Nat) :
    (id : Int) ≠ synthetic policy.id account.id := by
  unfold synthetic
  omega

theorem synthetic_inj {policyId accountId again other : Nat} (same : synthetic policyId accountId = synthetic again other) :
    policyId * 1000000 + accountId = again * 1000000 + other :=
  Int.ofNat.inj (Int.neg_inj.mp same)

variable {one other : Alert}

theorem same_pair {now later : Nat} (first : Unhealthy state now one) (second : Unhealthy state later other)
    (policy : one.policy.id = other.policy.id) (account : one.account.id = other.account.id) :
    one.policy = other.policy ∧ one.account = other.account ∧ one.latest = other.latest := by
  obtain ⟨known, hosted, newest⟩ := first.known
  obtain ⟨known', hosted', newest'⟩ := second.known
  have policies := inj_on_of_nodup_map state.policyIds known known' policy
  have accounts := inj_on_of_nodup_map state.accountIds hosted hosted' account
  exact ⟨policies, accounts, by rw [newest, newest', policies, accounts]⟩

theorem overdue_event {destinationId : Nat} : Kind.overdue.event ≠ (Kind.unavailable destinationId).event :=
  show "backup.overdue" ≠ "backup.destination_unavailable" by decide

theorem clash_of_pair (different : one ≠ other) (event : one.kind.event = other.kind.event)
    (policies : one.policy = other.policy) (accounts : one.account = other.account) (runs : one.latest = other.latest) :
    Clash one other := by
  obtain ⟨kind, policy, account, latest⟩ := one
  obtain ⟨kind', policy', account', latest'⟩ := other
  subst policies accounts runs
  cases kind with
  | overdue =>
    cases kind' with
    | overdue => exact absurd rfl different
    | unavailable destinationId => exact absurd event overdue_event
  | unavailable destinationId =>
    cases kind' with
    | overdue => exact absurd event.symm overdue_event
    | unavailable again =>
      exact .destination policy account latest destinationId again fun same => different (by rw [same])

theorem clash_iff {now later : Nat} (first : Unhealthy state now one) (second : Unhealthy state later other)
    (different : one ≠ other) : (one.kind.event = other.kind.event ∧ one.jobId = other.jobId) ↔ Clash one other := by
  obtain ⟨known, hosted, newest⟩ := first.known
  obtain ⟨known', hosted', newest'⟩ := second.known
  constructor
  · rintro ⟨event, number⟩
    unfold Alert.jobId at number
    cases ran : one.latest with
    | some run =>
      rw [ran] at number
      cases ran' : other.latest with
      | some run' =>
        rw [ran'] at number
        obtain ⟨stored, policy, account⟩ := latest_belongs (newest.symm.trans ran)
        obtain ⟨stored', policy', account'⟩ := latest_belongs (newest'.symm.trans ran')
        cases inj_on_of_nodup_map state.runIds stored stored' (Int.ofNat.inj number)
        obtain ⟨policies, accounts, runs⟩ := same_pair first second (policy.symm.trans policy') (account.symm.trans account')
        exact clash_of_pair different event policies accounts runs
      | none =>
        rw [ran'] at number
        exact absurd number (synthetic_neg (state.positive _ known') _ _)
    | none =>
      rw [ran] at number
      cases ran' : other.latest with
      | some run' =>
        rw [ran'] at number
        exact absurd number.symm (synthetic_neg (state.positive _ known) _ _)
      | none =>
        rw [ran'] at number
        by_cases pairs : (one.policy.id, one.account.id) = (other.policy.id, other.account.id)
        · obtain ⟨policy, account⟩ := Prod.mk.inj pairs
          obtain ⟨policies, accounts, runs⟩ := same_pair first second policy account
          exact clash_of_pair different event policies accounts runs
        · exact .number one other event ran ran' pairs (synthetic_inj number)
  · rintro (⟨policy, account, latest, one, other, _⟩ | ⟨one, other, event, never, neither, _, same⟩)
    · exact ⟨rfl, rfl⟩
    · refine ⟨event, ?_⟩
      unfold Alert.jobId synthetic
      rw [never, neither, same]

/-- An alert is listed once if there are no two calls at which it is due. -/
theorem count_listed : (nows.flatMap (alerts state)).count alert ≤ 1 ↔
    nows.Pairwise fun one other => ¬(Unhealthy state one alert ∧ Unhealthy state other alert) := by
  induction nows with
  | nil => exact ⟨fun _ => .nil, fun _ => Nat.zero_le 1⟩
  | cons now nows ih =>
    rw [flatMap_cons, count_append, pairwise_cons, ← ih]
    by_cases due : Unhealthy state now alert
    · rw [count_eq_one_of_mem nodup_alerts (mem_alerts.mpr due)]
      have later : (nows.flatMap (alerts state)).count alert = 0 ↔ ∀ other ∈ nows, ¬Unhealthy state other alert := by
        rw [count_eq_zero, mem_flatMap]
        exact ⟨fun absent other member unhealthy => absent ⟨other, member, mem_alerts.mpr unhealthy⟩,
          fun none ⟨other, member, listed⟩ => none other member (mem_alerts.mp listed)⟩
      constructor
      · intro few
        have zero : (nows.flatMap (alerts state)).count alert = 0 := by omega
        exact ⟨fun other member both => later.mp zero other member both.2, by omega⟩
      · rintro ⟨apart, _⟩
        have zero := later.mpr fun other member unhealthy => apart other member ⟨due, unhealthy⟩
        omega
    · rw [count_eq_zero.mpr fun listed => due (mem_alerts.mp listed), Nat.zero_add]
      exact ⟨fun few => ⟨fun other _ both => due both.1, few⟩, And.right⟩

section
variable {list : List Alert} {store : Store ι} {log : List (Alert × Target)}

/-- If two entries are sent at once, then they have different keys. -/
def Apart (one other : Alert × Target) : Prop :=
  one.2.2 = none → other.2.2 = none → one.1.key one.2.1 ≠ other.1.key other.2.1

section
variable (run : Raised settings list store log)
include run

theorem Raised.apart : log.Pairwise Apart := by
  have once := run.once
  refine (pairwise_filterMap.mp once).imp fun {one other} apart none_first none_second => ?_
  exact apart _ (if_pos none_first) _ (if_pos none_second)

theorem Raised.count_le {alert : Alert} {channel : Channel} : log.count (alert, (channel, none)) ≤ 1 := by
  by_contra many
  have twice := run.apart.sublist (replicate_sublist_iff.mpr (Nat.lt_of_not_le many))
  exact (pairwise_cons.mp twice).1 _ mem_cons_self rfl rfl rfl

theorem Raised.key_unique {alert other : Alert} {channel : Channel}
    (first : (alert, (channel, none)) ∈ log) (second : (other, (channel, none)) ∈ log)
    (same : alert.key channel = other.key channel) : alert = other := by
  by_contra different
  have : Std.Symm Apart := ⟨fun _ _ apart first second same => apart second first same.symm⟩
  exact run.apart.forall first second (fun pair => different (congrArg Prod.fst pair)) rfl rfl same

end

end

theorem key_of (event : alert.kind.event = other.kind.event)
    (number : alert.jobId = other.jobId) : alert.key channel = other.key channel := by
  unfold Alert.key Dispatch.eventKey Alert.call
  rw [event, number]

def calmly (settings : Settings) : Notices.Moment :=
  { call := .flush none, stops := false, raises := false, now := 0, settings, outcome := .accepted }

theorem calmly_ran {task next last : Notices.Task ι} {store after left : Store ι} {later : List Target} (busy : task ≠ .idle)
    (goes : Notices.advance i (calmly settings) task store = (next, after))
    (rest : Notices.Ran settings i next after later last left) :
    Notices.Ran settings i task store (Notices.raises task ++ later) last left := by
  have ran : Notices.Ran settings i (Notices.advance i (calmly settings) task store).1
      (Notices.advance i (calmly settings) task store).2 later last left := by
    rw [goes]
    exact rest
  exact Notices.Ran.turn (calmly settings) busy ⟨rfl, rfl, nofun⟩ ran

theorem webhook_ran (only : call.channels = [.webhook]) (all : call.selected = none)
    (immediate : call.frequency = .immediate) (store : Store ι) :
    ∃ raised after, Notices.Ran settings i (Notices.begins (.dispatch call) 0) store raised .idle after := by
  have begun : (Notices.begins (.dispatch call) 0 : Notices.Task ι) = .dispatch call [] (.route [.webhook]) := by
    unfold Notices.begins
    dsimp only
    rw [all, only, if_pos immediate]
    rfl
  rw [begun]
  have ended : ∀ store : Store ι, Notices.Ran settings i (.dispatch call [] (.route [])) store ([] ++ []) .idle store :=
    fun store => calmly_ran nofun rfl (.ends .idle store)
  cases stored : store.recorded (call.eventKey .webhook) with
  | true =>
    refine ⟨_, store, calmly_ran nofun rfl (calmly_ran nofun ?_ (ended store))⟩
    exact if_pos stored
  | false =>
    have absent : ¬store.recorded (call.eventKey .webhook) = true := Bool.eq_false_iff.mp stored
    have goes : Notices.advance i (calmly settings) (.dispatch call [] (.check .webhook [])) store =
        (.dispatch call [] (.insert .webhook []), store) := if_neg absent
    have closed : ∀ store : Store ι, ∀ id status, Notices.Ran settings i (.dispatch call [] (.close id status true [])) store
        ([] ++ ([] ++ [])) .idle (store.finish id status) := fun store id status =>
      calmly_ran nofun rfl (ended _)
    have inserted : ∀ store : Store ι, ∀ id, ∃ raised after,
        Notices.Ran settings i (.dispatch call [] (.trigger id [])) store raised .idle after := fun store id => by
      by_cases none : settings.webhooks call.event = []
      · exact ⟨_, _, calmly_ran nofun (if_pos none) (closed _ _ _)⟩
      · exact ⟨_, _, calmly_ran nofun (if_neg none) (closed _ _ _)⟩
    obtain ⟨raised, after, rest⟩ := inserted (store.record i (call.eventKey .webhook)) (Rows.next Notices.Delivery.id store.deliveries)
    exact ⟨_, after, calmly_ran nofun rfl (calmly_ran nofun goes (calmly_ran nofun rfl rest))⟩

def OnlyWebhooks (alert : Alert) : Prop :=
  alert.policy.channels = [.webhook] ∧ alert.policy.events = none ∧ alert.policy.frequency = .immediate

theorem webhook_sends {list : List Alert} (only : ∀ alert ∈ list, OnlyWebhooks alert) (store : Store ι) :
    ∃ log, Sends settings i list store log := by
  induction list generalizing store with
  | nil => exact ⟨[], .done store⟩
  | cons alert list ih =>
    obtain ⟨channels, events, immediate⟩ := only alert mem_cons_self
    obtain ⟨raised, middle, ran⟩ : ∃ raised after,
        Notices.Ran settings i (Notices.begins (.dispatch alert.call) 0) store raised .idle after :=
      webhook_ran channels events immediate store
    obtain ⟨log, sends⟩ := ih (fun other member => only other (mem_cons_of_mem alert member)) middle
    exact ⟨_, .next alert 0 (fun _ _ => rfl) ran sends⟩

/-- Every unhealthy pair and destination is alerted exactly once on each of its channels over any number of checks of an
unchanged state, if and only if nothing that goes into a digest is due at two of the checks, and no two different things
that go to one channel at once clash. -/
theorem health_alerts_once {store : Store ι} {log : List (Alert × Target)} (unsent : Unsent store)
    (sends : Sends settings i (nows.flatMap (alerts state)) store log) :
    (∀ now ∈ nows, ∀ alert, Unhealthy state now alert → ∀ target ∈ alert.call.targets settings,
      log.count (alert, target) = 1) ↔
    (∀ alert channel recipient, (channel, some recipient) ∈ alert.call.targets settings →
      nows.Pairwise fun one other => ¬(Unhealthy state one alert ∧ Unhealthy state other alert)) ∧
    (∀ now ∈ nows, ∀ later ∈ nows, ∀ alert other, Unhealthy state now alert → Unhealthy state later other → alert ≠ other →
      ∀ channel, (channel, none) ∈ alert.call.targets settings → (channel, none) ∈ other.call.targets settings →
        ¬Clash alert other) := by
  have run := sends_raised sends
  have listed : ∀ alert, alert ∈ nows.flatMap (alerts state) ↔ ∃ now ∈ nows, Unhealthy state now alert := fun alert => by
    rw [List.mem_flatMap]
    exact exists_congr fun now => and_congr Iff.rfl mem_alerts
  have digest : ∀ (alert : Alert) channel recipient, (channel, some recipient) ∈ alert.call.targets settings →
      log.count (alert, (channel, some recipient)) = (nows.flatMap (alerts state)).count alert := by
    intro alert channel recipient targeted
    rw [run.digests, List.count_eq_one_of_mem nodup_targets targeted, Nat.mul_one]
  constructor
  · intro once
    refine ⟨fun alert channel recipient targeted => ?_, ?_⟩
    · refine count_listed.mp ?_
      by_cases due : alert ∈ nows.flatMap (alerts state)
      · obtain ⟨now, member, unhealthy⟩ := (listed alert).mp due
        rw [← digest alert channel recipient targeted]
        exact Nat.le_of_eq (once now member alert unhealthy _ targeted)
      · rw [List.count_eq_zero.mpr due]
        exact Nat.zero_le 1
    · intro now member later member' alert other first second different channel targeted targeted' clash
      obtain ⟨event, number⟩ := (clash_iff first second different).mpr clash
      have same : alert.key channel = other.key channel := key_of event number
      refine different (run.key_unique ?_ ?_ same)
      · exact List.count_pos_iff.mp (by rw [once now member alert first _ targeted]; exact Nat.one_pos)
      · exact List.count_pos_iff.mp (by rw [once later member' other second _ targeted']; exact Nat.one_pos)
  · rintro ⟨rare, apart⟩ now member alert unhealthy ⟨channel, recipient⟩ targeted
    have inside := (listed alert).mpr ⟨now, member, unhealthy⟩
    cases recipient with
    | some recipient =>
      rw [digest alert channel recipient targeted]
      have few := count_listed.mpr (rare alert channel recipient targeted)
      have some := List.count_pos_iff.mpr inside
      omega
    | none =>
      have few : log.count (alert, (channel, none)) ≤ 1 := run.count_le
      refine Nat.le_antisymm few (List.count_pos_iff.mpr ?_)
      rcases run.covered alert inside channel targeted with stored | sent
      · have fresh : store.recorded (alert.key channel) = false := unsent alert channel
        rw [fresh] at stored
        cases stored
      · obtain ⟨other, again, entry, same⟩ := mem_sentKeys.mp sent
        obtain ⟨rfl, event, number⟩ := key_inj same
        obtain ⟨known, targeted'⟩ := run.listed other _ entry
        obtain ⟨later, member', second⟩ := (listed other).mp known
        by_cases mine : alert = other
        · rw [mine]
          exact entry
        · exact absurd ((clash_iff unhealthy second mine).mp ⟨event.symm, number.symm⟩)
            (apart now member later member' alert other unhealthy second mine again targeted targeted')

section
variable (destinationIds : List Nat) (distinct : destinationIds.Nodup)

def onePolicy : Policy where
  id := 1
  enabled := true
  destinationId := 1
  lastQueuedAt := none
  accounts := []
  excludedAccounts := []
  destinationIds := destinationIds
  freshnessHours := 36
  channels := [.webhook]
  events := none
  recipients := []
  frequency := .immediate
  distinct := distinct

def oneAccount : Account := { id := 1, username := "alice", active := true }

def oneState : State where
  policies := [onePolicy destinationIds distinct]
  accounts := [oneAccount]
  destinations := []
  runs := []
  policyIds := List.nodup_singleton _
  accountIds := List.nodup_singleton _
  runIds := List.nodup_nil
  positive := fun _ member => by cases List.mem_singleton.mp member; exact Nat.one_pos

def missing (destinationId : Nat) : Alert :=
  { kind := .unavailable destinationId, policy := onePolicy destinationIds distinct, account := oneAccount, latest := none }

def noSettings : Settings where
  senderAddress := none
  disabledEvents := []
  contact := fun _ => none
  adminEmail := none
  telegramEnabled := false
  telegramEvents := []
  telegramToken := none
  chatId := none
  webhooks := fun _ => []

def noStore : Store Unit := { digests := [], deliveries := [], collected := [], summaries := [], arrived := [] }

variable {destinationIds distinct}

theorem missing_unhealthy {now destinationId : Nat} (used : destinationId ∈ (onePolicy destinationIds distinct).destinations) :
    Unhealthy (oneState destinationIds distinct) now (missing destinationIds distinct destinationId) := by
  have newest : latest (oneState destinationIds distinct) (onePolicy destinationIds distinct) oneAccount = none := by
    unfold latest oneState
    simp
  unfold missing
  rw [← newest]
  exact .unavailable _ _ destinationId mem_cons_self rfl mem_cons_self rfl rfl used rfl

theorem unhealthy_missing {now : Nat} {alert : Alert} (unhealthy : Unhealthy (oneState destinationIds distinct) now alert) :
    ∃ destinationId ∈ (onePolicy destinationIds distinct).destinations, alert = missing destinationIds distinct destinationId := by
  have newest : latest (oneState destinationIds distinct) (onePolicy destinationIds distinct) oneAccount = none := by
    unfold latest oneState
    simp
  cases unhealthy with
  | overdue policy account known _ hosted _ _ late =>
    cases mem_singleton.mp known
    cases mem_singleton.mp hosted
    unfold isOverdue at late
    rw [newest] at late
    cases late
  | unavailable policy account destinationId known _ hosted _ _ used =>
    cases mem_singleton.mp known
    cases mem_singleton.mp hosted
    rw [newest]
    exact ⟨destinationId, used, rfl⟩

theorem missing_webhooks {nows : List Nat} : ∀ alert ∈ nows.flatMap (alerts (oneState destinationIds distinct)), OnlyWebhooks alert := by
  intro alert member
  obtain ⟨now, _, listed⟩ := mem_flatMap.mp member
  obtain ⟨destinationId, _, rfl⟩ := unhealthy_missing (mem_alerts.mp listed)
  exact ⟨rfl, rfl, rfl⟩

end

theorem health_alerts_once_demo : ∃ log : List (Alert × Target),
    Sends noSettings () ([0, 3600].flatMap (alerts (oneState [1] (List.nodup_singleton 1)))) noStore log ∧
    ∀ now ∈ [0, 3600], ∀ alert, Unhealthy (oneState [1] (List.nodup_singleton 1)) now alert →
      ∀ target ∈ alert.call.targets noSettings, log.count (alert, target) = 1 := by
  have only : ∀ alert ∈ [0, 3600].flatMap (alerts (oneState [1] (List.nodup_singleton 1))), OnlyWebhooks alert :=
    missing_webhooks
  obtain ⟨log, sends⟩ := webhook_sends only noStore
  refine ⟨log, sends, (health_alerts_once (fun _ _ => rfl) sends).mpr ⟨fun alert channel recipient targeted => ?_, ?_⟩⟩
  · refine List.pairwise_of_forall fun one other both => ?_
    obtain ⟨destinationId, _, rfl⟩ := unhealthy_missing both.1
    cases List.mem_singleton.mp targeted
  · intro now _ later _ alert other first second different
    obtain ⟨destinationId, used, rfl⟩ := unhealthy_missing first
    obtain ⟨again, used', rfl⟩ := unhealthy_missing second
    refine absurd ?_ different
    rw [List.mem_singleton.mp used, List.mem_singleton.mp used']

/-- The alert about the second of two destinations is taken for a repetition of the first. -/
theorem second_destination_unsent : ∃ log : List (Alert × Target), Unsent noStore ∧
    Sends noSettings () ([0].flatMap (alerts (oneState [1, 2] (by decide)))) noStore log ∧
    ¬∀ now ∈ [0], ∀ alert, Unhealthy (oneState [1, 2] (by decide)) now alert →
      ∀ target ∈ alert.call.targets noSettings, log.count (alert, target) = 1 := by
  have only : ∀ alert ∈ [0].flatMap (alerts (oneState [1, 2] (by decide))), OnlyWebhooks alert := missing_webhooks
  obtain ⟨log, sends⟩ := webhook_sends only noStore
  refine ⟨log, fun _ _ => rfl, sends, fun once => ?_⟩
  have sent : ∀ destinationId ∈ [1, 2], (missing [1, 2] (by decide) destinationId, ((.webhook, none) : Target)) ∈ log := by
    intro destinationId used
    refine List.count_pos_iff.mp ?_
    rw [once 0 List.mem_cons_self _ (missing_unhealthy used) _ List.mem_cons_self]
    exact Nat.one_pos
  have same := (sends_raised sends).key_unique (sent 1 (by decide)) (sent 2 (by decide)) rfl
  cases Kind.unavailable.inj (congrArg Alert.kind same)

end Boron.HealthAlerts
