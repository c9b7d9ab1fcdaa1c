import Boron.Notices.Turns

namespace Boron.Notices
open List

variable {ι : Type} {i : ι} {settings : Settings} {call : Dispatch} {task : Task ι} {store : Store ι} {moment : Moment}

/-- A channel, and the recipient of a digest; none for an event that is sent at once. -/
abbrev Target := Channel × Option (Option String)

def raises (task : Task ι) : List Target :=
  match task with
  | .dispatch _ _ (.insert channel _) => [(channel, none)]
  | .dispatch _ _ (.append _ channel recipient _ _) => [(channel, some recipient)]
  | _ => []

/-- A turn under the same settings that does not stop; an error of it is one of a delivery. -/
structure Undisturbed (settings : Settings) (task : Task ι) (moment : Moment) : Prop where
  settings : moment.settings = settings
  goes : moment.stops = false
  caught : moment.raises = true → raised task ≠ .idle

inductive Ran (settings : Settings) (i : ι) : Task ι → Store ι → List Target → Task ι → Store ι → Prop
  | ends (task : Task ι) (store : Store ι) : Ran settings i task store [] task store
  | turn {task last : Task ι} {store left : Store ι} {later : List Target} (moment : Moment) (busy : task ≠ .idle)
    (calm : Undisturbed settings task moment)
    (rest : Ran settings i (advance i moment task store).1 (advance i moment task store).2 later last left) :
    Ran settings i task store ((if moment.raises then [] else raises task) ++ later) last left

def routable (settings : Settings) (call : Dispatch) (queued : List Channel) (store : Store ι) (channel : Channel) : Bool :=
  decide (channel ∉ queued) && !(decide (channel = .telegram) && !settings.selectsTelegram call.event) &&
    !store.recorded (call.eventKey channel)

def routed (settings : Settings) (call : Dispatch) (queued : List Channel) (store : Store ι) (channels : List Channel) :
    List Target :=
  (channels.filter (routable settings call queued store)).map fun channel => (channel, none)

def digested (settings : Settings) (call : Dispatch) (channels : List Channel) : List Target :=
  channels.flatMap fun channel => (call.digestRecipients settings channel).map fun recipient => (channel, some recipient)

def withRecipients (settings : Settings) (call : Dispatch) (channels : List Channel) : List Channel :=
  channels.filter fun channel => decide (call.digestRecipients settings channel ≠ [])

def unraised (settings : Settings) (store : Store ι) (task : Task ι) : List Target :=
  match task with
  | .dispatch call queued (.route channels) => routed settings call queued store channels
  | .dispatch call queued (.check channel channels) =>
    (if store.recorded (call.eventKey channel) then [] else [(channel, none)]) ++ routed settings call queued store channels
  | .dispatch call queued (.insert channel channels) => (channel, none) :: routed settings call queued store channels
  | .dispatch call queued (.attempt _ _ channels) | .dispatch call queued (.resolve _ channels)
  | .dispatch call queued (.mail _ _ channels) | .dispatch call queued (.trigger _ channels)
  | .dispatch call queued (.close _ _ _ channels) => routed settings call queued store channels
  | .dispatch call queued (.queue channels) => digested settings call channels ++
    routed settings call (queued ++ withRecipients settings call channels) store (fromKeys call.channels)
  | .dispatch call queued (.find channel recipient recipients channels)
  | .dispatch call queued (.append _ channel recipient recipients channels) =>
    (recipient :: recipients).map (fun recipient => (channel, some recipient)) ++ digested settings call channels ++
      routed settings call (channel :: queued ++ withRecipients settings call channels) store (fromKeys call.channels)
  | _ => []

def Regular (task : Task ι) : Prop :=
  match task with
  | .dispatch call _ phase => call.jobId ≠ none ∧ match phase with
    | .route channels | .queue channels | .attempt _ _ channels | .resolve _ channels | .mail _ _ channels
    | .trigger _ channels | .close _ _ _ channels => channels.Nodup
    | .check channel channels | .insert channel channels | .find channel _ _ channels | .append _ channel _ _ channels =>
      (channel :: channels).Nodup
  | _ => True

variable {channels : List Channel} {after : Store ι}

theorem routed_congr {queued others : List Channel} (same : ∀ channel, channel ∈ queued ↔ channel ∈ others)
    (stored : ∀ channel ∈ channels, after.recorded (call.eventKey channel) = store.recorded (call.eventKey channel)) :
    routed settings call queued after channels = routed settings call others store channels := by
  refine congrArg (map _) (filter_congr fun channel member => ?_)
  unfold routable
  rw [stored channel member, decide_eq_decide.mpr (not_congr (same channel))]

theorem recorded_eq {key : EventKey} (deliveries : List (Delivery ι)) (same : deliveries.map Delivery.key = store.deliveries.map Delivery.key)
    (rows : after.deliveries = deliveries) : after.recorded key = store.recorded key := by
  unfold Store.recorded
  have any : ∀ rows : List (Delivery ι), (rows.any fun row => decide (row.key = key)) =
      (rows.map Delivery.key).any fun other => decide (other = key) := by
    intro rows
    rw [any_map]
    rfl
  rw [any, any, rows, same]

theorem recorded_finish {id : Nat} {status : DeliveryStatus} {key : EventKey} :
    (store.finish id status).recorded key = store.recorded key := by
  refine recorded_eq _ ?_ rfl
  unfold Store.finish Rows.change
  rw [map_map]
  refine map_congr_left fun row _ => ?_
  rw [Function.comp_apply]
  split <;> rfl

theorem recorded_record {owner : ι} {key other : EventKey} :
    (store.record owner other).recorded key = (store.recorded key || (key.runId.isSome && decide (other = key))) := by
  unfold Store.recorded Store.record
  rw [any_append, any_cons, any_nil, Bool.or_false, ← Bool.and_or_distrib_left]

theorem recorded_arrive {outcome : Outcome} {key other : EventKey} {recipient : Option String} :
    (store.arrive outcome other recipient).recorded key = store.recorded key := by
  unfold Store.arrive
  split <;> rfl

/-- What a turn leaves to be raised, and what it makes of the records. -/
structure Raising (settings : Settings) (store : Store ι) (call : Dispatch) (task : Task ι) (raised : List Target)
    (after : Task ι × Store ι) : Prop where
  regular : Regular after.1
  kept : after.1 = .idle ∨ ∃ queued phase, after.1 = .dispatch call queued phase
  left : unraised settings store task = raised ++ unraised settings after.2 after.1
  recorded : ∀ key : EventKey, key.runId ≠ none → (after.2.recorded key = true ↔ store.recorded key = true ∨
    ∃ channel, (channel, none) ∈ raised ∧ key = call.eventKey channel)

variable {queued : List Channel}

/-- A turn that raises nothing and records nothing. -/
theorem Raising.quiet {phase : DispatchPhase ι} {next : Task ι} (regular : Regular next) (kept : next = .idle ∨ ∃ queued phase, next = .dispatch call queued phase)
    (same : unraised settings store (.dispatch call queued phase) = unraised settings after next)
    (stored : ∀ key, after.recorded key = store.recorded key) :
    Raising settings store call (.dispatch call queued phase) [] (next, after) := by
  refine ⟨regular, kept, same, fun key _ => ?_⟩
  rw [stored key]
  refine ⟨.inl, fun either => ?_⟩
  rcases either with before | ⟨channel, none, _⟩
  · exact before
  · cases none

theorem routed_keep {channel : Channel} (keep : routable settings call queued store channel = true) :
    routed settings call queued store (channel :: channels) = (channel, none) :: routed settings call queued store channels := by
  unfold routed
  rw [filter_cons_of_pos keep, map_cons]

theorem routed_drop {channel : Channel} (drop : routable settings call queued store channel ≠ true) :
    routed settings call queued store (channel :: channels) = routed settings call queued store channels := by
  unfold routed
  rw [filter_cons_of_neg drop]

theorem turn_turned {queued : List Channel} {phase : DispatchPhase ι} (regular : Regular (.dispatch call queued phase : Task ι))
    (calm : Undisturbed settings (.dispatch call queued phase : Task ι) moment) :
    Raising settings store call (.dispatch call queued phase)
      (if moment.raises then [] else raises (.dispatch call queued phase : Task ι))
      (advance i moment (.dispatch call queued phase) store) := by
  obtain ⟨own, goes, caught⟩ := calm
  obtain ⟨run, distinct⟩ := regular
  unfold advance
  rw [if_neg (show ¬ moment.stops = true by rw [goes]; exact Bool.false_ne_true)]
  cases failed : moment.raises with
  | true =>
    have leads := caught failed
    cases phase with
    | resolve id channels => exact .quiet ⟨run, distinct⟩ (.inr ⟨_, _, rfl⟩) rfl fun _ => rfl
    | mail id recipients channels => exact .quiet ⟨run, distinct⟩ (.inr ⟨_, _, rfl⟩) rfl fun _ => rfl
    | trigger id channels => exact .quiet ⟨run, distinct⟩ (.inr ⟨_, _, rfl⟩) rfl fun _ => rfl
    | close id status again channels =>
      cases again with
      | true => exact .quiet ⟨run, distinct⟩ (.inr ⟨_, _, rfl⟩) rfl fun _ => rfl
      | false => exact absurd rfl leads
    | _ => exact absurd rfl leads
  | false =>
    rw [if_neg Bool.false_ne_true, if_neg Bool.false_ne_true]
    cases phase with
    | queue channels =>
      cases channels with
      | nil =>
        refine .quiet ⟨run, nodup_fromKeys _⟩ (.inr ⟨_, _, rfl⟩) ?_ fun _ => rfl
        exact routed_congr (fun channel => by simp [withRecipients]) fun _ _ => rfl
      | cons channel channels =>
        have later := (nodup_cons.mp distinct).2
        unfold dispatchTurn
        dsimp only
        rw [own]
        cases recipients : call.digestRecipients settings channel with
        | nil =>
          refine .quiet ⟨run, later⟩ (.inr ⟨_, _, rfl⟩) ?_ fun _ => rfl
          unfold nextRecipient unraised digested withRecipients
          dsimp only
          rw [flatMap_cons, recipients, map_nil, nil_append, filter_cons_of_neg (by simp [recipients])]
        | cons recipient rest =>
          refine .quiet ⟨run, distinct⟩ (.inr ⟨_, _, rfl⟩) ?_ fun _ => rfl
          unfold nextRecipient unraised digested withRecipients
          dsimp only
          rw [flatMap_cons, recipients, filter_cons_of_pos (by simp [recipients])]
          refine congrArg (_ ++ ·) (routed_congr (fun other => ?_) fun _ _ => rfl)
          simp only [mem_append, mem_cons]
          tauto
    | find channel recipient recipients channels => exact .quiet ⟨run, distinct⟩ (.inr ⟨_, _, rfl⟩) rfl fun _ => rfl
    | append seen channel recipient recipients channels =>
      have later := (nodup_cons.mp distinct).2
      have written : ∀ after : Store ι, after.deliveries = store.deliveries →
          Raising settings store call (.dispatch call queued (.append seen channel recipient recipients channels))
            [(channel, some recipient)] (.dispatch call (channel :: queued) (nextRecipient channel recipients channels), after) := by
        intro after same
        have stored : ∀ key, after.recorded key = store.recorded key := fun key => recorded_eq _ rfl same
        refine ⟨?_, .inr ⟨_, _, rfl⟩, ?_, fun key _ => ?_⟩
        · cases recipients with
          | nil => exact ⟨run, later⟩
          | cons => exact ⟨run, distinct⟩
        · cases recipients with
          | nil =>
            unfold nextRecipient unraised
            dsimp only
            exact congrArg (fun rest => _ :: (_ ++ rest)) (routed_congr (fun _ => Iff.rfl) fun other _ => (stored _).symm)
          | cons next rest =>
            unfold nextRecipient unraised
            dsimp only
            refine congrArg (fun rest => _ :: (_ ++ rest)) (routed_congr (fun other => ?_) fun other _ => (stored _).symm)
            simp only [cons_append, mem_append, mem_cons]
            tauto
        · rw [stored key]
          refine ⟨.inl, fun either => ?_⟩
          rcases either with before | ⟨_, member, _⟩
          · exact before
          · cases mem_singleton.mp member
      unfold dispatchTurn
      dsimp only
      split
      · exact written _ rfl
      · exact written _ rfl
    | route channels =>
      cases channels with
      | nil => exact .quiet trivial (.inl rfl) rfl fun _ => rfl
      | cons channel channels =>
        have later := (nodup_cons.mp distinct).2
        have drops : routable settings call queued store channel ≠ true →
            Raising settings store call (.dispatch call queued (.route (channel :: channels))) []
              (.dispatch call queued (.route channels), store) := fun drop =>
          .quiet ⟨run, later⟩ (.inr ⟨_, _, rfl⟩) (routed_drop drop) fun _ => rfl
        unfold dispatchTurn
        dsimp only
        split
        · next known => exact drops (by unfold routable; simp [known])
        · next unknown =>
          split
          · next off =>
            refine drops ?_
            rw [own] at off
            unfold routable
            simp [off.1, off.2]
          · next on =>
            rw [own] at on
            refine .quiet ⟨run, distinct⟩ (.inr ⟨_, _, rfl⟩) ?_ fun _ => rfl
            unfold unraised
            dsimp only
            cases stored : store.recorded (call.eventKey channel) with
            | true =>
              rw [if_pos rfl, nil_append, routed_drop]
              unfold routable
              simp [stored]
            | false =>
              rw [if_neg Bool.false_ne_true, routed_keep]
              · rfl
              · unfold routable
                rw [stored, decide_eq_true unknown]
                by_cases telegram : channel = .telegram
                · have selected : settings.selectsTelegram call.event = true := by
                    by_contra unselected
                    exact on ⟨telegram, unselected⟩
                  rw [selected, Bool.not_true, Bool.and_false]
                  rfl
                · rw [decide_eq_false telegram]
                  rfl
    | check channel channels =>
      have later := (nodup_cons.mp distinct).2
      unfold dispatchTurn
      dsimp only
      split
      · next stored =>
        refine .quiet ⟨run, later⟩ (.inr ⟨_, _, rfl⟩) ?_ fun _ => rfl
        unfold unraised
        dsimp only
        rw [if_pos stored]
        rfl
      · next unknown =>
        refine .quiet ⟨run, distinct⟩ (.inr ⟨_, _, rfl⟩) ?_ fun _ => rfl
        unfold unraised
        dsimp only
        rw [if_neg unknown]
        rfl
    | insert channel channels =>
      obtain ⟨fresh, later⟩ := nodup_cons.mp distinct
      have stored : ∀ key : EventKey, key.runId ≠ none → ((store.record i (call.eventKey channel)).recorded key = true ↔
          store.recorded key = true ∨ call.eventKey channel = key) := by
        intro key some_run
        have present : key.runId.isSome = true := Option.isSome_iff_ne_none.mpr some_run
        rw [recorded_record, Bool.or_eq_true, present, Bool.true_and, decide_eq_true_eq]
      have inserted : ∀ next : DispatchPhase ι, Regular (.dispatch call queued next : Task ι) →
          unraised settings (store.record i (call.eventKey channel)) (.dispatch call queued next) =
            routed settings call queued (store.record i (call.eventKey channel)) channels →
          Raising settings store call (.dispatch call queued (.insert channel channels)) [(channel, none)]
            (.dispatch call queued next, store.record i (call.eventKey channel)) := by
        intro next regular same
        refine ⟨regular, .inr ⟨_, _, rfl⟩, ?_, fun key some_run => ?_⟩
        · rw [same]
          refine congrArg (_ :: ·) (routed_congr (fun _ => Iff.rfl) fun other member => ?_)
          rw [Bool.eq_iff_iff, stored _ run]
          refine ⟨.inl, fun either => ?_⟩
          rcases either with before | named
          · exact before
          · have equal : channel = other := congrArg EventKey.channel named
            exact absurd (equal ▸ member) fresh
        · rw [stored key some_run]
          refine or_congr Iff.rfl ⟨fun named => ⟨channel, mem_cons_self, named.symm⟩, ?_⟩
          rintro ⟨other, member, named⟩
          cases mem_singleton.mp member
          exact named.symm
      unfold dispatchTurn
      dsimp only
      split
      · exact inserted _ ⟨run, later⟩ rfl
      · exact inserted _ ⟨run, later⟩ rfl
      · exact inserted _ ⟨run, later⟩ rfl
      · exact inserted _ ⟨run, later⟩ rfl
    | attempt id tries channels =>
      have arrives : ∀ next : DispatchPhase ι, Regular (.dispatch call queued next : Task ι) →
          (∀ after : Store ι, unraised settings after (.dispatch call queued next) = routed settings call queued after channels) →
          Raising settings store call (.dispatch call queued (.attempt id tries channels)) []
            (.dispatch call queued next, store.arrive moment.outcome (call.eventKey .telegram) none) := by
        intro next regular same
        refine .quiet regular (.inr ⟨_, _, rfl⟩) ?_ fun _ => recorded_arrive
        rw [same]
        exact routed_congr (fun _ => Iff.rfl) fun _ _ => recorded_arrive.symm
      unfold dispatchTurn
      dsimp only
      split
      · exact arrives _ ⟨run, distinct⟩ fun _ => rfl
      · split
        · exact arrives _ ⟨run, distinct⟩ fun _ => rfl
        · exact arrives _ ⟨run, distinct⟩ fun _ => rfl
      · split
        · exact arrives _ ⟨run, distinct⟩ fun _ => rfl
        · exact arrives _ ⟨run, distinct⟩ fun _ => rfl
    | resolve id channels =>
      unfold dispatchTurn
      dsimp only
      generalize (if call.recipients ≠ [] then _ else _) = recipients
      split
      · exact .quiet ⟨run, distinct⟩ (.inr ⟨_, _, rfl⟩) rfl fun _ => rfl
      · exact .quiet ⟨run, distinct⟩ (.inr ⟨_, _, rfl⟩) rfl fun _ => rfl
    | mail id recipients channels =>
      cases recipients with
      | nil => exact .quiet ⟨run, distinct⟩ (.inr ⟨_, _, rfl⟩) rfl fun _ => rfl
      | cons recipient recipients =>
        have arrives : ∀ next : DispatchPhase ι, Regular (.dispatch call queued next : Task ι) →
            (∀ after : Store ι, unraised settings after (.dispatch call queued next) = routed settings call queued after channels) →
            Raising settings store call (.dispatch call queued (.mail id (recipient :: recipients) channels)) []
              (.dispatch call queued next, store.arrive moment.outcome (call.eventKey .email) (some recipient)) := by
          intro next regular same
          refine .quiet regular (.inr ⟨_, _, rfl⟩) ?_ fun _ => recorded_arrive
          rw [same]
          exact routed_congr (fun _ => Iff.rfl) fun _ _ => recorded_arrive.symm
        unfold dispatchTurn
        dsimp only
        split
        · exact arrives _ ⟨run, distinct⟩ fun _ => rfl
        · exact arrives _ ⟨run, distinct⟩ fun _ => rfl
        · exact arrives _ ⟨run, distinct⟩ fun _ => rfl
    | trigger id channels =>
      unfold dispatchTurn
      dsimp only
      split
      · exact .quiet ⟨run, distinct⟩ (.inr ⟨_, _, rfl⟩) rfl fun _ => rfl
      · refine .quiet ⟨run, distinct⟩ (.inr ⟨_, _, rfl⟩) ?_ fun _ => recorded_arrive
        exact routed_congr (fun _ => Iff.rfl) fun _ _ => recorded_arrive.symm
    | close id status again channels =>
      refine .quiet ⟨run, distinct⟩ (.inr ⟨_, _, rfl⟩) ?_ fun _ => recorded_finish
      exact routed_congr (fun _ => Iff.rfl) fun _ _ => recorded_finish.symm

theorem Ran.finished {phase : DispatchPhase ι} {raised : List Target} (ran : Ran settings i task store raised .idle after) (begun : task = .dispatch call queued phase)
    (regular : Regular task) : raised = unraised settings store task ∧ ∀ key : EventKey, key.runId ≠ none →
      (after.recorded key = true ↔ store.recorded key = true ∨
        ∃ channel, (channel, none) ∈ raised ∧ key = call.eventKey channel) := by
  generalize ended : (Task.idle : Task ι) = last at ran
  induction ran generalizing queued phase with
  | ends task store =>
    rw [begun] at ended
    cases ended
  | @turn task last before left later moment busy calm rest ih =>
    subst begun ended
    have turn := @turn_turned ι i settings call before moment queued phase regular calm
    revert turn ih rest
    generalize advance i moment (.dispatch call queued phase) before = next
    intro rest ih turn
    obtain ⟨regular, kept, left, recorded⟩ := turn
    rcases kept with idle | ⟨queued, phase, busy⟩
    · rw [idle] at rest left
      cases rest with
      | ends =>
        refine ⟨left.symm, fun key some_run => ?_⟩
        rw [append_nil]
        exact recorded key some_run
      | turn _ busy => exact absurd rfl busy
    · obtain ⟨same, later⟩ := ih busy regular rfl
      refine ⟨by rw [left, same], fun key some_run => ?_⟩
      rw [later key some_run, recorded key some_run, or_assoc]
      refine or_congr Iff.rfl ⟨?_, ?_⟩
      · rintro (⟨channel, member, named⟩ | ⟨channel, member, named⟩)
        · exact ⟨channel, mem_append_left _ member, named⟩
        · exact ⟨channel, mem_append_right _ member, named⟩
      · rintro ⟨channel, member, named⟩
        rcases mem_append.mp member with own | after
        · exact .inl ⟨channel, own, named⟩
        · exact .inr ⟨channel, after, named⟩

def Dispatch.targets (settings : Settings) (call : Dispatch) : List Target :=
  if call.selected.any fun events => decide (call.event ∉ events) then []
  else
    let collects := call.frequency ≠ .immediate
    let channels := fromKeys call.channels
    let queued := if collects then withRecipients settings call channels else []
    (if collects then digested settings call channels else []) ++
      (channels.filter fun channel => decide (channel ∉ queued) &&
        !(decide (channel = .telegram) && !settings.selectsTelegram call.event)).map fun channel => (channel, none)

def due (settings : Settings) (store : Store ι) (call : Dispatch) : List Target :=
  (call.targets settings).filter fun target => target.2.isSome || !store.recorded (call.eventKey target.1)

theorem routed_eq {queued channels : List Channel} : routed settings call queued store channels =
    ((channels.filter fun channel => decide (channel ∉ queued) &&
      !(decide (channel = .telegram) && !settings.selectsTelegram call.event)).map fun channel => (channel, none)).filter
        fun target : Target => target.2.isSome || !store.recorded (call.eventKey target.1) := by
  rw [filter_map, filter_filter]
  refine congrArg (map _) (filter_congr fun channel _ => ?_)
  rw [Bool.and_comm]
  rfl

theorem digested_filter {P : Target → Bool} :
    (digested settings call channels).filter (fun target => target.2.isSome || P target) = digested settings call channels := by
  refine filter_eq_self.mpr fun target member => ?_
  obtain ⟨channel, _, inside⟩ := mem_flatMap.mp member
  obtain ⟨recipient, _, rfl⟩ := mem_map.mp inside
  rfl

theorem dispatch_ran {now : Nat} {raised : List Target} (run : call.jobId ≠ none)
    (ran : Ran settings i (begins (.dispatch call) now) store raised .idle after) :
    raised = due settings store call ∧ ∀ key : EventKey, key.runId ≠ none →
      (after.recorded key = true ↔ store.recorded key = true ∨
        ∃ channel, (channel, none) ∈ raised ∧ key = call.eventKey channel) := by
  unfold begins at ran
  dsimp only at ran
  unfold due Dispatch.targets
  split at ran
  · next off =>
    rw [if_pos off]
    cases ran with
    | ends =>
      refine ⟨rfl, fun key _ => ⟨.inl, fun either => ?_⟩⟩
      rcases either with before | ⟨_, member, _⟩
      · exact before
      · cases member
    | turn _ busy => exact absurd rfl busy
  · next on =>
    rw [if_neg on]
    split at ran
    · next immediate =>
      obtain ⟨same, recorded⟩ := ran.finished rfl ⟨run, nodup_fromKeys _⟩
      refine ⟨?_, recorded⟩
      rw [same]
      dsimp only
      rw [if_neg (not_not.mpr immediate), if_neg (not_not.mpr immediate), nil_append, ← routed_eq]
      rfl
    · next collects =>
      obtain ⟨same, recorded⟩ := ran.finished rfl ⟨run, nodup_fromKeys _⟩
      refine ⟨?_, recorded⟩
      rw [same]
      dsimp only
      rw [if_pos collects, if_pos collects, filter_append, digested_filter, ← routed_eq]
      rfl

end Boron.Notices
