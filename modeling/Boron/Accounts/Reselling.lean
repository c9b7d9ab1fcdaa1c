import Boron.Accounts.Resellers

namespace Boron.Accounts

section
variable {i : Nat} {task : Task} {store : Store} {moment : Moment} {username : String}

section
variable (sound : Sound store)
include sound

theorem raised_turned (relies : Relies i task store) : Turned i Account.charge store (raised i task store) := by
  cases task with
  | create owner username softMb hardMb phase =>
    cases phase with
    | setQuota => exact turned_same sound (relies_none (by cases owner <;> rfl) trivial)
    | insert => exact turned_same sound (relies_none (by cases owner <;> rfl) trivial)
    | _ => exact turned_leave sound
  | link owner username accountId => exact turned_same sound (relies_none rfl trivial)
  | reconcile username => exact turned_same sound (relies_none rfl trivial)
  | manage action username id phase =>
    cases action with
    | terminate =>
      cases phase with
      | hooks => exact manage_on sound relies (by simp) (fun _ => rfl) rfl (SameTables.refl store) rfl
      | removeQuota => exact manage_on sound relies (by simp) (fun _ => rfl) rfl (SameTables.refl store) rfl
      | userdel => exact manage_on sound relies (by simp) (fun _ => rfl) rfl (SameTables.refl store) rfl
      | _ => exact turned_leave sound
    | reactivate softMb hardMb =>
      cases phase with
      | setQuota => exact manage_on sound relies (by simp) nofun rfl (SameTables.refl store) rfl
      | _ => exact turned_leave sound
    | _ => exact turned_leave sound
  | enforce phase candidates =>
    cases candidates with
    | nil => exact turned_leave sound
    | cons candidate rest => exact turned_same sound (relies_none rfl trivial)
  | _ => exact turned_leave sound

theorem commit_turned {planId : Nat}
    (rooms : ∀ profileId, Room (weighing ((Task.apply username (.commit planId)).grant moment store)) store profileId []) :
    Turned i (weighing ((Task.apply username (.commit planId)).grant moment store)) store
      (applyTurn moment i username (.commit planId) store) := by
  unfold applyTurn
  unfold Task.grant at rooms ⊢
  dsimp only at rooms ⊢
  cases applied : store.applyPlan username planId moment.now with
  | none => exact turned_leave sound
  | some result =>
    obtain ⟨plan, left⟩ := result
    rw [applied] at rooms
    unfold Store.applyPlan at applied
    split at applied
    · split at applied
      · cases applied
        exact grant_turned (f := fun row => ({ row with quotaSoftMb := plan.quotaSoftMb, quotaHardMb := plan.quotaHardMb } :
          Account).schedule plan.inodeSoftLimit plan.inodeHardLimit moment.now) sound rfl trivial
          ⟨fun _ => rfl, fun _ => rfl⟩ (fun _ => rfl) (fun _ ended => ended) rooms rfl ⟨rfl, rfl, rfl⟩ rfl
      · cases applied
    · cases applied

theorem reactivated_turned {softMb hardMb id : Nat}
    (rooms : ∀ profileId, Room (weighing ((Task.manage (.reactivate softMb hardMb) username id .commit).grant moment store))
      store profileId []) :
    Turned i (weighing ((Task.manage (.reactivate softMb hardMb) username id .commit).grant moment store)) store
      (manageTurn moment i (.reactivate softMb hardMb) username id .commit store) := by
  unfold manageTurn
  unfold Task.grant at rooms ⊢
  dsimp only at rooms ⊢
  cases applied : store.reactivate username softMb hardMb with
  | none => exact turned_leave sound
  | some left =>
    rw [applied] at rooms
    unfold Store.reactivate at applied
    split at applied
    · cases applied
    · dsimp only at applied
      split at applied
      · cases applied
      · cases applied
        let f (row : Account) : Account := { row with status := .active, quotaSoftMb := softMb, quotaHardMb := hardMb }
        have keeps : KeepsKeys f := ⟨fun _ => rfl, fun _ => rfl⟩
        have never (row : Account) (ended : (f row).status = .terminated) : row.status = .terminated := by cases ended
        have manages (store : Store) : Manages i .idle store := trivial
        exact turned_leaves (grant_turned sound rfl (manages _) keeps (fun _ => rfl) never rooms rfl ⟨rfl, rfl, rfl⟩ rfl)

theorem task_turned (relies : Relies i task store)
    (rooms : ∀ profileId, Room (weighing (task.grant moment store)) store profileId []) :
    Turned i (weighing (task.grant moment store)) store (taskTurn i moment task store) := by
  cases task with
  | idle => exact call_turned sound
  | create owner username softMb hardMb phase => exact create_turned sound phase relies
  | link owner username accountId =>
    unfold taskTurn
    dsimp only
    cases done : store.link owner username accountId with
    | none => exact turned_same sound (relies_none rfl trivial)
    | some linked => exact link_turned sound relies done
  | reconcile username => exact turned_leave sound
  | compensate username =>
    unfold taskTurn
    dsimp only
    cases found : store.account username with
    | none => exact turned_leave sound
    | some row =>
      exact turned_same sound (relies_none rfl ⟨⟨row, found, rfl, nofun⟩, fun past => absurd rfl past⟩)
  | apply username phase =>
    cases phase with
    | lock planId => exact apply_turned moment username sound (.lock planId) (by simp)
    | commit planId => exact commit_turned sound rooms
    | limits plan => exact apply_turned moment username sound (.limits plan) (by simp)
    | setQuota plan => exact apply_turned moment username sound (.setQuota plan) (by simp)
    | rest => exact apply_turned moment username sound .rest (by simp)
  | manage action username id phase =>
    by_cases commits : phase = .commit
    · subst commits
      cases action with
      | reactivate softMb hardMb => exact reactivated_turned sound rooms
      | _ => exact turned_leave sound
    · have none : (Task.manage action username id phase).grant moment store = none := by
        cases action <;> cases phase <;> first | rfl | exact absurd rfl commits
      rw [none]
      exact manage_turned sound relies commits
  | enforce phase candidates => exact enforce_turned sound phase candidates
  | wait call =>
    unfold taskTurn
    cases free : store.locks .state with
    | none => exact wait_turned free sound call
    | some holder => exact turned_same sound (relies_none rfl trivial)

theorem advance_turned (relies : Relies i task store)
    (rooms : ∀ profileId, Room (weighing (granted moment task store)) store profileId []) :
    Turned i (weighing (granted moment task store)) store (advance i moment task store) := by
  unfold advance
  unfold granted at rooms ⊢
  cases stops : moment.stops with
  | true => exact turned_leave sound
  | false =>
    cases raises : moment.raises with
    | true => exact raised_turned sound relies
    | false =>
      simp only [stops, raises, Bool.or_self, Bool.false_eq_true, if_false] at rooms ⊢
      exact task_turned sound relies rooms

end

end

abbrev Reaches (allowed : Panel → Nat × Moment → Prop) : Panel → Panel → Prop := Tasks.Reaches advance allowed

structure Starts (panel : Panel) : Prop where
  sound : Sound panel.store
  idle : ∀ i, panel.task i = .idle

theorem starts_holds {start : Panel} (starts : Starts start) : Tasks.Holds Sound Relies start := by
  refine ⟨starts.sound, fun i => ?_⟩
  rw [starts.idle i]
  exact relies_none rfl trivial

theorem reaches_holds {start server : Panel} (starts : Starts start) (reached : Reaches Fitting start server) :
    Tasks.Holds Sound Relies server := by
  refine Tasks.Reaches.holds_at (starts_holds starts) (fun server who fitting holds => ?_) reached
  have rooms : (∀ profileId, Room (weighing (granted who.2 (server.task who.1) server.store)) server.store profileId []) ∧
      ∀ j owner pledge, (server.task j).pledge = some (owner, pledge) →
        Room (weighing (granted who.2 (server.task who.1) server.store)) server.store owner
          (pledge.charges (weighing (granted who.2 (server.task who.1) server.store)) server.store) := by
    cases grants : granted who.2 (server.task who.1) server.store with
    | none => exact ⟨holds.shared.room, fun j owner pledge pledges => ((holds.relied j).pledged owner pledge pledges).2.2⟩
    | some grant => exact fitting grant.1 grant.2 grants
  have turned := advance_turned holds.shared (holds.relied who.1) rooms.1
  exact ⟨turned.sound, turned.relies, fun j other =>
    (holds.relied j).others other holds.shared turned.leaves (rooms.2 j)⟩

def Moment.calling (call : Call) : Moment :=
  { call, stops := false, raises := false, now := 0, limits := { softBlocks := 0, hardBlocks := 0, inodeSoft := 0, inodeHard := 0 } }

/-- A turn of a task that is under way. -/
def Moment.plain : Moment := Moment.calling .enforceDue

def largePlan : Plan :=
  { quotaSoftMb := 8192, quotaHardMb := 10240, inodeSoftLimit := 0, inodeHardLimit := 0, positive := by decide
    ordered := by decide, together := by decide, below := by decide }

/-- One reseller, whose plan allows two accounts with 12 GB together, and a hosting plan of 10 GB. -/
def oneReseller : Panel :=
  { store :=
      { accounts := []
        panelUsers := [{ id := 1, username := "reseller", role := .reseller, accountId := none, disabled := false }]
        plans := fun id => if id = 1 then some largePlan else none
        resellerPlans := [{ id := 1, maxAccounts := 2, maxTotalDiskMb := 12288, accountQuotaSoftMb := 4096
                            accountQuotaHardMb := 5120 }]
        profiles := [{ id := 1, panelUserId := 1, planId := 1, active := true }]
        resellerAccounts := [], kernel := fun _ => none, locks := fun _ => none }
    task := fun _ => .idle }

def turnsOf (i count : Nat) : List (Nat × Moment) := List.replicate count (i, .plain)

def createdFor (i : Nat) (username : String) : List (Nat × Moment) :=
  (i, .calling (.createResellerAccount "reseller" username)) :: turnsOf i 10

/-- No turn of the list commits a quota outside of the reseller module. -/
def grantless : List (Nat × Moment) → Panel → Bool
  | [], _ => true
  | who :: rest, panel => (granted who.2 (panel.task who.1) panel.store).isNone && grantless rest (panel.turn advance who)

theorem reaches_grantless {start panel : Panel} (reached : Reaches Fitting start panel) (turns : List (Nat × Moment))
    (none : grantless turns panel = true) : Reaches Fitting start (panel.after advance turns) := by
  induction turns generalizing panel with
  | nil => exact reached
  | cons who rest ih =>
    obtain ⟨quiet, further⟩ := Bool.and_eq_true_iff.mp none
    refine ih (reached.next who fun username hardMb grants => ?_) further
    rw [grants] at quiet
    cases quiet

/-- The account of the reseller is about to get the plan of 10 GB. -/
def beforeGrant : List (Nat × Moment) := createdFor 0 "alice" ++ (0, .calling (.applyPlan "alice" 1)) :: turnsOf 0 1

theorem oneReseller_starts : Starts oneReseller := by
  refine ⟨⟨List.nodup_nil, List.nodup_nil, by decide, nofun, fun profileId profile plan _ _ => ?_⟩, fun _ => rfl⟩
  simp [oneReseller, Store.charges, ResellerPlan.fits, total]

theorem beforeGrant_fitting : Fitting (oneReseller.after advance beforeGrant) (0, .plain) := by
  intro username hardMb grants
  cases grants
  refine ⟨fun profileId profile plan found planned => ?_, fun j owner pledge pledges => ?_⟩
  · obtain ⟨member, named⟩ := Rows.byKey_some found
    cases List.mem_singleton.mp member
    subst named
    have the : (oneReseller.after advance beforeGrant).store.resellerPlan 1
        = some { id := 1, maxAccounts := 2, maxTotalDiskMb := 12288, accountQuotaSoftMb := 4096, accountQuotaHardMb := 5120 } := by
      decide
    have same : some plan = some _ := planned.symm.trans the
    cases same
    decide
  · by_cases own : j = 0
    · subst own
      cases pledges
    · have idle : (oneReseller.after advance beforeGrant).task j = .idle :=
        Tasks.task_after _ _ fun who member => by
          have zero : who.1 = 0 := by
            have all : ∀ who ∈ beforeGrant.map Prod.fst, who = 0 := by decide
            exact all who.1 (List.mem_map_of_mem member)
          rw [zero]
          exact own
      rw [idle] at pledges
      cases pledges

end Boron.Accounts
