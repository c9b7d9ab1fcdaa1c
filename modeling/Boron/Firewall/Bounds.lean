import Boron.Firewall.View

namespace Boron.Firewall
open Sys
variable {Id : Type} {host : Host Id}

section
variable {R : World Id → World Id → Prop} {α : Type}

theorem command_at {label : String} {effect : World Id → World Id} {s : World Id}
    (ticked : R s { s with tick := s.tick + 1 }) (done : R s (effect { s with tick := s.tick + 1 })) :
    R s ((command host label effect).run s).2 := by
  unfold command
  dsimp only
  cases host.outcome s.tick with
  | done => exact done
  | failed => exact ticked
  | killed after => cases after with
    | true => exact done
    | false => exact ticked

variable [Std.Refl R] [IsTrans (World Id) R]

omit [Std.Refl R] in
theorem command_keeps {label : String} {effect : World Id → World Id}
    (ticked : ∀ s, R s { s with tick := s.tick + 1 }) (done : ∀ s, R s (effect s)) :
    Keeps R (command host label effect) :=
  fun s => command_at (ticked s) (IsTrans.trans _ _ _ (ticked s) (done _))

theorem onRaise_keeps {p : Fw Id α} {handler : String → Fw Id α} (body : Keeps R p)
    (handled : ∀ message, Keeps R (handler message)) : Keeps R (onRaise p handler) := by
  refine Keeps.handle body fun fault => ?_
  cases fault with
  | raised message => exact handled message
  | killed => exact Keeps.fail _

omit [IsTrans (World Id) R] in
theorem raise_keeps (message : String) : Keeps R (raise message : Fw Id α) := Keeps.fail _

omit [IsTrans (World Id) R] in
theorem check_keeps (c : Prop) [Decidable c] (message : String) : Keeps R (check c message : Fw Id Unit) := by
  unfold check
  split
  · exact Keeps.pure ()
  · exact raise_keeps message

theorem checkComment_keeps (comment : String) : Keeps R (checkComment comment : Fw Id String) :=
  (check_keeps _ _).bind fun _ => Keeps.pure _

theorem bypassEntries_keeps : Keeps R (bypassEntries : Fw Id (List BypassParams)) :=
  Keeps.get.bind fun _ => Keeps.pure _

theorem assertAddressCanBeBanned_keeps (value : Address) (actorIp : Option Address) :
    Keeps R (assertAddressCanBeBanned value actorIp : Fw Id Unit) :=
  (check_keeps _ _).bind fun _ => (check_keeps _ _).bind fun _ =>
    bypassEntries_keeps.bind fun _ => check_keeps _ _

variable (ticked : ∀ s : World Id, R s { s with tick := s.tick + 1 })
include ticked

theorem probe_keeps (label : String) : Keeps R (probe host label) := command_keeps ticked fun s => Std.Refl.refl s

theorem protectedPorts_keeps : Keeps R (protectedPorts host) := (probe_keeps ticked _).bind fun _ => Keeps.pure _

theorem currentRules_keeps : Keeps R (currentRules host) :=
  Keeps.get.bind fun _ => (protectedPorts_keeps ticked).bind fun _ => Keeps.pure _

theorem getStatus_keeps : Keeps R (getStatus host) :=
  (onRaise_keeps ((probe_keeps ticked _).bind fun _ => Keeps.pure _) fun _ => Keeps.pure _).bind
    fun _ => Keeps.get.bind fun _ => (currentRules_keeps ticked).bind fun _ => Keeps.pure _

theorem syncFail2banBypass_keeps (unban strict : Bool) : Keeps R (syncFail2banBypass host unban strict) := by
  refine (onRaise_keeps ((probe_keeps ticked _).bind fun _ => Keeps.pure _) fun _ => Keeps.pure _).bind
    fun refreshed => ?_
  split
  · split
    · exact probe_keeps ticked _
    · exact Keeps.pure ()
  · split
    · exact raise_keeps _
    · exact Keeps.pure ()

theorem verifyProtectedAccess_keeps : Keeps R (verifyProtectedAccess host) := by
  refine (probe_keeps ticked _).bind fun _ => Keeps.get.bind fun w => ?_
  split
  · exact (currentRules_keeps ticked).bind fun _ => (protectedPorts_keeps ticked).bind fun _ => check_keeps _ _
  · exact Keeps.pure ()

theorem refuseProtectedDeny_keeps (key : RuleKey) : Keeps R (refuseProtectedDeny host key) := by
  unfold refuseProtectedDeny
  split
  · exact (protectedPorts_keeps ticked).bind fun _ => check_keeps _ _
  · exact Keeps.pure ()

theorem addRule_keeps {params : RuleParams} (add : ∀ s comment, R s (s.withRule { key := params.key, comment })) :
    Keeps R (addRule host params) := by
  refine (checkComment_keeps _).bind fun comment => ?_
  exact (refuseProtectedDeny_keeps ticked _).bind fun _ => (check_keeps _ _).bind fun _ =>
    (check_keeps _ _).bind fun _ => command_keeps ticked fun s => add s comment

theorem deleteRule_keeps [DecidableEq Id] {ruleId : Id} (delete : ∀ s key, host.ruleId key = ruleId → R s (s.withoutRule key)) :
    Keeps R (deleteRule host ruleId) := by
  refine (currentRules_keeps ticked).bind fun current => ?_
  split
  · exact raise_keeps _
  · rename_i target found
    have named : host.ruleId target.key = ruleId := by simpa [findRule] using List.find?_some found
    refine Keeps.bind ?_ fun _ => command_keeps ticked fun s => delete s target.key named
    unfold refuseLastAllow
    split
    · exact (protectedPorts_keeps ticked).bind fun _ => check_keeps _ _
    · exact Keeps.pure ()

theorem addBypass_keeps {params : BypassParams} {strict : Bool} (insert : ∀ s label, R s (s.withSource
      { action := .allow, address := params.address, comment := bypassCommentOf label })) :
    Keeps R (addBypass host params strict) :=
  (check_keeps _ _).bind fun _ => (checkComment_keeps _).bind fun label => bypassEntries_keeps.bind fun _ =>
    (check_keeps _ _).bind fun _ => (command_keeps ticked fun s => insert s label).bind fun _ =>
      syncFail2banBypass_keeps ticked _ _

theorem deleteBypass_keeps [DecidableEq Id] {bypassId : Id} {strict : Bool}
    (delete : ∀ s address, host.bypassId address = bypassId → R s (s.withoutSource .allow address)) :
    Keeps R (deleteBypass host bypassId strict) := by
  refine bypassEntries_keeps.bind fun current => ?_
  split
  · exact raise_keeps _
  · rename_i target found
    have named : host.bypassId target.address = bypassId := by simpa using List.find?_some found
    exact (command_keeps ticked fun s => delete s target.address named).bind fun _ =>
      syncFail2banBypass_keeps ticked _ _

end

section
variable {base : World Id} {journal : Option (Journal Id)} {D : Set Coord}

theorem same_ticked (s : World Id) : Same s { s with tick := s.tick + 1 } := ⟨rfl, rfl, rfl, rfl⟩

theorem isBypassComment_of (label : String) : isBypassComment (bypassCommentOf label) = true := by
  unfold bypassCommentOf isBypassComment
  split
  · simp
  · simp

theorem steady_ticked (s : World Id) : Undo.Within view (Steady base journal) D s { s with tick := s.tick + 1 } :=
  fun steady => ⟨steady.tick _, fun c _ => by rw [view_tick]⟩

theorem assigned_ticked {id : Nat} {value : Address} (s : World Id) :
    Undo.Within view (Assigned base journal id value) D s { s with tick := s.tick + 1 } :=
  fun assigned => ⟨assigned.tick _, fun c _ => by rw [view_tick]⟩

theorem within_of_assigned {id : Nat} {value : Address} {s s' : World Id}
    (assigned : Steady base journal s → Assigned base journal id value s)
    (within : Undo.Within view (Assigned base journal id value) D s s') :
    Undo.Within view (Steady base journal) D s s' :=
  fun steady => ⟨(within (assigned steady)).1.steady, (within (assigned steady)).2⟩

theorem addRule_within (params : RuleParams) :
    Keeps (Undo.Within view (Steady base journal) {.rule params.key}) (addRule host params) := by
  refine addRule_keeps steady_ticked fun s comment steady => ⟨steady.withRule _, fun c outside => ?_⟩
  have other : c ≠ .rule params.key := outside
  simp [other]

theorem deleteRule_within [DecidableEq Id] (injective : Function.Injective host.ruleId) (key : RuleKey) :
    Keeps (Undo.Within view (Steady base journal) {.rule key}) (deleteRule host (host.ruleId key)) := by
  refine deleteRule_keeps steady_ticked fun s target same steady => ⟨steady.withoutRule _, fun c outside => ?_⟩
  have other : c ≠ .rule target := injective same ▸ outside
  simp [other]

theorem addBypass_within (params : BypassParams) (strict : Bool) :
    Keeps (Undo.Within view (Steady base journal) {.bypass params.address}) (addBypass host params strict) :=
  addBypass_keeps steady_ticked fun _ _ steady =>
    ⟨steady.withSource fun _ => isBypassComment_of _, fun _ outside => view_withSource outside⟩

theorem deleteBypass_within [DecidableEq Id] (injective : Function.Injective host.bypassId) (address : Address)
    (strict : Bool) :
    Keeps (Undo.Within view (Steady base journal) {.bypass address})
      (deleteBypass host (host.bypassId address) strict) := by
  refine deleteBypass_keeps steady_ticked fun s target same steady => ⟨steady.withoutSource _ _, fun c outside => ?_⟩
  rw [injective same]
  exact view_withoutSource outside

theorem admitBan_within {row : Ban} {s : World Id} (fresh : ∀ other ∈ s.bans, other.id ≠ row.id) :
    Undo.Within view (Steady base journal) {.ban row.value} s ((admitBan host row).run s).2 := by
  have assigned : Steady base journal s → Assigned base journal row.id row.value s :=
    fun steady => ⟨steady, fun other member same => absurd same (fresh other member)⟩
  refine within_of_assigned assigned ?_
  refine Keeps.bind_at (command_at (assigned_ticked s) fun now => ⟨?_, fun c outside => ?_⟩) fun _ mid _ => ?_
  · exact Assigned.withBan (fun other member => fresh other member) (now.steady.tick _)
  · rw [view_withBan outside, view_tick]
  · refine onRaise_keeps (command_keeps assigned_ticked fun t now => ⟨⟨now.steady.withSource (by simp), ?_⟩, ?_⟩)
      (fun _ => (command_keeps assigned_ticked fun t now => ⟨now.withoutBan _, fun c outside => ?_⟩).bind
        fun _ => raise_keeps _) mid
    · rw [withSource_bans]
      exact now.only
    · exact fun c outside => view_withSource outside
    · exact view_withoutBan now outside

theorem addTemporaryBan_within (params : BanParams) :
    Keeps (Undo.Within view (Steady base journal) {.ban params.value}) (addTemporaryBan host params) := by
  refine (check_keeps _ _).bind fun _ => (assertAddressCanBeBanned_keeps _ _).bind fun _ s => ?_
  rw [run_get_bind]
  refine Keeps.bind_at (check_keeps _ _ s) fun _ mid passed => ?_
  obtain rfl : s = mid := by simpa using congrArg Prod.snd passed
  exact admitBan_within fun _ => nextBanId_fresh

theorem dismissBan_within {row : Ban} {s : World Id} (member : row ∈ s.bans) :
    Undo.Within view (Steady base journal) {.ban row.value} s ((dismissBan host row).run s).2 := by
  have assigned (steady : Steady base journal s) : Assigned base journal row.id row.value s :=
    ⟨steady, fun other inside same => by rw [List.inj_on_of_nodup_map steady.banIds inside member same]⟩
  refine within_of_assigned assigned ?_
  refine Keeps.bind (command_keeps assigned_ticked fun t now => ⟨⟨now.steady.withoutSource _ _, now.only⟩, ?_⟩)
    (fun _ => command_keeps assigned_ticked fun t now => ⟨now.withoutBan _, fun c outside => ?_⟩) s
  · exact fun c outside => view_withoutSource outside
  · exact view_withoutBan now outside

theorem deleteTemporaryBan_within {row : Ban} {id : Nat} {s : World Id}
    (found : s.bans.find? (·.id = id) = some row) :
    Undo.Within view (Steady base journal) {.ban row.value} s ((deleteTemporaryBan host id).run s).2 := by
  have ran : (deleteTemporaryBan host id).run s = (dismissBan host row).run s := by
    simp only [deleteTemporaryBan, run_get_bind, found]
  rw [ran]
  exact dismissBan_within (List.mem_of_find?_eq_some found)

end

end Boron.Firewall
