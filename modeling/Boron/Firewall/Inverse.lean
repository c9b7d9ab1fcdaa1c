import Boron.Firewall.Undone

namespace Boron.Firewall
open List Sys
variable {Id : Type} {host : Host Id} {base s : World Id} {journal : Option (Journal Id)} {D : Set Coord}

/-- The undo step gives the coordinate the value it has in `base`. -/
inductive Inverts (host : Host Id) (base : World Id) (D : Set Coord) : Coord → UndoStep Id → Prop
  | deleteRule (key : RuleKey) (absent : view base (.rule key) = false) :
    Inverts host base D (.rule key) (.deleteRule (host.ruleId key))
  | addRule (params : RuleParams) (present : view base (.rule params.key) = true) :
    Inverts host base D (.rule params.key) (.addRule (host.ruleId params.key) params)
  | deleteBypass (address : Address) (absent : view base (.bypass address) = false) :
    Inverts host base D (.bypass address) (.deleteBypass address)
  | addBypass (params : BypassParams) (present : view base (.bypass params.address) = true) :
    Inverts host base D (.bypass params.address) (.addBypass params)
  | disable (inactive : base.active = false) : Inverts host base D .active .disable
  | enable (active : base.active = true) (covered : ∀ port ∈ host.protectedPorts, covers base.rules port)
    (alone : D = {.active}) : Inverts host base D .active .enable
  | deleteTempBan (value : Address) (absent : view base (.ban value) = false) :
    Inverts host base D (.ban value) (.deleteTempBan value)
  | addTempBan (params : BanParams) (present : view base (.ban params.value) = true) :
    Inverts host base D (.ban params.value) (.addTempBan params)

/-- The digests name one rule and one bypass each. -/
structure Host.Faithful (host : Host Id) : Prop where
  rule : Function.Injective host.ruleId
  bypass : Function.Injective host.bypassId

theorem undo_deleteRule_within [DecidableEq Id] (faithful : host.Faithful) (key : RuleKey) :
    Keeps (Undo.Within view (Steady base journal) {.rule key}) (undoOne host (.deleteRule (host.ruleId key))) := by
  refine (currentRules_keeps steady_ticked).bind fun current => ?_
  split
  · exact Keeps.pure ()
  · rename_i target found
    have named : host.ruleId target.key = host.ruleId key := by simpa using List.find?_some found
    rw [faithful.rule named]
    refine command_keeps steady_ticked fun s steady => ⟨steady.withoutRule _, fun c outside => ?_⟩
    have other : c ≠ .rule key := outside
    simp [other]

theorem undo_addRule_within [DecidableEq Id] (params : RuleParams) :
    Keeps (Undo.Within view (Steady base journal) {.rule params.key})
      (undoOne host (.addRule (host.ruleId params.key) params)) := by
  refine (currentRules_keeps steady_ticked).bind fun current => ?_
  split
  · exact addRule_within params
  · exact Keeps.pure ()

theorem undo_deleteBypass_within [DecidableEq Id] (faithful : host.Faithful) (address : Address) :
    Keeps (Undo.Within view (Steady base journal) {.bypass address}) (undoOne host (.deleteBypass address)) := by
  refine bypassEntries_keeps.bind fun current => ?_
  split
  · exact Keeps.pure ()
  · rename_i target found
    have at_ : target.address = address := by simpa using List.find?_some found
    rw [at_]
    exact deleteBypass_within faithful.bypass address false

theorem undo_addBypass_within [DecidableEq Id] (params : BypassParams) :
    Keeps (Undo.Within view (Steady base journal) {.bypass params.address}) (undoOne host (.addBypass params)) := by
  refine bypassEntries_keeps.bind fun current => ?_
  split
  · exact Keeps.pure ()
  · exact addBypass_within params false

theorem undo_deleteTempBan_within [DecidableEq Id] (value : Address) :
    Keeps (Undo.Within view (Steady base journal) {.ban value}) (undoOne host (.deleteTempBan value)) := by
  intro s steady
  rw [undo_deleteTempBan_run steady.banIds]
  cases found : s.bans.find? (·.value = value) with
  | none => exact ⟨steady, fun _ _ => rfl⟩
  | some row =>
    have at_ : row.value = value := by simpa using List.find?_some found
    rw [← at_]
    exact dismissBan_within (List.mem_of_find?_eq_some found) steady

theorem enableCoords_covered (covered : ∀ port ∈ host.protectedPorts, covers base.rules port) :
    enableCoords host base = {.active} := by
  ext c
  constructor
  · rintro (flag | ⟨port, member, bare, -⟩)
    · exact flag
    · rw [covered port member] at bare
      cases bare
  · exact .inl

/-- Each undo step restores its own coordinate and touches no other. -/
theorem Inverts.restores [DecidableEq Id] (faithful : host.Faithful) {c : Coord} {step : UndoStep Id}
    (inverts : Inverts host base D c step) (inside : c ∈ D) :
    Undo.Restores view (Near base D journal) (view base) c (undoOne host step) := by
  have own : {c} ⊆ D := Set.singleton_subset_iff.mpr inside
  cases inverts with
  | deleteRule key absent =>
    refine ⟨fun s => within_near own (undo_deleteRule_within faithful key s), fun s s' _ ran => ?_⟩
    rw [undo_deleteRule_ok faithful.rule ran, absent]
  | addRule params present =>
    refine ⟨fun s => within_near own (undo_addRule_within params s), fun s s' _ ran => ?_⟩
    rw [undo_addRule_ok faithful.rule ran, present]
  | deleteBypass address absent =>
    refine ⟨fun s => within_near own (undo_deleteBypass_within faithful address s), fun s s' _ ran => ?_⟩
    rw [undo_deleteBypass_ok faithful.bypass ran, absent]
  | addBypass params present =>
    refine ⟨fun s => within_near own (undo_addBypass_within params s), fun s s' near ran => ?_⟩
    rw [undo_addBypass_ok near.steady present ran, present]
  | disable inactive =>
    refine ⟨fun s => within_near own (disableFirewall_within true s), fun s s' _ ran => ?_⟩
    rw [disableFirewall_ok ran]
    exact inactive.symm
  | enable active covered alone =>
    subst alone
    have kept : Keeps (Undo.Within view (Near base (enableCoords host base) journal) (enableCoords host base))
        (undoOne host .enable) := enableFirewall_within true
    rw [enableCoords_covered covered] at kept
    refine ⟨kept, fun s s' _ ran => ?_⟩
    rw [enableFirewall_ok ran]
    exact active.symm
  | deleteTempBan value absent =>
    refine ⟨fun s => within_near own (undo_deleteTempBan_within value s), fun s s' near ran => ?_⟩
    rw [undo_deleteTempBan_ok near.steady.banIds ran, absent]
  | addTempBan params present =>
    refine ⟨fun s => within_near own (addTemporaryBan_within params s), fun s s' _ ran => ?_⟩
    rw [addTemporaryBan_ok ran, present]

/-- The journal holds the undo steps and only the coordinates of the change
may differ from before. -/
def Pending (base : World Id) (D : Set Coord) (undo : List (UndoStep Id)) (s : World Id) : Prop :=
  ∃ j : Journal Id, j.undo = undo ∧ Near base D (some j) s

def Reverting (base : World Id) (D : Set Coord) (undo : List (UndoStep Id)) (s : World Id) : Prop :=
  s.journal = none ∧ view s = view base ∨ Pending base D undo s

theorem Near.withJournal (near : Near base D journal s) (next : Option (Journal Id)) :
    Near base D next { s with journal := next } :=
  ⟨⟨rfl, near.steady.banIds, near.steady.ours⟩, fun c outside => by rw [view_journal, near.elsewhere c outside]⟩

variable {undo : List (UndoStep Id)}

theorem pending_ticked (s : World Id) : Stays (Pending base D undo) s { s with tick := s.tick + 1 } :=
  fun ⟨j, same, near⟩ => ⟨j, same, near.tick _⟩

theorem writePending_pending {j : Journal Id} (same : j.undo = undo) :
    Keeps (Stays (Pending base D undo)) (writePending host j) :=
  command_keeps pending_ticked fun _ ⟨_, _, near⟩ => ⟨j, same, near.withJournal (some j)⟩

theorem keptJournal_pending {j : Journal Id} (same : j.undo = undo) (message : String) :
    Keeps (Stays (Pending base D undo)) (do writePending host j; raise message : Fw Id Unit) :=
  (writePending_pending same).bind fun _ => raise_keeps message

variable {steps : List (Coord × UndoStep Id)}

def coords (steps : List (Coord × UndoStep Id)) : Set Coord := {c | c ∈ steps.map Prod.fst}

theorem clearPending_reverting (restored : view s = view base)
    (pending : Pending base D undo s) : Reverting base D undo ((clearPending host).run s).2 := by
  have untouched : Pending base D undo { s with tick := s.tick + 1 } := pending_ticked s pending
  have cleared : Reverting base D undo { s with tick := s.tick + 1, journal := none } :=
    .inl ⟨rfl, (Same.view ⟨rfl, rfl, rfl, rfl⟩).trans restored⟩
  simp only [clearPending, command]
  cases host.outcome s.tick with
  | done => exact cleared
  | failed => exact .inr untouched
  | killed after => cases after with
    | true => exact cleared
    | false => exact .inr untouched

section
variable [DecidableEq Id] (faithful : host.Faithful)
  (inverts : ∀ step ∈ steps, Inverts host base (coords steps) step.1 step.2)
include faithful inverts

theorem undo_near : Keeps (Stays (Near base (coords steps) journal))
    (Undo.all Fault.fatal ((steps.map Prod.snd).map (undoOne host))) := by
  refine Undo.all_keeps fun program member s near => ?_
  obtain ⟨step, listed, rfl⟩ := mem_map.mp member
  obtain ⟨pair, inside, rfl⟩ := mem_map.mp listed
  exact (((inverts pair inside).restores faithful (mem_map_of_mem inside)).within s near).1

theorem undo_restored (near : Near base (coords steps) journal s) {s' : World Id}
    (ran : (Undo.all Fault.fatal ((steps.map Prod.snd).map (undoOne host))).run s = (.ok [], s')) :
    view s' = view base := by
  have programs : (steps.map Prod.snd).map (undoOne host) =
      (steps.map fun step => (step.1, undoOne host step.2)).map Prod.snd := by simp [Function.comp_def]
  rw [programs] at ran
  funext c
  refine Undo.all_restores (fun step member => ?_) near (fun other outside => ?_) ran c
  · obtain ⟨pair, inside, rfl⟩ := mem_map.mp member
    exact (inverts pair inside).restores faithful (mem_map_of_mem inside)
  · refine near.elsewhere other fun inside => outside ?_
    simpa [coords, Function.comp_def] using inside

theorem rollbackState_reverting {j : Journal Id} (same : j.undo = steps.map Prod.snd) (reason : String)
    (pending : Pending base (coords steps) (steps.map Prod.snd) s) :
    Reverting base (coords steps) (steps.map Prod.snd) ((rollbackState host j reason).run s).2 := by
  obtain ⟨stored, sameStored, near⟩ := pending
  have after := undo_near faithful inverts s near
  obtain ⟨operation, summary, createdAt, expiresAt, stage, undo⟩ := j
  subst same
  simp only [rollbackState, run_bind]
  cases run : (Undo.all Fault.fatal ((steps.map Prod.snd).map (undoOne host))).run s with
  | mk result mid =>
    rw [run] at after
    have still : Pending base (coords steps) (steps.map Prod.snd) mid := ⟨stored, sameStored, after⟩
    cases result with
    | error fault => exact .inr still
    | ok errors =>
      dsimp only
      split
      case isTrue clean =>
        subst clean
        exact clearPending_reverting (undo_restored faithful inverts near run) still
      case isFalse =>
        refine .inr (keptJournal_pending ?_ _ mid still)
        rfl

theorem rollbackChange_reverting (reason : String)
    (reverting : Reverting base (coords steps) (steps.map Prod.snd) s) :
    Reverting base (coords steps) (steps.map Prod.snd) ((rollbackChange host reason).run s).2 := by
  simp only [rollbackChange, readPending, run_bind, run_get, run_pure]
  rcases reverting with ⟨none, same⟩ | ⟨j, same, near⟩
  · rw [none]
    exact .inl ⟨none, same⟩
  · rw [near.steady.journal]
    exact rollbackState_reverting faithful inverts same reason ⟨j, same, near⟩

end

end Boron.Firewall
