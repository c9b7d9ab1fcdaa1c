import Boron.WebSettings.Turns

namespace Boron.WebSettings
open Checks Replay

variable {ι : Type} [DecidableEq ι] {site : Site} {start : Tables} {server server' : Server ι} {who : ι}

/-- The turns in which nothing goes wrong. An apply that fails is that of an operation
that can undo its change, and nobody has written the row since. What an apply puts in
force, or a last apply that fails leaves in force, is the rendering of the rows, or
another running operation will still apply that. -/
def Permitted (site : Site) (server : Server ι) (turn : ι × Mark) : Prop :=
  let store := server.store.at turn.2
  let current (config : Config) (part : Part) :=
    Current site store.clock store.tables config part ∨ OwedByOther site server turn.1 store part
  match server.task turn.1 with
  | .rendered pending content =>
    if turn.2.accepted then ∀ part, Targets site pending.target part → current content part
    else pending.restore ≠ none
  | .failed _ => Unrivalled server turn.1
  | .rerendered waf => current (if turn.2.accepted then { waf, vhosts := fun _ => none } else store.config) .waf
  | _ => True

theorem turned {turn : ι × Mark} {task : Task} {store : Store ι}
    (left : advance site turn.1 turn.2 (server.task turn.1) server.store = (task, store)) :
    Turned server (server.turn (advance site) turn) turn.1 task store := by
  refine ⟨fun other different => Tasks.turn_other different server, ?_, ?_⟩
  · rw [Tasks.turn_own, left]
  · rw [Tasks.turn_store, left]

omit [DecidableEq ι] in
theorem enter_sound (outcome : Except String Left) (mark : Mark) (sound : Sound site start server)
    (early : (server.task who).early = true)
    (good : ∀ left, outcome = .ok left → left.Good site server.store.tables)
    (turned : Turned server server' who ((server.store.at mark).enter who outcome).1
      ((server.store.at mark).enter who outcome).2) : Sound site start server' := by
  have later : server.store.clock ≤ (server.store.at mark).clock := Nat.le_max_left ..
  have nothing : ∀ part, ¬ Owes site server.store (server.task who) part := by
    intro part owes
    cases held : server.task who with
    | called | protecting | reading | updating =>
      rw [held] at owes
      exact owes.elim
    | _ =>
      rw [held] at early
      exact absurd early Bool.false_ne_true
  have stood := Task.withdrawn_of_early early
  cases outcome with
  | error message =>
    exact sound.quiet turned rfl rfl rfl later stood.symm nofun nofun trivial fun part owes => (nothing part owes).elim
  | ok left =>
    cases left with
    | commit write pending => exact sound.commit turned ⟨rfl, rfl, rfl⟩ later early (good _ rfl)
    | next task =>
      have still : task.early = true := good _ rfl
      refine sound.quiet turned rfl rfl rfl later ((Task.withdrawn_of_early still).trans stood.symm) (fun _ => early)
        ?_ ?_ fun part owes => (nothing part owes).elim
      · intro restore held
        cases task with
        | called | protecting | reading | updating => cases held
        | _ => exact absurd still Bool.false_ne_true
      · cases task with
        | called | protecting | reading | updating => trivial
        | _ => exact absurd still Bool.false_ne_true

omit [DecidableEq ι] in
theorem render_sound {pending : Pending} (mark : Mark) (sound : Sound site start server)
    (held : server.task who = .refreshing pending)
    (turned : Turned server server' who ((server.store.at mark).render site pending) (server.store.at mark)) :
    Sound site start server' := by
  have later : server.store.clock ≤ (server.store.at mark).clock := Nat.le_max_left ..
  have ready : pending.Ready site := by
    have own := sound.covered.ready who
    rw [held] at own
    exact own
  unfold Store.render at turned
  cases target : pending.target with
  | main =>
    rw [target] at turned
    refine sound.quiet turned rfl rfl rfl later ?_ nofun ?_ ⟨ready, ?_, nofun⟩ fun part owes => ?_
    · rw [held]
      rfl
    · rw [held]
      exact fun restore own => own
    · rw [target]
      exact rfl
    · rw [held] at owes
      have main : part = .waf := by
        have targeted : Targets site pending.target part := owes
        rw [target] at targeted
        exact targeted
      subst main
      exact ⟨owes, current_wafTemplateContext⟩
  | vhosts account =>
    rw [target] at turned
    dsimp only at turned
    split at turned
    case isTrue empty =>
      refine sound.quiet turned rfl rfl rfl later ?_ nofun nofun trivial fun part owes => ?_
      · rw [held]
        rfl
      · rw [held] at owes
        have targeted : Targets site pending.target part := owes
        rw [target] at targeted
        exact absurd empty targeted.1
    case isFalse hosted =>
      refine sound.quiet turned rfl rfl rfl later ?_ nofun ?_ ⟨ready, target, ?_, hosted⟩ fun part owes => ?_
      · rw [held]
        rfl
      · rw [held]
        exact fun restore own => own
      · rw [List.map_map]
        exact List.map_id _
      · rw [held] at owes
        refine ⟨owes, fun name vhost entry member named => ?_⟩
        obtain ⟨domain, _, rfl⟩ := List.mem_map.mp member
        rw [← named]

omit [DecidableEq ι] in
theorem content_sound {pending : Pending} {account : Account} {plain : List (Domain × Option CacheOverride)} (mark : Mark)
    (sound : Sound site start server) (held : server.task who = .listed pending account plain)
    (turned : Turned server server' who (.rendered pending ((server.store.at mark).content site account plain))
      (server.store.at mark)) : Sound site start server' := by
  have later : server.store.clock ≤ (server.store.at mark).clock := Nat.le_max_left ..
  obtain ⟨ready, target, listed, hosted⟩ : Ready site (.listed pending account plain) := by
    have own := sound.covered.ready who
    rw [held] at own
    exact own
  refine sound.quiet turned rfl rfl rfl later ?_ nofun ?_ ⟨ready, ?_, ?_⟩ fun part owes => ?_
  · rw [held]
    rfl
  · rw [held]
    exact fun restore own => own
  · rw [target]
    exact ⟨hosted, .inl rfl⟩
  · intro name vhost rendered
    obtain ⟨domain, member, named⟩ := content_vhosts listed rendered
    rw [target]
    exact ⟨hosted, .inr ⟨domain, member, by rw [named]⟩⟩
  · rw [held] at owes
    obtain ⟨targeted, caches⟩ := owes
    refine ⟨targeted, content_current (ready.known account target) listed ?_ caches⟩
    rw [← target]
    exact targeted

/-- Every permitted turn keeps what the rows and the configuration are. -/
theorem Sound.turn (sound : Sound site start server) {turn : ι × Mark} (permitted : Permitted site server turn) :
    Sound site start (server.turn (advance site) turn) := by
  have later : server.store.clock ≤ (server.store.at turn.2).clock := Nat.le_max_left ..
  have own := sound.covered.ready turn.1
  unfold Permitted at permitted
  cases held : server.task turn.1 with
  | called operation =>
    refine enter_sound (session site turn.2 (server.store.at turn.2).clock server.store.tables operation) turn.2 sound
      (by rw [held]; rfl) (fun left ran => session_good ran) (turned ?_)
    rw [held]
    rfl
  | protecting username accountId path =>
    refine enter_sound (recordProtection site turn.2 username accountId path server.store.tables) turn.2 sound
      (by rw [held]; rfl) (fun left ran => recordProtection_good ran) (turned ?_)
    rw [held]
    rfl
  | reading mode trial =>
    refine sound.quiet (turned (by rw [held]; rfl) : Turned server _ turn.1
      (.updating mode (settingsLimits (server.store.tables .waf)).params trial) (server.store.at turn.2))
      rfl rfl rfl later ?_ ?_ nofun trivial fun part owes => ?_
    · rw [held]
      rfl
    · rw [held]
      exact fun _ => rfl
    · rw [held] at owes
      exact owes.elim
  | updating mode params trial =>
    refine enter_sound (updateSettings turn.2 mode params trial.isSome trial server.store.tables) turn.2 sound
      (by rw [held]; rfl) (fun left ran => updateSettings_good ran) (turned ?_)
    rw [held]
    rfl
  | refreshing pending =>
    refine render_sound turn.2 sound held (turned ?_)
    rw [held]
    rfl
  | listed pending account plain =>
    refine content_sound turn.2 sound held (turned ?_)
    rw [held]
    rfl
  | rendered pending content =>
    rw [held] at permitted own
    obtain ⟨ready, main, vhosts⟩ := own
    dsimp only at permitted
    cases accepted : turn.2.accepted with
    | true =>
      rw [if_pos accepted] at permitted
      have put : ∀ part, Owes site server.store (server.task turn.1) part ∨ part = .waf ∨
          (∃ name vhost, content.vhosts name = some vhost ∧ part = .vhost name) →
          Current site (server.store.at turn.2).clock (server.store.at turn.2).tables content part ∨
            OwedByOther site server turn.1 (server.store.at turn.2) part := by
        rintro part (owes | rfl | ⟨name, vhost, rendered, rfl⟩)
        · rw [held] at owes
          exact permitted part owes.1
        · exact permitted .waf main
        · exact permitted (.vhost name) (vhosts name vhost rendered)
      cases trial : pending.trial with
      | none =>
        refine sound.apply (turned ?_ : Turned server _ turn.1 .done ((server.store.at turn.2).apply content)) ⟨rfl, rfl, rfl⟩ later ?_ rfl rfl trivial put
        · rw [held]
          simp only [advance, accepted, trial, if_true]
          rfl
        · rw [held]
          rfl
      | some trial' =>
        refine sound.apply (turned ?_ : Turned server _ turn.1 (.reviewing trial') ((server.store.at turn.2).apply content)) ⟨rfl, rfl, rfl⟩ later ?_ rfl rfl trivial put
        · rw [held]
          simp only [advance, accepted, trial, if_true]
          rfl
        · rw [held]
          rfl
    | false =>
      rw [if_neg (by rw [accepted]; exact Bool.false_ne_true)] at permitted
      cases restore : pending.restore with
      | none => exact absurd restore permitted
      | some restore' =>
        refine sound.quiet (turned ?_ : Turned server _ turn.1 (.failed restore') (server.store.at turn.2)) rfl rfl rfl later
          ?_ nofun ?_ trivial fun part owes => ?_
        · rw [held]
          simp only [advance, accepted, restore, Bool.false_eq_true, if_false]
          rfl
        · rw [held]
          rfl
        · rw [held]
          exact fun other same => restore.trans same
        · rw [held] at owes
          have targeted := owes.1
          rw [ready.main restore' restore] at targeted
          exact targeted
  | failed restore =>
    rw [held] at permitted
    refine @Sound.restore _ _ _ _ _ _ (server.store.at turn.2) _ sound held permitted (turned ?_) ⟨rfl, rfl, rfl⟩ later
    rw [held]
    rfl
  | restored =>
    refine sound.quiet (turned (by rw [held]; rfl) : Turned server _ turn.1
      (.rerendered (wafTemplateContext site (server.store.at turn.2).clock server.store.tables)) (server.store.at turn.2))
      rfl rfl rfl later ?_ nofun nofun trivial fun part owes => ?_
    · rw [held]
      rfl
    · rw [held] at owes
      exact ⟨owes, current_wafTemplateContext⟩
  | rerendered waf =>
    rw [held] at permitted
    dsimp only at permitted
    cases accepted : turn.2.accepted with
    | true =>
      rw [if_pos accepted] at permitted
      refine sound.apply (turned ?_ : Turned server _ turn.1 .rejected
        ((server.store.at turn.2).apply { waf, vhosts := fun _ => none })) ⟨rfl, rfl, rfl⟩ later ?_ rfl rfl trivial ?_
      · rw [held]
        simp only [advance, accepted, if_true]
        rfl
      · rw [held]
        rfl
      · rintro part (owes | rfl | ⟨name, vhost, rendered, _⟩)
        · rw [held] at owes
          obtain ⟨rfl, _⟩ := owes
          exact permitted
        · exact permitted
        · cases rendered
    | false =>
      rw [if_neg (by rw [accepted]; exact Bool.false_ne_true)] at permitted
      have left : Turned server (server.turn (advance site) turn) turn.1 .rejected (server.store.at turn.2) := turned
        (by rw [held]; simp only [advance, accepted, Bool.false_eq_true, if_false]; rfl)
      have kept := left.after
      refine ⟨sound.accounted.quiet left.others (by rw [kept]; rfl) (by rw [kept]; rfl) ?_ ?_ ?_,
        ready_turn sound.covered.ready left.others ?_, fun part => ?_⟩
      · rw [left.own, held]
        rfl
      · rw [left.own]
        exact nofun
      · rw [left.own]
        exact nofun
      · rw [left.own]
        trivial
      · by_cases main : part = .waf
        · subst main
          rcases permitted with current | owed
          · left
            rw [kept]
            exact current
          · exact owed.covers left.others (congrArg Store.tables kept) (Nat.le_of_eq (congrArg Store.clock kept).symm)
        · refine (sound.covered.covers part).turn left.others (spares_later (by rw [kept]; exact later) (by rw [kept]; rfl))
            (by rw [kept]; rfl) fun owes => ?_
          rw [held] at owes
          exact absurd owes.1 main
  | reviewing trial =>
    cases found : server.store.tables .waf with
    | none =>
      refine sound.quiet
        (turned ?_ : Turned server _ turn.1 (.refused "'NoneType' object has no attribute") (server.store.at turn.2)) rfl rfl rfl later ?_ nofun nofun trivial fun part owes => ?_
      · rw [held]
        simp only [advance, found]
        rfl
      · rw [held]
        rfl
      · rw [held] at owes
        exact owes.elim
    | some row =>
      refine @Sound.review _ _ _ _ _ _ (server.store.at turn.2) _ row (server.store.at turn.2).clock sound held found (turned ?_)
        ⟨rfl, rfl, rfl⟩ later
      rw [held]
      simp only [advance, found]
      rfl
  | done =>
    refine sound.quiet (turned (by rw [held]; rfl) : Turned server _ turn.1 .done (server.store.at turn.2))
      rfl rfl rfl later (by rw [held]) nofun nofun trivial fun part owes => ?_
    rw [held] at owes
    exact owes.elim
  | rejected =>
    refine sound.quiet (turned (by rw [held]; rfl) : Turned server _ turn.1 .rejected (server.store.at turn.2))
      rfl rfl rfl later (by rw [held]) nofun nofun trivial fun part owes => ?_
    rw [held] at owes
    exact owes.elim
  | refused message =>
    refine sound.quiet (turned (by rw [held]; rfl) : Turned server _ turn.1 (.refused message) (server.store.at turn.2))
      rfl rfl rfl later (by rw [held]) nofun nofun trivial fun part owes => ?_
    rw [held] at owes
    exact owes.elim

/-- Between its first session and its return. -/
def Task.running : Task → Bool
  | .called _ | .done | .rejected | .refused _ => false
  | _ => true

/-- Nothing has been called, and the rows are in force. -/
structure Quiet (site : Site) (start : Server ι) : Prop where
  waiting : ∀ who, ∃ operation, start.task who = .called operation
  unchanged : start.store.changes = []
  current : ∀ part, Current site start.store.clock start.store.tables start.store.config part

omit [DecidableEq ι] in
theorem Quiet.sound {begun : Server ι} (quiet : Quiet site begun) : Sound site begun.store.tables begun := by
  refine ⟨⟨?_, fun who _ => ?_, fun who restore held => ?_⟩, fun who => ?_, fun part => .inl (quiet.current part)⟩
  · unfold standing
    rw [quiet.unchanged]
    rfl
  · rw [quiet.unchanged]
    exact nofun
  · obtain ⟨operation, called⟩ := quiet.waiting who
    rw [called] at held
    cases held
  · obtain ⟨operation, called⟩ := quiet.waiting who
    rw [called]
    trivial

omit [DecidableEq ι] in
theorem owes_running {store : Store ι} {task : Task} {part : Part} (owes : Owes site store task part) :
    task.running = true := by
  cases task with
  | called | done | rejected | refused => exact owes.elim
  | _ => rfl

def demoAccount : Account := { id := 1, username := "alice", status := .active }

def demoDomain : Domain := { domain := "example.com", accountId := 1, docroot := "/home/alice/public_html" }

def demoSite : Site :=
  { accounts := [demoAccount], domains := [demoDomain]
    uniqueAccounts := List.nodup_singleton _, uniqueDomains := List.nodup_singleton _
    webmailHostname := "webmail.host", homeBase := "/home", realpath := id
    resolveProtectedDir := fun _ path => .ok ("/home/alice/" ++ path, path)
    validateProtectedDirRelativePath := .ok, validateDomain := .ok
    realmName := fun username path => username ++ "_" ++ path, hostPattern := fun domain => "^" ++ domain ++ "$"
    patternRe := fun _ => true, categoryRe := fun _ => true, uriRe := fun _ => true, parameterRe := fun _ => true }

def noRows : Tables := fun _ => none

def demoCalls (who : Nat) : Operation :=
  if who = 0 then .addCustomRule "example.com" "ARGS" "union select" else
    .setRedirect "example.com" "/old" "https://example.com/new" 301

def demoBegun : Server Nat :=
  { store :=
      { tables := noRows, clock := 0, changes := []
        config :=
          { waf := none, vhosts := fun _ => some (renderVhostConf demoSite noRows demoAccount demoDomain none) } }
    task := fun who => .called (demoCalls who) }

theorem demo_quiet : Quiet demoSite demoBegun := by
  refine ⟨fun who => ⟨demoCalls who, rfl⟩, rfl, fun part => ?_⟩
  cases part with
  | waf => exact fun now _ => rfl
  | vhost name =>
    intro domain account known owner
    rfl

def mark (accepted : Bool) : Mark := { now := 10, accepted, available := true, id := 1, prepared := .ok () }

def demoTurns (turns : List (Nat × Mark)) : Server Nat := demoBegun.after (advance demoSite) turns

end Boron.WebSettings
