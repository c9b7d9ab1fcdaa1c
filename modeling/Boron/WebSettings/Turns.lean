import Boron.WebSettings.Covered

namespace Boron.WebSettings
open Replay

variable {ι : Type} {site : Site} {start : Tables} {server server' : Server ι} {who : ι}
  {task : Task} {store : Store ι}

structure Sound (site : Site) (start : Tables) (server : Server ι) : Prop where
  accounted : Accounted start server
  covered : Covered site server

structure Turned (server server' : Server ι) (who : ι) (task : Task) (store : Store ι) : Prop where
  others : ∀ other, other ≠ who → server'.task other = server.task other
  own : server'.task who = task
  after : server'.store = store

def Store.at (store : Store ι) (mark : Mark) : Store ι := { store with clock := max store.clock mark.now }

/-- A turn that leaves the rows and the configuration, and of what its operation owed nothing. -/
theorem Sound.quiet (sound : Sound site start server) (turned : Turned server server' who task store)
    (tables : store.tables = server.store.tables) (changes : store.changes = server.store.changes)
    (config : store.config = server.store.config) (clock : server.store.clock ≤ store.clock)
    (withdrawn : task.withdrawn = (server.task who).withdrawn)
    (early : task.early = true → (server.task who).early = true)
    (pending : ∀ restore, task.pending = some restore → (server.task who).pending = some restore)
    (ready : Ready site task)
    (owes : ∀ part, Owes site server.store (server.task who) part → Owes site store task part) :
    Sound site start server' := by
  obtain ⟨others, own, after⟩ := turned
  subst own after
  refine ⟨sound.accounted.quiet others tables changes withdrawn early pending,
    ready_turn sound.covered.ready others ready, fun part => ?_⟩
  exact (sound.covered.covers part).turn others (spares_later clock tables) config (owes part)

theorem Sound.commit {write : Write} {pending : Pending} (sound : Sound site start server)
    (turned : Turned server server' who (.refreshing pending) (store.commit who write))
    (same : store.tables = server.store.tables ∧ store.changes = server.store.changes ∧ store.config = server.store.config)
    (clock : server.store.clock ≤ store.clock) (early : (server.task who).early = true)
    (fits : Fits site server.store.tables write pending) : Sound site start server' := by
  obtain ⟨others, own, after⟩ := turned
  obtain ⟨tables, changes, config⟩ := same
  have written : server'.store.tables = Function.update server.store.tables write.key write.row := by
    rw [after, ← tables]
    rfl
  have noted : server'.store.changes =
      server.store.changes ++ [{ author := who, key := write.key, row := write.row }] := by
    rw [after, ← changes]
    rfl
  have later : server.store.clock ≤ server'.store.clock := by
    rw [after]
    exact clock
  have unchanged : server'.store.config = server.store.config := by
    rw [after]
    exact config
  refine ⟨sound.accounted.commit others written noted (Task.withdrawn_of_early early) ?_ ?_ ?_,
    ready_turn sound.covered.ready others ?_, fun part => ?_⟩
  · rw [own]
    rfl
  · rw [own]
    rfl
  · rw [own]
    exact fun restore held => ⟨early, (fits.undoes restore held).2⟩
  · rw [own]
    exact ⟨fits.known, fun restore held => (fits.undoes restore held).1⟩
  · by_cases shown : Shown site write.key part
    · refine .inr ⟨who, ?_⟩
      rw [own]
      exact fits.covers part shown
    · refine (sound.covered.covers part).turn others (spares_write later written shown) unchanged fun owes => ?_
      cases held : server.task who with
      | called | protecting | reading | updating =>
        rw [held] at owes
        exact owes.elim
      | _ =>
        rw [held] at early
        exact absurd early Bool.false_ne_true

theorem Sound.review {trial : Trial} {row : WafSettings} {now : Nat} (sound : Sound site start server)
    (held : server.task who = .reviewing trial) (found : server.store.tables .waf = some row)
    (turned : Turned server server' who .done (store.commit who ⟨.waf, some (trial.columns now row)⟩))
    (same : store.tables = server.store.tables ∧ store.changes = server.store.changes ∧ store.config = server.store.config)
    (clock : server.store.clock ≤ store.clock) : Sound site start server' := by
  obtain ⟨others, own, after⟩ := turned
  obtain ⟨tables, changes, config⟩ := same
  have written : server'.store.tables = Function.update server.store.tables Key.waf (some (trial.columns now row)) := by
    rw [after, ← tables]
    rfl
  have noted : server'.store.changes = server.store.changes ++
      [{ author := who, key := Key.waf, row := some (trial.columns now row) }] := by
    rw [after, ← changes]
    rfl
  have later : server.store.clock ≤ server'.store.clock := by
    rw [after]
    exact clock
  have unchanged : server'.store.config = server.store.config := by
    rw [after]
    exact config
  refine ⟨@Accounted.commit _ _ _ _ _ ⟨.waf, some (trial.columns now row)⟩ sound.accounted others written noted ?_ ?_ ?_ ?_,
    ready_turn sound.covered.ready others ?_, fun part => ?_⟩
  · rw [held]
    rfl
  · rw [own]
    rfl
  · rw [own]
    rfl
  · rw [own]
    exact nofun
  · rw [own]
    trivial
  · have rendered : (trial.columns now row).enabled = row.enabled ∧ (trial.columns now row).mode = row.mode ∧
        (trial.columns now row).limits = row.limits := by
      cases trial <;> exact ⟨rfl, rfl, rfl⟩
    refine (sound.covered.covers part).turn others (spares_review later found written rendered) unchanged fun owes => ?_
    rw [held] at owes
    exact owes.elim

/-- A restore: its operation owes the main file another apply. -/
theorem Sound.restore {restore : Restore} (sound : Sound site start server)
    (held : server.task who = .failed restore) (unrivalled : Unrivalled server who)
    (turned : Turned server server' who .restored { store with tables := restore.run store.tables })
    (same : store.tables = server.store.tables ∧ store.changes = server.store.changes ∧ store.config = server.store.config)
    (clock : server.store.clock ≤ store.clock) : Sound site start server' := by
  obtain ⟨others, own, after⟩ := turned
  obtain ⟨tables, changes, config⟩ := same
  have written : server'.store.tables = restore.run server.store.tables := by
    rw [after, ← tables]
  have waiting : (server.task who).pending = some restore := by
    rw [held]
    rfl
  refine ⟨sound.accounted.restore others written ?_ waiting unrivalled ?_ ?_ ?_,
    ready_turn sound.covered.ready others ?_, fun part => ?_⟩
  · rw [after]
    exact changes
  · rw [own]
    rfl
  · rw [own]
    rfl
  · rw [own]
    rfl
  · rw [own]
    trivial
  · by_cases main : part = .waf
    · refine .inr ⟨who, ?_⟩
      rw [own]
      exact main
    · have hidden : ¬ Shown site restore.key part := fun shown => main (restore.shown.mp shown)
      have spares : Spares site server.store server'.store part := by
        have later : server.store.clock ≤ server'.store.clock := by
          rw [after]
          exact clock
        rcases restore.run_cases server.store.tables with nothing | updated
        · exact spares_later later (written.trans nothing)
        · exact spares_write later (written.trans updated) hidden
      refine (sound.covered.covers part).turn others spares ?_ fun owes => ?_
      · rw [after]
        exact config
      · rw [held] at owes
        exact absurd owes main

/-- An apply puts a content in force. Of the parts that are not current in it, another
operation owes the rendering. -/
theorem Sound.apply {content : Config} (sound : Sound site start server)
    (turned : Turned server server' who task (store.apply content))
    (same : store.tables = server.store.tables ∧ store.changes = server.store.changes ∧ store.config = server.store.config)
    (clock : server.store.clock ≤ store.clock)
    (withdrawn : task.withdrawn = (server.task who).withdrawn) (early : task.early = false) (pending : task.pending = none)
    (ready : Ready site task)
    (put : ∀ part, Owes site server.store (server.task who) part ∨ part = .waf ∨
      (∃ name vhost, content.vhosts name = some vhost ∧ part = .vhost name) →
      Current site store.clock store.tables content part ∨ OwedByOther site server who store part) :
    Sound site start server' := by
  obtain ⟨others, own, after⟩ := turned
  obtain ⟨tables, changes, config⟩ := same
  have kept : server'.store.tables = server.store.tables := by
    rw [after]
    exact tables
  have later : server.store.clock ≤ server'.store.clock := by
    rw [after]
    exact clock
  refine ⟨sound.accounted.quiet others kept ?_ ?_ ?_ ?_, ready_turn sound.covered.ready others ?_, fun part => ?_⟩
  · rw [after]
    exact changes
  · rw [own]
    exact withdrawn
  · rw [own, early]
    exact fun held => absurd held Bool.false_ne_true
  · rw [own, pending]
    exact nofun
  · rw [own]
    exact ready
  · by_cases concerned : Owes site server.store (server.task who) part ∨ part = .waf ∨
        (∃ name vhost, content.vhosts name = some vhost ∧ part = .vhost name)
    · rcases put part concerned with current | owed
      · left
        rw [after]
        cases part with
        | waf => exact current
        | vhost name =>
          intro domain account known owner
          have rendered := current domain account known owner
          unfold Store.apply Config.apply
          dsimp only
          rw [rendered]
          rfl
      · exact owed.covers others (by rw [after]; rfl) (by rw [after]; exact Nat.le_refl _)
    · rcases sound.covered.covers part with current | ⟨other, owes⟩
      · left
        cases part with
        | waf => exact absurd (.inr (.inl rfl)) concerned
        | vhost name =>
          intro domain account known owner
          have rendered := current domain account known owner
          have absent : content.vhosts name = none := by
            cases held : content.vhosts name with
            | none => rfl
            | some vhost => exact absurd (.inr (.inr ⟨name, vhost, held, rfl⟩)) concerned
          rw [kept, after]
          unfold Store.apply Config.apply
          dsimp only
          rw [absent, config]
          exact rendered
      · by_cases mine : other = who
        · subst mine
          exact absurd (.inl owes) concerned
        · refine .inr ⟨other, ?_⟩
          rw [others other mine]
          exact owes.spared (spares_later later kept)

end Boron.WebSettings
