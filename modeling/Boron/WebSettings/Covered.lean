import Boron.WebSettings.Sessions

namespace Boron.WebSettings
open List Rows Replay

variable {ι : Type}

abbrev Server (ι : Type) := Tasks.Server ι Task (Store ι)

/-- An operation that has taken its change back, or has raised because its apply failed. -/
def Task.withdrawn : Task → Bool
  | .restored | .rerendered _ | .rejected => true
  | _ => false

def Task.pending : Task → Option Restore
  | .refreshing pending | .listed pending .. | .rendered pending _ => pending.restore
  | .failed restore => some restore
  | _ => none

def kept (server : Server ι) (change : Change ι Row) : Bool := !(server.task change.author).withdrawn

/-- The committed changes, in order, less those of the operations that were rejected. -/
def standing (server : Server ι) : List (Change ι Row) := server.store.changes.filter (kept server)

/-- Nobody whose change stands has written the row since this operation did. -/
def Unrivalled (server : Server ι) (who : ι) : Prop :=
  ∀ earlier own later, server.store.changes = earlier ++ own :: later → own.author = who →
    ∀ change ∈ later, kept server change = true → change.key ≠ own.key

/-- A restore writes back what the row was without its operation's change. -/
def Undoes (start : Tables) (server : Server ι) (who : ι) (restore : Restore) : Prop :=
  ∃ earlier row later, server.store.changes = earlier ++ { author := who, key := restore.key, row } :: later ∧
    (∀ change ∈ earlier, change.author ≠ who) ∧ (∀ change ∈ later, change.author ≠ who) ∧
    (restore.returns = true → row = none) ∧
    restore.previous = replay start (earlier.filter (kept server)) restore.key

structure Accounted (start : Tables) (server : Server ι) : Prop where
  rows : server.store.tables = replay start (standing server)
  silent : ∀ who, (server.task who).early = true → ∀ change ∈ server.store.changes, change.author ≠ who
  undoes : ∀ who restore, (server.task who).pending = some restore → Undoes start server who restore

variable {start : Tables} {server server' : Server ι} {who : ι}

theorem Task.withdrawn_of_early {task : Task} (early : task.early = true) : task.withdrawn = false := by
  cases task <;> first | rfl | exact absurd early Bool.false_ne_true

theorem Task.withdrawn_of_pending {task : Task} {restore : Restore} (pending : task.pending = some restore) :
    task.withdrawn = false := by
  cases task <;> first | rfl | exact absurd pending nofun

theorem kept_same (others : ∀ other, other ≠ who → server'.task other = server.task other)
    (same : (server'.task who).withdrawn = (server.task who).withdrawn) : kept server' = kept server := by
  funext change
  unfold kept
  by_cases own : change.author = who
  · rw [own, same]
  · rw [others change.author own]

/-- A turn that neither commits nor restores. -/
theorem Accounted.quiet (sound : Accounted start server)
    (others : ∀ other, other ≠ who → server'.task other = server.task other)
    (tables : server'.store.tables = server.store.tables) (changes : server'.store.changes = server.store.changes)
    (withdrawn : (server'.task who).withdrawn = (server.task who).withdrawn)
    (early : (server'.task who).early = true → (server.task who).early = true)
    (pending : ∀ restore, (server'.task who).pending = some restore → (server.task who).pending = some restore) :
    Accounted start server' := by
  have same : kept server' = kept server := kept_same others withdrawn
  refine ⟨?_, fun other earlier => ?_, fun other restore held => ?_⟩
  · unfold standing
    rw [tables, changes, same]
    exact sound.rows
  · rw [changes]
    by_cases own : other = who
    · subst own
      exact sound.silent other (early earlier)
    · rw [others other own] at earlier
      exact sound.silent other earlier
  · have before : (server.task other).pending = some restore := by
      by_cases own : other = who
      · subst own
        exact pending restore held
      · rw [← others other own]
        exact held
    unfold Undoes
    rw [changes, same]
    exact sound.undoes other restore before

theorem Accounted.commit {write : Write} (sound : Accounted start server)
    (others : ∀ other, other ≠ who → server'.task other = server.task other)
    (tables : server'.store.tables = Function.update server.store.tables write.key write.row)
    (changes : server'.store.changes = server.store.changes ++ [{ author := who, key := write.key, row := write.row }])
    (stood : (server.task who).withdrawn = false) (stands : (server'.task who).withdrawn = false)
    (late : (server'.task who).early = false)
    (pending : ∀ restore, (server'.task who).pending = some restore → (server.task who).early = true ∧
      ∃ row, write = ⟨restore.key, row⟩ ∧ (restore.returns = true → row = none) ∧
        restore.previous = server.store.tables restore.key) :
    Accounted start server' := by
  have same : kept server' = kept server := kept_same others (stands.trans stood.symm)
  have own : kept server { author := who, key := write.key, row := write.row } = true := by
    unfold kept
    rw [stood]
    rfl
  refine ⟨?_, fun other earlier change member => ?_, fun other restore held => ?_⟩
  · unfold standing
    rw [tables, changes, same, filter_append, filter_cons_of_pos own, filter_nil, replay_concat, sound.rows]
    rfl
  · have different : other ≠ who := by
      rintro rfl
      rw [late] at earlier
      exact Bool.false_ne_true earlier
    rw [others other different] at earlier
    rw [changes] at member
    rcases mem_append.mp member with old | new
    · exact sound.silent other earlier change old
    · rw [mem_singleton.mp new]
      exact Ne.symm different
  · unfold Undoes
    rw [changes, same]
    by_cases mine : other = who
    · subst mine
      obtain ⟨early, row, rfl, gone, previous⟩ := pending restore held
      refine ⟨server.store.changes, row, [], rfl, sound.silent other early, nofun, gone, ?_⟩
      rw [previous, sound.rows]
      rfl
    · rw [others other mine] at held
      obtain ⟨earlier, row, later, split, before, after, gone, previous⟩ := sound.undoes other restore held
      refine ⟨earlier, row, later ++ [{ author := who, key := write.key, row := write.row }], ?_, before, ?_, gone, previous⟩
      · rw [split, append_assoc]
        rfl
      · intro change member
        rcases mem_append.mp member with old | new
        · exact after change old
        · rw [mem_singleton.mp new]
          exact Ne.symm mine

theorem filter_apart {changes : List (Change ι Row)} (apart : ∀ change ∈ changes, change.author ≠ who)
    (others : ∀ other, other ≠ who → server'.task other = server.task other) :
    changes.filter (kept server') = changes.filter (kept server) := by
  refine filter_congr fun change member => ?_
  unfold kept
  rw [others change.author (apart change member)]

/-- An unrivalled restore takes the operation's change back, and the others can still do so. -/
theorem Accounted.restore {restore : Restore} (sound : Accounted start server)
    (others : ∀ other, other ≠ who → server'.task other = server.task other)
    (tables : server'.store.tables = restore.run server.store.tables)
    (changes : server'.store.changes = server.store.changes)
    (held : (server.task who).pending = some restore) (unrivalled : Unrivalled server who)
    (gone : (server'.task who).withdrawn = true) (late : (server'.task who).early = false)
    (none : (server'.task who).pending = none) : Accounted start server' := by
  obtain ⟨earlier, row, later, split, before, after, absent, previous⟩ := sound.undoes who restore held
  have stood : kept server { author := who, key := restore.key, row } = true := by
    unfold kept
    rw [Task.withdrawn_of_pending held]
    rfl
  have left : kept server' { author := who, key := restore.key, row } = false := by
    unfold kept
    rw [gone]
    rfl
  have last : ∀ change ∈ later.filter (kept server), change.key ≠ restore.key := by
    intro change member
    obtain ⟨inside, stands⟩ := mem_filter.mp member
    exact unrivalled earlier _ later split rfl change inside stands
  have rows : server.store.tables = replay start
      (earlier.filter (kept server) ++ { author := who, key := restore.key, row } :: later.filter (kept server)) := by
    rw [sound.rows]
    unfold standing
    rw [split, filter_append, filter_cons_of_pos stood]
  refine ⟨?_, fun other early => ?_, fun other another asked => ?_⟩
  · have written : server.store.tables restore.key = row := by
      rw [rows]
      exact replay_last last
    unfold standing
    rw [tables, changes, split, filter_append, filter_cons_of_neg (by rw [left]; exact Bool.false_ne_true),
      filter_apart before others, filter_apart after others, Restore.run_eq fun returns => written.trans (absent returns),
      previous, rows]
    exact replay_withdraw last
  · have different : other ≠ who := by
      rintro rfl
      rw [late] at early
      exact Bool.false_ne_true early
    rw [others other different] at early
    rw [changes]
    exact sound.silent other early
  · have different : other ≠ who := by
      rintro rfl
      rw [none] at asked
      cases asked
    rw [others other different] at asked
    obtain ⟨first, their, rest, found, ahead, behind, cleared, former⟩ := sound.undoes other another asked
    refine ⟨first, their, rest, changes.trans found, ahead, behind, cleared, ?_⟩
    have fewer : first.filter (kept server') = (first.filter (kept server)).filter (kept server') := by
      rw [filter_filter]
      refine filter_congr fun change _ => ?_
      by_cases own : change.author = who
      · have dropped : kept server' change = false := by
          unfold kept
          rw [own, gone]
          rfl
        rw [dropped]
        rfl
      · have unchanged : kept server' change = kept server change := by
          unfold kept
          rw [others change.author own]
        rw [unchanged, Bool.and_self]
    rw [former, fewer]
    refine (replay_filter fun change member dropped => ?_).symm
    obtain ⟨inside, stands⟩ := mem_filter.mp member
    have own : change.author = who := by
      by_contra different
      unfold kept at dropped stands
      rw [others change.author different, stands] at dropped
      exact Bool.false_ne_true dropped.symm
    obtain ⟨head, tail, rfl⟩ := append_of_mem inside
    have theirs : kept server { author := other, key := another.key, row := their } = true := by
      unfold kept
      rw [Task.withdrawn_of_pending asked]
      rfl
    have apart := unrivalled head change (tail ++ { author := other, key := another.key, row := their } :: rest)
      (by rw [found, append_assoc]; rfl) own _ (mem_append_right tail mem_cons_self) theirs
    exact Ne.symm apart

end Boron.WebSettings

namespace Boron.WebSettings

variable {ι : Type} {site : Site}

/-- A running operation will still put the rendering of the rows in force, if its apply
succeeds: it has yet to read them, or has read them as they are. -/
def Owes (site : Site) (store : Store ι) : Task → Part → Prop
  | .refreshing pending, part => Targets site pending.target part
  | .listed pending _ plain, part => Targets site pending.target part ∧
      ∀ name, part = .vhost name → ∀ entry ∈ plain, entry.1.domain = name → entry.2 = lscacheForDomain store.tables name
  | .rendered pending content, part =>
    Targets site pending.target part ∧ Current site store.clock store.tables content part
  | .failed _, part | .restored, part => part = .waf
  | .rerendered waf, part =>
    part = .waf ∧ Current site store.clock store.tables { waf, vhosts := fun _ => none } .waf
  | _, _ => False

/-- Vhosts are refreshed of known accounts; what can be undone is in the main file. -/
structure Pending.Ready (site : Site) (pending : Pending) : Prop where
  known : ∀ account, pending.target = .vhosts account → account ∈ site.accounts
  main : ∀ restore, pending.restore = some restore → pending.target = .main

/-- What an operation holds after a read is of the parts it refreshes. -/
def Ready (site : Site) : Task → Prop
  | .refreshing pending => pending.Ready site
  | .listed pending account plain => pending.Ready site ∧ pending.target = .vhosts account ∧
      plain.map Prod.fst = site.domainsOf account.id ∧ site.domainsOf account.id ≠ []
  | .rendered pending content => pending.Ready site ∧ Targets site pending.target .waf ∧
      ∀ name vhost, content.vhosts name = some vhost → Targets site pending.target (.vhost name)
  | _ => True

/-- A part is in force as the rows have it, or a running operation will put it in force. -/
def Covers (site : Site) (server : Server ι) (part : Part) : Prop :=
  Current site server.store.clock server.store.tables server.store.config part ∨
    ∃ who, Owes site server.store (server.task who) part

structure Covered (site : Site) (server : Server ι) : Prop where
  ready : ∀ who, Ready site (server.task who)
  covers : ∀ part, Covers site server part

/-- A change of the rows that does not concern a part. -/
structure Spares (site : Site) (store store' : Store ι) (part : Part) : Prop where
  current : ∀ config, Current site store.clock store.tables config part →
    Current site store'.clock store'.tables config part
  caches : ∀ name, part = .vhost name → lscacheForDomain store'.tables name = lscacheForDomain store.tables name

variable {store store' : Store ι} {part : Part} {task : Task}

theorem Owes.spared (owes : Owes site store task part) (spares : Spares site store store' part) :
    Owes site store' task part := by
  cases task with
  | refreshing => exact owes
  | listed pending account plain =>
    refine ⟨owes.1, fun name vhost entry member named => ?_⟩
    rw [spares.caches name vhost]
    exact owes.2 name vhost entry member named
  | rendered pending content => exact ⟨owes.1, spares.current content owes.2⟩
  | failed => exact owes
  | restored => exact owes
  | rerendered waf =>
    obtain ⟨rfl, current⟩ := owes
    exact ⟨rfl, spares.current _ current⟩
  | _ => exact owes.elim

section
variable (clock : store.clock ≤ store'.clock)
include clock

theorem spares_later (tables : store'.tables = store.tables) : Spares site store store' part := by
  refine ⟨fun config current => ?_, fun name _ => ?_⟩
  · rw [tables]
    exact current.later clock
  · rw [tables]

theorem spares_write {key : Key} {row : Option (Row key)}
    (tables : store'.tables = Function.update store.tables key row) (hidden : ¬ Shown site key part) :
    Spares site store store' part := by
  refine ⟨fun config current => ?_, fun name vhost => ?_⟩
  · rw [tables]
    exact (current.write hidden).later clock
  · subst vhost
    have other : Function.update store.tables key row (.lscache name) = store.tables (.lscache name) := by
      refine Function.update_of_ne (fun same => hidden ?_) ..
      subst same
      exact rfl
    unfold lscacheForDomain
    rw [tables, other]

theorem spares_review {row later : WafSettings} (held : store.tables .waf = some row)
    (tables : store'.tables = Function.update store.tables Key.waf (some later))
    (same : later.enabled = row.enabled ∧ later.mode = row.mode ∧ later.limits = row.limits) :
    Spares site store store' part := by
  refine ⟨fun config current => ?_, fun name _ => ?_⟩
  · rw [tables]
    exact (current.review held same).later clock
  · rw [tables]
    rfl

end

variable {server server' : Server ι} {who : ι}

/-- A part that a turn spares stays covered, if what its operation owed is kept. -/
theorem Covers.turn (covers : Covers site server part)
    (others : ∀ other, other ≠ who → server'.task other = server.task other)
    (spares : Spares site server.store server'.store part) (config : server'.store.config = server.store.config)
    (own : Owes site server.store (server.task who) part → Owes site server'.store (server'.task who) part) :
    Covers site server' part := by
  rcases covers with current | ⟨other, owes⟩
  · left
    rw [config]
    exact spares.current _ current
  · right
    by_cases mine : other = who
    · subst mine
      exact ⟨other, own owes⟩
    · refine ⟨other, ?_⟩
      rw [others other mine]
      exact owes.spared spares

/-- A part whose new rendering another operation holds or will read. -/
def OwedByOther (site : Site) (server : Server ι) (who : ι) (store : Store ι) (part : Part) : Prop :=
  ∃ other, other ≠ who ∧ Owes site store (server.task other) part

theorem OwedByOther.covers (owed : OwedByOther site server who store part)
    (others : ∀ other, other ≠ who → server'.task other = server.task other) (same : server'.store.tables = store.tables)
    (clock : store.clock ≤ server'.store.clock) : Covers site server' part := by
  obtain ⟨other, different, owes⟩ := owed
  refine .inr ⟨other, ?_⟩
  rw [others other different]
  exact owes.spared (spares_later clock same)

theorem ready_turn (ready : ∀ other, Ready site (server.task other))
    (others : ∀ other, other ≠ who → server'.task other = server.task other) (own : Ready site (server'.task who)) :
    ∀ other, Ready site (server'.task other) := by
  intro other
  by_cases mine : other = who
  · rw [mine]
    exact own
  · rw [others other mine]
    exact ready other

theorem content_vhosts {account : Account} {plain : List (Domain × Option CacheOverride)} {name : String} {vhost : Vhost}
    (listed : plain.map Prod.fst = site.domainsOf account.id)
    (rendered : (store.content site account plain).vhosts name = some vhost) :
    ∃ domain ∈ site.domainsOf account.id, domain.domain = name := by
  obtain ⟨entry, found, _⟩ := Option.map_eq_some_iff.mp rendered
  obtain ⟨member, named⟩ := Rows.byKey_some found
  refine ⟨entry.1, ?_, named⟩
  rw [← listed]
  exact List.mem_map_of_mem member

theorem content_current {account : Account} {plain : List (Domain × Option CacheOverride)}
    (known : account ∈ site.accounts) (listed : plain.map Prod.fst = site.domainsOf account.id)
    (targeted : Targets site (.vhosts account) part)
    (caches : ∀ name, part = .vhost name → ∀ entry ∈ plain, entry.1.domain = name →
      entry.2 = lscacheForDomain store.tables name) :
    Current site store.clock store.tables (store.content site account plain) part := by
  obtain ⟨_, rfl | ⟨domain, member, rfl⟩⟩ := targeted
  · exact current_wafTemplateContext
  · intro found owner seen owned
    obtain ⟨inside, owning⟩ := List.mem_filter.mp member
    have same : found = domain := by
      rw [Rows.byKey_of_mem site.uniqueDomains inside] at seen
      exact (Option.some.inj seen).symm
    subst same
    have theirs : owner = account := by
      rw [of_decide_eq_true owning, Rows.byKey_of_mem site.uniqueAccounts known] at owned
      exact (Option.some.inj owned).symm
    subst theirs
    have entries : found ∈ plain.map Prod.fst := by
      rw [listed]
      exact member
    obtain ⟨entry, there, first⟩ := List.mem_map.mp entries
    cases looked : Rows.byKey (fun entry => entry.1.domain) plain found.domain with
    | none => exact absurd (congrArg Domain.domain first) (Rows.byKey_none.mp looked entry there)
    | some other =>
      obtain ⟨inPlain, named⟩ := Rows.byKey_some looked
      have cache := caches found.domain rfl other inPlain named
      have domain : other.1 = found := by
        have listedToo : other.1 ∈ site.domainsOf owner.id := by
          rw [← listed]
          exact List.mem_map_of_mem inPlain
        have reached := Rows.byKey_of_mem site.uniqueDomains (List.mem_filter.mp listedToo).1
        rw [named, Rows.byKey_of_mem site.uniqueDomains inside] at reached
        exact (Option.some.inj reached).symm
      unfold Store.content
      dsimp only
      rw [looked, Option.map_some, domain, cache]

end Boron.WebSettings
