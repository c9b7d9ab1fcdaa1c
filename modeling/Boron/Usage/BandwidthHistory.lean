import Mathlib.Algebra.Order.BigOperators.Group.List
import Mathlib.Algebra.Order.Group.Nat
import Boron.Usage.Bandwidth

namespace Boron.Usage
open List

inductive Event
  | append (domain : String) (line : Line)
  | rotate (name more : List Char)
  | compress (name : List Char)
  | deleteLog (name : List Char)
  | addDomain (domain : String)
  | removeDomain (domain : String)
  | refresh (moment : Moment)

def LogFile.rotated (file : LogFile) (more : List Char) : LogFile := { file with suffix := file.suffix ++ more }

def LogFile.gzipped (file : LogFile) : LogFile := { file.rotated ".gz".toList with compressed := true }

def LogFile.extended (file : LogFile) (line : Line) : LogFile := { file with lines := file.lines ++ [line] }

namespace Account

def new : Account := { files := [], domains := [], daily := [], dailyDomain := [] }

/-- A domain of the account has the log, and a reader can make it out. -/
def shows (domains : List String) (file : LogFile) : Bool :=
  !file.compressed && domains.any fun domain => named (vhostName domain) file

/-- One event; none where it cannot happen. The web server writes the logs of
current domains, and no log is renamed onto another one. -/
def step (account : Account) : Event → Option Account
  | .append domain line =>
    let log := vhostName domain ++ accessLog
    if domain ∉ account.domains ∨ account.files.any (fun file => file.name = log ∧ file.compressed) then none
    else if account.files.any (fun file => file.name = log) then
      some { account with files := account.files.map fun file => if file.name = log then file.extended line else file }
    else
      some { account with
        files := account.files ++ [{ domain := domain, suffix := [], lines := [line], compressed := false }] }
  | .rotate name more =>
    if account.files.any (fun file => file.name = name ++ more) then none
    else some { account with
      files := account.files.map fun file => if file.name = name then file.rotated more else file }
  | .compress name =>
    if account.files.any (fun file => file.name = name ++ ".gz".toList) then none
    else some { account with
      files := account.files.map fun file => if file.name = name then file.gzipped else file }
  | .deleteLog name => some { account with files := account.files.filter fun file => file.name ≠ name }
  | .addDomain domain =>
    if domain ∈ account.domains then none
    else some { account with domains := account.domains ++ [domain] }
  | .removeDomain domain =>
    some { account with domains := account.domains.filter fun other => other ≠ domain }
  | .refresh moment =>
    match refreshBandwidth moment account with
    | .ok after => some after
    | .error _ => some account

/-- What an event has to respect for the history to be kept. Days leave the logs
in whole, a day in logs that become unreadable has been recorded, a recorded day gets
no further lines once it has left, and the clock lets a refresh take what it sees. -/
def Careful (account : Account) : Event → Prop
  | .append _ line => ∀ day, Line.traffic line day ≠ 0 → account.recorded day ≠ 0 → account.shown day ≠ 0
  | .rotate _ _ => True
  | .compress name => ∀ file ∈ account.files, file.name = name → shows account.domains file →
      ∀ day, traffic file.lines day ≠ 0 →
        (∀ other ∈ account.files, other.name ≠ name → shows account.domains other → traffic other.lines day = 0) ∧
          (account.onDisk day).bytes ≤ (account.recorded day).bytes
  | .deleteLog name => ∀ file ∈ account.files, file.name = name → shows account.domains file →
      ∀ day, traffic file.lines day ≠ 0 →
        ∀ other ∈ account.files, other.name ≠ name → shows account.domains other → traffic other.lines day = 0
  | .addDomain domain => ∀ file ∈ account.files, shows [domain] file →
      ∀ day, traffic file.lines day ≠ 0 → account.recorded day = 0
  | .removeDomain domain => ∀ file ∈ account.files, shows [domain] file → ∀ day, traffic file.lines day ≠ 0 →
        (∀ other ∈ account.files, shows (account.domains.filter fun other => other ≠ domain) other →
          traffic other.lines day = 0) ∧
          (account.onDisk day).bytes ≤ (account.recorded day).bytes
  | .refresh moment => account.InReach moment

/-- Any number of events, each of them allowed. -/
def Run (Allowed : Account → Event → Prop) : Account → Account → Prop :=
  Relation.ReflTransGen fun account after => ∃ event, Allowed account event ∧ account.step event = some after

end Account

theorem bytes_sum (parts : List Traffic) : parts.sum.bytes = (parts.map Traffic.bytes).sum := by
  induction parts with
  | nil => rfl
  | cons part rest ih => rw [sum_cons, Traffic.bytes_add, ih, map_cons, sum_cons]

theorem dot_notMem_vhostName (domain : String) : '.' ∉ vhostName domain := by
  intro dotted
  obtain ⟨c, -, same⟩ := mem_map.mp dotted
  split at same
  · exact absurd same (by decide)
  · next other => exact other same

theorem named_iff (domain : String) (file : LogFile) :
    named (vhostName domain) file = true ↔ vhostName domain = vhostName file.domain := by
  have upToDot (other : String) (rest : List Char) :
      (vhostName other ++ accessLog ++ rest).takeWhile (· ≠ '.') = vhostName other ++ "-access".toList := by
    have plain : ∀ c ∈ vhostName other, decide (c ≠ '.') = true := by
      intro c member
      refine decide_eq_true fun dot => dot_notMem_vhostName other ?_
      rw [← dot]
      exact member
    rw [append_assoc, takeWhile_append_of_pos plain]
    rfl
  unfold named LogFile.name
  rw [List.isPrefixOf_iff_prefix]
  constructor
  · rintro ⟨rest, same⟩
    have heads := congrArg (takeWhile (· ≠ '.')) same
    rw [upToDot, upToDot] at heads
    exact append_cancel_right heads
  · intro same
    rw [same]
    exact prefix_append _ _

theorem named_of_domain {vhost : List Char} {domain : String} (is : vhost = vhostName domain) {file other : LogFile}
    (same : other.domain = file.domain) : named vhost other = named vhost file := by
  rw [is, Bool.eq_iff_iff, named_iff, named_iff, same]

def share (domains : List String) (day : Int) (file : LogFile) : Traffic :=
  (domains.map fun domain => if named (vhostName domain) file then traffic file.content day else 0).sum

def veiled (domains : List String) (day : Int) (file : LogFile) : Nat :=
  if Account.shows domains file then 0 else (traffic file.lines day).bytes

def Account.hidden (account : Account) (day : Int) : Nat := (account.files.map (veiled account.domains day)).sum

theorem sum_filter (P : LogFile → Bool) (weight : LogFile → Traffic) (files : List LogFile) :
    ((files.filter P).map weight).sum = (files.map fun file => if P file then weight file else 0).sum := by
  induction files with
  | nil => rfl
  | cons file rest ih =>
    by_cases holds : P file = true
    · rw [filter_cons_of_pos holds, map_cons, sum_cons, ih, map_cons, sum_cons, if_pos holds]
    · rw [filter_cons_of_neg holds, ih, map_cons, sum_cons, if_neg holds, zero_add]

theorem shown_eq (account : Account) (day : Int) :
    account.shown day = (account.files.map (share account.domains day)).sum := by
  unfold Account.shown share
  induction account.domains with
  | nil => exact (Traffic.sum_eq_zero.mpr fun part member => by
      obtain ⟨file, -, rfl⟩ := mem_map.mp member
      rfl).symm
  | cons domain rest ih =>
    rw [map_cons, sum_cons, ih, sum_filter, ← sum_map_add]
    simp only [map_cons, sum_cons]

theorem share_eq_zero {domains : List String} {day : Int} {file : LogFile} :
    share domains day file = 0 ↔ (Account.shows domains file → traffic file.lines day = 0) := by
  unfold share Account.shows LogFile.content
  rw [Traffic.sum_eq_zero]
  constructor
  · intro empty shown
    rw [Bool.and_eq_true, Bool.not_eq_true', any_eq_true] at shown
    obtain ⟨plain, domain, current, has⟩ := shown
    have part := empty _ (mem_map_of_mem current)
    rwa [if_pos has, plain, if_neg Bool.false_ne_true] at part
  · intro empty part member
    obtain ⟨domain, current, rfl⟩ := mem_map.mp member
    split
    · next has =>
      split
      · rfl
      · next plain =>
        refine empty ?_
        rw [Bool.and_eq_true, Bool.not_eq_true', any_eq_true]
        exact ⟨by simpa using plain, domain, current, has⟩
    · rfl

theorem le_sum_of_mem {parts : List Nat} {part : Nat} (member : part ∈ parts) : part ≤ parts.sum :=
  single_le_sum (fun _ _ => Nat.zero_le _) _ member

theorem bytes_le_share {domains : List String} (day : Int) {file : LogFile} (shown : Account.shows domains file) :
    (traffic file.lines day).bytes ≤ (share domains day file).bytes := by
  unfold Account.shows at shown
  rw [Bool.and_eq_true, Bool.not_eq_true', any_eq_true] at shown
  obtain ⟨plain, domain, current, has⟩ := shown
  have part : (if named (vhostName domain) file then traffic file.content day else 0) = traffic file.lines day := by
    rw [if_pos has, LogFile.content, plain, if_neg Bool.false_ne_true]
  unfold share
  rw [bytes_sum]
  refine le_sum_of_mem (mem_map.mpr ⟨_, ?_, rfl⟩)
  rw [← part]
  exact mem_map_of_mem current

theorem veiled_le (domains : List String) (day : Int) (file : LogFile) :
    veiled domains day file ≤ (traffic file.lines day).bytes := by
  unfold veiled
  split
  · exact Nat.zero_le _
  · exact le_rfl

section
variable (account : Account) (day : Int)

theorem onDisk_bytes : (account.onDisk day).bytes = (account.files.map fun file => (traffic file.lines day).bytes).sum := by
  unfold Account.onDisk
  rw [bytes_sum, map_map]
  rfl

theorem hidden_le_onDisk : account.hidden day ≤ (account.onDisk day).bytes := by
  rw [onDisk_bytes]
  exact sum_le_sum fun file _ => veiled_le account.domains day file

theorem onDisk_le : (account.onDisk day).bytes ≤ account.hidden day + (account.shown day).bytes := by
  rw [onDisk_bytes, shown_eq, bytes_sum, map_map, Account.hidden, ← sum_map_add]
  refine sum_le_sum fun file _ => ?_
  by_cases shown : Account.shows account.domains file = true
  · exact Nat.le_add_left_of_le (bytes_le_share day shown)
  · rw [veiled, if_neg shown]
    exact Nat.le_add_right _ _

theorem shown_eq_zero : account.shown day = 0 ↔
    ∀ file ∈ account.files, Account.shows account.domains file → traffic file.lines day = 0 := by
  rw [shown_eq, Traffic.sum_eq_zero, forall_mem_map]
  exact forall₂_congr fun _ _ => share_eq_zero

end

/-- The history of a day: all its lines are seen and were no fewer when it was
recorded, or none is seen any more and what is left on disk is recorded. -/
def Kept (account : Account) (day : Int) : Prop :=
  (account.hidden day = 0 ∧ (account.recorded day).bytes ≤ (account.shown day).bytes) ∨
    (account.shown day = 0 ∧ (account.onDisk day).bytes ≤ (account.recorded day).bytes)

/-- An event takes nothing of a day out of sight. -/
structure Untouched (before after : Account) (day : Int) : Prop where
  shown : after.shown day = before.shown day
  hidden : after.hidden day ≤ before.hidden day
  onDisk : (after.onDisk day).bytes ≤ (before.onDisk day).bytes

section
variable {before after : Account} {day : Int}

theorem Kept.of_untouched (kept : Kept before day) (same : after.recorded day = before.recorded day)
    (untouched : Untouched before after day) : Kept after day := by
  have fewer := untouched.hidden
  have less := untouched.onDisk
  unfold Kept
  rw [same, untouched.shown]
  rcases kept with ⟨sight, bound⟩ | ⟨gone, bound⟩
  · exact .inl ⟨by omega, bound⟩
  · exact .inr ⟨gone, less.trans bound⟩

theorem Kept.of_deleted (kept : Kept before day) (same : after.recorded day = before.recorded day)
    (gone : after.shown day = 0) (hidden : after.hidden day ≤ before.hidden day) : Kept after day := by
  have left := onDisk_le after day
  have within := hidden_le_onDisk before day
  rw [gone, Traffic.bytes_zero] at left
  refine .inr ⟨gone, ?_⟩
  rw [same]
  rcases kept with ⟨sight, -⟩ | ⟨-, bound⟩
  · omega
  · omega

theorem Kept.of_grown (kept : Kept before day) (same : after.recorded day = before.recorded day)
    (grows : (before.shown day).bytes ≤ (after.shown day).bytes) (hidden : after.hidden day ≤ before.hidden day)
    (recent : before.recorded day ≠ 0 → before.shown day ≠ 0) : Kept after day := by
  have within := hidden_le_onDisk before day
  refine .inl ?_
  rw [same]
  rcases kept with ⟨sight, bound⟩ | ⟨gone, bound⟩
  · exact ⟨by omega, bound.trans grows⟩
  · have blank : before.recorded day = 0 := by
      by_contra recorded
      exact recent recorded gone
    rw [blank, Traffic.bytes_zero] at bound ⊢
    exact ⟨by omega, Nat.zero_le _⟩

end

section
variable (account : Account) (day : Int)

theorem traffic_append (lines : List Line) (line : Line) :
    traffic (lines ++ [line]) day = traffic lines day + Line.traffic line day := by
  unfold traffic
  rw [map_append, sum_append, map_singleton, sum_singleton]

variable {domain : String}

theorem shows_of_name {file : LogFile} {domains : List String} (current : domain ∈ domains)
    (name : file.name = vhostName domain ++ accessLog) (plain : file.compressed = false) :
    Account.shows domains file = true := by
  unfold Account.shows
  rw [Bool.and_eq_true, Bool.not_eq_true', any_eq_true]
  refine ⟨plain, domain, current, ?_⟩
  exact isPrefixOf_iff_prefix.mpr ⟨[], by rw [append_nil, name]⟩

theorem untouched_of_map {g : LogFile → LogFile}
    (shares : ∀ file ∈ account.files, share account.domains day (g file) = share account.domains day file)
    (veils : ∀ file ∈ account.files, veiled account.domains day (g file) ≤ veiled account.domains day file)
    (disk : ∀ file ∈ account.files, (traffic (g file).lines day).bytes ≤ (traffic file.lines day).bytes) :
    Untouched account { account with files := account.files.map g } day where
  shown := by
    rw [shown_eq, shown_eq, map_map]
    exact congrArg sum (map_congr_left shares)
  hidden := by
    unfold Account.hidden
    rw [map_map]
    exact sum_le_sum veils
  onDisk := by
    rw [onDisk_bytes, onDisk_bytes, map_map]
    exact sum_le_sum disk

theorem rotated_untouched (name more : List Char) :
    Untouched account { account with files := account.files.map fun file =>
      if file.name = name then file.rotated more else file } day := by
  have named (domain : String) (file : LogFile) :
      named (vhostName domain) (file.rotated more) = named (vhostName domain) file := named_of_domain rfl rfl
  refine untouched_of_map account day (fun file _ => ?_) (fun file _ => ?_) (fun file _ => ?_)
  · split
    · simp only [share, named]
      rfl
    · rfl
  · split
    · simp only [veiled, Account.shows, named]
      rfl
    · exact le_rfl
  · split
    · exact le_rfl
    · exact le_rfl

theorem shows_gzipped (domains : List String) (file : LogFile) : Account.shows domains file.gzipped = false := rfl

theorem compressed_untouched {name : List Char} (nothing : ∀ file ∈ account.files, file.name = name →
    Account.shows account.domains file → traffic file.lines day = 0) :
    Untouched account { account with files := account.files.map fun file =>
      if file.name = name then file.gzipped else file } day := by
  refine untouched_of_map account day (fun file listed => ?_) (fun file listed => ?_) (fun file _ => ?_)
  · split
    · next hit =>
      rw [share_eq_zero.mpr (nothing file listed hit)]
      exact share_eq_zero.mpr fun shown => Bool.noConfusion ((shows_gzipped _ file).symm.trans shown)
    · rfl
  · split
    · next hit =>
      have bytes : veiled account.domains day file.gzipped = (traffic file.lines day).bytes := by
        rfl
      rw [bytes, veiled]
      split
      · next shown => rw [nothing file listed hit shown, Traffic.bytes_zero]
      · exact le_rfl
    · exact le_rfl
  · split
    · exact le_rfl
    · exact le_rfl

theorem compressed_onDisk (name : List Char) : ({ account with files := account.files.map fun file =>
      if file.name = name then file.gzipped else file } : Account).onDisk day = account.onDisk day := by
  unfold Account.onDisk
  rw [map_map]
  refine congrArg sum (map_congr_left fun file _ => ?_)
  simp only [Function.comp_apply]
  split
  · rfl
  · rfl

theorem deleted_hidden (P : LogFile → Bool) :
    ({ account with files := account.files.filter P } : Account).hidden day ≤ account.hidden day :=
  (filter_sublist.map _).sum_le_sum fun _ _ => Nat.zero_le _

theorem deleted_untouched {name : List Char} (nothing : ∀ file ∈ account.files, file.name = name →
    Account.shows account.domains file → traffic file.lines day = 0) :
    Untouched account { account with files := account.files.filter fun file => file.name ≠ name } day where
  shown := by
    rw [shown_eq, shown_eq, sum_filter]
    refine congrArg sum (map_congr_left fun file listed => ?_)
    split
    · rfl
    · next hit =>
      have same : file.name = name := by simpa using hit
      exact (share_eq_zero.mpr (nothing file listed same)).symm
  hidden := deleted_hidden account day _
  onDisk := by
    rw [onDisk_bytes, onDisk_bytes]
    exact (filter_sublist.map _).sum_le_sum fun _ _ => Nat.zero_le _

theorem shows_mono {domains more : List String} (subset : domains ⊆ more) {file : LogFile}
    (shown : Account.shows domains file = true) : Account.shows more file = true := by
  unfold Account.shows at shown ⊢
  rw [Bool.and_eq_true, any_eq_true] at shown ⊢
  obtain ⟨plain, domain, current, has⟩ := shown
  exact ⟨plain, domain, subset current, has⟩

theorem veiled_anti {domains more : List String} (subset : domains ⊆ more) (file : LogFile) :
    veiled more day file ≤ veiled domains day file := by
  unfold veiled
  split
  · exact Nat.zero_le _
  · next veiled =>
    rw [if_neg fun shown => veiled (shows_mono subset shown)]

theorem share_append (domains more : List String) (file : LogFile) :
    share (domains ++ more) day file = share domains day file + share more day file := by
  unfold share
  rw [map_append, sum_append]

theorem added_untouched (nothing : ∀ file ∈ account.files, Account.shows [domain] file → traffic file.lines day = 0) :
    Untouched account { account with domains := account.domains ++ [domain] } day where
  shown := by
    rw [shown_eq, shown_eq]
    refine congrArg sum (map_congr_left fun file listed => ?_)
    rw [share_append, share_eq_zero.mpr (nothing file listed), add_zero]
  hidden := sum_le_sum fun file _ => veiled_anti day (subset_append_left _ _) file
  onDisk := le_rfl

theorem added_grows (domain : String) : (account.shown day).bytes ≤
      (({ account with domains := account.domains ++ [domain] } : Account).shown day).bytes := by
  rw [shown_eq, shown_eq, bytes_sum, bytes_sum, map_map, map_map]
  refine sum_le_sum fun file _ => ?_
  simp only [Function.comp_apply, share_append, Traffic.bytes_add]
  exact Nat.le_add_right _ _

theorem removed_untouched (nothing : ∀ file ∈ account.files, Account.shows [domain] file → traffic file.lines day = 0) :
    Untouched account { account with domains := account.domains.filter fun other => other ≠ domain } day where
  shown := by
    rw [shown_eq, shown_eq]
    refine congrArg sum (map_congr_left fun file listed => ?_)
    have silent : named (vhostName domain) file = true → traffic file.content day = 0 := by
      intro has
      unfold LogFile.content
      split
      · rfl
      · next plain =>
        refine nothing file listed ?_
        unfold Account.shows
        rw [Bool.and_eq_true, Bool.not_eq_true', any_eq_true]
        exact ⟨by simpa using plain, domain, mem_singleton_self domain, has⟩
    unfold share
    induction account.domains with
    | nil => rfl
    | cons other rest ih =>
      rw [map_cons, sum_cons, filter_cons]
      split
      · rw [map_cons, sum_cons, ih]
      · next hit =>
        have same : other = domain := by simpa using hit
        rw [ih, same]
        split
        · next has => rw [silent has, zero_add]
        · rw [zero_add]
  hidden := by
    refine sum_le_sum fun file listed => ?_
    unfold veiled
    split
    · exact Nat.zero_le _
    · next unseen =>
      by_cases before : Account.shows account.domains file = true
      · have own : Account.shows [domain] file = true := by
          unfold Account.shows at before unseen ⊢
          rw [Bool.and_eq_true, any_eq_true] at before
          obtain ⟨plain, other, current, has⟩ := before
          rw [Bool.and_eq_true, any_eq_true] at unseen ⊢
          refine ⟨plain, domain, mem_singleton_self domain, ?_⟩
          by_contra different
          refine unseen ⟨plain, other, mem_filter.mpr ⟨current, ?_⟩, has⟩
          refine decide_eq_true fun same => different ?_
          rwa [← same]
        rw [if_pos before, nothing file listed own, Traffic.bytes_zero]
      · rw [if_neg before]
  onDisk := le_rfl

theorem extended_untouched {line : Line} (other : Line.traffic line day = 0) (log : List Char)
    (current : ∀ file ∈ account.files, file.name = log → Account.shows account.domains file = true) :
    Untouched account { account with files := account.files.map fun file =>
      if file.name = log then file.extended line else file } day := by
  have lines (file : LogFile) : traffic (file.extended line).lines day = traffic file.lines day := by
    rw [LogFile.extended, traffic_append, other, add_zero]
  have content (file : LogFile) : traffic (file.extended line).content day = traffic file.content day := by
    by_cases gz : file.compressed = true
    · have same : (file.extended line).compressed = true := gz
      rw [LogFile.content, LogFile.content, if_pos gz, if_pos same]
    · have same : ¬ (file.extended line).compressed = true := gz
      rw [LogFile.content, LogFile.content, if_neg gz, if_neg same, lines]
  have named (domain : String) (file : LogFile) :
      named (vhostName domain) (file.extended line) = named (vhostName domain) file := named_of_domain rfl rfl
  refine untouched_of_map account day (fun file _ => ?_) (fun file listed => ?_) (fun file _ => ?_)
  · split
    · simp only [share, named, content]
    · rfl
  · split
    · next hit =>
      have shown : Account.shows account.domains (file.extended line) = true := current file listed hit
      rw [veiled, if_pos shown]
      exact Nat.zero_le _
    · exact le_rfl
  · split
    · rw [lines]
    · exact le_rfl

theorem extended_grows (line : Line) (log : List Char) : (account.shown day).bytes ≤ (Account.shown
      { account with files := account.files.map fun file =>
        if file.name = log then file.extended line else file } day).bytes := by
  rw [shown_eq, shown_eq, bytes_sum, bytes_sum, map_map, map_map, map_map]
  refine sum_le_sum fun file _ => ?_
  simp only [Function.comp_apply]
  split
  · have named (domain : String) :
        named (vhostName domain) (file.extended line) = named (vhostName domain) file := named_of_domain rfl rfl
    unfold share
    rw [bytes_sum, bytes_sum, map_map, map_map]
    refine sum_le_sum fun domain _ => ?_
    simp only [Function.comp_apply, named]
    split
    · unfold LogFile.content
      by_cases plain : file.compressed = true
      · rw [if_pos plain]
        exact Nat.zero_le _
      · have same : ¬ (file.extended line).compressed = true := plain
        rw [if_neg plain, if_neg same, LogFile.extended, traffic_append, Traffic.bytes_add]
        exact Nat.le_add_right _ _
    · exact le_rfl
  · exact le_rfl

theorem extended_hidden (line : Line) (log : List Char)
    (current : ∀ file ∈ account.files, file.name = log → Account.shows account.domains file = true) :
    ({ account with files := account.files.map fun file =>
      if file.name = log then file.extended line else file } : Account).hidden day ≤ account.hidden day := by
  unfold Account.hidden
  rw [map_map]
  refine sum_le_sum fun file listed => ?_
  simp only [Function.comp_apply]
  split
  · next hit =>
    have shown : Account.shows account.domains (file.extended line) = true := current file listed hit
    rw [veiled, if_pos shown]
    exact Nat.zero_le _
  · exact le_rfl

section
variable {file : LogFile}

theorem opened_shown : ({ account with files := account.files ++ [file] } : Account).shown day =
    account.shown day + share account.domains day file := by
  rw [shown_eq, shown_eq, map_append, sum_append, map_singleton, sum_singleton]

theorem opened_hidden (shown : Account.shows account.domains file = true) :
    ({ account with files := account.files ++ [file] } : Account).hidden day = account.hidden day := by
  unfold Account.hidden
  rw [map_append, sum_append, map_singleton, sum_singleton, veiled, if_pos shown]
  rfl

theorem opened_untouched (shown : Account.shows account.domains file = true) (nothing : traffic file.lines day = 0) :
    Untouched account { account with files := account.files ++ [file] } day where
  shown := by rw [opened_shown, share_eq_zero.mpr fun _ => nothing, add_zero]
  hidden := (opened_hidden account day shown).le
  onDisk := by
    rw [onDisk_bytes, onDisk_bytes, map_append, sum_append, map_singleton, sum_singleton, nothing]
    exact le_rfl

end

end

section
variable {account after : Account} {day : Int} {domain : String}

section
variable (kept : Kept account day)
include kept

theorem kept_append {line : Line}
    (careful : account.Careful (.append domain line)) (ran : account.step (.append domain line) = some after) :
    Kept after day ∧ after.recorded day = account.recorded day := by
  simp only [Account.step] at ran
  split at ran
  · cases ran
  · next possible =>
    rw [not_or, not_not, Bool.not_eq_true, any_eq_false] at possible
    obtain ⟨mine, plain⟩ := possible
    have current : ∀ file ∈ account.files, file.name = vhostName domain ++ accessLog →
        Account.shows account.domains file = true := by
      intro file listed name
      refine shows_of_name mine name ?_
      by_contra gz
      exact plain file listed (decide_eq_true ⟨name, by simpa using gz⟩)
    split at ran
    · cases ran
      refine ⟨?_, rfl⟩
      by_cases about : Line.traffic line day = 0
      · exact kept.of_untouched rfl (extended_untouched account day about _ current)
      · exact kept.of_grown rfl (extended_grows account day line _) (extended_hidden account day line _ current)
          (careful day about)
    · cases ran
      refine ⟨?_, rfl⟩
      have shown : Account.shows account.domains { domain := domain, suffix := [], lines := [line], compressed := false } =
          true := shows_of_name mine (append_nil _) rfl
      have lines : traffic [line] day = Line.traffic line day := by
        unfold traffic
        rw [map_singleton, sum_singleton]
      by_cases about : Line.traffic line day = 0
      · exact kept.of_untouched rfl (opened_untouched account day shown (lines.trans about))
      · refine kept.of_grown rfl ?_ (opened_hidden account day shown).le (careful day about)
        rw [opened_shown, Traffic.bytes_add]
        exact Nat.le_add_right _ _

theorem kept_compress {name : List Char}
    (careful : account.Careful (.compress name)) (ran : account.step (.compress name) = some after) :
    Kept after day ∧ after.recorded day = account.recorded day := by
  simp only [Account.step] at ran
  split at ran
  · cases ran
  · cases ran
    refine ⟨?_, rfl⟩
    by_cases touched : ∃ file ∈ account.files, file.name = name ∧ Account.shows account.domains file ∧
        traffic file.lines day ≠ 0
    · obtain ⟨file, listed, hit, shown, some⟩ := touched
      obtain ⟨alone, recorded⟩ := careful file listed hit shown day some
      refine .inr ⟨?_, ?_⟩
      · refine (shown_eq_zero _ day).mpr fun other member seen => ?_
        obtain ⟨original, present, rfl⟩ := mem_map.mp member
        split at seen
        · next same => exact Bool.noConfusion ((shows_gzipped _ original).symm.trans seen)
        · next different =>
          rw [if_neg different]
          exact alone original present different seen
      · rw [compressed_onDisk]
        exact recorded
    · refine kept.of_untouched rfl (compressed_untouched account day fun file listed hit shown => ?_)
      by_contra some
      exact touched ⟨file, listed, hit, shown, some⟩

theorem kept_deleteLog {name : List Char}
    (careful : account.Careful (.deleteLog name)) (ran : account.step (.deleteLog name) = some after) :
    Kept after day ∧ after.recorded day = account.recorded day := by
  cases ran
  refine ⟨?_, rfl⟩
  by_cases touched : ∃ file ∈ account.files, file.name = name ∧ Account.shows account.domains file ∧
      traffic file.lines day ≠ 0
  · obtain ⟨file, listed, hit, shown, some⟩ := touched
    refine kept.of_deleted rfl ?_ (deleted_hidden account day _)
    refine (shown_eq_zero _ day).mpr fun other member seen => ?_
    obtain ⟨present, different⟩ := mem_filter.mp member
    exact careful file listed hit shown day some other present (of_decide_eq_true different) seen
  · refine kept.of_untouched rfl (deleted_untouched account day fun file listed hit shown => ?_)
    by_contra some
    exact touched ⟨file, listed, hit, shown, some⟩

theorem kept_addDomain
    (careful : account.Careful (.addDomain domain)) (ran : account.step (.addDomain domain) = some after) :
    Kept after day ∧ after.recorded day = account.recorded day := by
  simp only [Account.step] at ran
  split at ran
  · cases ran
  · cases ran
    refine ⟨?_, rfl⟩
    by_cases touched : ∃ file ∈ account.files, Account.shows [domain] file ∧ traffic file.lines day ≠ 0
    · obtain ⟨file, listed, shown, some⟩ := touched
      refine kept.of_grown rfl (added_grows account day domain) ?_ fun recorded => ?_
      · exact sum_le_sum fun file _ => veiled_anti day (subset_append_left _ _) file
      · exact absurd (careful file listed shown day some) recorded
    · refine kept.of_untouched rfl (added_untouched account day fun file listed shown => ?_)
      by_contra some
      exact touched ⟨file, listed, shown, some⟩

theorem kept_removeDomain
    (careful : account.Careful (.removeDomain domain)) (ran : account.step (.removeDomain domain) = some after) :
    Kept after day ∧ after.recorded day = account.recorded day := by
  cases ran
  refine ⟨?_, rfl⟩
  by_cases touched : ∃ file ∈ account.files, Account.shows [domain] file ∧ traffic file.lines day ≠ 0
  · obtain ⟨file, listed, shown, some⟩ := touched
    obtain ⟨alone, recorded⟩ := careful file listed shown day some
    exact .inr ⟨(shown_eq_zero _ day).mpr alone, recorded⟩
  · refine kept.of_untouched rfl (removed_untouched account day fun file listed shown => ?_)
    by_contra some
    exact touched ⟨file, listed, shown, some⟩

/-- A completed refresh lowers no total, and records whatever is on disk. -/
theorem kept_refresh {moment : Moment} (inReach : account.InReach moment)
    (ran : refreshBandwidth moment account = .ok after) :
    Kept after day ∧ (account.recorded day).bytes ≤ (after.recorded day).bytes ∧
      (account.onDisk day).bytes ≤ (after.recorded day).bytes := by
  obtain ⟨files, domains, recorded⟩ := refreshBandwidth_ok inReach ran
  have shown : after.shown day = account.shown day := by unfold Account.shown; rw [files, domains]
  have hidden : after.hidden day = account.hidden day := by unfold Account.hidden; rw [files, domains]
  have onDisk : after.onDisk day = account.onDisk day := by unfold Account.onDisk; rw [files]
  have whole := onDisk_le account day
  unfold Kept
  rw [shown, hidden, onDisk, recorded day]
  by_cases nothing : account.shown day = 0
  · rw [if_pos nothing]
    refine ⟨kept, le_rfl, ?_⟩
    rcases kept with ⟨sight, -⟩ | ⟨-, bound⟩
    · rw [sight, nothing, Traffic.bytes_zero] at whole
      omega
    · exact bound
  · rw [if_neg nothing]
    rcases kept with ⟨sight, bound⟩ | ⟨gone, -⟩
    · exact ⟨.inl ⟨sight, le_rfl⟩, bound, by omega⟩
    · exact absurd gone nothing

end

theorem same_bytes {first second : Traffic} (same : second = first) : first.bytes ≤ second.bytes := by rw [same]

theorem kept_step {event : Event} (kept : Kept account day) (careful : account.Careful event)
    (ran : account.step event = some after) :
    Kept after day ∧ (account.recorded day).bytes ≤ (after.recorded day).bytes := by
  cases event with
  | append domain line => exact (kept_append kept careful ran).imp_right same_bytes
  | compress name => exact (kept_compress kept careful ran).imp_right same_bytes
  | deleteLog name => exact (kept_deleteLog kept careful ran).imp_right same_bytes
  | addDomain domain => exact (kept_addDomain kept careful ran).imp_right same_bytes
  | removeDomain domain => exact (kept_removeDomain kept careful ran).imp_right same_bytes
  | rotate name more =>
    simp only [Account.step] at ran
    split at ran
    · cases ran
    · cases ran
      exact ⟨kept.of_untouched rfl (rotated_untouched account day name more), le_rfl⟩
  | refresh moment =>
    simp only [Account.step] at ran
    cases refreshed : refreshBandwidth moment account with
    | error failure =>
      simp only [refreshed] at ran
      cases ran
      exact ⟨kept, le_rfl⟩
    | ok next =>
      simp only [refreshed] at ran
      cases ran
      obtain ⟨keeps, grows, -⟩ := kept_refresh kept careful refreshed
      exact ⟨keeps, grows⟩

theorem kept_run (kept : Kept account day) (run : Account.Run Account.Careful account after) :
    Kept after day ∧ (account.recorded day).bytes ≤ (after.recorded day).bytes := by
  induction run with
  | refl => exact ⟨kept, le_rfl⟩
  | tail _ last ih =>
    obtain ⟨event, careful, ran⟩ := last
    obtain ⟨keeps, grows⟩ := kept_step ih.1 careful ran
    exact ⟨keeps, ih.2.trans grows⟩

/-- While every event is careful, no stored total of a day decreases, and from a
refresh on it is no less than what was then on disk of the day. -/
theorem bandwidthHistory_kept (reached : Account.Run Account.Careful Account.new account) :
    (∀ later, Account.Run Account.Careful account later →
      ∀ day, (account.recorded day).bytes ≤ (later.recorded day).bytes) ∧
    ∀ moment refreshed later, account.Careful (.refresh moment) → refreshBandwidth moment account = .ok refreshed →
      Account.Run Account.Careful refreshed later →
      ∀ day, (account.onDisk day).bytes ≤ (later.recorded day).bytes := by
  have kept (day : Int) : Kept account day := (kept_run (.inl ⟨rfl, le_rfl⟩) reached).1
  constructor
  · intro later onward day
    exact (kept_run (kept day) onward).2
  · intro moment refreshed later careful ran onward day
    obtain ⟨keeps, -, whole⟩ := kept_refresh (kept day) careful ran
    exact whole.trans (kept_run keeps onward).2

end

def quietMoment (today : Int) : Moment :=
  { otherEntries := 0, fails := fun _ => false, firstToday := fun _ => today, secondToday := fun _ => today }

/-- A line of the first of July 2026, of which no log of the account has lines yet. -/
def julyLine (bytes : List (Fin 10)) : Line := some { day := 1, month := "Jul", year := 2026, bytes := some bytes }

def julyFirst : Int := 740103

def siteLog (suffix : String) (bytes : List (Fin 10)) : LogFile :=
  { domain := "site.org", suffix := suffix.toList, lines := [julyLine bytes], compressed := false }

def openedSite : Account := { Account.new with domains := ["site.org"] }

def loggedSite : Account := { openedSite with files := [siteLog "" [1, 0, 0]] }

theorem loggedSite_reached : Account.Run Account.Careful Account.new loggedSite := by
  have opened : Account.Run Account.Careful Account.new openedSite := by
    refine Relation.ReflTransGen.single ⟨.addDomain "site.org", ?_, rfl⟩
    intro file listed
    cases listed
  refine opened.tail ⟨.append "site.org" (julyLine [1, 0, 0]), ?_, rfl⟩
  intro day _ recorded
  exact absurd rfl recorded

theorem bandwidthHistory_kept_applied : (∀ later, Account.Run Account.Careful loggedSite later →
      ∀ day, (loggedSite.recorded day).bytes ≤ (later.recorded day).bytes) ∧
    ∀ moment refreshed later, loggedSite.Careful (.refresh moment) →
      refreshBandwidth moment loggedSite = .ok refreshed → Account.Run Account.Careful refreshed later →
      ∀ day, (loggedSite.onDisk day).bytes ≤ (later.recorded day).bytes :=
  bandwidthHistory_kept loggedSite_reached

/-- A day whose lines are in two logs, recorded in full. -/
def recordedSite : Account :=
  { openedSite with
    files := [siteLog ".1" [1, 0, 0], siteLog "" [5, 0]]
    daily := [{ date := julyFirst, bytesServed := 150 }]
    dailyDomain := [{ domain := "site.org", date := julyFirst, bytesServed := 150 }] }

/-- The same after the older log was deleted and the account refreshed. -/
def shrunkSite : Account :=
  { openedSite with
    files := [siteLog "" [5, 0]]
    daily := [{ date := julyFirst, bytesServed := 50 }]
    dailyDomain := [{ domain := "site.org", date := julyFirst, bytesServed := 50 }] }

def Account.play (account : Account) (events : List Event) : Option Account := events.foldlM Account.step account

theorem run_of_play {account after : Account} {events : List Event} (played : account.play events = some after) :
    Account.Run (fun _ _ => True) account after := by
  induction events generalizing account with
  | nil =>
    cases played
    exact Relation.ReflTransGen.refl
  | cons event events ih =>
    obtain ⟨next, first, rest⟩ := Option.bind_eq_some_iff.mp played
    exact Relation.ReflTransGen.head ⟨event, trivial, first⟩ (ih rest)

/-- A stored total falls when a day is only partly on disk at a later refresh. -/
theorem recordedTotal_falls : ∃ account later, Account.Run (fun _ _ => True) Account.new account ∧
    Account.Run (fun _ _ => True) account later ∧
      ∃ day, (later.recorded day).bytes < (account.recorded day).bytes := by
  have recorded : Account.new.play [.addDomain "site.org", .append "site.org" (julyLine [1, 0, 0]),
      .rotate "site_org-access.log".toList ".1".toList, .append "site.org" (julyLine [5, 0]),
      .refresh (quietMoment julyFirst)] = some recordedSite := rfl
  have shrunk : recordedSite.play [.deleteLog "site_org-access.log.1".toList, .refresh (quietMoment julyFirst)] =
      some shrunkSite := rfl
  exact ⟨recordedSite, shrunkSite, run_of_play recorded, run_of_play shrunk, julyFirst, by decide⟩

end Boron.Usage
