import Mathlib.Algebra.GroupWithZero.Nat
import Mathlib.Data.Char
import Mathlib.Data.List.Lex
import Mathlib.Data.List.Sort
import Boron.Lib.Calendar
import Boron.Lib.Rows
import Boron.Lib.Tally

namespace Boron.Usage
open List Rows Calendar

/-- What the logs say of a day: no line, or lines with so many bytes in all. -/
inductive Traffic
  | none
  | served (bytes : Nat)
  deriving DecidableEq

namespace Traffic

def bytes : Traffic → Nat
  | none => 0
  | served count => count

instance : Zero Traffic where zero := none

instance : Add Traffic where
  add
    | none, other => other
    | traffic, none => traffic
    | served count, served more => served (count + more)

@[simp] theorem bytes_zero : bytes 0 = 0 := rfl

theorem bytes_add (traffic other : Traffic) : (traffic + other).bytes = traffic.bytes + other.bytes := by
  cases traffic with
  | none => exact (Nat.zero_add _).symm
  | served count => cases other <;> rfl

theorem add_eq_zero {traffic other : Traffic} : traffic + other = 0 ↔ traffic = 0 ∧ other = 0 := by
  cases traffic with
  | none =>
    constructor
    · intro empty
      exact ⟨rfl, empty⟩
    · intro empty
      exact empty.2
  | served count =>
    constructor
    · intro wrong
      cases other <;> cases wrong
    · rintro ⟨wrong, -⟩
      cases wrong

instance : AddCommMonoid Traffic where
  zero_add _ := rfl
  add_zero traffic := by cases traffic <;> rfl
  add_comm traffic other := by
    cases traffic with
    | none => cases other <;> rfl
    | served count =>
      cases other with
      | none => rfl
      | served more => exact congrArg served (Nat.add_comm count more)
  add_assoc traffic other third := by
    cases traffic with
    | none => rfl
    | served count =>
      cases other with
      | none => rfl
      | served more =>
        cases third with
        | none => rfl
        | served rest => exact congrArg served (Nat.add_assoc count more rest)
  nsmul := nsmulRec

end Traffic

/-- The groups of a line that `_ACCESS_LOG_RE` matches: numbers of two and of four
digits, and the digits of the bytes unless they read `-`. -/
structure Groups where
  day : Nat
  month : String
  year : Nat
  bytes : Option (List (Fin 10))
  deriving DecidableEq

/-- A line of an access log; one that is too long or does not match has no groups. -/
abbrev Line := Option Groups

def months : List String := ["Jan", "Feb", "Mar", "Apr", "May", "Jun", "Jul", "Aug", "Sep", "Oct", "Nov", "Dec"]

/-- `_MONTHS.get(mon, 0)`. -/
def monthNumber (name : String) : Nat := if name ∈ months then months.idxOf name + 1 else 0

/-- The day `date(year, month, day)`, which must exist. -/
def date (year month day : Nat) : Option Int :=
  let index : Int := 12 * year + month - 3
  if 1 ≤ year ∧ year ≤ 9999 ∧ 1 ≤ month ∧ month ≤ 12 ∧ 1 ≤ day ∧ (day : Int) ≤ monthLength index then
    some (monthStart index + day - 1)
  else none

def number (digits : List (Fin 10)) : Nat := digits.foldl (fun n digit => 10 * n + digit) 0

/-- The day of a line and its bytes, unless the parser skips it. -/
def Groups.entry (groups : Groups) : Option (Int × Nat) :=
  match groups.bytes with
  | none => none
  | some digits =>
    if 18 < digits.length then none
    else (date groups.year (monthNumber groups.month) groups.day).map fun day => (day, number digits)

/-- `vhost_name`: the dots of a domain replaced. -/
def vhostName (domain : String) : List Char := domain.toList.map fun c => if c = '.' then '_' else c

def accessLog : List Char := "-access.log".toList

/-- A log in an account's directory: the domain it is named after, what rotations
put behind `-access.log`, and its lines. -/
structure LogFile where
  domain : String
  suffix : List Char
  lines : List Line
  compressed : Bool
  deriving DecidableEq

namespace LogFile

def name (file : LogFile) : List Char := vhostName file.domain ++ accessLog ++ file.suffix

/-- The lines a reader sees. No line of what gzip wrote looks like one of a log. -/
def content (file : LogFile) : List Line := if file.compressed then [] else file.lines

end LogFile

structure BandwidthDaily where
  date : Int
  bytesServed : Nat
  deriving DecidableEq

structure BandwidthDailyDomain where
  domain : String
  date : Int
  bytesServed : Nat
  deriving DecidableEq

def BandwidthDailyDomain.key (row : BandwidthDailyDomain) : String × Int := (row.domain, row.date)

structure Account where
  files : List LogFile
  domains : List String
  daily : List BandwidthDaily
  dailyDomain : List BandwidthDailyDomain
  deriving DecidableEq

inductive Failure
  | tooManyEntries
  | tooManyLogs
  | scan (file : List Char)
  | totalExceedsLimits

/-- What a refresh meets: the other entries of the directory, the files whose scan
fails or runs out of its budget, and the day of the two readings of the clock. -/
structure Moment where
  otherEntries : Nat
  fails : List Char → Bool
  firstToday : List Char → Int
  secondToday : List Char → Int

def largestTotal : Nat := 2 ^ 63 - 1

/-- A dictionary of totals by key, zero where a key is missing. -/
abbrev Counts (κ : Type) := List (κ × Nat)

namespace Counts
variable {κ : Type} [DecidableEq κ]

def get (counts : Counts κ) (key : κ) : Nat := ((Rows.byKey Prod.fst counts key).map Prod.snd).getD 0

def add (counts : Counts κ) (key : κ) (bytes : Nat) : Counts κ :=
  Rows.put Prod.fst (key, counts.get key + bytes) counts

def traffic (counts : Counts κ) (key : κ) : Traffic :=
  match Rows.byKey Prod.fst counts key with
  | none => 0
  | some item => .served item.2

end Counts

/-- The body of the loop of `_parse_access_log`. -/
def parseLine (oldest newest : Int) (totals : Counts Int) (line : Line) : Except Failure (Counts Int) :=
  match line.bind Groups.entry with
  | none => .ok totals
  | some (day, bytes) =>
    if ¬ (oldest ≤ day ∧ day ≤ newest) then .ok totals
    else if largestTotal < totals.get day + bytes then .error .totalExceedsLimits
    else .ok (totals.add day bytes)

def parseAccessLog (moment : Moment) (file : LogFile) : Except Failure (Counts Int) :=
  if moment.fails file.name then .error (.scan file.name)
  else
    let oldest := moment.firstToday file.name - 366
    let newest := moment.secondToday file.name + 1
    file.content.foldlM (parseLine oldest newest) []

/-- `entry.name.startswith(f'{vhost_name}-access.log')`. -/
def named (vhost : List Char) (file : LogFile) : Bool := (vhost ++ accessLog).isPrefixOf file.name

def allAccessLogFiles (moment : Moment) (files : List LogFile) (vhost : List Char) :
    Except Failure (List LogFile) :=
  let logs := files.filter (named vhost)
  if 8192 < files.length + moment.otherEntries then .error .tooManyEntries
  else if 1024 < logs.length then .error .tooManyLogs
  else .ok (logs.insertionSort fun first second => first.name ≤ second.name)

/-- The two dictionaries of a refresh. -/
structure Scan where
  aggregate : Counts Int
  perDomain : Counts (String × Int)

def Scan.addDay (domain : String) (scan : Scan) (item : Int × Nat) : Except Failure Scan :=
  let aggregate := scan.aggregate.add item.1 item.2
  let perDomain := scan.perDomain.add (domain, item.1) item.2
  if largestTotal < aggregate.get item.1 then .error .totalExceedsLimits
  else .ok { aggregate := aggregate, perDomain := perDomain }

def scanFile (moment : Moment) (domain : String) (scan : Scan) (file : LogFile) : Except Failure Scan := do
  let totals ← parseAccessLog moment file
  totals.foldlM (Scan.addDay domain) scan

def scanDomain (moment : Moment) (files : List LogFile) (scan : Scan) (domain : String) : Except Failure Scan := do
  let logs ← allAccessLogFiles moment files (vhostName domain)
  logs.foldlM (scanFile moment domain) scan

def store (rows : List BandwidthDaily) (item : Int × Nat) : List BandwidthDaily :=
  Rows.put BandwidthDaily.date { date := item.1, bytesServed := item.2 } rows

def storeDomain (rows : List BandwidthDailyDomain) (item : (String × Int) × Nat) : List BandwidthDailyDomain :=
  Rows.put BandwidthDailyDomain.key { domain := item.1.1, date := item.1.2, bytesServed := item.2 } rows

def refreshBandwidth (moment : Moment) (account : Account) : Except Failure Account := do
  let scan ← account.domains.foldlM (scanDomain moment account.files) { aggregate := [], perDomain := [] }
  if scan.aggregate = [] then .ok account
  else .ok { account with
    daily := scan.aggregate.foldl store account.daily
    dailyDomain := scan.perDomain.foldl storeDomain account.dailyDomain }

def Line.traffic (line : Line) (day : Int) : Traffic :=
  match line.bind Groups.entry with
  | none => 0
  | some entry => if entry.1 = day then .served entry.2 else 0

def traffic (lines : List Line) (day : Int) : Traffic := (lines.map fun line => Line.traffic line day).sum

def recordedIn (rows : List BandwidthDaily) (day : Int) : Traffic :=
  match Rows.byKey BandwidthDaily.date rows day with
  | none => 0
  | some row => .served row.bytesServed

namespace Account

def recorded (account : Account) (day : Int) : Traffic := recordedIn account.daily day

/-- The lines of a day that a scan sees: those in readable logs of current domains. -/
def shown (account : Account) (day : Int) : Traffic :=
  (account.domains.map fun domain =>
    ((account.files.filter (named (vhostName domain))).map fun file => traffic file.content day).sum).sum

/-- Whatever the logs on disk still say of a day. -/
def onDisk (account : Account) (day : Int) : Traffic := (account.files.map fun file => traffic file.lines day).sum

/-- The clock lets a scan take every line that it sees. -/
def InReach (account : Account) (moment : Moment) : Prop :=
  ∀ day, account.shown day ≠ 0 → ∀ file ∈ account.files,
    moment.firstToday file.name - 366 ≤ day ∧ day ≤ moment.secondToday file.name + 1

end Account

theorem Traffic.sum_eq_zero {parts : List Traffic} : parts.sum = 0 ↔ ∀ part ∈ parts, part = 0 := by
  induction parts with
  | nil => simp
  | cons part rest ih => rw [sum_cons, Traffic.add_eq_zero, ih, forall_mem_cons]

namespace Counts
variable {κ : Type} [DecidableEq κ]

theorem get_eq (counts : Counts κ) (key : κ) : counts.get key = (counts.traffic key).bytes := by
  unfold get traffic
  cases byKey Prod.fst counts key <;> rfl

theorem traffic_add (counts : Counts κ) (key other : κ) (bytes : Nat) :
    (counts.add key bytes).traffic other = counts.traffic other + if key = other then .served bytes else 0 := by
  unfold add
  conv_lhs => unfold traffic
  rw [byKey_put]
  by_cases same : key = other
  · subst same
    simp only [if_true, get_eq]
    cases counts.traffic key with
    | none => exact congrArg Traffic.served (Nat.zero_add bytes)
    | served count => rfl
  · simp only [same, if_false, add_zero]
    rfl

theorem sum_traffic {counts : Counts κ} (unique : Rows.Unique Prod.fst counts) (key : κ) :
    (counts.map fun item => if item.1 = key then Traffic.served item.2 else 0).sum = counts.traffic key := by
  unfold traffic
  induction counts with
  | nil => rfl
  | cons item rest ih =>
    obtain ⟨absent, later⟩ := nodup_cons.mp unique
    rw [map_cons, sum_cons]
    by_cases same : item.1 = key
    · have others : (rest.map fun item => if item.1 = key then Traffic.served item.2 else 0).sum = 0 := by
        refine Traffic.sum_eq_zero.mpr fun part member => ?_
        obtain ⟨other, inside, rfl⟩ := mem_map.mp member
        refine if_neg fun hit => absent ?_
        exact mem_map.mpr ⟨other, inside, hit.trans same.symm⟩
      have found : byKey Prod.fst (item :: rest) key = some item := by
        exact List.find?_cons_of_pos (decide_eq_true same)
      rw [others, found, if_pos same, add_zero]
    · have skipped : byKey Prod.fst (item :: rest) key = byKey Prod.fst rest key := by
        exact List.find?_cons_of_neg (by simpa using same)
      rw [skipped, if_neg same, zero_add, ih later]

theorem unique_add {counts : Counts κ} (unique : Rows.Unique Prod.fst counts) (key : κ) (bytes : Nat) :
    Rows.Unique Prod.fst (counts.add key bytes) := unique_put unique _

end Counts

theorem parseLine_ok {oldest newest : Int} {totals after : Counts Int} {line : Line}
    (ran : parseLine oldest newest totals line = .ok after) :
    after = totals ∨ ∃ day bytes, line.bind Groups.entry = some (day, bytes) ∧ after = totals.add day bytes := by
  unfold parseLine at ran
  split at ran
  · cases ran
    exact .inl rfl
  · next day bytes entry =>
    split at ran
    · cases ran
      exact .inl rfl
    · split at ran
      · cases ran
      · cases ran
        exact .inr ⟨day, bytes, entry, rfl⟩

theorem parseLine_traffic {oldest newest day : Int} {totals after : Counts Int} {line : Line}
    (taken : Line.traffic line day ≠ 0 → oldest ≤ day ∧ day ≤ newest)
    (ran : parseLine oldest newest totals line = .ok after) :
    after.traffic day = totals.traffic day + Line.traffic line day := by
  unfold Line.traffic at taken ⊢
  unfold parseLine at ran
  cases entry : line.bind Groups.entry with
  | none =>
    simp only [entry] at ran ⊢
    cases ran
    exact (add_zero _).symm
  | some item =>
    simp only [entry] at ran taken ⊢
    by_cases same : item.1 = day
    · have inside : oldest ≤ day ∧ day ≤ newest := taken (by rw [if_pos same]; exact Traffic.noConfusion)
      rw [same, if_neg (not_not_intro inside)] at ran
      split at ran
      · cases ran
      · cases ran
        rw [Counts.traffic_add, if_pos rfl, if_pos same]
    · rw [if_neg same, add_zero]
      split at ran
      · cases ran
        rfl
      · split at ran
        · cases ran
        · cases ran
          rw [Counts.traffic_add, if_neg same, add_zero]

variable {moment : Moment} {file : LogFile}

theorem parseAccessLog_traffic {totals : Counts Int} {day : Int} (inReach : traffic file.content day ≠ 0 →
      moment.firstToday file.name - 366 ≤ day ∧ day ≤ moment.secondToday file.name + 1)
    (ran : parseAccessLog moment file = .ok totals) : totals.traffic day = traffic file.content day := by
  unfold parseAccessLog at ran
  split at ran
  · cases ran
  · have whole := Tally.foldlM_sum (fun totals : Counts Int => totals.traffic day)
      (fun line => Line.traffic line day) (fun totals line after listed ran => by
        refine parseLine_traffic (fun some => inReach fun empty => some ?_) ran
        exact Traffic.sum_eq_zero.mp empty _ (mem_map_of_mem listed)) ran
    exact whole.trans (zero_add _)

theorem parseAccessLog_unique {totals : Counts Int}
    (ran : parseAccessLog moment file = .ok totals) : Rows.Unique Prod.fst totals := by
  unfold parseAccessLog at ran
  split at ran
  · cases ran
  · have empty : Rows.Unique Prod.fst ([] : Counts Int) := nodup_nil
    refine Tally.foldlM_keeps (fun totals line after _ unique ran => ?_) empty ran
    rcases parseLine_ok ran with rfl | ⟨day, bytes, -, rfl⟩
    · exact unique
    · exact Counts.unique_add unique day bytes

variable {domain : String} {scan after : Scan}

theorem addDay_ok {item : Int × Nat}
    (ran : scan.addDay domain item = .ok after) : after.aggregate = scan.aggregate.add item.1 item.2 := by
  unfold Scan.addDay at ran
  dsimp only at ran
  split at ran
  · cases ran
  · cases ran
    rfl

theorem scanFile_traffic {day : Int} (inReach : traffic file.content day ≠ 0 →
      moment.firstToday file.name - 366 ≤ day ∧ day ≤ moment.secondToday file.name + 1)
    (ran : scanFile moment domain scan file = .ok after) :
    after.aggregate.traffic day = scan.aggregate.traffic day + traffic file.content day := by
  unfold scanFile at ran
  cases parsed : parseAccessLog moment file with
  | error failure =>
    rw [parsed] at ran
    cases ran
  | ok totals =>
    rw [parsed] at ran
    have whole := Tally.foldlM_sum (fun scan : Scan => scan.aggregate.traffic day)
      (fun item : Int × Nat => if item.1 = day then Traffic.served item.2 else 0)
      (fun scan item after _ ran => by rw [addDay_ok ran, Counts.traffic_add]) ran
    rw [whole, Counts.sum_traffic (parseAccessLog_unique parsed), parseAccessLog_traffic inReach parsed]

theorem scanFile_unique (unique : Rows.Unique Prod.fst scan.aggregate) (ran : scanFile moment domain scan file = .ok after) :
    Rows.Unique Prod.fst after.aggregate := by
  unfold scanFile at ran
  cases parsed : parseAccessLog moment file with
  | error failure =>
    rw [parsed] at ran
    cases ran
  | ok totals =>
    rw [parsed] at ran
    refine Tally.foldlM_keeps (P := fun scan => Rows.Unique Prod.fst scan.aggregate)
      (fun scan item after _ unique ran => ?_) unique ran
    rw [addDay_ok ran]
    exact Counts.unique_add unique _ _

theorem allAccessLogFiles_ok {files logs : List LogFile} {vhost : List Char}
    (ran : allAccessLogFiles moment files vhost = .ok logs) : logs.Perm (files.filter (named vhost)) := by
  unfold allAccessLogFiles at ran
  dsimp only at ran
  split at ran
  · cases ran
  · split at ran
    · cases ran
    · cases ran
      exact perm_insertionSort _ _

theorem scanDomain_ok {files : List LogFile} (ran : scanDomain moment files scan domain = .ok after) :
    ∃ logs : List LogFile, logs.Perm (files.filter (named (vhostName domain))) ∧
      logs.foldlM (scanFile moment domain) scan = .ok after := by
  unfold scanDomain at ran
  cases listed : allAccessLogFiles moment files (vhostName domain) with
  | error failure =>
    rw [listed] at ran
    cases ran
  | ok logs =>
    rw [listed] at ran
    exact ⟨logs, allAccessLogFiles_ok listed, ran⟩

variable {account : Account}

theorem shown_of_file {day : Int}
    (current : domain ∈ account.domains) (listed : file ∈ account.files.filter (named (vhostName domain)))
    (some : traffic file.content day ≠ 0) : account.shown day ≠ 0 := by
  intro empty
  have ofDomain := Traffic.sum_eq_zero.mp empty _ (mem_map_of_mem current)
  exact some (Traffic.sum_eq_zero.mp ofDomain _ (mem_map_of_mem listed))

theorem scan_traffic {scan : Scan} (inReach : account.InReach moment)
    (ran : account.domains.foldlM (scanDomain moment account.files) { aggregate := [], perDomain := [] } = .ok scan)
    (day : Int) : scan.aggregate.traffic day = account.shown day := by
  have whole := Tally.foldlM_sum (fun scan : Scan => scan.aggregate.traffic day)
    (fun domain => ((account.files.filter (named (vhostName domain))).map fun file => traffic file.content day).sum)
    (fun scan domain after current ran => by
      obtain ⟨logs, sameFiles, ran⟩ := scanDomain_ok ran
      have added := Tally.foldlM_sum (fun scan : Scan => scan.aggregate.traffic day)
        (fun file => traffic file.content day) (fun scan file after listed ran => by
          have inside := sameFiles.subset listed
          refine scanFile_traffic (fun some => ?_) ran
          exact inReach day (shown_of_file current inside some) file (mem_of_mem_filter inside)) ran
      rw [added, (sameFiles.map _).sum_eq]) ran
  exact whole.trans (zero_add _)

theorem scan_unique {scan : Scan}
    (ran : account.domains.foldlM (scanDomain moment account.files) { aggregate := [], perDomain := [] } = .ok scan) :
    Rows.Unique Prod.fst scan.aggregate := by
  have empty : Rows.Unique Prod.fst ([] : Counts Int) := nodup_nil
  refine Tally.foldlM_keeps (P := fun scan => Rows.Unique Prod.fst scan.aggregate)
    (fun scan domain after _ unique ran => ?_) empty ran
  obtain ⟨logs, -, ran⟩ := scanDomain_ok ran
  exact Tally.foldlM_keeps (P := fun scan => Rows.Unique Prod.fst scan.aggregate)
    (fun scan file after _ unique ran => scanFile_unique unique ran) unique ran

theorem recordedIn_store (rows : List BandwidthDaily) (item : Int × Nat) (day : Int) :
    recordedIn (store rows item) day = if item.1 = day then .served item.2 else recordedIn rows day := by
  unfold recordedIn store
  rw [byKey_put]
  by_cases same : item.1 = day
  · simp only [same, if_true]
  · simp only [same, if_false]

theorem recordedIn_foldl {counts : Counts Int} (unique : Rows.Unique Prod.fst counts) (rows : List BandwidthDaily)
    (day : Int) : recordedIn (counts.foldl store rows) day =
      if counts.traffic day = 0 then recordedIn rows day else counts.traffic day := by
  induction counts generalizing rows with
  | nil => rfl
  | cons item rest ih =>
    obtain ⟨absent, later⟩ := nodup_cons.mp unique
    rw [foldl_cons, ih later, recordedIn_store]
    by_cases same : item.1 = day
    · have gone : Counts.traffic rest day = 0 := by
        have missing : byKey Prod.fst rest day = none := by
          refine byKey_none.mpr fun other inside hit => absent ?_
          exact mem_map.mpr ⟨other, inside, hit.trans same.symm⟩
        unfold Counts.traffic
        rw [missing]
      have found : Counts.traffic (item :: rest) day = .served item.2 := by
        have first : byKey Prod.fst (item :: rest) day = some item := List.find?_cons_of_pos (decide_eq_true same)
        unfold Counts.traffic
        rw [first]
      rw [if_pos gone, if_pos same, found, if_neg (by exact Traffic.noConfusion)]
    · have skipped : Counts.traffic (item :: rest) day = Counts.traffic rest day := by
        have later : byKey Prod.fst (item :: rest) day = byKey Prod.fst rest day :=
          List.find?_cons_of_neg (by simpa using same)
        unfold Counts.traffic
        rw [later]
      rw [if_neg same, skipped]

/-- A refresh that completes records of each day what its scan sees of it, and
leaves the days alone of which it sees nothing. -/
theorem refreshBandwidth_ok {account after : Account} (inReach : account.InReach moment)
    (ran : refreshBandwidth moment account = .ok after) :
    after.files = account.files ∧ after.domains = account.domains ∧
      ∀ day, after.recorded day = if account.shown day = 0 then account.recorded day else account.shown day := by
  unfold refreshBandwidth at ran
  cases scanned : account.domains.foldlM (scanDomain moment account.files) { aggregate := [], perDomain := [] } with
  | error failure =>
    rw [scanned] at ran
    cases ran
  | ok scan =>
    rw [scanned] at ran
    have seen := scan_traffic inReach scanned
    by_cases empty : scan.aggregate = []
    · have same : after = account := by
        have kept : (if scan.aggregate = [] then Except.ok account else _) = Except.ok after := ran
        rw [if_pos empty] at kept
        cases kept
        rfl
      refine ⟨by rw [same], by rw [same], fun day => ?_⟩
      have nothing : account.shown day = 0 := by
        rw [← seen day, empty]
        rfl
      rw [same, if_pos nothing]
    · have stored : (if scan.aggregate = [] then Except.ok account else _) = Except.ok after := ran
      rw [if_neg empty] at stored
      cases stored
      refine ⟨rfl, rfl, fun day => ?_⟩
      have replaced := recordedIn_foldl (scan_unique scanned) account.daily day
      rw [seen day] at replaced
      exact replaced

end Boron.Usage
