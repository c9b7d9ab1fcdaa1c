import Boron.Lib.Rows
import Mathlib.Data.Rat.Floor
import Mathlib.Data.List.Dedup

namespace Boron.ResourceManager

/-- `ResourceSample`; instants are microseconds of UTC. -/
structure ResourceSample where
  id : Nat
  accountId : Nat
  periodSeconds : Nat
  cpuPct : Rat
  memoryBytes : Nat
  ioReadBytes : Nat
  ioWriteBytes : Nat
  pids : Nat
  sampledAt : Int
  deriving DecidableEq

def hour : Int := 3600000000

def day : Int := 24 * hour

/-- `strftime('%Y-%m-%d %H:00:00', sampled_at)` -/
def hourOf (instant : Int) : Int := instant / hour

def ResourceSample.key (sample : ResourceSample) : Nat × Int := (sample.accountId, hourOf sample.sampledAt)

def ofKey (key : Nat × Int) (rows : List ResourceSample) : List ResourceSample :=
  rows.filter fun row => decide (row.key = key)

def averageOf (column : ResourceSample → Rat) (rows : List ResourceSample) : Rat :=
  (rows.map column).sum / rows.length

/-- `sampled_at >= :start AND sampled_at < :end` -/
def inWindow (start stop : Int) (row : ResourceSample) : Bool := decide (start ≤ row.sampledAt ∧ row.sampledAt < stop)

/-- A row of the `GROUP BY` query. -/
structure Bucket where
  key : Nat × Int
  keepId : Nat
  cpu : Rat
  memory : Rat
  readBytes : Rat
  writeBytes : Rat
  pids : Rat
  count : Nat

def summarise (rows : List ResourceSample) (key : Nat × Int) : Bucket :=
  let members := ofKey key rows
  { key
    keepId := (members.map ResourceSample.id).min?.getD 0
    cpu := averageOf ResourceSample.cpuPct members
    memory := averageOf (fun row => row.memoryBytes) members
    readBytes := averageOf (fun row => row.ioReadBytes) members
    writeBytes := averageOf (fun row => row.ioWriteBytes) members
    pids := averageOf (fun row => row.pids) members
    count := members.length }

/-- The groups of the rows in the window, of those with more than one row. -/
def buckets (start stop : Int) (rows : List ResourceSample) : List Bucket :=
  let window := rows.filter (inWindow start stop)
  ((window.map ResourceSample.key).dedup.map (summarise window)).filter fun bucket => decide (1 < bucket.count)

def Bucket.fill (bucket : Bucket) (keeper : ResourceSample) : ResourceSample :=
  { keeper with
    periodSeconds := 3600
    cpuPct := bucket.cpu
    memoryBytes := ⌊bucket.memory⌋₊
    ioReadBytes := ⌊bucket.readBytes⌋₊
    ioWriteBytes := ⌊bucket.writeBytes⌋₊
    pids := ⌊bucket.pids⌋₊ }

def collapse (start stop : Int) (rows : List ResourceSample) (bucket : Bucket) : List ResourceSample :=
  match Rows.byKey ResourceSample.id rows bucket.keepId with
  | none => rows
  | some _ =>
    (Rows.change ResourceSample.id bucket.keepId bucket.fill rows).filter fun row =>
      !(decide (row.key = bucket.key) && decide (row.id ≠ bucket.keepId) && inWindow start stop row)

def compactRows (start stop : Int) (rows : List ResourceSample) : List ResourceSample :=
  (buckets start stop rows).foldl (collapse start stop) rows

/-- The table, `_last_compaction` and the retention setting of the process; `clock` and `raw`, every sample
ever taken, are not stored. -/
structure State where
  rows : List ResourceSample
  lastCompaction : Option Int
  retentionDays : Int
  clock : Int
  raw : List ResourceSample

structure Measured where
  accountId : Nat
  periodSeconds : Nat
  cpuPct : Rat
  memoryBytes : Nat
  ioReadBytes : Nat
  ioWriteBytes : Nat
  pids : Nat

/-- `now - timedelta(days=max(1, settings.resource_sample_retention_days))` -/
def State.cutoff (s : State) (now : Int) : Int := now - max 1 s.retentionDays * day

/-- The session of one account in `sample_all`. -/
def insert (now : Int) (measured : Measured) (s : State) : State :=
  let row : ResourceSample := {
    id := Rows.next ResourceSample.id s.rows
    accountId := measured.accountId
    periodSeconds := measured.periodSeconds
    cpuPct := measured.cpuPct
    memoryBytes := measured.memoryBytes
    ioReadBytes := measured.ioReadBytes
    ioWriteBytes := measured.ioWriteBytes
    pids := measured.pids
    sampledAt := now }
  { s with rows := s.rows ++ [row], raw := s.raw ++ [row] }

/-- The session of `sample_all` that deletes what is too old. -/
def prune (now : Int) (s : State) : State :=
  { s with rows := s.rows.filter fun row => decide (s.cutoff now ≤ row.sampledAt) }

/-- `not (_last_compaction and now - _last_compaction < timedelta(hours=1))` -/
def State.due (s : State) (now : Int) : Bool := s.lastCompaction.all fun last => decide (hour ≤ now - last)

def compactSamples (now : Int) (s : State) : State :=
  if s.due now then { s with rows := compactRows (s.cutoff now) (now - day) s.rows, lastCompaction := some now } else s

/-- One session of the daemon, or a start of it with its settings. -/
inductive Step
  | insert (now : Int) (measured : Measured)
  | prune (now : Int)
  | compact (now : Int)
  | restart (now : Int) (retentionDays : Int)

def Step.time : Step → Int
  | .insert now _ => now
  | .prune now => now
  | .compact now => now
  | .restart now _ => now

def perform (s : State) (step : Step) : State :=
  let s' := match step with
    | .insert now measured => Boron.ResourceManager.insert now measured s
    | .prune now => Boron.ResourceManager.prune now s
    | .compact now => compactSamples now s
    | .restart _ retentionDays => { s with lastCompaction := none, retentionDays }
  { s' with clock := step.time }

def sampleAll (now : Int) (measured : List Measured) : List Step :=
  measured.map (Step.insert now) ++ [.prune now, .compact now]

end Boron.ResourceManager
