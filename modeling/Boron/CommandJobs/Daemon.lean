import Boron.Lib.Rows
import Boron.Lib.Text
import Boron.Lib.Sys

namespace Boron.CommandJobs

inductive Status
  | pending
  | running
  | completed
  | failed
  deriving DecidableEq

/-- The modules that submit jobs. -/
inductive Caller
  | composer
  | wpcli
  | wpmanager
  deriving DecidableEq

/-- The `kind` that a caller submits. -/
def Caller.kind : Caller → String
  | .composer => "composer"
  | .wpcli => "wpcli"
  | .wpmanager => "wpmanager"

/-- Encryption at rest under the daemon's key. -/
structure Cipher where
  encrypt : Nat → String → Except String String
  decrypt : String → Except String String

structure Settings where
  maxActivePerAccount : Nat
  maxActiveGlobal : Nat

structure CommandRun where
  id : Nat
  accountId : Nat
  kind : String
  target : String
  commandDisplay : String
  status : Status
  exitCode : Option Int
  stdout : Option String
  stderr : Option String
  error : Option String
  revealedSecret : Option String
  startedAt : Int
  completedAt : Option Int

def CommandRun.isActive (job : CommandRun) : Bool := job.status = .pending || job.status = .running

def CommandRun.isEnded (job : CommandRun) : Bool := job.status = .completed || job.status = .failed

/-- The parameters of `submit`. What the command itself does is not known to the panel. -/
structure Request where
  username : String
  caller : Caller
  target : String
  commandDisplay : String
  redact : List String
  revealedSecret : Option String
  onFailure : Bool
  onSuccess : Bool

structure ProcResult where
  returncode : Int
  stdout : String
  stderr : String

/-- What one session or call meets: the clock, an exception, the account that has the name now,
the name that the account of a job has now, a nonce, and the result of the command. -/
structure Moment where
  now : Int
  raises : Option String
  account : Nat
  owner : Option String
  nonce : Nat
  result : ProcResult

def sealedPrefix : String := "encrypted:v1:"

/-- `jobcredentials.seal` -/
def sealSecret (cipher : Cipher) (nonce : Nat) : Option String → Except String (Option String)
  | none => .ok none
  | some value => (cipher.encrypt nonce value).map fun hidden => some (sealedPrefix ++ hidden)

/-- `jobcredentials.reveal` -/
def revealSecret (cipher : Cipher) : Option String → Except String (Option String)
  | none => .ok none
  | some stored =>
    if sealedPrefix.toList.isPrefixOf stored.toList then
      (cipher.decrypt (String.ofList (stored.toList.drop sealedPrefix.length))).map some
    else .ok (some stored)

def maxCapture : Nat := 190000

def maskOutput (secrets : List String) (value : String) : String :=
  secrets.foldl (fun value secret =>
    if secret = "" then value
    else String.ofList (Text.replace secret.toList "***REDACTED***".toList 0 value.toList)) value

def cut (length : Nat) (value : String) : String := String.ofList (value.toList.take length)

def jobById (rows : List CommandRun) (id : Nat) : Option CommandRun := Rows.byKey CommandRun.id rows id

def setJob (id : Nat) (f : CommandRun → CommandRun) (rows : List CommandRun) : List CommandRun :=
  Rows.change CommandRun.id id f rows

def accountActive (accountId : Nat) (rows : List CommandRun) : Nat :=
  rows.countP fun job => job.accountId = accountId && job.isActive

def globalActive (rows : List CommandRun) : Nat := rows.countP CommandRun.isActive

def accountFull : String :=
  "This account already has the maximum number of queued or running commands. " ++
    "Wait for one to finish before starting another."

def queueFull : String := "The command queue is currently full. Wait for a running command to finish and retry."

/-- The session of `submit`: it counts what is active, and adds the row. -/
def admission (settings : Settings) (cipher : Cipher) (moment : Moment) (request : Request) (accountId : Nat)
    (rows : List CommandRun) : Except String (Nat × List CommandRun) := do
  if settings.maxActivePerAccount ≤ accountActive accountId rows then .error accountFull
  if settings.maxActiveGlobal ≤ globalActive rows then .error queueFull
  let stored ← sealSecret cipher moment.nonce request.revealedSecret
  let id := Rows.next CommandRun.id rows
  match moment.raises with
  | some error => .error error
  | none => .ok (id, rows ++ [{
      id, accountId, kind := request.caller.kind, target := request.target
      commandDisplay := cut 1024 request.commandDisplay, status := .pending
      exitCode := none, stdout := none, stderr := none, error := none
      revealedSecret := stored, startedAt := moment.now, completedAt := none }])

def notQueued : String := "The command could not be queued. Retry the operation."

def CommandRun.fail (error : String) (now : Int) (job : CommandRun) : CommandRun :=
  { job with status := .failed, error := some error, completedAt := some now }

/-- `(stderr.strip() or stdout.strip() or …)[:4000]` -/
def failureText (stdout stderr : String) : String :=
  cut 4000 (if Text.strip stderr ≠ "" then Text.strip stderr
    else if Text.strip stdout ≠ "" then Text.strip stdout else "command exited non-zero")

/-- The values that the last session of `_run_job` writes. -/
def CommandRun.finish (redact : List String) (result : ProcResult) (now : Int) (job : CommandRun) : CommandRun :=
  let stdout := cut maxCapture (maskOutput redact result.stdout)
  let stderr := cut maxCapture (maskOutput redact result.stderr)
  { job with
    exitCode := some result.returncode
    stdout := some stdout
    stderr := some stderr
    status := if result.returncode = 0 then .completed else .failed
    error := if result.returncode ≠ 0 ∧ job.error.getD "" = "" then some (failureText stdout stderr) else job.error
    completedAt := some now }

/-- What `_job_dict` shows. -/
structure JobDict where
  id : Nat
  kind : String
  target : String
  command : String
  status : Status
  exitCode : Option Int
  stdout : Option String
  stderr : Option String
  error : Option String
  revealedSecret : Option String
  startedAt : Int
  completedAt : Option Int

def jobDict (cipher : Cipher) (job : CommandRun) (reveal : Bool) : Except String JobDict := do
  let secret ← if reveal then revealSecret cipher job.revealedSecret else .ok none
  .ok {
    id := job.id, kind := job.kind, target := job.target, command := job.commandDisplay, status := job.status
    exitCode := job.exitCode, stdout := job.stdout, stderr := job.stderr, error := job.error
    revealedSecret := secret, startedAt := job.startedAt, completedAt := job.completedAt }

def notFound (id : Nat) : String := "command run " ++ toString id ++ " not found"

/-- The session of `get_run`. An exception leaves the table as it was. -/
def getRun (cipher : Cipher) (moment : Moment) (id : Nat) (username : String) (rows : List CommandRun) :
    Except String (JobDict × List CommandRun) := do
  match jobById rows id with
  | none => .error (notFound id)
  | some job =>
    if moment.owner ≠ some username then .error "command run does not belong to this account"
    let reveal := job.isEnded && job.revealedSecret.isSome
    let dict ← jobDict cipher job reveal
    match moment.raises with
    | some error => .error error
    | none => .ok (dict, if reveal then setJob id (fun job => { job with revealedSecret := none }) rows else rows)

/-- The kinds that `recover_interrupted` selects. -/
def recoveredKinds : List String := ["composer", "wpcli", "wpmanager"]

def interrupted (kind : String) : String :=
  if kind = "wpmanager" then
    "The command was interrupted by a panel service restart. Review the site state before running the operation again."
  else "The command was interrupted by a panel service restart. Run it again."

/-- `recover_interrupted`. Every job has its account, by the foreign key. -/
def recoverInterrupted (moment : Moment) (rows : List CommandRun) : List CommandRun :=
  match moment.raises with
  | some _ => rows
  | none => rows.map fun job =>
    if job.isActive && recoveredKinds.contains job.kind then job.fail (interrupted job.kind) moment.now else job

end Boron.CommandJobs

namespace Boron.CommandJobs

/-- Where a `submit` stands. -/
inductive Submission
  | idle
  | account (request : Request)
  | enter (request : Request) (accountId : Nat)
  | queue (request : Request) (id : Nat)
  | refuse (id : Nat)
  | answer (id : Nat)

/-- Where `_run_job` stands. `failing` and `recordFailed` are in the exception handler. -/
inductive Phase
  | lookup
  | claim (accountId : Nat)
  | start
  | command
  | callback (result : ProcResult)
  | record (result : ProcResult)
  | failing (error : String)
  | recordFailed (error : String)

structure Work where
  request : Request
  phase : Phase

/-- What has happened to a job: how often its command was started, what it exited with, how
often each callback was called, and the secrets handed out. -/
structure Story where
  started : Nat
  exited : Option Int
  succeeded : Nat
  failed : Nat
  handed : List String

def Story.blank : Story := { started := 0, exited := none, succeeded := 0, failed := 0, handed := [] }

structure Daemon where
  rows : List CommandRun
  requests : Nat → Submission
  works : Nat → Option Work
  story : Nat → Story

def Daemon.fresh : Daemon :=
  { rows := [], requests := fun _ => .idle, works := fun _ => none, story := fun _ => .blank }

inductive Event
  | arrive (i : Nat) (request : Request)
  | submit (i : Nat) (moment : Moment)
  | work (id : Nat) (moment : Moment)
  | getRun (id : Nat) (username : String) (moment : Moment)
  | restart (moment : Moment)

def Daemon.request (i : Nat) (submission : Submission) (daemon : Daemon) : Daemon :=
  { daemon with requests := Function.update daemon.requests i submission }

def Daemon.tell (id : Nat) (f : Story → Story) (daemon : Daemon) : Daemon :=
  { daemon with story := Function.update daemon.story id (f (daemon.story id)) }

def Daemon.onRows (f : List CommandRun → List CommandRun) (daemon : Daemon) : Daemon :=
  { daemon with rows := f daemon.rows }

/-- The job goes on to another phase, or its thread ends. -/
def Daemon.goes (id : Nat) (work : Option Work) (daemon : Daemon) : Daemon :=
  { daemon with works := Function.update daemon.works id work }

/-- One turn of `submit`. -/
def submitTurn (settings : Settings) (cipher : Cipher) (moment : Moment) (i : Nat) (daemon : Daemon) : Daemon :=
  match daemon.requests i with
  | .idle => daemon
  | .account request => match moment.raises with
    | some _ => daemon.request i .idle
    | none => daemon.request i (.enter request moment.account)
  | .enter request accountId => match admission settings cipher moment request accountId daemon.rows with
    | .error _ => daemon.request i .idle
    | .ok (id, rows) => (daemon.onRows fun _ => rows).request i (.queue request id)
  | .queue request id => match moment.raises with
    | some _ => daemon.request i (.refuse id)
    | none => (daemon.goes id (some ⟨request, .lookup⟩)).request i (.answer id)
  | .refuse id => match moment.raises with
    | some _ => daemon.request i .idle
    | none => (daemon.onRows (setJob id (CommandRun.fail notQueued moment.now))).request i .idle
  | .answer _ => daemon.request i .idle

def Request.calls (request : Request) (result : ProcResult) : Bool :=
  if result.returncode = 0 then request.onSuccess else request.onFailure

def Story.call (success : Bool) (story : Story) : Story :=
  if success then { story with succeeded := story.succeeded + 1 } else { story with failed := story.failed + 1 }

def noJob : String := "'NoneType' object has no attribute 'status'"

/-- One turn of `_run_job`. -/
def workTurn (moment : Moment) (id : Nat) (work : Work) (daemon : Daemon) : Daemon :=
  let goes (phase : Phase) : Option Work := some ⟨work.request, phase⟩
  match work.phase with
  | .lookup => match moment.raises with
    | some error => daemon.goes id (goes (.failing error))
    | none => daemon.goes id (goes (.claim moment.account))
  | .claim accountId => match jobById daemon.rows id with
    | none => daemon.goes id none
    | some job =>
      if job.status ≠ .pending then daemon.goes id none
      else if job.accountId ≠ accountId then
        daemon.goes id (goes (.failing "queued command no longer belongs to this account"))
      else match moment.raises with
        | some error => daemon.goes id (goes (.failing error))
        | none => (daemon.onRows (setJob id fun job => { job with status := .running })).goes id (goes .start)
  | .start => match moment.raises with
    | some error => daemon.goes id (goes (.failing error))
    | none => (daemon.tell id fun story => { story with started := story.started + 1 }).goes id (goes .command)
  | .command => match moment.raises with
    | some error => daemon.goes id (goes (.failing error))
    | none => (daemon.tell id fun story => { story with exited := some moment.result.returncode }).goes id
        (goes (.callback moment.result))
  | .callback result =>
    if work.request.calls result then
      let called := daemon.tell id (Story.call (result.returncode = 0))
      match moment.raises with
      | some error => called.goes id (goes (.failing error))
      | none => called.goes id (goes (.record result))
    else daemon.goes id (goes (.record result))
  | .record result => match jobById daemon.rows id, moment.raises with
    | none, _ => daemon.goes id (goes (.failing noJob))
    | some _, some error => daemon.goes id (goes (.failing error))
    | some _, none => (daemon.onRows (setJob id (CommandRun.finish work.request.redact result moment.now))).goes id none
  -- An exception of the callback is only logged here.
  | .failing error =>
    if work.request.onFailure then (daemon.tell id (Story.call false)).goes id (goes (.recordFailed error))
    else daemon.goes id (goes (.recordFailed error))
  | .recordFailed error => match moment.raises with
    | some _ => daemon.goes id none
    | none => (daemon.onRows
        (setJob id (CommandRun.fail (cut 4000 (maskOutput work.request.redact error)) moment.now))).goes id none

def Daemon.step (settings : Settings) (cipher : Cipher) (event : Event) (daemon : Daemon) : Daemon :=
  match event with
  | .arrive i request => match daemon.requests i with
    | .idle => daemon.request i (.account request)
    | _ => daemon
  | .submit i moment => submitTurn settings cipher moment i daemon
  | .work id moment => match daemon.works id with
    | none => daemon
    | some work => workTurn moment id work daemon
  | .getRun id username moment => match getRun cipher moment id username daemon.rows with
    | .error _ => daemon
    | .ok (dict, rows) => (daemon.onRows fun _ => rows).tell id fun story =>
        { story with handed := story.handed ++ dict.revealedSecret.toList }
  -- Nothing of the requests and the threads is left; the recovery runs before a request arrives.
  | .restart moment =>
    { daemon with
      rows := recoverInterrupted moment daemon.rows
      requests := fun _ => .idle
      works := fun _ => none }

/-- Over the whole run: a command is started once, the callback that fits its exit is called once,
a secret is handed out once, and the limits hold. -/
structure Settled (settings : Settings) (daemon : Daemon) : Prop where
  started : ∀ id, (daemon.story id).started ≤ 1
  succeeded : ∀ id, 0 < (daemon.story id).succeeded → (daemon.story id).exited = some 0
  failed : ∀ id, 0 < (daemon.story id).failed → (daemon.story id).exited ≠ some 0
  callbacks : ∀ id, (daemon.story id).succeeded + (daemon.story id).failed ≤ 1
  handed : ∀ id, (daemon.story id).handed.length ≤ 1
  perAccount : ∀ accountId, accountActive accountId daemon.rows ≤ settings.maxActivePerAccount
  global : globalActive daemon.rows ≤ settings.maxActiveGlobal

def KeepsEnded (daemon left : Daemon) : Prop :=
  ∀ job ∈ daemon.rows, job.isEnded = true → ∃ later ∈ left.rows, later.id = job.id ∧ later.status = job.status

/-- Once the command of a job with an `on_failure` has exited, neither a callback nor the last
session raises, and no recovery does. -/
def Careful (daemon : Daemon) : Event → Prop
  | .work id moment => match daemon.works id with
    | some ⟨request, .callback result⟩ =>
      request.onFailure = true → request.calls result = true → moment.raises = none
    | some ⟨request, .record _⟩ => request.onFailure = true → moment.raises = none
    | _ => True
  | .restart moment => moment.raises = none
  | _ => True

end Boron.CommandJobs
