import Boron.Lib.Rows
import Boron.Lib.Sys

namespace Boron.ControlTasks

/-- A value of `json`. -/
inductive Value
  | null
  | flag (value : Bool)
  | number (value : Int)
  | text (value : String)
  | list (values : List Value)
  | dict (entries : List (String × Value))

abbrev Dict := List (String × Value)

def Dict.find (dict : Dict) (key : String) : Option Value := (Rows.byKey Prod.fst dict key).map Prod.snd

def Dict.without (dict : Dict) (key : String) : Dict := Rows.drop Prod.fst key dict

def Dict.set (dict : Dict) (key : String) (value : Value) : Dict := Rows.put Prod.fst (key, value) dict

def Dict.update (dict more : Dict) : Dict := more.foldl (fun dict entry => dict.set entry.1 entry.2) dict

def Value.truthy : Value → Bool
  | .null => false
  | .flag value => value
  | .number value => value ≠ 0
  | .text value => value ≠ ""
  | .list values => !values.isEmpty
  | .dict entries => !entries.isEmpty

/-- A key that is missing and one that is `None` are read alike. -/
def Dict.given (dict : Dict) (key : String) : Option Value :=
  match dict.find key with
  | some .null => none
  | found => found

/-- `str` and `int` of Python, `json.dumps` and `json.loads` of a sealed password, and the
authenticated encryption of the daemon. -/
structure Host where
  str : Value → String
  int : Value → Except String Int
  dumps : Value → String
  loads : String → Except String (Option Value)
  encrypt : String → Value → Except String String
  decrypt : String → Except String Value

def Value.string (host : Host) : Value → String
  | .text value => value
  | value => host.str value

/-- `str(params.get(key) or "")` -/
def Dict.text (host : Host) (dict : Dict) (key : String) : String :=
  match dict.find key with
  | some value => if value.truthy then value.string host else ""
  | none => ""

def sealedPrefix : String := "encrypted:v1:"

/-- `jobcredentials.seal` under a fresh nonce. -/
def sealSecret (host : Host) (nonce : String) : Option Value → Except String (Option String)
  | none => .ok none
  | some value => (host.encrypt nonce value).map fun cipher => some (sealedPrefix ++ cipher)

/-- `jobcredentials.reveal`: a legacy row is not encrypted. -/
def revealSecret (host : Host) : Option String → Except String (Option Value)
  | none => .ok none
  | some stored =>
    if stored.toList.take sealedPrefix.length = sealedPrefix.toList then
      (host.decrypt (String.ofList (stored.toList.drop sealedPrefix.length))).map some
    else .ok (some (.text stored))

def Host.Opens (host : Host) : Prop :=
  ∀ nonce value cipher, host.encrypt nonce value = .ok cipher → host.decrypt cipher = .ok value

theorem revealSecret_seal {host : Host} (opens : host.Opens) {nonce : String} {secret : Option Value} {stored : Option String}
    (sealed : sealSecret host nonce secret = .ok stored) : revealSecret host stored = .ok secret := by
  cases secret with
  | none =>
    cases sealed
    rfl
  | some value =>
    cases encrypted : host.encrypt nonce value with
    | error error => simp [sealSecret, encrypted, Except.map] at sealed
    | ok cipher =>
      simp only [sealSecret, encrypted, Except.map, Except.ok.injEq] at sealed
      subst sealed
      have size : sealedPrefix.length = sealedPrefix.toList.length := String.length_toList.symm
      simp only [revealSecret, String.toList_append, size, List.take_left', List.drop_left', if_true, String.ofList_toList,
        opens nonce value cipher encrypted, Except.map]

inductive Operation
  | accountCreate
  | accountRename
  | accountTerminate
  | domainAdd
  deriving DecidableEq

inductive Status
  | queued
  | running
  | completed
  | failed
  deriving DecidableEq

structure ControlTask where
  id : Nat
  requestId : Option String
  operation : Operation
  accountId : Option Int
  username : Option String
  status : Status
  progressPct : Nat
  progressMessage : String
  safeParams : Dict
  secretParamsEnc : Option String
  result : Dict
  oneTimeSecretEnc : Option String
  errorReference : Option String
  initiatedBy : String
  initiatedRole : String
  sourceIp : Option Value
  createdAt : Int
  startedAt : Option Int
  completedAt : Option Int

structure Principal where
  actor : String
  role : String
  sourceIp : Option Value

/-- `_principal` takes its keys out of the parameters. -/
def principal (host : Host) (params : Dict) : Except String (Principal × Dict) :=
  let actor := params.text host "_authenticated_username"
  let role := params.text host "_authenticated_role"
  let rest := (((params.without "_authenticated_username").without "_authenticated_role").without "_source_ip").without
    "_authenticated_account_id"
  if role ∉ ["admin", "customer"] ∨ actor = "" then .error "Authenticated panel session required"
  else .ok ({ actor, role, sourceIp := params.given "_source_ip" }, rest)

/-- What a step finds outside: the clock, a nonce, the reference of a diagnostic, and what
the call or the commit it makes comes back with. -/
structure Moment where
  now : Int
  nonce : String
  requestId : Option String
  reference : Nat → String
  outcome : Except String Dict

/-- The transaction of `_start`. -/
def startTask (host : Host) (moment : Moment) (operation : Operation) (params : Dict) (accountId : Option Int)
    (rows : List ControlTask) : Except String (ControlTask × List ControlTask) := do
  let (principal, params) ← principal host params
  let secret ← sealSecret host moment.nonce ((params.given "password").map fun password => .text (host.dumps password))
  let params := params.without "password"
  let username := params.text host "username"
  let row : ControlTask :=
    { id := Rows.next ControlTask.id rows, requestId := moment.requestId, operation, accountId
      username := if username = "" then none else some username
      status := .queued, progressPct := 0, progressMessage := "Queued", safeParams := params, secretParamsEnc := secret
      result := [], oneTimeSecretEnc := none, errorReference := none, initiatedBy := principal.actor
      initiatedRole := principal.role, sourceIp := principal.sourceIp, createdAt := moment.now, startedAt := none
      completedAt := none }
  let _ ← moment.outcome
  return (row, rows ++ [row])

/-- `_set` -/
def setTask (id : Nat) (f : ControlTask → ControlTask) (rows : List ControlTask) : List ControlTask :=
  Rows.change ControlTask.id id f rows

def taskById (rows : List ControlTask) (id : Nat) : Option ControlTask := Rows.byKey ControlTask.id rows id

def ControlTask.interrupted (moment : Moment) (row : ControlTask) : ControlTask :=
  { row with
    status := .failed, progressPct := 100
    progressMessage := "Interrupted by a panel restart; review the target before retrying"
    errorReference := some (moment.reference row.id), secretParamsEnc := none, completedAt := some moment.now }

/-- The transaction of `recover_pending`, and the tasks it goes on to submit. -/
def recoverPending (moment : Moment) (rows : List ControlTask) : Except String (List Nat × List ControlTask) := do
  let _ ← moment.outcome
  return ((rows.filter (·.status = .queued)).map ControlTask.id,
    rows.map fun row => if row.status = .running then row.interrupted moment else row)

/-- The transaction of `reveal_result`: the answer, and the secret that it hands out. -/
def revealResult (host : Host) (moment : Moment) (id : Nat) (rows : List ControlTask) :
    Except String (Dict × Option Value × List ControlTask) :=
  match taskById rows id with
  | none => .error "Completed task not found"
  | some row =>
    if row.status ≠ .completed then .error "Completed task not found"
    else do
      let secret ← revealSecret host row.oneTimeSecretEnc
      let _ ← moment.outcome
      let answer := match secret with
        | some value => row.result.set "initial_password" value
        | none => row.result
      return (answer, secret, setTask id (fun row => { row with oneTimeSecretEnc := none }) rows)

end Boron.ControlTasks

namespace Boron.ControlTasks

/-- What `account.create` takes out of the parameters. -/
structure Creation where
  planId : Option Value
  ipSelection : Value
  serverIpId : Option Value

/-- What the operation has come back with so far. -/
structure Made where
  result : Dict
  secret : Option Value
  accountId : Option Int
  username : String
  warnings : List Value

/-- Where `_run` stands in its task. `call` and `called` are before and in the handler. -/
inductive Phase
  | execute (params : Dict)
  | call (row : ControlTask) (creation : Creation) (params : Dict)
  | called (row : ControlTask) (creation : Creation) (params : Dict)
  | plan (creation : Creation) (made : Made)
  | applyPlan (creation : Creation) (made : Made)
  | address (creation : Creation) (made : Made)
  | assign (creation : Creation) (made : Made)
  | accountEvent (made : Made)
  | complete (made : Made)
  | record
  | failing (error : String)
  | recordFailed (error : String)
  | emit

inductive Worker
  | idle
  | run (id : Nat) (phase : Phase)

def Phase.isCall : Phase → Bool
  | .call _ _ _ => true
  | _ => false

/-- The phase has raised into the `except` of `_run`. -/
def Phase.isFailing : Phase → Bool
  | .failing _ => true
  | _ => false

/-- A stop here loses what the operation has done so far. -/
def Phase.unfinished : Phase → Bool
  | .record | .failing _ | .recordFailed _ | .emit => false
  | _ => true

/-- The first transaction of `_run` reads the parameters. -/
def beginTask (host : Host) (moment : Moment) (row : ControlTask) : Except String Dict := do
  let password ← match row.secretParamsEnc with
    | none | some "" => .ok none
    | some stored => do
      let secrets ← revealSecret host (some stored)
      host.loads (match secrets with
        | some value => if value.truthy then value.string host else "{}"
        | none => "{}")
  let params := match password with
    | none | some .null => row.safeParams
    | some password => row.safeParams.set "password" password
  let _ ← moment.outcome
  return params

def ControlTask.begin (moment : Moment) (row : ControlTask) : ControlTask :=
  { row with
    status := .running, startedAt := some moment.now, progressPct := max 1 row.progressPct, progressMessage := "Starting" }

/-- A commit of `_set`, and the phase after it; an error goes to the `except`. -/
def commitTurn (moment : Moment) (id : Nat) (f : ControlTask → ControlTask) (next : Worker) (rows : List ControlTask) :
    Worker × List ControlTask :=
  match moment.outcome with
  | .ok _ => (next, setTask id f rows)
  | .error error => (.run id (.failing error), rows)

def ControlTask.progress (pct : Nat) (message : String) (row : ControlTask) : ControlTask :=
  { row with progressPct := pct, progressMessage := message }

/-- `_execute` up to the first commit of its operation. -/
def executeTurn (host : Host) (moment : Moment) (id : Nat) (params : Dict) (rows : List ControlTask) :
    Worker × List ControlTask :=
  match taskById rows id with
  | none => (.run id (.failing "'NoneType' object has no attribute 'operation'"), rows)
  | some row =>
    let username := if params.text host "username" = "" then row.username.getD "" else params.text host "username"
    let creation : Creation :=
      { planId := params.given "plan_id", ipSelection := (params.find "ip_selection").getD (.text "automatic")
        serverIpId := params.given "server_ip_id" }
    match row.operation with
    | .accountCreate =>
      let rest := ((params.without "plan_id").without "ip_selection").without "server_ip_id"
      commitTurn moment id (.progress 10 ("Creating account " ++ username)) (.run id (.call row creation rest)) rows
    | .domainAdd => match params.find "domain" with
      | none => (.run id (.failing "'domain'"), rows)
      | some domain =>
        commitTurn moment id (.progress 20 ("Adding domain " ++ domain.string host)) (.run id (.call row creation params)) rows
    | .accountRename => match params.find "new_username" with
      | none => (.run id (.failing "'new_username'"), rows)
      | some new =>
        commitTurn moment id
          (.progress 15 ("Renaming " ++ username ++ " to " ++ new.string host ++ "; this can take up to 30 seconds"))
          (.run id (.call row creation params)) rows
    | .accountTerminate =>
      commitTurn moment id (.progress 15 ("Terminating " ++ username ++ "; this can take up to 30 seconds"))
        (.run id (.call row creation params)) rows

def secretOf (operation : Operation) (result : Dict) : Option Value :=
  if operation = .accountCreate then result.given "initial_password" else none

def returnedTurn (host : Host) (row : ControlTask) (creation : Creation) (params : Dict) (result : Dict) : Phase :=
  let username := if params.text host "username" = "" then row.username.getD "" else params.text host "username"
  let secret := secretOf row.operation result
  match row.operation with
  | .accountCreate => match result.find "id" with
    | none => .failing "'id'"
    | some value => match host.int value with
      | .error error => .failing error
      | .ok accountId =>
        let made : Made :=
          { result := result.without "initial_password", secret, accountId := some accountId, username, warnings := [] }
        if creation.planId.isSome then .plan creation made else .address creation made
  | .domainAdd => .complete { result, secret, accountId := row.accountId, username, warnings := [] }
  | .accountRename =>
    .complete { result, secret, accountId := row.accountId
                username := ((params.find "new_username").map (Value.string host)).getD "", warnings := [] }
  | .accountTerminate => .accountEvent { result, secret, accountId := row.accountId, username, warnings := [] }

def planWarning : Value := .text "The account was created, but its plan needs review."

def addressWarning : Value := .text "The account was created, but its server address needs review."

/-- The name that the created account has is read out of the result. -/
def Made.named (host : Host) (made : Made) : Option String := (made.result.find "username").map (Value.string host)

def Made.planned (host : Host) (moment : Moment) (made : Made) : Made :=
  match made.named host, moment.outcome with
  | some _, .ok applied => { made with result := made.result.update applied }
  | _, _ => { made with warnings := made.warnings ++ [planWarning] }

def Made.addressed (host : Host) (moment : Moment) (made : Made) : Made :=
  let made := match made.named host, moment.outcome with
    | some _, .ok address => { made with result := made.result.set "server_ip" (.dict address) }
    | _, _ => { made with warnings := made.warnings ++ [addressWarning] }
  if made.warnings.isEmpty then made else { made with result := made.result.set "warnings" (.list made.warnings) }

def addressedPhase (host : Host) (made : Made) : Phase :=
  match made.named host with
  | some username => .accountEvent { made with username }
  | none => .failing "'username'"

def ControlTask.complete (moment : Moment) (made : Made) (sealed : Option String) (row : ControlTask) : ControlTask :=
  { row with
    status := .completed, progressPct := 100, progressMessage := "Completed"
    result := made.result.without "initial_password", oneTimeSecretEnc := sealed, secretParamsEnc := none
    accountId := made.accountId, username := some made.username, completedAt := some moment.now }

def ControlTask.fail (moment : Moment) (row : ControlTask) : ControlTask :=
  { row with
    status := .failed, progressPct := 100, progressMessage := "Operation failed", secretParamsEnc := none
    errorReference := some (moment.reference row.id), completedAt := some moment.now }

/-- One turn of `_run` on its task. -/
def workTurn (host : Host) (moment : Moment) (id : Nat) (phase : Phase) (rows : List ControlTask) :
    Worker × List ControlTask :=
  match phase with
  | .execute params => executeTurn host moment id params rows
  | .call row creation params => (.run id (.called row creation params), rows)
  | .called row creation params => match moment.outcome with
    | .error error => (.run id (.failing error), rows)
    | .ok result => (.run id (returnedTurn host row creation params result), rows)
  | .plan creation made =>
    commitTurn moment id (.progress 60 "Applying hosting plan") (.run id (.applyPlan creation made)) rows
  | .applyPlan creation made => (.run id (.address creation (made.planned host moment)), rows)
  | .address creation made =>
    commitTurn moment id (.progress 80 "Assigning server address") (.run id (.assign creation made)) rows
  | .assign _ made => (.run id (addressedPhase host (made.addressed host moment)), rows)
  | .accountEvent made => match moment.outcome with
    | .error error => (.run id (.failing error), rows)
    | .ok _ => (.run id (.complete made), rows)
  | .complete made => match sealSecret host moment.nonce made.secret with
    | .error error => (.run id (.failing error), rows)
    | .ok sealed => commitTurn moment id (.complete moment made sealed) (.run id .record) rows
  | .record => match moment.outcome with
    -- The audit write stands in the `try` that the completion stands in.
    | .error error => (.run id (.failing error), rows)
    | .ok _ => (.idle, rows)
  | .failing error => match moment.outcome with
    | .error _ => (.idle, rows)
    | .ok _ => (.run id (.recordFailed error), setTask id (ControlTask.fail moment) rows)
  | .recordFailed _ => match moment.outcome with
    | .error _ => (.idle, rows)
    | .ok _ => (.run id .emit, rows)
  | .emit => (.idle, rows)

/-- What has happened to a task. It is not stored. -/
structure Story where
  invoked : Nat
  returned : Option (Option Value)
  raised : Bool
  stopped : Bool
  handed : List Value

def Story.blank : Story := { invoked := 0, returned := none, raised := false, stopped := false, handed := [] }

/-- The rows outlive the daemon; `starting` are the tasks a request or the recovery still
has to submit, `queue` those the executor has. -/
structure Daemon where
  rows : List ControlTask
  starting : List Nat
  queue : List Nat
  worker : Worker
  serving : Bool
  story : Nat → Story

inductive Event
  | start (moment : Moment) (operation : Operation) (params : Dict) (accountId : Option Int)
  | submit (id : Nat)
  | work (moment : Moment)
  | reveal (moment : Moment) (id : Nat)
  | stop
  | recover (moment : Moment)

def Daemon.tell (id : Nat) (f : Story → Story) (daemon : Daemon) : Daemon :=
  { daemon with story := fun other => if other = id then f (daemon.story id) else daemon.story other }

def Story.turn (moment : Moment) (phase : Phase) (after : Worker) (story : Story) : Story :=
  { story with
    invoked := if phase.isCall then story.invoked + 1 else story.invoked
    returned := match phase, moment.outcome with
      | .called row _ _, .ok result => some (secretOf row.operation result)
      | _, _ => story.returned
    raised := match after with
      | .run _ next => story.raised || next.isFailing
      | .idle => story.raised }

def workDaemon (host : Host) (moment : Moment) (daemon : Daemon) : Daemon :=
  match daemon.worker with
  | .idle => match daemon.queue with
    | [] => daemon
    | id :: queue => match taskById daemon.rows id with
      | none => { daemon with queue }
      | some row =>
        if row.status ≠ .queued then { daemon with queue }
        else match beginTask host moment row with
          | .error _ => { daemon with queue }
          | .ok params =>
            { daemon with
              queue, rows := setTask id (ControlTask.begin moment) daemon.rows, worker := .run id (.execute params) }
  | .run id phase =>
    let left := workTurn host moment id phase daemon.rows
    { daemon with worker := left.1, rows := left.2 }.tell id (Story.turn moment phase left.1)

def stopDaemon (daemon : Daemon) : Daemon :=
  let stopped := { daemon with starting := [], queue := [], worker := .idle, serving := false }
  match daemon.worker with
  | .run id phase => if phase.unfinished then stopped.tell id fun story => { story with stopped := true } else stopped
  | .idle => stopped

def Daemon.step (host : Host) (event : Event) (daemon : Daemon) : Daemon :=
  match event with
  | .start moment operation params accountId =>
    if daemon.serving then match startTask host moment operation params accountId daemon.rows with
      | .ok (row, rows) => { daemon with rows, starting := row.id :: daemon.starting }
      | .error _ => daemon
    else daemon
  | .submit id =>
    if id ∈ daemon.starting then { daemon with starting := daemon.starting.erase id, queue := daemon.queue ++ [id] }
    else daemon
  | .work moment => workDaemon host moment daemon
  | .reveal moment id =>
    if daemon.serving then match revealResult host moment id daemon.rows with
      | .ok (_, secret, rows) =>
        { daemon with rows }.tell id fun story => { story with handed := secret.toList ++ story.handed }
      | .error _ => daemon
    else daemon
  | .stop => stopDaemon daemon
  | .recover moment =>
    if daemon.serving then daemon
    else match recoverPending moment daemon.rows with
      | .ok (queued, rows) => { daemon with rows, starting := queued, serving := true }
      -- The daemon goes on without the recovery when it fails.
      | .error _ => { daemon with serving := true }

abbrev Reaches (host : Host) : Daemon → Daemon → Prop := Sys.Reaches (Daemon.step host) fun _ _ => True

def Daemon.empty : Daemon :=
  { rows := [], starting := [], queue := [], worker := .idle, serving := true, story := fun _ => .blank }

end Boron.ControlTasks
