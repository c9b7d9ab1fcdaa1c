import Boron.Lib.Sys

namespace Boron.MailGuards

structure Owner where
  restoreId : Nat
  token : String
  deriving DecidableEq

/-- A file of the directory: a marker under the name of its mailbox, or one not published yet. -/
inductive Name
  | marker (mailbox : String)
  | pending (random : Nat)
  deriving DecidableEq

/-- What a file says; `none` for one that does not read as a marker. -/
abbrev Files := Name → Option (Option Owner)

structure Entry where
  mailbox : String
  token : String

inductive Blocking
  | entering
  | waiting
  | opening
  | writing (random : Nat)
  | linking (random : Nat)
  | syncing (random : Nat)
  | closing (random : Nat) (done : Bool)
  | tidying (done : Bool)
  | leaving (done : Bool)

inductive Releasing
  | entering
  | waiting
  | verifying (todo : List Entry) (present : List String)
  | unlinking (todo : List String)
  | syncing (todo : List String)
  | leaving

/-- The body of `owned_guards` runs at `inside`. -/
inductive Owning
  | entering
  | waiting
  | verifying (todo : List Entry)
  | inside
  | leaving

inductive Call
  | idle
  | block (mailbox : String) (owner : Owner) (stage : Blocking)
  | releaseBatch (entries : List Entry) (restoreId : Nat) (stage : Releasing)
  | ownedGuards (entries : List Entry) (restoreId : Nat) (stage : Owning)

/-- `granted` are the guards whose `block` has returned and that have not been removed since; nothing stores them. -/
structure Guards where
  live : Files
  disk : Files
  holder : Option Nat
  calls : Nat → Call
  granted : List (String × Owner)

def Guards.over (files : Files) (granted : List (String × Owner)) : Guards :=
  { live := files, disk := files, holder := none, calls := fun _ => .idle, granted }

/-- What a turn finds: a name for a new file, whether it raises, and whether that comes after its effect. -/
structure Mark where
  random : Nat
  raises : Bool
  applied : Bool

inductive Event
  | block (i : Nat) (mailbox : String) (owner : Owner)
  | releaseBatch (i : Nat) (entries : List Entry) (restoreId : Nat)
  | ownedGuards (i : Nat) (entries : List Entry) (restoreId : Nat)
  | turn (i : Nat) (mark : Mark)
  | crash (kept : Name → Bool)

def isHex (c : Char) : Bool := ('a' ≤ c && c ≤ 'f') || ('0' ≤ c && c ≤ '9')

/-- The checks before a guard is asked for. -/
def Owner.valid (owner : Owner) : Bool := 0 < owner.restoreId && owner.token.toList.length = 64 && owner.token.toList.all isHex

def Guards.goes (i : Nat) (call : Call) (guards : Guards) : Guards :=
  { guards with calls := Function.update guards.calls i call }

def Guards.put (name : Name) (file : Option (Option Owner)) (guards : Guards) : Guards :=
  { guards with live := Function.update guards.live name file }

/-- `os.fsync` of the directory -/
def Guards.sync (guards : Guards) : Guards := { guards with disk := guards.live }

def Mark.acts (mark : Mark) : Bool := !mark.raises || mark.applied

def Guards.when (guards : Guards) (acts : Bool) (f : Guards → Guards) : Guards := if acts then f guards else guards

inductive Verified | missing | own | foreign
  deriving DecidableEq

def verify (files : Files) (restoreId : Nat) (entry : Entry) : Verified :=
  match files (.marker entry.mailbox) with
  | none => .missing
  | some none => .foreign
  | some (some owner) => if owner.restoreId = restoreId ∧ owner.token = entry.token then .own else .foreign

/-- One turn of `block`. -/
def blockTurn (i : Nat) (mark : Mark) (mailbox : String) (owner : Owner) (guards : Guards) : Blocking → Guards
  | .entering =>
    let guards := guards.when mark.acts Guards.sync
    guards.goes i (if mark.raises then .idle else .block mailbox owner .waiting)
  | .waiting => match guards.holder with
    | none => { guards with holder := some i }.goes i (.block mailbox owner .opening)
    | some _ => guards
  | .opening =>
    if mark.raises || (guards.live (.pending mark.random)).isSome then guards.goes i (.block mailbox owner (.leaving false))
    else (guards.put (.pending mark.random) (some none)).goes i (.block mailbox owner (.writing mark.random))
  | .writing random =>
    if mark.raises then guards.goes i (.block mailbox owner (.closing random false))
    else (guards.put (.pending random) (some (some owner))).goes i (.block mailbox owner (.linking random))
  | .linking random =>
    if (guards.live (.marker mailbox)).isSome then guards.goes i (.block mailbox owner (.closing random false))
    else
      let guards := guards.when mark.acts (·.put (.marker mailbox) (guards.live (.pending random)))
      guards.goes i (.block mailbox owner (if mark.raises then .closing random false else .syncing random))
  | .syncing random =>
    let guards := guards.when mark.acts Guards.sync
    guards.goes i (.block mailbox owner (.closing random (!mark.raises)))
  | .closing random done =>
    let guards := guards.when mark.acts (·.put (.pending random) none)
    guards.goes i (.block mailbox owner (if mark.raises then .leaving false else .tidying done))
  | .tidying done =>
    let guards := guards.when mark.acts Guards.sync
    guards.goes i (.block mailbox owner (.leaving (done && !mark.raises)))
  | .leaving done =>
    let granted := if done then (mailbox, owner) :: guards.granted else guards.granted
    { guards with holder := none, granted }.goes i .idle

/-- One turn of `release_batch`. -/
def releaseTurn (i : Nat) (mark : Mark) (entries : List Entry) (restoreId : Nat) (guards : Guards) : Releasing → Guards
  | .entering =>
    let guards := guards.when mark.acts Guards.sync
    guards.goes i (if mark.raises then .idle else .releaseBatch entries restoreId .waiting)
  | .waiting => match guards.holder with
    | none => { guards with holder := some i }.goes i (.releaseBatch entries restoreId (.verifying entries []))
    | some _ => guards
  | .verifying [] present =>
    guards.goes i (.releaseBatch entries restoreId (.unlinking (present.mergeSort fun one other => decide (one ≤ other))))
  | .verifying (entry :: rest) present =>
    if mark.raises then guards.goes i (.releaseBatch entries restoreId .leaving)
    else match verify guards.live restoreId entry with
      | .missing => guards.goes i (.releaseBatch entries restoreId (.verifying rest present))
      | .own =>
        let present := if entry.mailbox ∈ present then present else present ++ [entry.mailbox]
        guards.goes i (.releaseBatch entries restoreId (.verifying rest present))
      | .foreign => guards.goes i (.releaseBatch entries restoreId .leaving)
  | .unlinking [] => guards.goes i (.releaseBatch entries restoreId .leaving)
  | .unlinking (mailbox :: rest) =>
    let removed := { guards.put (.marker mailbox) none with
      granted := guards.granted.filter fun guard => guard.1 ≠ mailbox }
    (if mark.acts then removed else guards).goes i
      (.releaseBatch entries restoreId (if mark.raises then .leaving else .syncing rest))
  | .syncing rest =>
    let guards := guards.when mark.acts Guards.sync
    guards.goes i (.releaseBatch entries restoreId (if mark.raises then .leaving else .unlinking rest))
  | .leaving => { guards with holder := none }.goes i .idle

/-- One turn of `owned_guards`. -/
def ownedTurn (i : Nat) (mark : Mark) (entries : List Entry) (restoreId : Nat) (guards : Guards) : Owning → Guards
  | .entering =>
    let guards := guards.when mark.acts Guards.sync
    guards.goes i (if mark.raises then .idle else .ownedGuards entries restoreId .waiting)
  | .waiting => match guards.holder with
    | none => { guards with holder := some i }.goes i (.ownedGuards entries restoreId (.verifying entries))
    | some _ => guards
  | .verifying [] => guards.goes i (.ownedGuards entries restoreId .inside)
  | .verifying (entry :: rest) =>
    if mark.raises = false ∧ verify guards.live restoreId entry = .own then
      guards.goes i (.ownedGuards entries restoreId (.verifying rest))
    else guards.goes i (.ownedGuards entries restoreId .leaving)
  | .inside => guards.goes i (.ownedGuards entries restoreId .leaving)
  | .leaving => { guards with holder := none }.goes i .idle

def Guards.turn (i : Nat) (mark : Mark) (guards : Guards) : Guards :=
  match guards.calls i with
  | .idle => guards
  | .block mailbox owner stage => blockTurn i mark mailbox owner guards stage
  | .releaseBatch entries restoreId stage => releaseTurn i mark entries restoreId guards stage
  | .ownedGuards entries restoreId stage => ownedTurn i mark entries restoreId guards stage

def Guards.step (event : Event) (guards : Guards) : Guards :=
  match event with
  | .block i mailbox owner => match guards.calls i with
    | .idle => if owner.valid then guards.goes i (.block mailbox owner .entering) else guards
    | _ => guards
  | .releaseBatch i entries restoreId => match guards.calls i with
    | .idle => if 0 < restoreId then guards.goes i (.releaseBatch entries restoreId .entering) else guards
    | _ => guards
  | .ownedGuards i entries restoreId => match guards.calls i with
    | .idle => guards.goes i (.ownedGuards entries restoreId .entering)
    | _ => guards
  | .turn i mark => guards.turn i mark
  | .crash kept => .over (fun name => if kept name then guards.live name else guards.disk name) guards.granted

end Boron.MailGuards
