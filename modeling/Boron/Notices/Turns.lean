import Mathlib.Data.List.Dedup
import Boron.Lib.Rows
import Boron.Lib.Tasks

namespace Boron.Notices
open List

inductive Channel
  | email
  | telegram
  | webhook
  | other (name : String)
  deriving DecidableEq

inductive Frequency
  | immediate
  | daily
  | weekly
  deriving DecidableEq

/-- An event of a summary. The ticket, which is not stored, tells two like events apart. -/
structure Item where
  event : String
  account : String
  jobId : Option Int
  detail : String
  ticket : Nat
  deriving DecidableEq

inductive DigestStatus
  | queued
  | sending
  | failed
  | completed
  deriving DecidableEq

/-- What a digest collects: the columns that a row is looked up by. -/
structure DigestKey where
  policyId : Option Nat
  channel : Channel
  recipient : Option String
  frequency : Frequency
  deriving DecidableEq

/-- One row of backup_notification_digests, and the task that last turned it to sending. -/
structure Digest (ι : Type) where
  id : Nat
  key : DigestKey
  items : List Item
  dueAt : Nat
  status : DigestStatus
  sender : Option ι

inductive DeliveryStatus
  | queued
  | success
  | providerAccepted
  | skipped
  | failed
  deriving DecidableEq

/-- What makes an immediate event: its channel, its name and its run. -/
structure EventKey where
  channel : Channel
  event : String
  runId : Option Int
  deriving DecidableEq

/-- One row of backup_notification_deliveries, and the task that inserted it. -/
structure Delivery (ι : Type) where
  id : Nat
  key : EventKey
  status : DeliveryStatus
  owner : ι

/-- The rows of the sender's address, of the contacts and of the bot, as far as they are read here. -/
structure Settings where
  senderAddress : Option String
  disabledEvents : List String
  contact : String → Option (String × List String)
  adminEmail : Option String
  telegramEnabled : Bool
  telegramEvents : List String
  telegramToken : Option String
  chatId : Option String
  webhooks : String → List Nat

/-- The tables; then the events that were put into a digest, the summaries that arrived,
each with the row it was made of, and the immediate events that arrived. -/
structure Store (ι : Type) where
  digests : List (Digest ι)
  deliveries : List (Delivery ι)
  collected : List (Item × DigestKey)
  summaries : List (Nat × List Item)
  arrived : List (EventKey × Option String)

/-- `dict.fromkeys`: the first occurrences. -/
def fromKeys {α : Type} [DecidableEq α] (items : List α) : List α := items.reverse.dedup.reverse

theorem nodup_fromKeys {α : Type} [DecidableEq α] (items : List α) : (fromKeys items).Nodup :=
  nodup_reverse.mpr (nodup_dedup _)

def Settings.emailRecipients (settings : Settings) (account : Option String) (event : String)
    (requested : List String) : List String :=
  if settings.senderAddress.isNone ∨ event ∈ settings.disabledEvents then []
  else if requested ≠ [] then fromKeys requested
  else match account.bind settings.contact with
    | none => []
    | some (customerEmail, disabled) => if event ∈ disabled then [] else [customerEmail]

/-- Whom `notifications.maybe_send` writes to. -/
def Settings.maybeSendTo (settings : Settings) (account : Option String) (event : String) : List String :=
  match account with
  | none =>
    if settings.senderAddress.isNone ∨ event ∈ settings.disabledEvents then []
    else settings.adminEmail.toList
  | some _ => settings.emailRecipients account event []

theorem nodup_emailRecipients (settings : Settings) (account : Option String) (event : String)
    (requested : List String) : (settings.emailRecipients account event requested).Nodup := by
  unfold Settings.emailRecipients
  split
  · exact nodup_nil
  · split
    · exact nodup_fromKeys requested
    · split
      · exact nodup_nil
      · split
        · exact nodup_nil
        · exact nodup_singleton _

theorem nodup_maybeSendTo (settings : Settings) (account : Option String) (event : String) :
    (settings.maybeSendTo account event).Nodup := by
  unfold Settings.maybeSendTo
  split
  · split
    · exact nodup_nil
    · cases settings.adminEmail with
      | none => exact nodup_nil
      | some address => exact nodup_singleton address
  · exact nodup_emailRecipients settings _ event []

def Settings.selectsTelegram (settings : Settings) (event : String) : Bool :=
  settings.telegramEnabled && decide (event ∈ settings.telegramEvents)

/-- How an attempt to deliver ends: it arrives and is known to, it arrives and the call still
fails, or it does not arrive. -/
inductive Outcome
  | accepted
  | unreported
  | refused
  deriving DecidableEq

def Outcome.arrives : Outcome → Bool
  | .accepted | .unreported => true
  | .refused => false

namespace Store
variable {ι : Type} (store : Store ι)

def queuedDigest (key : DigestKey) : Option (Digest ι) :=
  store.digests.reverse.find? fun row => row.key = key ∧ row.status = .queued

def dueDigests (now : Nat) : List Nat :=
  (store.digests.filter fun row =>
    (row.status = .queued ∨ row.status = .failed) ∧ row.dueAt ≤ now).map Digest.id

def digest (id : Nat) : Option (Digest ι) := Rows.byKey Digest.id store.digests id

def changeDigest (id : Nat) (f : Digest ι → Digest ι) : Store ι :=
  { store with digests := Rows.change Digest.id id f store.digests }

def collect (item : Item) (key : DigestKey) : Store ι :=
  { store with collected := store.collected ++ [(item, key)] }

/-- An item as it is put into a row, with a ticket of its own. -/
def ticketed (item : Item) : Item := { item with ticket := store.collected.length }

def openedDigest (key : DigestKey) (item : Item) (dueAt : Nat) : Digest ι where
  id := Rows.next Digest.id store.digests
  key := key
  items := [store.ticketed item]
  dueAt := dueAt
  status := .queued
  sender := none

def newDigest (key : DigestKey) (item : Item) (dueAt : Nat) : Store ι :=
  { store.collect (store.ticketed item) key with
    digests := store.digests ++ [store.openedDigest key item dueAt] }

/-- `row.items = [*row.items, item]`: the items that were read, and one more. -/
def appendItem (key : DigestKey) (seen : Digest ι) (item : Item) : Store ι :=
  (store.collect (store.ticketed item) key).changeDigest seen.id fun row =>
    { row with items := seen.items ++ [store.ticketed item] }

def recorded (key : EventKey) : Bool := key.runId.isSome && store.deliveries.any fun row => row.key = key

def record (owner : ι) (key : EventKey) : Store ι :=
  let row : Delivery ι := { id := Rows.next Delivery.id store.deliveries, key := key, status := .queued, owner := owner }
  { store with deliveries := store.deliveries ++ [row] }

def finish (id : Nat) (status : DeliveryStatus) : Store ι :=
  { store with
    deliveries := Rows.change Delivery.id id (fun row => { row with status := status }) store.deliveries }

def arrive (outcome : Outcome) (key : EventKey) (recipient : Option String) : Store ι :=
  if outcome.arrives then { store with arrived := (key, recipient) :: store.arrived } else store

def summarise (outcome : Outcome) (id : Nat) (items : List Item) : Store ι :=
  if outcome.arrives then { store with summaries := (id, items) :: store.summaries } else store

end Store

end Boron.Notices

namespace Boron.Notices

/-- One call of `dispatch`, with what the context says. -/
structure Dispatch where
  event : String
  account : Option String
  channels : List Channel
  selected : Option (List String)
  frequency : Frequency
  policyId : Option Nat
  jobId : Option Int
  recipients : List String
  detail : String

inductive Call
  | dispatch (call : Dispatch)
  | flush (now : Option Nat)

/-- What a turn finds outside. -/
structure Moment where
  call : Call
  stops : Bool
  raises : Bool
  now : Nat
  settings : Settings
  outcome : Outcome

/-- Where `dispatch` stands. `close` is `_finish`, whose own error ends the call unless it
is caught and the delivery is closed as failed. -/
inductive DispatchPhase (ι : Type)
  | queue (channels : List Channel)
  | find (channel : Channel) (recipient : Option String) (recipients : List (Option String)) (channels : List Channel)
  | append (seen : Option (Digest ι)) (channel : Channel) (recipient : Option String)
    (recipients : List (Option String)) (channels : List Channel)
  | route (channels : List Channel)
  | check (channel : Channel) (channels : List Channel)
  | insert (channel : Channel) (channels : List Channel)
  | attempt (id left : Nat) (channels : List Channel)
  | resolve (id : Nat) (channels : List Channel)
  | mail (id : Nat) (recipients : List String) (channels : List Channel)
  | trigger (id : Nat) (channels : List Channel)
  | close (id : Nat) (status : DeliveryStatus) (caught : Bool) (channels : List Channel)

inductive FlushPhase (ι : Type)
  | list
  | next (ids : List Nat)
  | claim (seen : Digest ι) (ids : List Nat)
  | send (id : Nat) (key : DigestKey) (items : List Item) (ids : List Nat)
  | finish (id : Nat) (channel : Channel) (ok : Bool) (ids : List Nat)
  | insert (channel : Channel) (ok : Bool) (ids : List Nat)
  | close (id : Nat) (status : DeliveryStatus) (ids : List Nat)

/-- A call between two of its turns; `queued` are the channels with something in a digest. -/
inductive Task (ι : Type)
  | idle
  | dispatch (call : Dispatch) (queued : List Channel) (phase : DispatchPhase ι)
  | flush (now : Nat) (phase : FlushPhase ι)

variable {ι : Type}

def Dispatch.item (call : Dispatch) : Item :=
  { event := call.event, account := call.account.getD "server", jobId := call.jobId, detail := call.detail, ticket := 0 }

def Dispatch.digestKey (call : Dispatch) (channel : Channel) (recipient : Option String) : DigestKey :=
  { policyId := call.policyId, channel := channel, recipient := recipient, frequency := call.frequency }

def Dispatch.eventKey (call : Dispatch) (channel : Channel) : EventKey :=
  { channel := channel, event := call.event, runId := call.jobId }

def Dispatch.digestRecipients (call : Dispatch) (settings : Settings) : Channel → List (Option String)
  | .email => (settings.emailRecipients call.account call.event call.recipients).map some
  | .telegram => if settings.selectsTelegram call.event then [none] else []
  | .webhook => []
  | .other _ => [none]

def day : Nat := 86400

def Dispatch.dueAt (call : Dispatch) (now : Nat) : Nat := now + if call.frequency = .daily then day else 7 * day

def nextRecipient (channel : Channel) (recipients : List (Option String)) (channels : List Channel) :
    DispatchPhase ι :=
  match recipients with
  | [] => .queue channels
  | recipient :: rest => .find channel recipient rest channels

def begins (call : Call) (now : Nat) : Task ι :=
  match call with
  | .dispatch call =>
    if call.selected.any fun events => decide (call.event ∉ events) then .idle
    else if call.frequency = .immediate then .dispatch call [] (.route (fromKeys call.channels))
    else .dispatch call [] (.queue (fromKeys call.channels))
  | .flush given => .flush (given.getD now) .list

def dispatchTurn (moment : Moment) (i : ι) (call : Dispatch) (queued : List Channel) (phase : DispatchPhase ι)
    (store : Store ι) : Task ι × Store ι :=
  let go := Task.dispatch call queued
  match phase with
  | .queue [] => (go (.route (fromKeys call.channels)), store)
  | .queue (channel :: channels) =>
    (go (nextRecipient channel (call.digestRecipients moment.settings channel) channels), store)
  | .find channel recipient recipients channels =>
    (go (.append (store.queuedDigest (call.digestKey channel recipient)) channel recipient recipients channels), store)
  | .append seen channel recipient recipients channels =>
    let left := Task.dispatch call (channel :: queued) (nextRecipient channel recipients channels)
    let key := call.digestKey channel recipient
    match seen with
    | none => (left, store.newDigest key call.item (call.dueAt moment.now))
    | some row => (left, store.appendItem key row call.item)
  | .route [] => (.idle, store)
  | .route (channel :: channels) =>
    if channel ∈ queued then (go (.route channels), store)
    else if channel = .telegram ∧ ¬ moment.settings.selectsTelegram call.event then (go (.route channels), store)
    else (go (.check channel channels), store)
  | .check channel channels =>
    if store.recorded (call.eventKey channel) then (go (.route channels), store)
    else (go (.insert channel channels), store)
  | .insert channel channels =>
    let id := Rows.next Delivery.id store.deliveries
    let inserted := store.record i (call.eventKey channel)
    match channel with
    | .email => (go (.resolve id channels), inserted)
    | .telegram => (go (.attempt id 3 channels), inserted)
    | .webhook => (go (.trigger id channels), inserted)
    | .other _ => (go (.close id .failed true channels), inserted)
  | .attempt id left channels =>
    let sent := store.arrive moment.outcome (call.eventKey .telegram) none
    match moment.outcome with
    | .accepted => (go (.close id .success false channels), sent)
    | .unreported | .refused =>
      if left ≤ 1 then (go (.close id .failed false channels), sent) else (go (.attempt id (left - 1) channels), sent)
  | .resolve id channels =>
    let recipients := if call.recipients ≠ [] then
        moment.settings.emailRecipients call.account call.event call.recipients
      else moment.settings.maybeSendTo call.account call.event
    if recipients = [] then (go (.close id .skipped true channels), store)
    else (go (.mail id recipients channels), store)
  | .mail id [] channels => (go (.close id .providerAccepted true channels), store)
  | .mail id (recipient :: recipients) channels =>
    let sent := store.arrive moment.outcome (call.eventKey .email) (some recipient)
    match moment.outcome with
    | .accepted => (go (.mail id recipients channels), sent)
    | .unreported | .refused => (go (.close id .skipped true channels), sent)
  | .trigger id channels =>
    if moment.settings.webhooks call.event = [] then (go (.close id .skipped true channels), store)
    else (go (.close id .queued true channels), store.arrive .accepted (call.eventKey .webhook) none)
  | .close id status _ channels => (go (.route channels), store.finish id status)

/-- `notifications.send_backup_summary` or `_send`, unless nothing is configured for the channel. -/
def canSend (settings : Settings) (key : DigestKey) : Bool :=
  match key.channel with
  | .email => settings.senderAddress.isSome
  | .telegram => settings.telegramToken.isSome && settings.chatId.isSome
  | .webhook | .other _ => false

def deliveryStatus (channel : Channel) (ok : Bool) : DeliveryStatus :=
  if ok ∧ channel = .email then .providerAccepted else if ok then .success else .failed

def flushTurn (moment : Moment) (i : ι) (now : Nat) (phase : FlushPhase ι) (store : Store ι) : Task ι × Store ι :=
  let go := Task.flush now
  match phase with
  | .list => (go (.next (store.dueDigests now)), store)
  | .next [] => (.idle, store)
  | .next (id :: ids) =>
    match store.digest id with
    | none => (go (.next ids), store)
    | some row =>
      if (row.status ≠ .queued ∧ row.status ≠ .failed) ∨ now < row.dueAt then (go (.next ids), store)
      else (go (.claim row ids), store)
  | .claim seen ids =>
    (go (.send seen.id seen.key seen.items ids),
      store.changeDigest seen.id fun row => { row with status := .sending, sender := some i })
  | .send id key items ids =>
    if canSend moment.settings key then
      (go (.finish id key.channel (moment.outcome = .accepted) ids), store.summarise moment.outcome id items)
    else (go (.finish id key.channel false ids), store)
  | .finish id channel ok ids =>
    (go (.insert channel ok ids), store.changeDigest id fun row =>
      if ok then { row with status := .completed }
      else { row with status := .failed, dueAt := moment.now + 3600 })
  | .insert channel ok ids =>
    (go (.close (Rows.next Delivery.id store.deliveries) (deliveryStatus channel ok) ids),
      store.record i { channel := channel, event := "backup.digest", runId := none })
  | .close id status ids => (go (.next ids), store.finish id status)

/-- Where an error of a turn leads: an error of an attempt is taken for a failed delivery. -/
def raised (task : Task ι) : Task ι :=
  match task with
  | .dispatch call queued (.resolve id channels) | .dispatch call queued (.mail id _ channels)
  | .dispatch call queued (.trigger id channels) | .dispatch call queued (.close id _ true channels) =>
    .dispatch call queued (.close id .failed false channels)
  | .flush now (.send id key _ ids) => .flush now (.finish id key.channel false ids)
  | _ => .idle

def advance (i : ι) (moment : Moment) (task : Task ι) (store : Store ι) : Task ι × Store ι :=
  if moment.stops then (.idle, store)
  else if moment.raises then (raised task, store)
  else match task with
    | .idle => (begins moment.call moment.now, store)
    | .dispatch call queued phase => dispatchTurn moment i call queued phase store
    | .flush now phase => flushTurn moment i now phase store

/-- A task that a row of a digest waits for, being sent. -/
def Task.delivers (task : Task ι) (id : Nat) : Prop :=
  match task with
  | .flush _ (.send held _ _ _) | .flush _ (.finish held _ _ _) => held = id
  | _ => False

end Boron.Notices
