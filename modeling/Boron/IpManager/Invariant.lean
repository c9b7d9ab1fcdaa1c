import Boron.IpManager.Assigned

namespace Boron.IpManager

/-- One statement of a request, or the rest of its transaction where it has the lock. -/
def advance {ι : Type} (_ : ι) (moment : Moment) (request : Request Answer) (db : Db) : Request Answer × Db :=
  request.turn Write.apply moment db

abbrev Server (ι : Type) := Tasks.Server ι (Request Answer) Db

/-- A server on which no address has been imported; every request is still to begin. -/
def started {ι : Type} (host : Host) (calls : ι → Call) (accounts : List Account) : Server ι where
  store := { accounts, ips := [], assignments := [], settings := none }
  task i := (calls i).program host

/-- When a write lands, what its request has checked still holds, and it spares the address that
the recorded policy rests on. -/
def Permitted {ι : Type} (host : Host) (server : Server ι) (who : ι × Moment) : Prop :=
  (server.task who.1).Lands Write.apply (fun write db => write.StillChecked db ∧ write.SparesPolicy host db) who.2
    server.store

/-- The allocation, and what follows for the next requests. -/
structure Sound (host : Host) (db : Db) : Prop where
  allocated : Allocated host db
  default : db.policy.allocationPolicy = .specific →
    ∃ row ∈ db.ips, db.policy.defaultServerIpId = some row.id ∧ row.active = true ∧ row.allocationMode = .shared
  /-- What a call has checked holds when it writes, unless another one wrote meanwhile. -/
  checked : ∀ call : Call, Checked (call.program host) db db fun _ _ _ => True
  /-- The recorded policy gives every live account an address, as long as the host has it. -/
  automatic : host.Configured → ∀ username selection serverIpId account, selection.getD .automatic = .automatic →
    db.account username = some account → account.status ≠ .terminated →
      Served db (assignForNewAccount host username selection serverIpId) db db fun outcome _ _ => ∃ dict, outcome = .ok dict

theorem Allocated.sound {host : Host} {db : Db} (allocated : Allocated host db) : Sound host db where
  allocated := allocated
  default := allocated.default_shared
  checked := checked_program allocated
  automatic configured _ _ serverIpId _ automatic found live := served_automatic allocated configured automatic serverIpId found live

theorem allocated_started {ι : Type} (host : Host) (calls : ι → Call) (accounts : List Account) :
    Allocated host (started host calls accounts).store where
  ips := List.nodup_nil
  rows := List.nodup_nil
  accounts := List.nodup_nil
  active := nofun
  dedicated := nofun
  policy := nofun

def plainHost : Host where
  canonicalAddress address := .ok (address, .ipv4)
  serverPublicIp := ""

def office : Detected := { address := "198.51.100.10", family := .ipv4, interface := "eth0", prefixLength := some 24 }

def alpha : Account := { id := 1, username := "alpha", status := .active }

def disableDefault : Nat → Call
  | 0 => .importAddresses []
  | 1 => .setPolicy (some .specific) (some 1)
  | 2 => .updateIp { id := 1, allocationMode := none, label := none, active := some false }
  | _ => .assignForNewAccount "alpha" none none

/-- One call after the other, with more turns than each needs. -/
def inOrder (calls : Nat) : List (Nat × Moment) :=
  (List.range calls).flatMap fun call => List.replicate 8 (call, { detected := [office], drawn := 0 })

end Boron.IpManager
