import Boron.WebSettings.Operations

namespace Boron.WebSettings
open Checks

def Targets (site : Site) : Target → Part → Prop
  | .main, part => part = .waf
  | .vhosts account, part => site.domainsOf account.id ≠ [] ∧
      (part = .waf ∨ ∃ domain ∈ site.domainsOf account.id, part = .vhost domain.domain)

def Restore.key : Restore → Key
  | .settings _ => .waf
  | .policy domain _ => .policy domain
  | .removeRule id | .returnRule id _ => .rule id
  | .removeException id | .returnException id _ => .exception id

def Restore.previous : (restore : Restore) → Option (Row restore.key)
  | .settings previous => previous
  | .policy _ previous => previous
  | .removeRule _ => none
  | .returnRule _ deleted => some deleted
  | .removeException _ => none
  | .returnException _ deleted => some deleted

/-- A deleted row is only put back where there is none. -/
def Restore.returns : Restore → Bool
  | .returnRule .. | .returnException .. => true
  | _ => false

theorem Restore.run_eq {restore : Restore} {tables : Tables} (absent : restore.returns = true → tables restore.key = none) :
    restore.run tables = Function.update tables restore.key restore.previous := by
  cases restore with
  | settings | policy | removeRule | removeException => rfl
  | returnRule id deleted =>
    refine if_pos ?_
    rw [show tables (.rule id) = none from absent rfl]
    rfl
  | returnException id deleted =>
    refine if_pos ?_
    rw [show tables (.exception id) = none from absent rfl]
    rfl

theorem Restore.run_cases (restore : Restore) (tables : Tables) :
    restore.run tables = tables ∨ restore.run tables = Function.update tables restore.key restore.previous := by
  cases restore with
  | settings | policy | removeRule | removeException => exact .inr rfl
  | returnRule id deleted =>
    by_cases absent : (tables (.rule id)).isNone = true
    · exact .inr (if_pos absent)
    · exact .inl (if_neg absent)
  | returnException id deleted =>
    by_cases absent : (tables (.exception id)).isNone = true
    · exact .inr (if_pos absent)
    · exact .inl (if_neg absent)

/-- The WAF rows are rendered into the main file only. -/
theorem Restore.shown {site : Site} {part : Part} (restore : Restore) :
    Shown site restore.key part ↔ part = .waf := by
  cases restore <;> exact Iff.rfl

/-- An operation that has committed nothing yet. -/
def Task.early : Task → Bool
  | .called _ | .protecting .. | .reading .. | .updating .. => true
  | _ => false

/-- A commit is followed by a refresh of every part the row is rendered into, and what
is to be written back is the row that was there. -/
structure Fits (site : Site) (tables : Tables) (write : Write) (pending : Pending) : Prop where
  known : ∀ account, pending.target = .vhosts account → account ∈ site.accounts
  covers : ∀ part, Shown site write.key part → Targets site pending.target part
  undoes : ∀ restore, pending.restore = some restore → pending.target = .main ∧
    ∃ row, write = ⟨restore.key, row⟩ ∧ (restore.returns = true → row = none) ∧ restore.previous = tables restore.key

def Left.Good (site : Site) (tables : Tables) : Left → Prop
  | .commit write pending => Fits site tables write pending
  | .next task => task.early = true

variable {site : Site} {tables : Tables} {left : Left} {mark : Mark} {now : Nat} {account : Account} {domain : String}

theorem domainAccount_ok (owned : site.domainAccount domain = .ok account) :
    account ∈ site.accounts ∧ ∃ row ∈ site.domainsOf account.id, row.domain = domain := by
  unfold Site.domainAccount at owned
  rw [bind_eq_ok] at owned
  obtain ⟨row, found, owner⟩ := owned
  rw [orRaise_eq_ok] at found owner
  obtain ⟨member, named⟩ := Rows.byKey_some found
  refine ⟨(Rows.byKey_some owner).1, row, List.mem_filter.mpr ⟨member, ?_⟩, named⟩
  rw [(Rows.byKey_some owner).2]
  exact decide_eq_true rfl

theorem refreshVhost_known (member : account ∈ site.accounts) :
    ∀ other, (refreshVhost account).target = .vhosts other → other ∈ site.accounts := by
  rintro other same
  cases same
  exact member

theorem fits_domain {write : Write}
    (owned : site.domainAccount domain = .ok account) (shown : ∀ part, Shown site write.key part → part = .vhost domain) :
    Fits site tables write (refreshVhost account) := by
  obtain ⟨known, row, member, named⟩ := domainAccount_ok owned
  refine ⟨refreshVhost_known known, fun part seen => ⟨List.ne_nil_of_mem member, .inr ⟨row, member, ?_⟩⟩, nofun⟩
  rw [named]
  exact shown part seen

theorem fits_fileAuth {path : String} {row : Option FileAuthDir} (known : account ∈ site.accounts) :
    Fits site tables ⟨.fileAuth account.id path, row⟩ (refreshVhost account) := by
  refine ⟨refreshVhost_known known, fun part seen => ?_, nofun⟩
  obtain ⟨domain, member, owned, rfl⟩ := seen
  have listed : domain ∈ site.domainsOf account.id := List.mem_filter.mpr ⟨member, decide_eq_true owned⟩
  exact ⟨List.ne_nil_of_mem listed, .inr ⟨domain, listed, rfl⟩⟩

theorem fits_restore {restore : Restore} {trial : Option Trial} {row : Option (Row restore.key)}
    (gone : restore.returns = true → row = none) (previous : restore.previous = tables restore.key) :
    Fits site tables ⟨restore.key, row⟩ (refreshWithRollback restore trial) := by
  refine ⟨nofun, fun part seen => restore.shown.mp seen, ?_⟩
  rintro other same
  cases same
  exact ⟨rfl, row, rfl, gone, previous⟩

theorem setRedirect_good {domain path targetUrl : String} {statusCode : Nat}
    (ran : setRedirect site domain path targetUrl statusCode = .ok left) : left.Good site tables := by
  unfold setRedirect at ran
  rw [bind_eq_ok] at ran
  obtain ⟨account, owned, ended⟩ := ran
  cases ended
  exact fits_domain owned fun part seen => seen

theorem deleteRedirect_good {domain path : String} (ran : deleteRedirect site domain path tables = .ok left) :
    left.Good site tables := by
  unfold deleteRedirect at ran
  rw [bind_eq_ok] at ran
  obtain ⟨account, owned, ran⟩ := ran
  rw [bind_eq_ok] at ran
  obtain ⟨row, found, ended⟩ := ran
  cases ended
  exact fits_domain owned fun part seen => seen

theorem setSettings_good {enabled : Bool} {ttlSeconds : Nat} {excludePaths : List String}
    (ran : setSettings site domain enabled ttlSeconds excludePaths = .ok left) : left.Good site tables := by
  unfold setSettings at ran
  rw [bind_eq_ok] at ran
  obtain ⟨account, owned, ended⟩ := ran
  cases ended
  exact fits_domain owned fun part seen => seen

variable {username path : String}

theorem enableProtection_good (ran : enableProtection site username path tables = .ok left) :
    left.Good site tables := by
  unfold enableProtection at ran
  simp only [bind_eq_ok] at ran
  obtain ⟨account, _, ⟨resolved, relative⟩, _, domain, _, _, _, ended⟩ := ran
  cases ended
  exact rfl

theorem recordProtection_good {accountId : Nat}
    (ran : recordProtection site mark username accountId path tables = .ok left) : left.Good site tables := by
  unfold recordProtection at ran
  simp only [bind_eq_ok] at ran
  obtain ⟨_, _, account, found, _, _, ended⟩ := ran
  cases ended
  rw [orRaise_eq_ok] at found
  exact fits_fileAuth (Rows.byKey_some found).1

theorem disableProtection_good (ran : disableProtection site username path tables = .ok left) :
    left.Good site tables := by
  unfold disableProtection at ran
  simp only [bind_eq_ok] at ran
  obtain ⟨account, found, relative, _, row, _, ended⟩ := ran
  cases ended
  unfold Site.accountNamed at found
  rw [orRaise_eq_ok] at found
  exact fits_fileAuth (Rows.byKey_some found).1

theorem updateSettings_good {mode : Mode} {params : LimitsParams} {preserve : Bool} {trial : Option Trial}
    (ran : updateSettings mark mode params preserve trial tables = .ok left) : left.Good site tables := by
  unfold updateSettings at ran
  simp only [bind_eq_ok] at ran
  obtain ⟨_, _, limits, _, ended⟩ := ran
  cases ended
  exact @fits_restore site tables (.settings (tables .waf)) trial _ (fun returns => absurd returns Bool.false_ne_true) rfl

theorem finishDetectTrial_good {action : ReviewAction} {confirm : Bool}
    (ran : finishDetectTrial now action confirm tables = .ok left) : left.Good site tables := by
  unfold finishDetectTrial at ran
  simp only [bind_eq_ok] at ran
  obtain ⟨_, _, row, _, _, _, ended⟩ := ran
  cases ended
  exact rfl

theorem setDomainPolicy_good {mode : DomainMode}
    (ran : setDomainPolicy site domain mode tables = .ok left) : left.Good site tables := by
  unfold setDomainPolicy at ran
  rw [bind_eq_ok] at ran
  obtain ⟨known, _, ended⟩ := ran
  cases ended
  exact @fits_restore site tables (.policy known (tables (.policy known))) none _ (fun returns => absurd returns Bool.false_ne_true) rfl

theorem freshId_ok {key : Key} {id fresh : Nat} {held : Option (Row key)} (ran : freshId id held = .ok fresh) :
    fresh = id ∧ held = none := by
  unfold freshId at ran
  rw [bind_eq_ok] at ran
  obtain ⟨_, absent, ended⟩ := ran
  cases ended
  exact ⟨rfl, by simpa using absent⟩

theorem addCustomRule_good {domain target pattern : String}
    (ran : addCustomRule site mark domain target pattern tables = .ok left) : left.Good site tables := by
  unfold addCustomRule at ran
  simp only [bind_eq_ok] at ran
  obtain ⟨_, _, _, _, known, _, id, fresh, ended⟩ := ran
  cases ended
  obtain ⟨rfl, absent⟩ := freshId_ok fresh
  exact @fits_restore site tables (.removeRule mark.id) none _ (fun returns => absurd returns Bool.false_ne_true) absent.symm

theorem deleteCustomRule_good {id : Nat} (ran : deleteCustomRule id tables = .ok left) : left.Good site tables := by
  unfold deleteCustomRule at ran
  rw [bind_eq_ok] at ran
  obtain ⟨row, found, ended⟩ := ran
  cases ended
  rw [orRaise_eq_ok] at found
  exact @fits_restore site tables (.returnRule id row) none none (fun _ => rfl) found.symm

theorem addException_good {params : ExceptionParams} (ran : addException site mark now params tables = .ok left) :
    left.Good site tables := by
  unfold addException at ran
  simp only [bind_eq_ok] at ran
  obtain ⟨⟨ruleId, hours⟩, _, known, _, id, fresh, ended⟩ := ran
  cases ended
  obtain ⟨rfl, absent⟩ := freshId_ok fresh
  exact @fits_restore site tables (.removeException mark.id) none _ (fun returns => absurd returns Bool.false_ne_true) absent.symm

theorem deleteException_good {id : Nat} (ran : deleteException id tables = .ok left) : left.Good site tables := by
  unfold deleteException at ran
  rw [bind_eq_ok] at ran
  obtain ⟨row, found, ended⟩ := ran
  cases ended
  rw [orRaise_eq_ok] at found
  exact @fits_restore site tables (.returnException id row) none none (fun _ => rfl) found.symm

theorem session_good {operation : Operation} (ran : session site mark now tables operation = .ok left) :
    left.Good site tables := by
  cases operation with
  | setRedirect => exact setRedirect_good ran
  | deleteRedirect => exact deleteRedirect_good ran
  | setSettings => exact setSettings_good ran
  | enableProtection => exact enableProtection_good ran
  | disableProtection => exact disableProtection_good ran
  | setEnabled enabled =>
    cases ran
    exact rfl
  | updateSettings => exact updateSettings_good ran
  | startDetectTrial =>
    cases ran
    exact rfl
  | finishDetectTrial => exact finishDetectTrial_good ran
  | setDomainPolicy => exact setDomainPolicy_good ran
  | addCustomRule => exact addCustomRule_good ran
  | deleteCustomRule => exact deleteCustomRule_good ran
  | addException => exact addException_good ran
  | deleteException => exact deleteException_good ran

end Boron.WebSettings
