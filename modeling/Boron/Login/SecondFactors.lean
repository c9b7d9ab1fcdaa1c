import Boron.Login.Effects

namespace Boron.Login
open List Relation

/-- The steps a user's codes were accepted for, the newest first. -/
def acceptedSteps (panelUserId : Nat) (log : List Event) : List Int := log.filterMap fun
  | .acceptedStep user step => if user = panelUserId then some step else none
  | _ => none

abbrev sinceSetup (panelUserId : Nat) (log : List Event) : List Event := Log.since (· = .enrolled panelUserId) log

abbrev sinceIssue (codeHash : String) (log : List Event) : List Event := Log.since (· = .issued codeHash) log

def Event.ofSteps : Event → Bool
  | .enrolled _ => true
  | .acceptedStep .. => true
  | _ => false

def Event.ofCodes : Event → Bool
  | .issued _ => true
  | .acceptedRecovery _ => true
  | _ => false

structure StepsKept (store : Store) : Prop where
  increasing : ∀ panelUserId, (acceptedSteps panelUserId (sinceSetup panelUserId store.log)).Pairwise (· > ·)
  last : ∀ panelUserId row, store.credential panelUserId = some row →
    ∀ step ∈ acceptedSteps panelUserId (sinceSetup panelUserId store.log),
      ∃ last, row.lastUsedStep = some last ∧ step ≤ last

structure CodesKept (store : Store) : Prop where
  once : ∀ codeHash, (sinceIssue codeHash store.log).count (.acceptedRecovery codeHash) ≤ 1
  used : ∀ codeHash, .acceptedRecovery codeHash ∈ sinceIssue codeHash store.log →
    ∀ row ∈ store.codes, row.codeHash = codeHash → row.usedAt ≠ none

theorem acceptedSteps_quiet {panelUserId : Nat} {event : Event} {log : List Event} (quiet : event.ofSteps = false) :
    acceptedSteps panelUserId (sinceSetup panelUserId (event :: log)) =
      acceptedSteps panelUserId (sinceSetup panelUserId log) := by
  cases event <;> first | cases quiet; done | rfl

variable {store left : Store}

theorem StepsKept.quiet (kept : StepsKept store) (events : List Event)
    (same : left.credentials = store.credentials) (logged : left.log = events ++ store.log)
    (quiet : ∀ event ∈ events, event.ofSteps = false) : StepsKept left := by
  have steps (panelUserId : Nat) : acceptedSteps panelUserId (sinceSetup panelUserId left.log) =
      acceptedSteps panelUserId (sinceSetup panelUserId store.log) := by
    rw [logged]
    clear logged
    induction events with
    | nil => rfl
    | cons event events ih =>
      rw [cons_append, acceptedSteps_quiet (quiet event mem_cons_self)]
      exact ih fun other member => quiet other (mem_cons_of_mem event member)
  have credential : left.credential = store.credential := by
    funext panelUserId
    simp only [Store.credential, same]
  refine ⟨fun panelUserId => ?_, fun panelUserId row => ?_⟩
  · rw [steps]
    exact kept.increasing panelUserId
  · rw [steps, credential]
    exact kept.last panelUserId row

variable {store : Store}

theorem StepsKept.enroll (kept : StepsKept store) (row : TotpCredential) : StepsKept { store with
      credentials := Rows.put TotpCredential.panelUserId row store.credentials
      log := .enrolled row.panelUserId :: store.log } := by
  have steps (panelUserId : Nat) : acceptedSteps panelUserId (sinceSetup panelUserId (.enrolled row.panelUserId :: store.log)) =
      if row.panelUserId = panelUserId then [] else acceptedSteps panelUserId (sinceSetup panelUserId store.log) := by
    by_cases own : row.panelUserId = panelUserId
    · rw [if_pos own, sinceSetup, Log.since_cons_eq, if_pos (by rw [own])]
      rfl
    · rw [if_neg own, sinceSetup, Log.since_cons_eq, if_neg (by simpa using own)]
      rfl
  refine ⟨fun panelUserId => ?_, fun panelUserId found present step member => ?_⟩
  · simp only [steps]
    split
    · exact List.Pairwise.nil
    · exact kept.increasing panelUserId
  · simp only [steps] at member
    simp only [Store.credential, Rows.byKey_put] at present
    split at member
    · cases member
    · next other =>
      rw [if_neg other] at present
      exact kept.last panelUserId found present step member

theorem StepsKept.accept (kept : StepsKept store) {known credential : TotpCredential} {step : Int}
    (found : store.credential credential.panelUserId = some known) (same : known.lastUsedStep = credential.lastUsedStep)
    (later : ∀ last, credential.lastUsedStep = some last → last < step) :
    StepsKept (acceptStep credential step store) := by
  have steps (panelUserId : Nat) :
      acceptedSteps panelUserId (sinceSetup panelUserId (.acceptedStep credential.panelUserId step :: store.log)) =
      if credential.panelUserId = panelUserId then step :: acceptedSteps panelUserId (sinceSetup panelUserId store.log)
      else acceptedSteps panelUserId (sinceSetup panelUserId store.log) := by
    rw [sinceSetup, Log.since_cons_eq, if_neg (by simp), acceptedSteps, filterMap_cons]
    by_cases own : credential.panelUserId = panelUserId
    · simp only [own, if_true, acceptedSteps]
    · simp only [own, if_false, acceptedSteps]
  have below : ∀ earlier ∈ acceptedSteps credential.panelUserId (sinceSetup credential.panelUserId store.log),
      earlier < step := by
    intro earlier member
    obtain ⟨last, saved, bound⟩ := kept.last _ known found earlier member
    have := later last (same ▸ saved)
    omega
  refine ⟨fun panelUserId => ?_, fun panelUserId row present other member => ?_⟩
  · simp only [acceptStep, steps]
    split
    · next own =>
      subst own
      exact List.Pairwise.cons below (kept.increasing _)
    · exact kept.increasing panelUserId
  · simp only [acceptStep, steps] at member
    simp only [acceptStep, Store.credential, Rows.byKey_put] at present
    split at member
    · next own =>
      subst own
      rw [if_pos rfl] at present
      cases present
      rcases mem_cons.mp member with newest | earlier
      · exact ⟨step, rfl, by omega⟩
      · have := below other earlier
        exact ⟨step, rfl, by omega⟩
    · next different =>
      rw [if_neg different] at present
      exact kept.last panelUserId row present other member

theorem StepsKept.disable (kept : StepsKept store) (panelUserId : Nat) (codes : List TotpRecoveryCode) :
    StepsKept { store with
      codes
      credentials := Rows.drop TotpCredential.panelUserId panelUserId store.credentials } := by
  refine ⟨kept.increasing, fun user row present step member => ?_⟩
  simp only [Store.credential, Rows.byKey_drop] at present
  split at present
  · cases present
  · exact kept.last user row present step member

theorem Effect.keeps_steps (effect : Effect Allowance.all store left) (kept : StepsKept store) :
    StepsKept left := by
  cases effect with
  | look request username now permitted => exact kept.quiet [.verified request username now] rfl rfl (by simp [Event.ofSteps])
  | record failures policy => exact kept.quiet [] rfl rfl (by simp)
  | gate request now username permitted =>
    obtain ⟨attempts, events, same, gate⟩ := gate_frame store request now username
    rw [same]
    refine kept.quiet events rfl rfl fun event member => ?_
    have := gate event member
    cases event <;> simp_all [Event.ofGate, Event.ofSteps]
  | clear username => exact kept.quiet [.cleared username] rfl rfl (by simp [Event.ofSteps])
  | session row permitted => exact kept.quiet [] rfl rfl (by simp)
  | password panelUserId passwordHash permitted => exact kept.quiet [.changed panelUserId] rfl rfl (by simp [Event.ofSteps])
  | enroll row unused => exact kept.enroll row
  | accept known credential step found same later => exact kept.accept found same later
  | renew panelUserId fresh => exact kept.quiet _ rfl rfl (by simp [Event.ofSteps])
  | disable panelUserId => exact kept.disable panelUserId _
  | recovery now row present unused =>
    exact kept.quiet [.acceptedRecovery row.codeHash] rfl rfl (by simp [Event.ofSteps])
  | challenge row unknown current => exact kept.quiet [] rfl rfl (by simp)
  | consume request digest now =>
    obtain ⟨challenges, events, same, consumed⟩ := consumeChallenge_frame request digest now store
    rw [same]
    refine kept.quiet events rfl rfl fun event member => ?_
    rw [consumed event member]
    rfl
  | outside disabled policy revoked => exact kept.quiet [] rfl rfl (by simp)

theorem sinceIssue_quiet (codeHash : String) {events : List Event} (log : List Event) (quiet : ∀ event ∈ events, event.ofCodes = false) :
    (sinceIssue codeHash (events ++ log)).count (.acceptedRecovery codeHash) =
      (sinceIssue codeHash log).count (.acceptedRecovery codeHash) := by
  induction events with
  | nil => rfl
  | cons event events ih =>
    have other : event ≠ .issued codeHash := by
      rintro rfl
      cases quiet _ mem_cons_self
    have different : event ≠ .acceptedRecovery codeHash := by
      rintro rfl
      cases quiet _ mem_cons_self
    rw [cons_append, sinceIssue, Log.since_cons_eq, if_neg other, count_cons_of_ne different]
    exact ih fun other member => quiet other (mem_cons_of_mem event member)

theorem sinceIssue_renewed {codeHash : String} {fresh : List TotpRecoveryCode} {log : List Event} :
    (sinceIssue codeHash (fresh.map (fun row => .issued row.codeHash) ++ log)).count (.acceptedRecovery codeHash) =
      if codeHash ∈ fresh.map TotpRecoveryCode.codeHash then 0
      else (sinceIssue codeHash log).count (.acceptedRecovery codeHash) := by
  induction fresh with
  | nil => simp
  | cons row fresh ih =>
    rw [map_cons, cons_append, sinceIssue, Log.since_cons_eq]
    by_cases own : row.codeHash = codeHash
    · simp [own]
    · rw [if_neg (by simpa using own), count_cons_of_ne (by simp)]
      rw [ih]
      simp [Ne.symm own]

section
variable (kept : CodesKept store)
include kept

theorem CodesKept.quiet (events : List Event)
    (same : left.codes = store.codes) (logged : left.log = events ++ store.log)
    (quiet : ∀ event ∈ events, event.ofCodes = false) : CodesKept left := by
  have counts (codeHash : String) := sinceIssue_quiet codeHash store.log quiet
  refine ⟨fun codeHash => ?_, fun codeHash accepted => ?_⟩
  · rw [logged, counts]
    exact kept.once codeHash
  · rw [logged, ← count_pos_iff, counts, count_pos_iff] at accepted
    rw [same]
    exact kept.used codeHash accepted

theorem CodesKept.renew (panelUserId : Nat) (fresh : List TotpRecoveryCode) : CodesKept { store with
      codes := deleteCodes panelUserId store.codes ++ fresh
      log := fresh.map (fun row => .issued row.codeHash) ++ store.log } := by
  refine ⟨fun codeHash => ?_, fun codeHash accepted row member same => ?_⟩
  · simp only [sinceIssue_renewed]
    split
    · exact Nat.zero_le 1
    · exact kept.once codeHash
  · rw [← count_pos_iff] at accepted
    simp only [sinceIssue_renewed] at accepted
    split at accepted
    · omega
    · next other =>
      rcases mem_append.mp member with older | newer
      · exact kept.used codeHash (count_pos_iff.mp accepted) row (mem_filter.mp older).1 same
      · exact absurd (mem_map.mpr ⟨row, newer, same⟩) other

theorem CodesKept.disable (panelUserId : Nat) (credentials : List TotpCredential) :
    CodesKept { store with codes := deleteCodes panelUserId store.codes, credentials } :=
  ⟨kept.once, fun codeHash accepted row member => kept.used codeHash accepted row (mem_filter.mp member).1⟩

theorem CodesKept.recovery (now : Int) {row : TotpRecoveryCode}
    (present : row ∈ store.codes) (unused : row.usedAt = none) : CodesKept (useRecoveryCode now row.codeHash store) := by
  have unaccepted : .acceptedRecovery row.codeHash ∉ sinceIssue row.codeHash store.log :=
    fun accepted => kept.used row.codeHash accepted row present rfl unused
  have counts (codeHash : String) :
      (sinceIssue codeHash (.acceptedRecovery row.codeHash :: store.log)).count (.acceptedRecovery codeHash) =
        (sinceIssue codeHash store.log).count (.acceptedRecovery codeHash) + if row.codeHash = codeHash then 1 else 0 := by
    rw [sinceIssue, Log.since_cons_eq, if_neg (by simp), count_cons]
    simp
  have marked : ∀ code ∈ (useRecoveryCode now row.codeHash store).codes, ∃ earlier ∈ store.codes,
      code.codeHash = earlier.codeHash ∧ (code.usedAt = earlier.usedAt ∨ code.usedAt = some now) ∧
        (code.codeHash = row.codeHash → code.usedAt = some now) := by
    intro code member
    obtain ⟨earlier, inside, same⟩ := mem_map.mp member
    refine ⟨earlier, inside, ?_⟩
    split at same
    · subst same
      exact ⟨rfl, .inr rfl, fun _ => rfl⟩
    · next other =>
      subst same
      exact ⟨rfl, .inl rfl, fun own => absurd own other⟩
  refine ⟨fun codeHash => ?_, fun codeHash accepted code member same => ?_⟩
  · simp only [useRecoveryCode, counts]
    split
    · next own =>
      subst own
      have none := count_eq_zero.mpr unaccepted
      omega
    · exact kept.once codeHash
  · obtain ⟨earlier, inside, sameHash, state, own⟩ := marked code member
    by_cases renewed : code.codeHash = row.codeHash
    · simp [own renewed]
    · have before : .acceptedRecovery codeHash ∈ sinceIssue codeHash store.log := by
        rw [← count_pos_iff] at accepted ⊢
        simp only [useRecoveryCode, counts] at accepted
        rw [if_neg (fun equal => renewed (same.trans equal.symm))] at accepted
        exact accepted
      have used := kept.used codeHash before earlier inside (sameHash.symm.trans same)
      rcases state with state | state
      · rw [state]
        exact used
      · simp [state]

end

theorem Effect.keeps_codes (effect : Effect Allowance.all store left) (kept : CodesKept store) :
    CodesKept left := by
  cases effect with
  | look request username now permitted => exact kept.quiet [.verified request username now] rfl rfl (by simp [Event.ofCodes])
  | record failures policy => exact kept.quiet [] rfl rfl (by simp)
  | gate request now username permitted =>
    obtain ⟨attempts, events, same, gate⟩ := gate_frame store request now username
    rw [same]
    refine kept.quiet events rfl rfl fun event member => ?_
    have := gate event member
    cases event <;> simp_all [Event.ofGate, Event.ofCodes]
  | clear username => exact kept.quiet [.cleared username] rfl rfl (by simp [Event.ofCodes])
  | session row permitted => exact kept.quiet [] rfl rfl (by simp)
  | password panelUserId passwordHash permitted => exact kept.quiet [.changed panelUserId] rfl rfl (by simp [Event.ofCodes])
  | enroll row unused => exact kept.quiet [.enrolled row.panelUserId] rfl rfl (by simp [Event.ofCodes])
  | accept known credential step found same later =>
    exact kept.quiet [.acceptedStep credential.panelUserId step] rfl rfl (by simp [Event.ofCodes])
  | renew panelUserId fresh => exact kept.renew panelUserId fresh
  | disable panelUserId => exact kept.disable panelUserId _
  | recovery now row present unused => exact kept.recovery now present unused
  | challenge row unknown current => exact kept.quiet [] rfl rfl (by simp)
  | consume request digest now =>
    obtain ⟨challenges, events, same, consumed⟩ := consumeChallenge_frame request digest now store
    rw [same]
    refine kept.quiet events rfl rfl fun event member => ?_
    rw [consumed event member]
    rfl
  | outside disabled policy revoked => exact kept.quiet [] rfl rfl (by simp)

end Boron.Login
