import Boron.MailGuards.Belonging

namespace Boron.MailGuards

variable {guards : Guards} {i : Nat} {mark : Mark}

inductive MarkerStep (guards : Guards) (i : Nat) (mailbox : String) (left : Option (Option Owner)) : Prop
  | stays (same : left = guards.live (.marker mailbox))
  | links (owner : Owner) (random : Nat) (at_ : guards.calls i = .block mailbox owner (.linking random))
    (free : guards.live (.marker mailbox) = none) (published : left = guards.live (.pending random))
  | unlinks (entries : List Entry) (restoreId : Nat) (todo : List String)
    (at_ : guards.calls i = .releaseBatch entries restoreId (.unlinking (mailbox :: todo))) (gone : left = none)

theorem when_live {f : Guards → Guards} {acts : Bool} {name : Name} (same : (f guards).live name = guards.live name) :
    (guards.when acts f).live name = guards.live name := by
  unfold Guards.when
  split
  · exact same
  · rfl

theorem put_pending {random : Nat} {file : Option (Option Owner)} {mailbox : String} :
    (guards.put (.pending random) file).live (.marker mailbox) = guards.live (.marker mailbox) := by
  have other : Name.marker mailbox ≠ .pending random := nofun
  exact Function.update_of_ne other file guards.live

theorem block_marker {named mailbox : String} {owner : Owner} {stage : Blocking}
    (at_ : guards.calls i = .block named owner stage) :
    MarkerStep guards i mailbox ((blockTurn i mark named owner guards stage).live (.marker mailbox)) := by
  unfold blockTurn
  cases stage with
  | entering => exact .stays (when_live rfl)
  | waiting =>
    dsimp only
    split
    · exact .stays rfl
    · exact .stays rfl
  | opening =>
    dsimp only
    split
    · exact .stays rfl
    · exact .stays (@put_pending guards mark.random (some none) mailbox)
  | writing random =>
    dsimp only
    split
    · exact .stays rfl
    · exact .stays (@put_pending guards random (some (some owner)) mailbox)
  | linking random =>
    dsimp only
    split
    · exact .stays rfl
    · next free =>
      have absent : guards.live (.marker named) = none := Option.not_isSome_iff_eq_none.mp free
      have linked : MarkerStep guards i mailbox ((guards.when mark.acts
          (·.put (.marker named) (guards.live (.pending random)))).live (.marker mailbox)) := by
        unfold Guards.when
        split
        · by_cases own : mailbox = named
          · subst own
            exact .links owner random at_ absent (Function.update_self ..)
          · exact .stays (Function.update_of_ne (fun same => own (Name.marker.inj same)) ..)
        · exact .stays rfl
      exact linked
  | syncing random => exact .stays (when_live rfl)
  | closing random done => exact .stays (when_live (@put_pending guards random none mailbox))
  | tidying done => exact .stays (when_live rfl)
  | leaving done => exact .stays rfl

variable {mailbox : String}

theorem release_marker {entries : List Entry} {restoreId : Nat} {stage : Releasing}
    (at_ : guards.calls i = .releaseBatch entries restoreId stage) :
    MarkerStep guards i mailbox ((releaseTurn i mark entries restoreId guards stage).live (.marker mailbox)) := by
  unfold releaseTurn
  cases stage with
  | entering => exact .stays (when_live rfl)
  | waiting =>
    dsimp only
    split
    · exact .stays rfl
    · exact .stays rfl
  | verifying todo present =>
    cases todo with
    | nil => exact .stays rfl
    | cons entry rest =>
      dsimp only
      split
      · exact .stays rfl
      · split
        · exact .stays rfl
        · exact .stays rfl
        · exact .stays rfl
  | unlinking todo =>
    cases todo with
    | nil => exact .stays rfl
    | cons named rest =>
      dsimp only
      generalize (if mark.raises = true then Releasing.leaving else .syncing rest) = stage
      split
      · by_cases own : mailbox = named
        · subst own
          exact .unlinks entries restoreId rest at_ (Function.update_self ..)
        · exact .stays (Function.update_of_ne (fun same => own (Name.marker.inj same)) ..)
      · exact .stays rfl
  | syncing todo => exact .stays (when_live rfl)
  | leaving => exact .stays rfl

theorem owned_marker {entries : List Entry} {restoreId : Nat} {stage : Owning} :
    (ownedTurn i mark entries restoreId guards stage).live (.marker mailbox) = guards.live (.marker mailbox) := by
  unfold ownedTurn
  cases stage with
  | entering => exact when_live rfl
  | waiting =>
    dsimp only
    split
    · rfl
    · rfl
  | verifying todo =>
    cases todo with
    | nil => rfl
    | cons entry rest =>
      dsimp only
      split
      · rfl
      · rfl
  | inside => rfl
  | leaving => rfl

theorem turn_marker : MarkerStep guards i mailbox ((guards.turn i mark).live (.marker mailbox)) := by
  unfold Guards.turn
  cases at_ : guards.calls i with
  | idle => exact .stays rfl
  | block named owner stage => exact block_marker at_
  | releaseBatch entries restoreId stage => exact release_marker at_
  | ownedGuards entries restoreId stage => exact .stays owned_marker

/-- A guard goes away in a release of its own job, or in a crash before its `block` has returned. -/
inductive Gone (guards : Guards) (mailbox : String) (owner : Owner) : Event → Prop
  | released (i : Nat) (mark : Mark) (entries : List Entry) (stage : Releasing)
    (at_ : guards.calls i = .releaseBatch entries owner.restoreId stage)
    (listed : { mailbox, token := owner.token } ∈ entries) : Gone guards mailbox owner (.turn i mark)
  | lost (kept : Name → Bool) (open_ : (mailbox, owner) ∉ guards.granted) : Gone guards mailbox owner (.crash kept)

structure Promises (guards : Guards) : Prop where
  one : ∀ job other mailbox token otherToken, verify guards.live job ⟨mailbox, token⟩ = .own →
    verify guards.live other ⟨mailbox, otherToken⟩ = .own → job = other ∧ token = otherToken
  granted : ∀ mailbox owner, (mailbox, owner) ∈ guards.granted →
    verify guards.live owner.restoreId ⟨mailbox, owner.token⟩ = .own
  removed : ∀ event mailbox owner, verify guards.live owner.restoreId ⟨mailbox, owner.token⟩ = .own →
    verify (guards.step event).live owner.restoreId ⟨mailbox, owner.token⟩ ≠ .own → Gone guards mailbox owner event
  blocked : ∀ i mailbox owner stage, guards.calls i = .block mailbox owner stage → ∀ mark other,
    (guards.turn i mark).live (.marker other) = guards.live (.marker other) ∨
      other = mailbox ∧ guards.live (.marker other) = none ∧
        verify (guards.turn i mark).live owner.restoreId ⟨mailbox, owner.token⟩ = .own
  refused : ∀ i entries restoreId stage, guards.calls i = .releaseBatch entries restoreId stage →
    (∃ entry ∈ entries, verify guards.live restoreId entry = .foreign) → ∀ mark mailbox,
      (guards.turn i mark).live (.marker mailbox) = guards.live (.marker mailbox)
  exchanging : ∀ i entries restoreId, guards.calls i = .ownedGuards entries restoreId .inside →
    ∀ entry ∈ entries, verify guards.live restoreId entry = .own

theorem removed_by_owner (sound : Sound guards) {event : Event} {owner : Owner}
    (there : Marked guards.live (mailbox, owner)) (gone : ¬ Marked (guards.step event).live (mailbox, owner)) :
    Gone guards mailbox owner event := by
  have changed : (guards.step event).live (.marker mailbox) ≠ guards.live (.marker mailbox) := fun same =>
    gone (same.trans there)
  cases event with
  | block i named other =>
    refine absurd ?_ changed
    unfold Guards.step
    dsimp only
    split
    · split <;> rfl
    · rfl
  | releaseBatch i entries restoreId =>
    refine absurd ?_ changed
    unfold Guards.step
    dsimp only
    split
    · split <;> rfl
    · rfl
  | ownedGuards i entries restoreId =>
    refine absurd ?_ changed
    unfold Guards.step
    dsimp only
    split <;> rfl
  | turn i mark =>
    have step : MarkerStep guards i mailbox ((guards.turn i mark).live (.marker mailbox)) := turn_marker
    cases step with
    | stays same => exact absurd same changed
    | links other random _ free =>
      have present : guards.live (.marker mailbox) = some (some owner) := there
      rw [free] at present
      cases present
    | unlinks entries restoreId todo at_ _ =>
      have knows := sound.knows i
      rw [at_] at knows
      obtain ⟨entry, listed, named, verified⟩ := knows.2.2 mailbox List.mem_cons_self
      have own : guards.live (.marker entry.mailbox) = some (some { restoreId, token := entry.token }) := verify_own.mp verified
      have present : guards.live (.marker mailbox) = some (some owner) := there
      rw [named, present] at own
      cases own
      subst named
      exact .released i mark entries _ at_ listed
  | crash kept =>
    refine .lost kept fun member => gone ?_
    obtain ⟨_, stored⟩ := sound.granted _ member
    change (if _ then _ else _) = _
    split
    · exact there
    · exact stored

/-- In every state of every run the guards belong to one job each. -/
theorem guards_belong {files : Files} (reached : Sys.Reaches Guards.step (fun _ _ => True) (.over files []) guards) :
    Promises guards := by
  have sound : Sound guards := reached.invariant over_sound fun _ event _ before => step_sound before event
  refine ⟨fun job other mailbox token otherToken first second => ?_, fun mailbox owner member => ?_,
    fun event mailbox owner there gone => ?_, fun i mailbox owner stage at_ mark other => ?_,
    fun i entries restoreId stage at_ foreign mark mailbox => ?_, fun i entries restoreId at_ => ?_⟩
  · have one : guards.live (.marker mailbox) = some (some ⟨job, token⟩) := verify_own.mp first
    have two : guards.live (.marker mailbox) = some (some ⟨other, otherToken⟩) := verify_own.mp second
    rw [one] at two
    cases two
    exact ⟨rfl, rfl⟩
  · exact verify_own.mpr (sound.granted _ member).1
  · exact removed_by_owner sound (verify_own.mp there) fun still => gone (verify_own.mpr still)
  · have step : MarkerStep guards i other ((guards.turn i mark).live (.marker other)) := turn_marker
    cases step with
    | stays same => exact .inl same
    | links theirs random linking free published =>
      rw [at_] at linking
      cases linking
      have knows := sound.knows i
      rw [at_] at knows
      exact .inr ⟨rfl, free, verify_own.mpr (published.trans knows)⟩
    | unlinks _ _ _ linking =>
      rw [at_] at linking
      cases linking
  · have step : MarkerStep guards i mailbox ((guards.turn i mark).live (.marker mailbox)) := turn_marker
    cases step with
    | stays same => exact same
    | links _ _ linking =>
      rw [at_] at linking
      cases linking
    | unlinks _ _ todo unlinking =>
      rw [at_] at unlinking
      cases unlinking
      have knows := sound.knows i
      rw [at_] at knows
      obtain ⟨entry, member, theirs⟩ := foreign
      exact absurd theirs (knows.1 entry member)
  · have knows := sound.knows i
    rw [at_] at knows
    exact knows

def demoOwner (restoreId : Nat) : Owner := { restoreId, token := String.ofList (List.replicate 64 'a') }

def calm (random : Nat) : Mark := { random, raises := false, applied := true }

def Guards.after (guards : Guards) : List Event → Guards
  | [] => guards
  | event :: rest => (guards.step event).after rest

theorem reaches_after {begun : Guards} {events : List Event}
    (reached : Sys.Reaches Guards.step (fun _ _ => True) begun guards) :
    Sys.Reaches Guards.step (fun _ _ => True) begun (guards.after events) := by
  induction events generalizing guards with
  | nil => exact reached
  | cons event rest ih => exact ih (reached.next event trivial)

/-- Job 1 has a mailbox; job 2 asks for it and is turned away. -/
def demoGuards : Guards :=
  (Guards.over (fun _ => none) []).after
    (.block 0 "inbox@example.test" (demoOwner 1) :: List.replicate 9 (.turn 0 (calm 7)) ++
      .block 1 "inbox@example.test" (demoOwner 2) :: List.replicate 9 (.turn 1 (calm 8)))

theorem guards_belong_demo : ("inbox@example.test", demoOwner 1) ∈ demoGuards.granted ∧
    verify demoGuards.live 1 ⟨"inbox@example.test", (demoOwner 1).token⟩ = .own := by
  have member : ("inbox@example.test", demoOwner 1) ∈ demoGuards.granted := by decide
  exact ⟨member, (guards_belong (reaches_after .start)).granted _ _ member⟩

end Boron.MailGuards
