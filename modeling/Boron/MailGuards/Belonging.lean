import Boron.MailGuards.Guards

namespace Boron.MailGuards
open List

def Call.locked : Call → Bool
  | .idle | .block _ _ .entering | .block _ _ .waiting | .releaseBatch _ _ .entering | .releaseBatch _ _ .waiting
  | .ownedGuards _ _ .entering | .ownedGuards _ _ .waiting => false
  | _ => true

def Call.Knows (live disk : Files) : Call → Prop
  | .block _ owner (.linking random) => live (.pending random) = some (some owner)
  | .block mailbox owner (.syncing _) => live (.marker mailbox) = some (some owner)
  | .block mailbox owner (.closing _ true) | .block mailbox owner (.tidying true) | .block mailbox owner (.leaving true) =>
    live (.marker mailbox) = some (some owner) ∧ disk (.marker mailbox) = some (some owner)
  | .releaseBatch entries restoreId (.verifying todo present) =>
    ∃ done, entries = done ++ todo ∧ (∀ entry ∈ done, verify live restoreId entry ≠ .foreign) ∧ present.Nodup ∧
      ∀ mailbox ∈ present, ∃ entry ∈ done, entry.mailbox = mailbox ∧ verify live restoreId entry = .own
  | .releaseBatch entries restoreId (.unlinking todo) | .releaseBatch entries restoreId (.syncing todo) =>
    (∀ entry ∈ entries, verify live restoreId entry ≠ .foreign) ∧ todo.Nodup ∧
      ∀ mailbox ∈ todo, ∃ entry ∈ entries, entry.mailbox = mailbox ∧ verify live restoreId entry = .own
  | .ownedGuards entries restoreId (.verifying todo) =>
    ∃ done, entries = done ++ todo ∧ ∀ entry ∈ done, verify live restoreId entry = .own
  | .ownedGuards entries restoreId .inside => ∀ entry ∈ entries, verify live restoreId entry = .own
  | _ => True

def Marked (files : Files) (guard : String × Owner) : Prop := files (.marker guard.1) = some (some guard.2)

structure Sound (guards : Guards) : Prop where
  alone : ∀ i, (guards.calls i).locked = true → guards.holder = some i
  knows : ∀ i, (guards.calls i).Knows guards.live guards.disk
  granted : ∀ guard ∈ guards.granted, Marked guards.live guard ∧ Marked guards.disk guard

variable {guards left : Guards} {i : Nat} {mark : Mark} {restoreId : Nat} {files : Files} {entry : Entry}

theorem verify_own :
    verify files restoreId entry = .own ↔ Marked files (entry.mailbox, { restoreId, token := entry.token }) := by
  unfold verify Marked
  cases files (.marker entry.mailbox) with
  | none => exact ⟨nofun, nofun⟩
  | some file =>
    cases file with
    | none => exact ⟨nofun, nofun⟩
    | some owner =>
      dsimp only
      split
      · next same =>
        obtain ⟨job, token⟩ := same
        rw [← job, ← token]
        exact ⟨fun _ => rfl, fun _ => rfl⟩
      · next other =>
        refine ⟨nofun, fun same => absurd ?_ other⟩
        cases same
        exact ⟨rfl, rfl⟩

theorem verify_congr {files others : Files} (same : files (.marker entry.mailbox) = others (.marker entry.mailbox)) :
    verify files restoreId entry = verify others restoreId entry := by
  unfold verify
  rw [same]

variable {call : Call} {live disk : Files}

theorem knows_unlocked (unlocked : call.locked = false) : call.Knows live disk := by
  cases call with
  | idle => trivial
  | block mailbox owner stage => cases stage <;> trivial
  | releaseBatch entries restoreId stage => cases stage <;> trivial
  | ownedGuards entries restoreId stage => cases stage <;> trivial

theorem Call.Knows.synced (knows : call.Knows live disk) : call.Knows live live := by
  cases call with
  | idle => trivial
  | block mailbox owner stage =>
    cases stage with
    | closing random done =>
      cases done with
      | true => exact ⟨knows.1, knows.1⟩
      | false => trivial
    | tidying done =>
      cases done with
      | true => exact ⟨knows.1, knows.1⟩
      | false => trivial
    | leaving done =>
      cases done with
      | true => exact ⟨knows.1, knows.1⟩
      | false => trivial
    | _ => exact knows
  | releaseBatch entries restoreId stage => cases stage <;> exact knows
  | ownedGuards entries restoreId stage => cases stage <;> exact knows

/-- A turn of the call that has the lock. -/
theorem Sound.inside (sound : Sound guards) (own : (guards.calls i).locked = true)
    (others : ∀ j, j ≠ i → left.calls j = guards.calls j) (alone : (left.calls i).locked = true → left.holder = some i)
    (knows : (left.calls i).Knows left.live left.disk)
    (granted : ∀ guard ∈ left.granted, Marked left.live guard ∧ Marked left.disk guard) : Sound left := by
  have unlocked : ∀ j, j ≠ i → (guards.calls j).locked = false := by
    intro j other
    by_contra locked
    have theirs := sound.alone j (Bool.of_not_eq_false locked)
    rw [sound.alone i own] at theirs
    exact other (Option.some.inj theirs).symm
  refine ⟨fun j locked => ?_, fun j => ?_, granted⟩
  · by_cases same : j = i
    · subst same
      exact alone locked
    · rw [others j same, unlocked j same] at locked
      cases locked
  · by_cases same : j = i
    · subst same
      exact knows
    · rw [others j same]
      exact knows_unlocked (unlocked j same)

/-- A turn of a call before it has the lock. -/
theorem Sound.before (sound : Sound guards) (others : ∀ j, j ≠ i → left.calls j = guards.calls j)
    (live : left.live = guards.live) (disk : left.disk = guards.disk ∨ left.disk = guards.live)
    (granted : left.granted = guards.granted)
    (holder : left.holder = guards.holder ∧ (left.calls i).locked = false ∨ guards.holder = none ∧ left.holder = some i)
    (knows : (left.calls i).Knows guards.live guards.disk) : Sound left := by
  refine ⟨fun j locked => ?_, fun j => ?_, fun guard member => ?_⟩
  · by_cases same : j = i
    · subst same
      rcases holder with ⟨_, unlocked⟩ | ⟨_, taken⟩
      · rw [unlocked] at locked
        cases locked
      · exact taken
    · rw [others j same] at locked
      have theirs := sound.alone j locked
      rcases holder with ⟨kept, _⟩ | ⟨free, _⟩
      · rw [kept]
        exact theirs
      · rw [free] at theirs
        cases theirs
  · have here : (left.calls j).Knows guards.live guards.disk := by
      by_cases same : j = i
      · subst same
        exact knows
      · rw [others j same]
        exact sound.knows j
    rw [live]
    rcases disk with kept | synced
    · rw [kept]
      exact here
    · rw [synced]
      exact here.synced
  · rw [granted] at member
    obtain ⟨there, stored⟩ := sound.granted guard member
    rw [live]
    rcases disk with kept | synced
    · rw [kept]
      exact ⟨there, stored⟩
    · rw [synced]
      exact ⟨there, there⟩

theorem goes_self : (guards.goes i call).calls i = call := Function.update_self ..

theorem goes_other {j : Nat} (other : j ≠ i) : (guards.goes i call).calls j = guards.calls j :=
  Function.update_of_ne other ..

theorem when_true {f : Guards → Guards} {acts : Bool} (yes : acts = true) : guards.when acts f = f guards := by
  unfold Guards.when
  rw [if_pos yes]

theorem acts_of_calm (calm : mark.raises ≠ true) : mark.acts = true := by
  unfold Mark.acts
  rw [Bool.eq_false_iff.mpr calm]
  rfl

variable {next : Call}

theorem entering_sound (sound : Sound guards) (unlocked : next.locked = false) :
    Sound ((guards.when mark.acts Guards.sync).goes i next) := by
  have frame : (guards.when mark.acts Guards.sync).live = guards.live ∧
      ((guards.when mark.acts Guards.sync).disk = guards.disk ∨ (guards.when mark.acts Guards.sync).disk = guards.live) ∧
      (guards.when mark.acts Guards.sync).granted = guards.granted ∧
      (guards.when mark.acts Guards.sync).holder = guards.holder ∧
      (guards.when mark.acts Guards.sync).calls = guards.calls := by
    unfold Guards.when
    split
    · exact ⟨rfl, .inr rfl, rfl, rfl, rfl⟩
    · exact ⟨rfl, .inl rfl, rfl, rfl, rfl⟩
  obtain ⟨live, disk, granted, holder, calls⟩ := frame
  refine @Sound.before guards _ i sound (fun j other => ?_) live disk granted (.inl ⟨holder, ?_⟩) ?_
  · rw [goes_other other, calls]
  · rw [goes_self]
    exact unlocked
  · rw [goes_self]
    exact knows_unlocked unlocked

theorem waiting_sound (sound : Sound guards) (free : guards.holder = none)
    (knows : next.Knows guards.live guards.disk) : Sound ({ guards with holder := some i }.goes i next) := by
  refine @Sound.before guards _ i sound (fun j other => goes_other other) rfl (.inl rfl) rfl (.inr ⟨free, rfl⟩) ?_
  rw [goes_self]
  exact knows

/-- A turn of a call with the lock that changes files. -/
theorem Sound.works {granted : List (String × Owner)} (sound : Sound guards)
    (own : (guards.calls i).locked = true) (knows : next.Knows live disk)
    (kept : ∀ guard ∈ granted, Marked live guard ∧ Marked disk guard) :
    Sound ({ guards with live, disk, granted }.goes i next) := by
  refine @Sound.inside guards _ i sound own (fun j other => goes_other other) (fun _ => sound.alone i own) ?_ kept
  rw [goes_self]
  exact knows

/-- The turn in which a call gives the lock back. -/
theorem Sound.leaves {granted : List (String × Owner)} (sound : Sound guards) (own : (guards.calls i).locked = true)
    (kept : ∀ guard ∈ granted, Marked guards.live guard ∧ Marked guards.disk guard) :
    Sound ({ guards with holder := none, granted }.goes i .idle) := by
  refine @Sound.inside guards _ i sound own (fun j other => goes_other other) (fun locked => ?_) ?_ kept
  · rw [goes_self] at locked
    cases locked
  · rw [goes_self]
    trivial

theorem marked_put {name : Name} {file : Option (Option Owner)} {guard : String × Owner}
    (other : name ≠ .marker guard.1) : Marked (Function.update files name file) guard ↔ Marked files guard := by
  unfold Marked
  rw [Function.update_of_ne (Ne.symm other)]

theorem marked_pending {random : Nat} {file : Option (Option Owner)} {guard : String × Owner} :
    Marked (Function.update files (.pending random) file) guard ↔ Marked files guard := marked_put nofun

theorem block_sound {mailbox : String} {owner : Owner} {stage : Blocking} (sound : Sound guards)
    (at_ : guards.calls i = .block mailbox owner stage) : Sound (blockTurn i mark mailbox owner guards stage) := by
  have knows := sound.knows i
  rw [at_] at knows
  have locked : (Call.block mailbox owner stage).locked = true → (guards.calls i).locked = true := by
    intro inside
    rw [at_]
    exact inside
  cases stage with
  | entering =>
    unfold blockTurn
    dsimp only
    split
    · exact entering_sound sound rfl
    · exact entering_sound sound rfl
  | waiting =>
    unfold blockTurn
    dsimp only
    split
    · next free => exact waiting_sound sound free trivial
    · exact sound
  | opening =>
    unfold blockTurn
    dsimp only
    split
    · exact sound.works (locked rfl) trivial sound.granted
    · refine sound.works (locked rfl) trivial fun guard member => ?_
      obtain ⟨there, stored⟩ := sound.granted guard member
      exact ⟨marked_pending.mpr there, stored⟩
  | writing random =>
    unfold blockTurn
    dsimp only
    split
    · exact sound.works (locked rfl) trivial sound.granted
    · refine sound.works (locked rfl) (Function.update_self ..) fun guard member => ?_
      obtain ⟨there, stored⟩ := sound.granted guard member
      exact ⟨marked_pending.mpr there, stored⟩
  | linking random =>
    unfold blockTurn
    dsimp only
    split
    · exact sound.works (locked rfl) trivial sound.granted
    · next free =>
      have placed : ∀ guard ∈ guards.granted,
          Marked (Function.update guards.live (.marker mailbox) (guards.live (.pending random))) guard ∧
            Marked guards.disk guard := by
        intro guard member
        obtain ⟨there, stored⟩ := sound.granted guard member
        refine ⟨(marked_put fun same => free ?_).mpr there, stored⟩
        rw [same, there]
        rfl
      split
      · unfold Guards.when
        split
        · exact sound.works (locked rfl) trivial placed
        · exact sound.works (locked rfl) trivial sound.granted
      · next calm =>
        rw [when_true (acts_of_calm calm)]
        exact sound.works (locked rfl) ((Function.update_self ..).trans knows) placed
  | syncing random =>
    have synced : ∀ guard ∈ guards.granted, Marked guards.live guard ∧ Marked guards.live guard := fun guard member =>
      ⟨(sound.granted guard member).1, (sound.granted guard member).1⟩
    unfold blockTurn
    dsimp only
    cases raised : mark.raises with
    | true =>
      unfold Guards.when
      split
      · exact sound.works (locked rfl) trivial synced
      · exact sound.works (locked rfl) trivial sound.granted
    | false =>
      rw [when_true (acts_of_calm (Bool.eq_false_iff.mp raised))]
      exact sound.works (locked rfl) ⟨knows, knows⟩ synced
  | closing random done =>
    have cleared : ∀ guard ∈ guards.granted,
        Marked (Function.update guards.live (.pending random) none) guard ∧ Marked guards.disk guard := by
      intro guard member
      obtain ⟨there, stored⟩ := sound.granted guard member
      exact ⟨marked_pending.mpr there, stored⟩
    unfold blockTurn
    dsimp only
    split
    · unfold Guards.when
      split
      · exact sound.works (locked rfl) trivial cleared
      · exact sound.works (locked rfl) trivial sound.granted
    · next calm =>
      rw [when_true (acts_of_calm calm)]
      refine sound.works (locked rfl) ?_ cleared
      cases done with
      | false => trivial
      | true => exact ⟨show Marked _ (mailbox, owner) from marked_pending.mpr knows.1, knows.2⟩
  | tidying done =>
    have synced : ∀ guard ∈ guards.granted, Marked guards.live guard ∧ Marked guards.live guard := fun guard member =>
      ⟨(sound.granted guard member).1, (sound.granted guard member).1⟩
    unfold blockTurn
    dsimp only
    cases raised : mark.raises with
    | true =>
      rw [Bool.not_true, Bool.and_false]
      unfold Guards.when
      split
      · exact sound.works (locked rfl) trivial synced
      · exact sound.works (locked rfl) trivial sound.granted
    | false =>
      rw [when_true (acts_of_calm (Bool.eq_false_iff.mp raised)), Bool.not_false, Bool.and_true]
      refine sound.works (locked rfl) ?_ synced
      cases done with
      | false => trivial
      | true => exact ⟨knows.1, knows.1⟩
  | leaving done =>
    cases done with
    | false => exact sound.leaves (locked rfl) sound.granted
    | true =>
      refine sound.leaves (locked rfl) fun guard member => ?_
      rcases mem_cons.mp member with rfl | member
      · exact knows
      · exact sound.granted guard member

theorem verify_removed {mailbox : String} : verify (Function.update files (.marker mailbox) none) restoreId entry =
      if entry.mailbox = mailbox then .missing else verify files restoreId entry := by
  split
  · next same =>
    unfold verify
    rw [same, Function.update_self]
  · next other => exact verify_congr (Function.update_of_ne (fun same => other (Name.marker.inj same)) ..)

section
variable (sound : Sound guards)
include sound

theorem release_sound {entries : List Entry} {stage : Releasing}
    (at_ : guards.calls i = .releaseBatch entries restoreId stage) :
    Sound (releaseTurn i mark entries restoreId guards stage) := by
  have knows := sound.knows i
  rw [at_] at knows
  have locked : (Call.releaseBatch entries restoreId stage).locked = true → (guards.calls i).locked = true := by
    intro inside
    rw [at_]
    exact inside
  cases stage with
  | entering =>
    unfold releaseTurn
    dsimp only
    split
    · exact entering_sound sound rfl
    · exact entering_sound sound rfl
  | waiting =>
    unfold releaseTurn
    dsimp only
    split
    · next free => exact waiting_sound sound free ⟨[], rfl, nofun, nodup_nil, nofun⟩
    · exact sound
  | verifying todo present =>
    obtain ⟨done, split_, checked, distinct, own⟩ := knows
    cases todo with
    | nil =>
      have all : entries = done := split_.trans (append_nil done)
      have sorted := mergeSort_perm present fun one other => decide (one ≤ other)
      refine sound.works (locked rfl) ⟨all ▸ checked, sorted.nodup_iff.mpr distinct, fun mailbox member => ?_⟩ sound.granted
      exact all ▸ own mailbox (sorted.mem_iff.mp member)
    | cons entry rest =>
      have further : entries = (done ++ [entry]) ++ rest := by
        rw [split_, append_assoc]
        rfl
      have kept : ∀ mailbox ∈ present, ∃ known ∈ done ++ [entry], known.mailbox = mailbox ∧
          verify guards.live restoreId known = .own := by
        intro mailbox member
        obtain ⟨known, inside, named, verified⟩ := own mailbox member
        exact ⟨known, mem_append_left _ inside, named, verified⟩
      have more : verify guards.live restoreId entry ≠ .foreign →
          ∀ known ∈ done ++ [entry], verify guards.live restoreId known ≠ .foreign := by
        intro fine known member
        rcases mem_append.mp member with inside | last
        · exact checked known inside
        · rw [mem_singleton.mp last]
          exact fine
      unfold releaseTurn
      dsimp only
      split
      · exact sound.works (locked rfl) trivial sound.granted
      · split
        · next missing =>
          exact sound.works (locked rfl) ⟨done ++ [entry], further, more (by rw [missing]; nofun), distinct, kept⟩ sound.granted
        · next verified =>
          refine sound.works (locked rfl) ⟨done ++ [entry], further, more (by rw [verified]; nofun), ?_, ?_⟩ sound.granted
          · split
            · exact distinct
            · next absent =>
              exact nodup_append.mpr ⟨distinct, nodup_cons.mpr ⟨nofun, nodup_nil⟩, fun known member other last => by
                rw [mem_singleton.mp last]
                rintro rfl
                exact absent member⟩
          · intro mailbox member
            split at member
            · exact kept mailbox member
            · rcases mem_append.mp member with inside | last
              · exact kept mailbox inside
              · rw [mem_singleton.mp last]
                exact ⟨entry, mem_append_right _ mem_cons_self, rfl, verified⟩
        · exact sound.works (locked rfl) trivial sound.granted
  | unlinking todo =>
    obtain ⟨checked, distinct, own⟩ := knows
    cases todo with
    | nil =>
      exact sound.works (locked rfl) trivial sound.granted
    | cons mailbox rest =>
      obtain ⟨once, later⟩ := nodup_cons.mp distinct
      have removed : (Call.releaseBatch entries restoreId (.syncing rest)).Knows
          (Function.update guards.live (.marker mailbox) none) guards.disk := by
        refine ⟨fun entry member => ?_, later, fun other member => ?_⟩
        · rw [verify_removed]
          split
          · nofun
          · exact checked entry member
        · obtain ⟨entry, inside, named, verified⟩ := own other (mem_cons_of_mem mailbox member)
          refine ⟨entry, inside, named, ?_⟩
          rw [verify_removed, if_neg]
          · exact verified
          · rintro same
            exact once (by rw [← same, named]; exact member)
      have kept : ∀ guard ∈ guards.granted.filter fun guard => guard.1 ≠ mailbox,
          Marked (Function.update guards.live (.marker mailbox) none) guard ∧ Marked guards.disk guard := by
        intro guard member
        obtain ⟨inside, other⟩ := mem_filter.mp member
        obtain ⟨there, stored⟩ := sound.granted guard inside
        exact ⟨(marked_put fun same => of_decide_eq_true other (Name.marker.inj same).symm).mpr there, stored⟩
      unfold releaseTurn
      dsimp only
      cases raised : mark.raises with
      | true =>
        simp only [↓reduceIte]
        split
        · exact sound.works (locked rfl) trivial kept
        · exact sound.works (locked rfl) trivial sound.granted
      | false =>
        rw [if_pos (acts_of_calm (Bool.eq_false_iff.mp raised))]
        exact sound.works (locked rfl) removed kept
  | syncing todo =>
    have synced : ∀ guard ∈ guards.granted, Marked guards.live guard ∧ Marked guards.live guard := fun guard member =>
      ⟨(sound.granted guard member).1, (sound.granted guard member).1⟩
    unfold releaseTurn
    cases raised : mark.raises with
    | true =>
      simp only [↓reduceIte]
      unfold Guards.when
      split
      · exact sound.works (locked rfl) trivial synced
      · exact sound.works (locked rfl) trivial sound.granted
    | false =>
      rw [when_true (acts_of_calm (Bool.eq_false_iff.mp raised))]
      exact sound.works (locked rfl) knows synced
  | leaving =>
    exact sound.leaves (locked rfl) sound.granted

theorem owned_sound {entries : List Entry} {stage : Owning}
    (at_ : guards.calls i = .ownedGuards entries restoreId stage) :
    Sound (ownedTurn i mark entries restoreId guards stage) := by
  have knows := sound.knows i
  rw [at_] at knows
  have locked : (Call.ownedGuards entries restoreId stage).locked = true → (guards.calls i).locked = true := by
    intro inside
    rw [at_]
    exact inside
  cases stage with
  | entering =>
    unfold ownedTurn
    dsimp only
    split
    · exact entering_sound sound rfl
    · exact entering_sound sound rfl
  | waiting =>
    unfold ownedTurn
    dsimp only
    split
    · next free => exact waiting_sound sound free ⟨[], rfl, nofun⟩
    · exact sound
  | verifying todo =>
    obtain ⟨done, split_, own⟩ := knows
    cases todo with
    | nil =>
      have all : entries = done := split_.trans (append_nil done)
      exact sound.works (locked rfl) (all ▸ own) sound.granted
    | cons entry rest =>
      unfold ownedTurn
      dsimp only
      split
      · next verified =>
        refine sound.works (locked rfl) ⟨done ++ [entry], ?_, fun known member => ?_⟩ sound.granted
        · rw [split_, append_assoc]
          rfl
        · rcases mem_append.mp member with inside | last
          · exact own known inside
          · rw [mem_singleton.mp last]
            exact verified.2
      · exact sound.works (locked rfl) trivial sound.granted
  | inside =>
    exact sound.works (locked rfl) trivial sound.granted
  | leaving =>
    exact sound.leaves (locked rfl) sound.granted

theorem turn_sound : Sound (guards.turn i mark) := by
  unfold Guards.turn
  cases at_ : guards.calls i with
  | idle => exact sound
  | block mailbox owner stage => exact block_sound sound at_
  | releaseBatch entries restoreId stage => exact release_sound sound at_
  | ownedGuards entries restoreId stage => exact owned_sound sound at_

theorem call_sound (unlocked : next.locked = false) : Sound (guards.goes i next) := by
  refine @Sound.before guards _ i sound (fun j other => goes_other other) rfl (.inl rfl) rfl (.inl ⟨rfl, ?_⟩) ?_
  · rw [goes_self]
    exact unlocked
  · rw [goes_self]
    exact knows_unlocked unlocked

theorem crash_sound {kept : Name → Bool} : Sound (guards.step (.crash kept)) := by
  refine ⟨nofun, fun _ => trivial, fun guard member => ?_⟩
  obtain ⟨there, stored⟩ := sound.granted guard member
  have still : Marked (guards.step (.crash kept)).live guard := by
    change (if _ then _ else _) = _
    split
    · exact there
    · exact stored
  exact ⟨still, still⟩

theorem step_sound (event : Event) : Sound (guards.step event) := by
  cases event with
  | block i mailbox owner =>
    unfold Guards.step
    dsimp only
    split
    · split
      · exact call_sound sound rfl
      · exact sound
    · exact sound
  | releaseBatch i entries restoreId =>
    unfold Guards.step
    dsimp only
    split
    · split
      · exact call_sound sound rfl
      · exact sound
    · exact sound
  | ownedGuards i entries restoreId =>
    unfold Guards.step
    dsimp only
    split
    · exact call_sound sound rfl
    · exact sound
  | turn i mark => exact turn_sound sound
  | crash kept => exact crash_sound sound

end

theorem over_sound : Sound (.over files []) := ⟨nofun, fun _ => trivial, nofun⟩

end Boron.MailGuards
