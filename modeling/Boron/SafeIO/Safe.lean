import Boron.SafeIO.Replacing

namespace Boron.SafeIO

open Sys Inodes

section
variable {start : Files} {setting : Setting} {trustedRoot : String}

theorem begin_given (trusted : Trusted setting trustedRoot start) (C : Call → Prop) :
    Given setting.root start C (fun _ => True) (.begin start) :=
  fun _ => ⟨Later.refl trusted.sound, fun _ member => (nomatch member), trivial⟩

variable {request : Request}

section
variable (trusted : Trusted setting trustedRoot start)
include trusted

theorem given_of_plain {work : Sys World Failure Unit} (plain : request.target = none)
    (works : Triple (Given setting.root start (fun _ => True) fun _ => True) work
      (fun _ => Given setting.root start (fun _ => True) fun _ => True) (Given setting.root start (fun _ => True) fun _ => True)) :
    Triple (fun world => world = .begin start) work (fun _ => Given setting.root start (fun _ => True) fun _ => True)
      (fun world => Given setting.root start (fun _ => True) (fun _ => True) world ∧
        ∀ target, request.target = some target → Untouched setting.root start target (fun _ => True) world) := by
  refine works.weaken ?_ (fun _ _ given => given) fun world given => ⟨given, fun target own => ?_⟩
  · rintro _ rfl
    exact begin_given trusted _
  · rw [plain] at own
    cases own

theorem given_of_replacing {work : Sys World Failure Unit} {name : String} (replacing : request.target = some name)
    (works : Triple (Given setting.root start (Spares start name none) fun _ => True) work
      (fun _ => Given setting.root start (fun _ => True) fun _ => True) (Untouched setting.root start name fun _ => True)) :
    Triple (fun world => world = .begin start) work (fun _ => Given setting.root start (fun _ => True) fun _ => True)
      (fun world => Given setting.root start (fun _ => True) (fun _ => True) world ∧
        ∀ target, request.target = some target → Untouched setting.root start target (fun _ => True) world) := by
  refine works.weaken ?_ (fun _ _ given => given) fun world untouched => ⟨?_, fun target own => ?_⟩
  · rintro _ rfl
    exact begin_given trusted _
  · obtain ⟨temporary, given⟩ := untouched
    exact given.mono (fun _ _ => trivial) fun _ _ _ => trivial
  · rw [replacing] at own
    cases own
    exact untouched

/-- How a request leaves the world. -/
theorem request_given (beneath : request.Beneath trustedRoot) :
    Triple (fun world => world = .begin start) (request.perform setting trustedRoot)
      (fun _ => Given setting.root start (fun _ => True) fun _ => True)
      (fun world => Given setting.root start (fun _ => True) (fun _ => True) world ∧
        ∀ target, request.target = some target → Untouched setting.root start target (fun _ => True) world) := by
  cases request with
  | mkdirs relative uid gid mode =>
    exact given_of_plain trusted rfl ((secureMkdirs_given trusted (fun _ _ => trivial) (Stable.const True)
      (fun _ _ _ holds => holds) relative uid gid mode).bind fun _ => Triple.pure fun _ given => given)
  | ensureFileBeneath relativeDir name uid gid mode =>
    exact given_of_plain trusted rfl (secureEnsureFileBeneath_given trusted relativeDir name uid gid mode)
  | writeFileBeneath relative data uid gid mode =>
    cases last : (pathParts (forward relative)).getLast? with
    | some name => exact given_of_replacing trusted last (secureWriteFileBeneath_given trusted last)
    | none =>
      refine given_of_plain trusted last ?_
      unfold Request.perform secureWriteFileBeneath
      dsimp only
      rw [last]
      exact Triple.fail fun _ given => given
  | ensureFile dirPath name uid gid mode =>
    exact given_of_plain trusted rfl (secureEnsureFile_given trusted name uid gid mode beneath.1 beneath.2)
  | replaceFile dirPath name data uid gid mode =>
    exact given_of_replacing trusted rfl (secureReplaceFile_given trusted beneath.1 beneath.2)
  | unlink dirPath name => exact given_of_plain trusted rfl (secureUnlink_given trusted name beneath.1 beneath.2)
  | readText dirPath name maxBytes =>
    exact given_of_plain trusted rfl ((secureReadText_given trusted name maxBytes beneath.1 beneath.2).bind
      fun _ => Triple.pure fun _ given => given)

end

theorem Untouched.unharmed {root : Nat} {target : String} {world : World} {P : Files → Prop}
    (untouched : Untouched root start target P world) (calm : ∀ call ∈ world.log, Undisturbed root call) :
    Unharmed start target world := by
  obtain ⟨temporary, given⟩ := untouched
  obtain ⟨-, log, -, gone⟩ := given calm
  refine ⟨fun call member => (log call member).2.target, fun call member => (log call member).2.files, ?_⟩
  intro call member inode low high regular
  exact (gone inode ((log call member).2.made inode low high regular)).2

/-- As long as no call is disturbed, whatever else the tenant does, a request is safe. -/
theorem request_safe (trusted : Trusted setting trustedRoot start) {request : Request} (beneath : request.Beneath trustedRoot)
    (undisturbed : ∀ call ∈ ((request.perform setting trustedRoot).run (.begin start)).2.log, Undisturbed setting.root call) :
    request.Safe setting trustedRoot start := by
  obtain ⟨well, badly⟩ := request_given trusted beneath (.begin start) rfl
  constructor
  · intro call member
    cases ran : (request.perform setting trustedRoot).run (.begin start) with
    | mk result left =>
      rw [ran] at undisturbed member
      cases result with
      | ok a => exact ((well a left ran) undisturbed).2.1 call member |>.1
      | error failure => exact ((badly failure left ran).1 undisturbed).2.1 call member |>.1
  · intro failure target failed own
    have ran : (request.perform setting trustedRoot).run (.begin start) =
        (.error failure, ((request.perform setting trustedRoot).run (.begin start)).2) := Prod.ext failed rfl
    exact ((badly failure _ ran).2 target own).unharmed undisturbed

end

def outside : Files where
  entries := [⟨0, "home", 1⟩, ⟨0, "shadow", 2⟩]
  kind inode := if inode = 2 then .regular else .directory
  attrs _ := { uid := 0, gid := 0, mode := 0o600, data := [] }
  next := 3

theorem outside_trusted {setting : Setting} (root : setting.root = 1) : Trusted setting "/home" outside := by
  have top : ¬ Below outside 1 0 := by
    intro below
    rcases Relation.ReflTransGen.cases_tail below with same | ⟨above, -, name, member, -⟩
    · cases same
    · have free : ∀ entry ∈ outside.entries, entry.child ≠ 0 := by decide
      exact free _ member rfl
  have sound : Sound outside := ⟨by decide, by decide, by decide, by decide, by decide, by decide⟩
  refine ⟨sound, by rw [root]; decide, by rw [root]; decide, ?_⟩
  have parts : pathParts "/home" = ["home"] := by decide
  have starts : startOf setting "/home" none = 0 := if_pos (by decide)
  rw [parts, starts, root]
  exact ⟨top, 1, by decide, by decide, rfl⟩

def Call.settled (call : Call) : Bool :=
  match call.action, call.fd with
  | .check, some _ => false
  | .dropTemporary name temporary true, some dir =>
    decide (call.trouble = none ∧ ∀ entry ∈ call.before.entries, entry.child = temporary → entry.dir = dir.inode ∧ entry.name = name)
  | .dropTemporary name _ false, some dir => decide (call.trouble = none ∧ call.before.lookup dir.inode name = none)
  | .release true, _ => decide (call.trouble = none)
  | _, _ => true

theorem Call.settled_undisturbed {root : Nat} {call : Call} (settled : call.settled = true) : Undisturbed root call := by
  obtain ⟨action, fd, before, after, trouble⟩ := call
  cases action with
  | check =>
    cases fd with
    | none => trivial
    | some fd => cases settled
  | dropTemporary name temporary pending =>
    cases fd with
    | none => cases pending <;> trivial
    | some dir =>
      cases pending with
      | true => exact .inr (of_decide_eq_true settled)
      | false =>
        obtain ⟨fine, free⟩ := of_decide_eq_true settled
        refine ⟨fine, fun child found => ?_⟩
        rw [free] at found
        cases found
  | release done =>
    cases done with
    | true =>
      have fine : trouble = none := of_decide_eq_true settled
      exact fine
    | false => trivial
  | _ => trivial

def fullDisk : Setting where
  root := 1
  cwd := 0
  tenant n := if n = 4 then [.create 1 "other" .regular { uid := 1000, gid := 1000, mode := 0o600, data := [] }] else []
  trouble n := if n = 4 then some .io else none
  written _ := 1
  suffix := ⟨"17.00ff00ff", by decide⟩

theorem request_safe_applied :
    (Request.replaceFile "/home" "settings" [1, 2] 1000 1000 0o600).Safe fullDisk "/home" outside := by
  refine request_safe (outside_trusted rfl) ⟨rfl, by decide⟩ fun call member => ?_
  have all : ((((Request.replaceFile "/home" "settings" [1, 2] 1000 1000 0o600).perform fullDisk "/home").run
      (.begin outside)).2.log.all Call.settled) = true := rfl
  exact Call.settled_undisturbed (List.all_eq_true.mp all call member)

/-- The file outside gets a name in the home before it is opened, and loses it before it is checked. -/
def relinked : Setting where
  root := 1
  cwd := 0
  tenant n := if n = 3 then [.link 2 1 "log"] else if n = 4 then [.unlink 1 "log"] else []
  trouble _ := none
  written _ := 1
  suffix := ⟨"17.00ff00ff", by decide⟩

/-- The owner of a file outside of the tree is changed. -/
theorem owner_taken : ¬ ∀ (setting : Setting) (trustedRoot : String) (start : Files) (request : Request),
    Trusted setting trustedRoot start → request.Beneath trustedRoot → request.Safe setting trustedRoot start := by
  intro safe
  have confined := (safe relinked "/home" outside (.ensureFileBeneath "." "log" 1000 1000 0o640) (outside_trusted rfl) trivial).confined
  have taken : ((((Request.ensureFileBeneath "." "log" 1000 1000 0o640).perform relinked "/home").run
      (.begin outside)).2.log.any fun call => decide (2 < call.before.next ∧ call.before.kind 2 = .regular ∧
        call.after.attrs 2 ≠ call.before.attrs 2 ∧ ⟨0, "shadow", 2⟩ ∈ call.before.entries ∧
          ∀ entry ∈ call.before.entries, entry.child ≠ 0)) = true := rfl
  obtain ⟨call, member, found⟩ := List.any_eq_true.mp taken
  obtain ⟨used, regular, changed, named, top⟩ := of_decide_eq_true found
  have below := (confined call member).inside 2 used regular changed _ named rfl
  rcases Relation.ReflTransGen.cases_tail below with same | ⟨above, -, name, inside, -⟩
  · cases same
  · exact top _ inside rfl

end Boron.SafeIO
