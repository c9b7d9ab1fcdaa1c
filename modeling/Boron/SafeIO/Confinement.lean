import Boron.Lib.InodeMoves
import Boron.SafeIO.Helpers

namespace Boron.SafeIO

open List Sys Inodes

def Reached (files : Files) (root inode : Nat) : Prop :=
  inode = root ∨ ∃ entry ∈ files.entries, entry.child = inode ∧ Below files root entry.dir

/-- What is touched was reached when it was opened, and a regular file that is changed has no
name outside of the tree. -/
structure Confined (root : Nat) (call : Call) : Prop where
  reached : call.action.touches = true → ∃ fd, call.fd = some fd ∧ Reached fd.opened root fd.inode
  inside : ∀ inode, inode < call.before.next → call.before.kind inode = .regular →
    call.after.attrs inode ≠ call.before.attrs inode → Inside call.before root inode

/-- Nothing has happened to the target, and no regular file that was made still has a name. -/
structure Unharmed (start : Files) (target : String) (world : World) : Prop where
  target : ∀ call ∈ world.log, ∀ entry ∈ call.before.entries, entry.name = target → entry ∈ call.after.entries
  files : ∀ call ∈ world.log, ∀ inode, inode < start.next → start.kind inode = .regular →
    call.after.attrs inode = call.before.attrs inode
  temporary : ∀ call ∈ world.log, ∀ inode, call.before.next ≤ inode → inode < call.after.next →
    call.after.kind inode = .regular → Nameless world.files inode

/-- The tenant and the system leave alone what the helper relies on at this call: a file with one
name that is checked has a name inside the tree; a temporary file that is given up is
at its name and can be removed; nothing goes wrong after the rename. -/
def Undisturbed (root : Nat) (call : Call) : Prop :=
  match call.action, call.fd with
  | .check, some fd => call.before.links fd.inode = 1 →
      ∃ entry ∈ call.before.entries, entry.child = fd.inode ∧ Below call.before root entry.dir
  | .dropTemporary name temporary true, some dir => Nameless call.before temporary ∨
      call.trouble = none ∧ ∀ entry ∈ call.before.entries, entry.child = temporary →
        entry.dir = dir.inode ∧ entry.name = name
  | .dropTemporary name _ false, some dir => call.trouble = none ∧
      ∀ child, call.before.lookup dir.inode name = some child → call.before.kind child ≠ .directory
  | .release true, _ => call.trouble = none
  | _, _ => True

def Request.target : Request → Option String
  | .writeFileBeneath relative .. => (pathParts (forward relative)).getLast?
  | .replaceFile _ name .. => some name
  | _ => none

/-- A directory that is given by its whole path is below the trusted root. -/
def Request.Beneath (trustedRoot : String) : Request → Prop
  | .ensureFile dirPath .. | .replaceFile dirPath .. | .unlink dirPath .. | .readText dirPath .. =>
    isAbsolute dirPath = isAbsolute trustedRoot ∧ pathParts trustedRoot <+: pathParts dirPath
  | _ => True

/-- The path of the trusted root leads there through directories that are not the tenant's. -/
structure Trusted (setting : Setting) (trustedRoot : String) (start : Files) : Prop where
  sound : Sound start
  used : setting.root < start.next
  directory : start.kind setting.root = .directory
  anchored : Anchored start setting.root (pathParts trustedRoot) (startOf setting trustedRoot none)

def World.begin (start : Files) : World := { files := start, calls := 0, log := [] }

structure Request.Safe (setting : Setting) (trustedRoot : String) (start : Files) (request : Request) : Prop where
  confined : ∀ call ∈ ((request.perform setting trustedRoot).run (.begin start)).2.log, Confined setting.root call
  unharmed : ∀ failure target, ((request.perform setting trustedRoot).run (.begin start)).1 = .error failure →
    request.target = some target → Unharmed start target ((request.perform setting trustedRoot).run (.begin start)).2

/-- No name goes, no regular file is made, and none of the earlier ones is changed. -/
structure Tame (start : Files) (call : Call) : Prop where
  entries : ∀ entry ∈ call.before.entries, entry ∈ call.after.entries
  attrs : ∀ inode, inode < start.next → start.kind inode = .regular → call.after.attrs inode = call.before.attrs inode
  made : ∀ inode, call.before.next ≤ inode → inode < call.after.next → call.after.kind inode ≠ .regular

theorem Tame.refl (start : Files) {action : Action} {fd : Option Fd} {files : Files} {trouble : Option Errno} :
    Tame start ⟨action, fd, files, files, trouble⟩ where
  entries _ member := member
  attrs _ _ _ := rfl
  made _ low high := absurd high (Nat.not_lt.mpr low)

/-- What holds of the files, and of every call, as long as every call is undisturbed. -/
def Given (root : Nat) (start : Files) (C : Call → Prop) (P : Files → Prop) (world : World) : Prop :=
  (∀ call ∈ world.log, Undisturbed root call) →
    Later root start world.files ∧ (∀ call ∈ world.log, Confined root call ∧ C call) ∧ P world.files

def Stable (root : Nat) (P : Files → Prop) : Prop :=
  ∀ files left, Sound files → root < files.next → Later root files left → P files → P left

section
variable {root : Nat} {start files after : Files} {C C' : Call → Prop} {P Q : Files → Prop} {setting : Setting}

theorem Given.mono {world : World} (given : Given root start C P world) (calls : ∀ call, C call → C' call)
    (holds : ∀ files, Later root start files → P files → Q files) : Given root start C' Q world := by
  intro calm
  obtain ⟨later, log, known⟩ := given calm
  refine ⟨later, fun call member => ?_, holds world.files later known⟩
  obtain ⟨confined, own⟩ := log call member
  exact ⟨confined, calls call own⟩

theorem Stable.and (first : Stable root P) (second : Stable root Q) : Stable root fun files => P files ∧ Q files := by
  intro files left sound small later holds
  exact ⟨first files left sound small later holds.1, second files left sound small later holds.2⟩

theorem Stable.const (fact : Prop) : Stable root fun _ => fact := fun _ _ _ _ _ holds => holds

theorem Stable.held (dir : Nat) : Stable root fun files => Held files root dir :=
  fun _ _ _ _ later held => held.later later

theorem perform_given {α : Type} {action : Action} {fd : Option Fd} {act : Files → Except Errno (α × Files)}
    {D : α → Call → Prop} {R : α → Files → Prop} {E : Files → Prop} (sound : Sound start)
    (small : setting.root < start.next) (tame : ∀ call, Tame start call → C call) (grows : ∀ a call, C call → D a call)
    (stable : Stable setting.root P)
    (touched : ∀ files, P files → action.touches = true → ∃ own, fd = some own ∧ Reached own.opened setting.root own.inode)
    (does : ∀ files a after, Later setting.root start files → P files → act files = .ok (a, after) →
      Undisturbed setting.root ⟨action, fd, files, after, none⟩ → Later setting.root files after ∧
        (∀ inode, inode < files.next → files.kind inode = .regular → after.attrs inode ≠ files.attrs inode →
          Inside files setting.root inode) ∧ D a ⟨action, fd, files, after, none⟩ ∧ R a after)
    (fails : ∀ files trouble, Later setting.root start files → P files →
      (trouble = none → ∃ errno, act files = .error errno) → Undisturbed setting.root ⟨action, fd, files, files, trouble⟩ →
        E files) :
    Triple (Given setting.root start C P) (perform setting action fd act) (fun a => Given setting.root start (D a) (R a))
      (Given setting.root start C E) := by
  intro world given
  -- The calls before are undisturbed if all are, and the tenant's moves are allowed for.
  have moved {call : Call} (calm : ∀ earlier ∈ world.log ++ [call], Undisturbed setting.root earlier) :
      (∀ earlier ∈ world.log, Confined setting.root earlier ∧ C earlier) ∧
        Later setting.root start ((setting.tenant world.calls).foldl (Files.move setting.root) world.files) ∧
          P ((setting.tenant world.calls).foldl (Files.move setting.root) world.files) ∧ Undisturbed setting.root call := by
    obtain ⟨later, log, holds⟩ := given fun earlier member => calm earlier (mem_append_left _ member)
    have used := Nat.lt_of_lt_of_le small later.next
    have further := moves_later later.sound used (setting.tenant world.calls)
    exact ⟨log, later.trans sound further, stable _ _ later.sound used further holds,
      calm call (mem_append_right _ (mem_singleton.mpr rfl))⟩
  have failed {trouble : Option Errno} (cause : trouble = none →
        ∃ errno, act ((setting.tenant world.calls).foldl (Files.move setting.root) world.files) = .error errno) :
      Given setting.root start C E
        { files := (setting.tenant world.calls).foldl (Files.move setting.root) world.files
          calls := world.calls + 1
          log := world.log ++ [⟨action, fd, (setting.tenant world.calls).foldl (Files.move setting.root) world.files,
            (setting.tenant world.calls).foldl (Files.move setting.root) world.files, trouble⟩] } := by
    intro calm
    obtain ⟨log, later, holds, own⟩ := moved calm
    refine ⟨later, fun call member => ?_, fails _ trouble later holds cause own⟩
    rcases mem_append.mp member with earlier | last
    · exact log call earlier
    · rw [mem_singleton.mp last]
      exact ⟨⟨touched _ holds, fun inode _ _ changed => absurd rfl changed⟩, tame _ (Tame.refl start)⟩
  unfold perform
  dsimp only
  cases setting.trouble world.calls with
  | some errno =>
    refine ⟨fun _ _ ran => (nomatch ran), ?_⟩
    rintro _ _ ⟨⟩
    exact failed fun none => nomatch none
  | none =>
    cases acted : act ((setting.tenant world.calls).foldl (Files.move setting.root) world.files) with
    | error errno =>
      refine ⟨fun _ _ ran => (nomatch ran), ?_⟩
      rintro _ _ ⟨⟩
      exact failed fun _ => ⟨errno, acted⟩
    | ok result =>
      obtain ⟨a, after⟩ := result
      refine ⟨?_, fun _ _ ran => (nomatch ran)⟩
      rintro _ _ ⟨⟩
      intro calm
      obtain ⟨log, later, holds, own⟩ := moved calm
      obtain ⟨further, inside, call', ends⟩ := does _ a after later holds acted own
      refine ⟨later.trans sound further, fun call member => ?_, ends⟩
      rcases mem_append.mp member with earlier | last
      · obtain ⟨confined, fits⟩ := log call earlier
        exact ⟨confined, grows a call fits⟩
      · rw [mem_singleton.mp last]
        exact ⟨⟨touched _ holds, inside⟩, call'⟩

theorem perform_still {α : Type} {action : Action} {fd : Option Fd} {act : Files → Except Errno (α × Files)}
    {R : α → Files → Prop} (sound : Sound start) (small : setting.root < start.next)
    (tame : ∀ call, Tame start call → C call) (stable : Stable setting.root P)
    (touched : ∀ files, P files → action.touches = true → ∃ own, fd = some own ∧ Reached own.opened setting.root own.inode)
    (does : ∀ files a after, Later setting.root start files → P files → act files = .ok (a, after) → after = files ∧ R a files) :
    Triple (Given setting.root start C P) (perform setting action fd act) (fun a => Given setting.root start C (R a))
      (Given setting.root start C P) := by
  refine perform_given sound small tame (fun _ _ fits => fits) stable touched ?_ fun _ _ _ holds _ _ => holds
  intro files a after later holds acted _
  obtain ⟨rfl, ends⟩ := does files a after later holds acted
  exact ⟨Later.refl later.sound, fun inode _ _ changed => absurd rfl changed, tame _ (Tame.refl start), ends⟩

theorem close_given (sound : Sound start) (small : setting.root < start.next) (tame : ∀ call, Tame start call → C call)
    (stable : Stable setting.root P) (fd : Fd) :
    Triple (Given setting.root start C P) (close setting fd) (fun _ => Given setting.root start C P)
      (Given setting.root start C P) := by
  refine perform_still sound small tame stable (fun _ _ touches => nomatch touches) ?_
  rintro files _ after later holds ⟨⟩
  exact ⟨rfl, holds⟩

theorem finally_triple {α : Type} {body : Sys World Failure α} {cleanUp : Except Failure α → Sys World Failure Unit}
    {before failed : World → Prop} {done : α → World → Prop} (ends : α → World → Prop) (fails : World → Prop)
    (first : Triple before body ends fails)
    (well : ∀ a, Triple (ends a) (cleanUp (.ok a)) (fun _ => done a) failed)
    (badly : ∀ failure, Triple fails (cleanUp (.error failure)) (fun _ => failed) failed) :
    Triple before (finally_ body cleanUp) done failed := by
  have ran : Triple before (caught body)
      (fun result world => (∀ a, result = .ok a → ends a world) ∧ ∀ failure, result = .error failure → fails world) failed :=
    Triple.caught first
  refine ran.bind fun result => ?_
  cases result with
  | ok a =>
    refine Triple.bind ((well a).weaken (fun world holds => holds.1 a rfl) (fun _ _ ended => ended) fun _ ended => ended) ?_
    intro _
    exact Triple.pure fun _ ended => ended
  | error failure =>
    refine Triple.bind
      ((badly failure).weaken (fun world holds => holds.2 failure rfl) (fun _ _ ended => ended) fun _ ended => ended) ?_
    intro _
    exact Triple.ofExcept (fun _ _ _ same => nomatch same) fun _ holds => holds

end

end Boron.SafeIO
