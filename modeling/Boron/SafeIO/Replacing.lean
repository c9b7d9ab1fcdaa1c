import Boron.SafeIO.Checking

namespace Boron.SafeIO

open Sys Inodes

/-- A call that takes no entry of the target's name, changes no regular file of before, and makes
none but the temporary one. -/
structure Spares (start : Files) (target : String) (temporary : Option Nat) (call : Call) : Prop where
  target : ∀ entry ∈ call.before.entries, entry.name = target → entry ∈ call.after.entries
  files : ∀ inode, inode < start.next → start.kind inode = .regular → call.after.attrs inode = call.before.attrs inode
  made : ∀ inode, call.before.next ≤ inode → inode < call.after.next → call.after.kind inode = .regular → temporary = some inode

/-- A new regular file whose names are all below the root. -/
structure Temporary (root : Nat) (start : Files) (fd : Fd) (files : Files) : Prop where
  fresh : start.next ≤ fd.inode
  sole : Sole root fd.inode files
  regular : files.kind fd.inode = .regular
  reached : Reached fd.opened root fd.inode

section
variable {root : Nat} {start files after : Files} {C : Call → Prop} {P Q : Files → Prop} {setting : Setting} {trustedRoot : String}
  {target : String} {temporary : Option Nat} {call : Call}

theorem Tame.spares (tame : Tame start call) : Spares start target temporary call where
  target entry member _ := tame.entries entry member
  files := tame.attrs
  made inode low high regular := absurd regular (tame.made inode low high)

theorem Spares.of_none (spares : Spares start target none call) (temporary : Option Nat) : Spares start target temporary call where
  target := spares.target
  files := spares.files
  made inode low high regular := nomatch spares.made inode low high regular

theorem Stable.fresh (start : Files) (fd : Fd) : Stable root (Temporary root start fd) := fun files left sound small later holds =>
  ⟨holds.fresh, Stable.sole fd.inode files left sound small later holds.sole,
    (later.kind _ holds.sole.1).trans holds.regular, holds.reached⟩

def Untouched (root : Nat) (start : Files) (target : String) (P : Files → Prop) (world : World) : Prop :=
  ∃ temporary, Given root start (Spares start target temporary)
    (fun files => P files ∧ ∀ inode, temporary = some inode → inode < files.next ∧ Nameless files inode) world

variable {name : String}

section
variable (trusted : Trusted setting trustedRoot start)
include trusted

theorem createTemporary_given {dir : Fd} {mode : Nat} :
    Triple (Given setting.root start (Spares start target none) (Got setting.root dir)) (createTemporary setting dir name mode)
      (fun fd => Given setting.root start (Spares start target (some fd.inode)) fun files =>
        Got setting.root dir files ∧ Temporary setting.root start fd files)
      (Given setting.root start (Spares start target none) (Got setting.root dir)) := by
  refine perform_given trusted.sound trusted.used (fun _ tame => tame.spares) (fun fd _ spares => spares.of_none _) (Stable.got dir)
    (fun _ got _ => ⟨dir, rfl, got.2⟩) ?_ fun _ _ _ got _ _ => got
  intro files fd after later got acted _
  cases made : files.make dir.inode name .regular { uid := 0, gid := 0, mode := mode, data := [] } with
  | error errno =>
    rw [made] at acted
    cases acted
  | ok left =>
    rw [made] at acted
    cases acted
    have further := got.make_later later trusted.used made
    obtain ⟨reached, sole, regular⟩ := got.made later trusted.used made
    refine ⟨further, fun inode used _ changed => absurd (make_attrs made used) changed, ?_, ⟨got.1.later further, got.2⟩,
      later.next, sole, regular, reached⟩
    obtain ⟨rfl, -⟩ := make_some made
    refine ⟨fun entry member _ => List.mem_append_left _ member, fun inode used _ => ?_, fun inode low high _ => ?_⟩
    · exact Function.update_of_ne (Nat.ne_of_lt (Nat.lt_of_lt_of_le used later.next)) _ _
    · exact congrArg some (Nat.le_antisymm low (Nat.le_of_lt_succ high))

theorem temporary_given {action : Action} (dir fd : Fd) {f : Attrs → Attrs} :
    Triple (Given setting.root start (Spares start target (some fd.inode)) fun files =>
        Got setting.root dir files ∧ Temporary setting.root start fd files)
      (perform setting action (some fd) fun files => .ok ((), files.setAttrs fd.inode f))
      (fun _ => Given setting.root start (Spares start target (some fd.inode)) fun files =>
        Got setting.root dir files ∧ Temporary setting.root start fd files)
      (Given setting.root start (Spares start target (some fd.inode)) fun files =>
        Got setting.root dir files ∧ Temporary setting.root start fd files) := by
  refine setAttrs_given trusted (fun _ tame => tame.spares) action ((Stable.got dir).and (Stable.fresh start fd))
    (fun _ holds => holds.2.reached) (fun _ holds _ => holds.2.sole.2) (fun files _ holds => ?_) fun files holds => ?_
  · exact (setAttrs_tame fun used => absurd used (Nat.not_lt.mpr holds.2.fresh)).spares
  · exact ⟨⟨holds.1.1.setAttrs _ _, holds.1.2⟩, holds.2.fresh, holds.2.sole, holds.2.regular, holds.2.reached⟩

theorem writeAll_given (dir fd : Fd) {fuel : Nat} {pending : List UInt8} :
    Triple (Given setting.root start (Spares start target (some fd.inode)) fun files =>
        Got setting.root dir files ∧ Temporary setting.root start fd files)
      (writeAll setting fd fuel pending)
      (fun _ => Given setting.root start (Spares start target (some fd.inode)) fun files =>
        Got setting.root dir files ∧ Temporary setting.root start fd files)
      (Given setting.root start (Spares start target (some fd.inode)) fun files =>
        Got setting.root dir files ∧ Temporary setting.root start fd files) := by
  induction fuel generalizing pending with
  | zero =>
    cases pending with
    | nil => exact Triple.pure fun _ given => given
    | cons _ _ => exact Triple.fail fun _ given => given
  | succ fuel ih =>
    cases pending with
    | nil => exact Triple.pure fun _ given => given
    | cons byte rest =>
      refine Triple.get.bind fun world => ?_
      refine ((temporary_given trusted dir fd).weaken (fun _ given => given.2) (fun _ _ given => given)
        fun _ given => given).bind fun _ => ?_
      split
      · exact (Triple.fail fun _ given => given).bind (Q := fun _ _ => False) fun _ _ never => never.elim
      · exact ih

theorem renameOver_given {dir fd : Fd} {source : String} :
    Triple (Given setting.root start (Spares start target (some fd.inode)) fun files =>
        Got setting.root dir files ∧ Temporary setting.root start fd files)
      (renameOver setting dir source name) (fun _ => Given setting.root start (fun _ => True) (Got setting.root dir))
      (Given setting.root start (Spares start target (some fd.inode)) fun files =>
        Got setting.root dir files ∧ Temporary setting.root start fd files) := by
  refine perform_given trusted.sound trusted.used (fun _ tame => tame.spares) (fun _ _ _ => trivial)
    ((Stable.got dir).and (Stable.fresh start fd)) (fun _ holds _ => ⟨dir, rfl, holds.1.2⟩) ?_ fun _ _ _ holds _ _ => holds
  intro files _ after later holds acted _
  cases renamed : files.rename dir.inode source dir.inode name with
  | error errno =>
    rw [renamed] at acted
    cases acted
  | ok left =>
    rw [renamed] at acted
    cases acted
    have small := Nat.lt_of_lt_of_le trusted.used later.next
    have further : Later setting.root files after := by
      refine rename_later later.sound (fun _ member own => holds.1.1.below_of_entry member own) small (fun _ used => ?_) renamed
      rcases used with alive | ⟨entry, member, own⟩
      · exact holds.1.1.below_of_alive alive
      · exact holds.1.1.below_of_entry member own
    refine ⟨further, fun inode _ _ changed => ?_, trivial, holds.1.1.later further, holds.1.2⟩
    rw [rename_attrs renamed] at changed
    exact absurd rfl changed

end

theorem temporaryName_length (setting : Setting) (name : String) :
    (temporaryName setting name).length = 6 + name.length + setting.suffix.text.length := by
  unfold temporaryName
  rw [String.length_append, String.length_append, String.length_append]
  have dot : ".".length = 1 := rfl
  have tmp : ".tmp.".length = 5 := rfl
  omega

theorem temporaryName_ne (setting : Setting) (name : String) : temporaryName setting name ≠ name := by
  intro same
  have long := temporaryName_length setting name
  rw [same] at long
  omega

theorem temporaryName_safe (setting : Setting) (safe : safeName name = true) :
    safeName (temporaryName setting name) = true := by
  have long := temporaryName_length setting name
  have other (short : String) (few : short.length < 6) : temporaryName setting name ≠ short := by
    intro same
    rw [same] at long
    omega
  have plain : '/' ∉ name.toList := by
    unfold safeName at safe
    simp only [Bool.and_eq_true, Bool.not_eq_true', List.contains_eq_mem, decide_eq_false_iff_not] at safe
    exact safe.1.1.2
  have plain' : '/' ∉ (temporaryName setting name).toList := by
    unfold temporaryName
    rw [String.toList_append, String.toList_append, String.toList_append]
    simp only [List.mem_append, not_or]
    exact ⟨⟨⟨by decide, plain⟩, by decide⟩, setting.suffix.plain⟩
  unfold safeName
  simp only [Bool.and_eq_true, Bool.not_eq_true', List.contains_eq_mem, decide_eq_false_iff_not, decide_eq_true_eq]
  exact ⟨⟨⟨other "" (by decide), plain'⟩, other "." (by decide)⟩, other ".." (by decide)⟩

theorem dropPending_given (trusted : Trusted setting trustedRoot start) (dir fd : Fd) (safe : safeName name = true) (other : name ≠ target) :
    Triple (Given setting.root start (Spares start target (some fd.inode)) fun files =>
        Got setting.root dir files ∧ Temporary setting.root start fd files)
      (unlinkName setting (.dropTemporary name fd.inode true) dir name)
      (fun _ => Untouched setting.root start target (Got setting.root dir))
      (Untouched setting.root start target (Got setting.root dir)) := by
  refine unlinkName_triple ?_ fun _ gone => gone
  have gone (world : World) (given : Given setting.root start (Spares start target (some fd.inode))
      (fun files => Got setting.root dir files ∧ fd.inode < files.next ∧ Nameless files fd.inode) world) :
      Untouched setting.root start target (Got setting.root dir) world := by
    refine ⟨some fd.inode, given.mono (fun _ fits => fits) fun files _ holds => ⟨holds.1, ?_⟩⟩
    rintro _ ⟨⟩
    exact holds.2
  refine Triple.weaken (perform_given trusted.sound trusted.used (fun _ tame => tame.spares) (fun _ _ spares => spares)
    ((Stable.got dir).and (Stable.fresh start fd)) (fun _ holds _ => ⟨dir, rfl, holds.1.2⟩) ?_ ?_) (fun _ given => given)
    (fun _ => gone) gone
  · intro files _ after later holds acted undisturbed
    obtain ⟨further, same, next, kept, how⟩ := forgive_unlink later holds.1 acted
    refine ⟨further, fun inode _ _ changed => ?_, ⟨fun entry member named => ?_, fun inode _ _ => ?_, fun inode low high => ?_⟩,
      ⟨holds.1.1.later further, holds.1.2⟩, Nat.lt_of_lt_of_le holds.2.sole.1 further.next, ?_⟩
    · rw [same] at changed
      exact absurd rfl changed
    · exact kept entry member fun same => other (same.symm.trans named)
    · exact congrFun same inode
    · exact absurd (next ▸ high) (Nat.not_lt.mpr low)
    · rcases undisturbed with nameless | ⟨-, there⟩
      · exact nameless.later holds.2.sole.1 further
      · rcases how with ⟨absent, rfl⟩ | unlinked
        · intro entry member own
          obtain ⟨inDir, named⟩ := there entry member own
          exact (lookup_none absent).2 entry member inDir named
        · intro entry member own
          obtain ⟨before, elsewhere⟩ := unlink_gone later.sound safe unlinked entry member
          exact elsewhere (there entry before own)
  · intro files trouble later holds cause undisturbed
    refine ⟨holds.1, holds.2.sole.1, ?_⟩
    rcases undisturbed with nameless | ⟨none, there⟩
    · exact nameless
    · obtain ⟨errno, failed⟩ := cause none
      intro entry member own
      obtain ⟨inDir, named⟩ := there entry member own
      obtain ⟨child, found, directory⟩ := forgive_error failed
      have same := later.sound.named _ member _ (lookup_some safe found) inDir named
      have regular := holds.2.regular
      rw [← own, same] at regular
      rw [directory] at regular
      cases regular

theorem dropRenamed_given (trusted : Trusted setting trustedRoot start) {dir fd : Fd} :
    Triple (Given setting.root start (fun _ => True) (Got setting.root dir))
      (unlinkName setting (.dropTemporary name fd.inode false) dir name)
      (fun _ => Given setting.root start (fun _ => True) (Got setting.root dir))
      (Given setting.root start (fun _ => True) fun _ => False) := by
  refine unlinkName_triple ?_ fun _ never => never.mono (fun _ fits => fits) fun _ _ impossible => impossible.elim
  refine perform_given trusted.sound trusted.used (fun _ _ => trivial) (fun _ _ _ => trivial) (Stable.got dir)
    (fun _ got _ => ⟨dir, rfl, got.2⟩) ?_ ?_
  · intro files _ after later got acted _
    obtain ⟨further, same, -⟩ := forgive_unlink later got acted
    refine ⟨further, fun inode _ _ changed => ?_, trivial, got.1.later further, got.2⟩
    rw [same] at changed
    exact absurd rfl changed
  · intro files trouble _ _ cause undisturbed
    obtain ⟨none, plain⟩ := undisturbed
    obtain ⟨errno, failed⟩ := cause none
    obtain ⟨child, found, directory⟩ := forgive_error failed
    exact plain child found directory

theorem Given.untouched {world : World} (given : Given root start (Spares start target none) P world) :
    Untouched root start target P world :=
  ⟨none, given.mono (fun _ fits => fits) fun _ _ holds => ⟨holds, fun _ same => nomatch same⟩⟩

variable {uid gid mode : Nat} {data : List UInt8}

section
variable (trusted : Trusted setting trustedRoot start)
include trusted

theorem replaceFileAtFd_given {dir : Fd} :
    Triple (Given setting.root start (Spares start name none) (Got setting.root dir))
      (replaceFileAtFd setting dir name data uid gid mode)
      (fun _ => Given setting.root start (fun _ => True) (Got setting.root dir))
      (Untouched setting.root start name (Got setting.root dir)) := by
  refine rejectName_bind name (fun _ given => given.untouched) fun safe => ?_
  refine ((createTemporary_given trusted).weaken (fun _ given => given) (fun _ _ given => given)
    fun _ given => given.untouched).bind fun fd => ?_
  have drops := dropPending_given trusted dir fd (temporaryName_safe setting safe) (temporaryName_ne setting name)
  refine finally_triple (fun _ => Given setting.root start (fun _ => True) (Got setting.root dir))
    (Given setting.root start (Spares start name (some fd.inode)) fun files =>
      Got setting.root dir files ∧ Temporary setting.root start fd files) ?_ (fun _ => ?_) fun _ => drops
  · have closes := close_given trusted.sound trusted.used (C := Spares start name (some fd.inode)) (fun _ tame => tame.spares)
      ((Stable.got dir).and (Stable.fresh start fd)) fd
    refine (finally_triple _ _ ?_ (fun _ => closes) fun _ => closes).bind fun _ => renameOver_given trusted
    exact (writeAll_given trusted dir fd).bind fun _ => (temporary_given trusted dir fd).bind fun _ =>
      temporary_given trusted dir fd
  · refine (dropRenamed_given trusted).weaken (fun _ given => given) (fun _ _ given => given) fun _ never => ?_
    exact ⟨none, fun calm => (never calm).2.2.elim⟩

theorem release_given {α : Type} {dir : Fd} {work : Sys World Failure α}
    (works : Triple (Given setting.root start (Spares start target none) (Got setting.root dir)) work
      (fun _ => Given setting.root start (fun _ => True) (Got setting.root dir))
      (Untouched setting.root start target (Got setting.root dir))) :
    Triple (Given setting.root start (Spares start target none) fun files => True ∧ Got setting.root dir files)
      (finally_ work fun result => release setting dir result.toOption.isSome)
      (fun _ => Given setting.root start (fun _ => True) fun _ => True)
      (Untouched setting.root start target fun _ => True) := by
  refine finally_triple (fun _ => Given setting.root start (fun _ => True) (Got setting.root dir))
    (Untouched setting.root start target (Got setting.root dir)) (works.weaken (fun _ given => ?_) (fun _ _ given => given)
      fun _ gone => gone) (fun _ => ?_) fun _ => ?_
  · exact given.mono (fun _ fits => fits) fun _ _ holds => holds.2
  · have closes : Triple (Given setting.root start (fun _ => True) (Got setting.root dir)) (release setting dir true)
        (fun _ => Given setting.root start (fun _ => True) fun _ => True)
        (Given setting.root start (fun _ => True) fun _ => False) := by
      refine perform_given trusted.sound trusted.used (fun _ _ => trivial) (fun _ _ _ => trivial) (Stable.got dir)
        (fun _ _ touches => nomatch touches) ?_ ?_
      · rintro files _ after later _ ⟨⟩ _
        exact ⟨Later.refl later.sound, fun _ _ _ changed => absurd rfl changed, trivial, trivial⟩
      · intro files trouble _ _ cause none
        obtain ⟨errno, failed⟩ := cause none
        cases failed
    refine closes.weaken (fun _ given => given) (fun _ _ given => given) fun _ never => ?_
    exact ⟨none, fun calm => (never calm).2.2.elim⟩
  · intro world untouched
    obtain ⟨temporary, given⟩ := untouched
    have nameless : Stable setting.root fun files => ∀ inode, temporary = some inode → inode < files.next ∧ Nameless files inode := by
      intro files left _ _ later holds inode same
      obtain ⟨used, gone⟩ := holds inode same
      exact ⟨Nat.lt_of_lt_of_le used later.next, gone.later used later⟩
    have closes : Triple (Given setting.root start (Spares start target temporary) fun files => Got setting.root dir files ∧
          ∀ inode, temporary = some inode → inode < files.next ∧ Nameless files inode) (release setting dir false)
        (fun _ => Given setting.root start (Spares start target temporary) fun files => Got setting.root dir files ∧
          ∀ inode, temporary = some inode → inode < files.next ∧ Nameless files inode)
        (Given setting.root start (Spares start target temporary) fun files => Got setting.root dir files ∧
          ∀ inode, temporary = some inode → inode < files.next ∧ Nameless files inode) := by
      refine perform_still trusted.sound trusted.used (fun _ tame => tame.spares) ((Stable.got dir).and nameless)
        (fun _ _ touches => nomatch touches) ?_
      rintro files _ after _ holds ⟨⟩
      exact ⟨rfl, holds⟩
    have left (world : World) (given : Given setting.root start (Spares start target temporary) (fun files =>
        Got setting.root dir files ∧ ∀ inode, temporary = some inode → inode < files.next ∧ Nameless files inode) world) :
        Untouched setting.root start target (fun _ => True) world :=
      ⟨temporary, given.mono (fun _ fits => fits) fun _ _ holds => ⟨trivial, holds.2⟩⟩
    obtain ⟨well, badly⟩ := closes world given
    exact ⟨fun _ _ ran => left _ (well _ _ ran), fun _ _ ran => left _ (badly _ _ ran)⟩

theorem secureReplaceFile_given {dirPath name : String} (absolute : isAbsolute dirPath = isAbsolute trustedRoot)
    (further : pathParts trustedRoot <+: pathParts dirPath) :
    Triple (Given setting.root start (Spares start name none) fun _ => True)
      (secureReplaceFile setting dirPath name data uid gid mode)
      (fun _ => Given setting.root start (fun _ => True) fun _ => True) (Untouched setting.root start name fun _ => True) := by
  have opened := (openPath_given trusted (C := Spares start name none) (fun _ tame => tame.spares) (Stable.const True)
    absolute further).weaken (fun _ given => given) (fun _ _ given => given) fun _ given => given.untouched
  exact opened.bind fun dir => release_given trusted (replaceFileAtFd_given trusted)

theorem secureWriteFileBeneath_given {relative name : String} (last : (pathParts (forward relative)).getLast? = some name) :
    Triple (Given setting.root start (Spares start name none) fun _ => True)
      (secureWriteFileBeneath setting trustedRoot relative data uid gid mode)
      (fun _ => Given setting.root start (fun _ => True) fun _ => True) (Untouched setting.root start name fun _ => True) := by
  unfold secureWriteFileBeneath
  dsimp only
  rw [last]
  dsimp only
  split
  · exact Triple.fail fun _ given => given.untouched
  · have makes (parent : String) := (secureMkdirs_given trusted (C := Spares start name none) (fun _ tame => tame.spares)
      (Stable.const True) (fun _ _ _ holds => holds) parent uid gid 0o750).weaken
        (fun _ given => given) (fun _ _ given => given) fun _ given => given.untouched
    have opened (parent : String) := (openDirBeneath_given trusted (C := Spares start name none) (fun _ tame => tame.spares) parent
      (Stable.const True)).weaken (fun _ given => given) (fun _ _ given => given) fun _ given => given.untouched
    exact (makes _).bind fun _ => (opened _).bind fun dir => release_given trusted (replaceFileAtFd_given trusted)

end

end

end Boron.SafeIO
