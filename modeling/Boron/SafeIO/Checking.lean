import Boron.SafeIO.Changing

namespace Boron.SafeIO

open Sys Inodes

/-- A file in use, all of whose names are below the root. -/
def Sole (root inode : Nat) (files : Files) : Prop := inode < files.next ∧ Inside files root inode

section
variable {root : Nat} {start files after : Files} {C : Call → Prop} {P Q : Files → Prop} {setting : Setting} {trustedRoot : String}

theorem Stable.sole (inode : Nat) : Stable root (Sole root inode) := fun _ _ sound _ later holds =>
  ⟨Nat.lt_of_lt_of_le holds.1 later.next, holds.2.later sound holds.1 later⟩

variable {name : String} {dir : Fd}

theorem Got.reached_child {child : Nat} (got : Got root dir files)
    (member : ⟨dir.inode, name, child⟩ ∈ files.entries) : Reached files root child :=
  .inr ⟨_, member, rfl, got.1.below_of_entry member rfl⟩

/-- The new name is below the root, and the only one. -/
theorem Got.made (later : Later root start files) (small : root < start.next) {kind : Kind}
    {attrs : Attrs} (got : Got root dir files) (made : files.make dir.inode name kind attrs = .ok after) :
    Reached after root files.next ∧ Sole root files.next after ∧ after.kind files.next = kind := by
  have further := got.make_later later small made
  have got' : Got root dir after := ⟨got.1.later further, got.2⟩
  obtain ⟨rfl, -⟩ := make_some made
  have member : (⟨dir.inode, name, files.next⟩ : Entry) ∈ (files.add dir.inode name kind attrs).entries :=
    List.mem_append_right _ (List.mem_singleton.mpr rfl)
  refine ⟨got'.reached_child member, ⟨Nat.lt_succ_self _, fun entry inside own => ?_⟩, Function.update_self _ _ _⟩
  rcases List.mem_append.mp inside with before | last
  · exact absurd own (Nat.ne_of_lt (later.sound.used entry before).2)
  · rw [List.mem_singleton.mp last]
    exact got'.1.below_of_entry member rfl

section
variable (trusted : Trusted setting trustedRoot start)
include trusted

theorem openOrCreate_given {mode : Nat} (safe : safeName name = true) :
    Triple (Given setting.root start (fun _ => True) (Got setting.root dir)) (openOrCreate setting dir name mode)
      (fun fd => Given setting.root start (fun _ => True) fun files => Got setting.root dir files ∧ Reached fd.opened setting.root fd.inode)
      (Given setting.root start (fun _ => True) (Got setting.root dir)) := by
  refine perform_given trusted.sound trusted.used (fun _ _ => trivial) (fun _ _ _ => trivial) (Stable.got dir)
    (fun files got _ => ⟨dir, rfl, got.2⟩) ?_ fun _ _ _ got _ _ => got
  intro files fd after later got acted _
  split at acted
  · cases made : files.make dir.inode name .regular { uid := 0, gid := 0, mode := mode, data := [] } with
    | error errno =>
      rw [made] at acted
      cases acted
    | ok left =>
      rw [made] at acted
      cases acted
      have further := got.make_later later trusted.used made
      exact ⟨further, fun inode used _ changed => absurd (make_attrs made used) changed, trivial,
        ⟨got.1.later further, got.2⟩, (got.made later trusted.used made).1⟩
  · next child found =>
    split at acted
    · cases acted
    · cases acted
    · cases acted
      exact ⟨Later.refl later.sound, fun _ _ _ changed => absurd rfl changed, trivial, got,
        got.reached_child (lookup_some safe found)⟩

theorem check_given (fd : Fd) (stable : Stable setting.root P) :
    Triple (Given setting.root start (fun _ => True) P) (fstat setting .check fd)
      (fun result => Given setting.root start (fun _ => True) fun files =>
        P files ∧ (result.2 = 1 → Sole setting.root fd.inode files))
      (Given setting.root start (fun _ => True) P) := by
  refine perform_given trusted.sound trusted.used (fun _ _ => trivial) (fun _ _ _ => trivial) stable
    (fun _ _ touches => nomatch touches) ?_ fun _ _ _ holds _ _ => holds
  rintro files _ after later holds ⟨⟩ undisturbed
  refine ⟨Later.refl later.sound, fun _ _ _ changed => absurd rfl changed, trivial, holds, fun one => ?_⟩
  obtain ⟨entry, member, own, below⟩ := undisturbed one
  have used := (later.sound.used entry member).2
  rw [own] at used
  exact ⟨used, inside_of_links one member own below⟩

theorem ensureFileAt_given {uid gid mode : Nat} (safe : safeName name = true) :
    Triple (Given setting.root start (fun _ => True) (Got setting.root dir)) (ensureFileAt setting dir name uid gid mode)
      (fun _ => Given setting.root start (fun _ => True) (Got setting.root dir))
      (Given setting.root start (fun _ => True) (Got setting.root dir)) := by
  refine (orUnsafe_triple (openOrCreate_given trusted safe)).bind fun fd => ?_
  have stable : Stable setting.root fun files => Got setting.root dir files ∧ Reached fd.opened setting.root fd.inode :=
    (Stable.got dir).and (Stable.const _)
  have lessen (fact : Prop) (world : World)
      (given : Given setting.root start (fun _ => True) (fun files => Got setting.root dir files ∧ fact) world) :
      Given setting.root start (fun _ => True) (Got setting.root dir) world := given.mono (fun _ fits => fits) fun _ _ holds => holds.1
  have closes := (close_given trusted.sound trusted.used (fun _ _ => trivial) (Stable.got dir) fd (C := fun _ => True))
  refine finally_triple (fun _ => Given setting.root start (fun _ => True) (Got setting.root dir))
    (Given setting.root start (fun _ => True) (Got setting.root dir)) ?_ (fun _ => closes) fun _ => closes
  have checks := (check_given trusted fd stable).weaken (fun _ given => given) (fun _ _ given => given) (lessen _)
  refine checks.bind fun result => ?_
  obtain ⟨kind, links⟩ := result
  have fits (world : World) (given : Given setting.root start (fun _ => True)
      (fun files => (Got setting.root dir files ∧ Reached fd.opened setting.root fd.inode) ∧
        (links = 1 → Sole setting.root fd.inode files)) world) :
      Given setting.root start (fun _ => True) (Got setting.root dir) world :=
    given.mono (fun _ fits => fits) fun _ _ holds => holds.1.1
  dsimp only
  split
  · exact (Triple.fail fits).bind (Q := fun _ _ => False) fun _ _ never => never.elim
  · next passes =>
    have one : links = 1 := by
      by_contra several
      exact passes (.inr several)
    have sole : Stable setting.root fun files =>
        (Got setting.root dir files ∧ Reached fd.opened setting.root fd.inode) ∧ Sole setting.root fd.inode files :=
      stable.and (Stable.sole fd.inode)
    have changes (action : Action) (f : Attrs → Attrs) := (setAttrs_given trusted (C := fun _ => True) (fun _ _ => trivial)
      action (f := f) sole (fun _ holds => holds.1.2) (fun _ holds _ => holds.2.2) (fun _ _ _ => trivial)
      fun files holds => ⟨⟨⟨holds.1.1.1.setAttrs _ _, holds.1.1.2⟩, holds.1.2⟩, holds.2⟩)
    have settled (world : World) (given : Given setting.root start (fun _ => True) (fun files =>
        (Got setting.root dir files ∧ Reached fd.opened setting.root fd.inode) ∧ Sole setting.root fd.inode files) world) :
        Given setting.root start (fun _ => True) (Got setting.root dir) world :=
      given.mono (fun _ fits => fits) fun _ _ holds => holds.1.1
    refine Triple.weaken ((changes _ _).bind fun _ => changes _ _) (fun _ given => ?_) (fun _ => settled) settled
    exact given.mono (fun _ fits => fits) fun _ _ holds => ⟨holds.1, holds.2 one⟩

theorem closing_given {α : Type} {work : Sys World Failure α}
    (works : Triple (Given setting.root start (fun _ => True) (Got setting.root dir)) work
      (fun _ => Given setting.root start (fun _ => True) (Got setting.root dir))
      (Given setting.root start (fun _ => True) (Got setting.root dir))) :
    Triple (Given setting.root start (fun _ => True) fun files => True ∧ Got setting.root dir files)
      (finally_ work fun _ => close setting dir) (fun _ => Given setting.root start (fun _ => True) fun _ => True)
      (Given setting.root start (fun _ => True) fun _ => True) := by
  have lessen (world : World) (given : Given setting.root start (fun _ => True) (Got setting.root dir) world) :
      Given setting.root start (fun _ => True) (fun _ => True) world := given.mono (fun _ fits => fits) fun _ _ _ => trivial
  have closes := (close_given trusted.sound trusted.used (C := fun _ => True) (fun _ _ => trivial) (Stable.got dir) dir).weaken
    (fun _ given => given) (fun _ => lessen) lessen
  refine finally_triple _ _ (works.weaken (fun _ given => ?_) (fun _ _ given => given) fun _ given => given)
    (fun _ => closes) fun _ => closes
  exact given.mono (fun _ fits => fits) fun _ _ holds => holds.2

theorem secureEnsureFileBeneath_given (relativeDir name : String) (uid gid mode : Nat) :
    Triple (Given setting.root start (fun _ => True) fun _ => True)
      (secureEnsureFileBeneath setting trustedRoot relativeDir name uid gid mode)
      (fun _ => Given setting.root start (fun _ => True) fun _ => True)
      (Given setting.root start (fun _ => True) fun _ => True) := by
  refine rejectName_bind name (fun _ given => given) fun safe => ?_
  exact (openDirBeneath_given trusted (fun _ _ => trivial) relativeDir (Stable.const True)).bind
    fun dir => closing_given trusted (ensureFileAt_given trusted safe)

end

variable {dirPath : String}

theorem secureEnsureFile_given (trusted : Trusted setting trustedRoot start) (name : String)
    (uid gid mode : Nat) (absolute : isAbsolute dirPath = isAbsolute trustedRoot)
    (further : pathParts trustedRoot <+: pathParts dirPath) :
    Triple (Given setting.root start (fun _ => True) fun _ => True) (secureEnsureFile setting dirPath name uid gid mode)
      (fun _ => Given setting.root start (fun _ => True) fun _ => True)
      (Given setting.root start (fun _ => True) fun _ => True) := by
  refine rejectName_bind name (fun _ given => given) fun safe => ?_
  refine (openPath_given trusted (fun _ _ => trivial) (Stable.const True) absolute further).bind
    fun dir => closing_given trusted ?_
  have looks : Triple (Given setting.root start (fun _ => True) (Got setting.root dir)) (lstat setting dir name)
      (fun _ => Given setting.root start (fun _ => True) (Got setting.root dir))
      (Given setting.root start (fun _ => True) (Got setting.root dir)) := by
    refine perform_still trusted.sound trusted.used (fun _ _ => trivial) (Stable.got dir) (fun _ _ touches => nomatch touches) ?_
    intro files _ after _ got acted
    split at acted
    · cases acted
    · cases acted
      exact ⟨rfl, got⟩
  refine Triple.bind (Q := fun _ => Given setting.root start (fun _ => True) (Got setting.root dir)) ?_ fun existing => ?_
  · refine Triple.handle (looks.bind fun _ => Triple.pure fun _ given => given) fun failure => ?_
    split
    · exact Triple.pure fun _ given => given
    · exact Triple.fail fun _ given => given
  split
  · exact (Triple.fail fun _ given => given).bind (Q := fun _ _ => False) fun _ _ never => never.elim
  · exact ensureFileAt_given trusted safe

theorem orNone_triple {α : Type} {body : Sys World Failure α} {before failed : World → Prop} {ends : α → World → Prop}
    (triple : Triple before body ends failed) :
    Triple before (orNone body)
      (fun result world => (∀ a, result = some a → ends a world) ∧ (result = none → failed world)) failed := by
  refine Triple.handle (triple.bind fun a => Triple.pure fun _ holds => ⟨?_, fun same => nomatch same⟩) fun failure => ?_
  · rintro _ ⟨⟩
    exact holds
  · split
    · exact Triple.pure fun _ holds => ⟨fun _ same => (nomatch same), fun _ => holds⟩
    · exact Triple.fail fun _ holds => holds

theorem readFileAt_given (trusted : Trusted setting trustedRoot start) (maxBytes : Nat)
    (safe : safeName name = true) :
    Triple (Given setting.root start (fun _ => True) (Got setting.root dir)) (readFileAt setting dir name maxBytes)
      (fun _ => Given setting.root start (fun _ => True) (Got setting.root dir))
      (Given setting.root start (fun _ => True) (Got setting.root dir)) := by
  have opens : Triple (Given setting.root start (fun _ => True) (Got setting.root dir)) (openFile setting dir name)
      (fun fd => Given setting.root start (fun _ => True) fun files =>
        Got setting.root dir files ∧ Reached fd.opened setting.root fd.inode)
      (Given setting.root start (fun _ => True) (Got setting.root dir)) := by
    refine perform_still trusted.sound trusted.used (fun _ _ => trivial) (Stable.got dir) (fun _ _ touches => nomatch touches) ?_
    intro files fd after _ got acted
    split at acted
    · cases acted
    · next child found =>
      split at acted
      · cases acted
      · cases acted
        exact ⟨rfl, got, got.reached_child (lookup_some safe found)⟩
  refine (orNone_triple opens).bind fun result => ?_
  cases result with
  | none => exact Triple.pure fun _ holds => holds.2 rfl
  | some fd =>
    have stable : Stable setting.root fun files => Got setting.root dir files ∧ Reached fd.opened setting.root fd.inode :=
      (Stable.got dir).and (Stable.const _)
    have lessen (world : World) (given : Given setting.root start (fun _ => True)
        (fun files => Got setting.root dir files ∧ Reached fd.opened setting.root fd.inode) world) :
        Given setting.root start (fun _ => True) (Got setting.root dir) world := given.mono (fun _ fits => fits) fun _ _ holds => holds.1
    have closes := (close_given trusted.sound trusted.used (C := fun _ => True) (fun _ _ => trivial) stable fd).weaken
      (fun _ given => given) (fun _ => lessen) lessen
    refine (finally_triple _ _ ?_ (fun _ => closes) fun _ => closes).weaken
      (P := Given setting.root start (fun _ => True) fun files =>
        Got setting.root dir files ∧ Reached fd.opened setting.root fd.inode)
      (fun _ holds => holds.1 fd rfl) (fun _ _ given => given) fun _ given => given
    have stats : Triple (Given setting.root start (fun _ => True) fun files =>
          Got setting.root dir files ∧ Reached fd.opened setting.root fd.inode) (fstat setting .stat fd)
        (fun _ => Given setting.root start (fun _ => True) fun files =>
          Got setting.root dir files ∧ Reached fd.opened setting.root fd.inode)
        (Given setting.root start (fun _ => True) fun files =>
          Got setting.root dir files ∧ Reached fd.opened setting.root fd.inode) := by
      refine perform_still trusted.sound trusted.used (fun _ _ => trivial) stable (fun _ _ touches => nomatch touches) ?_
      rintro files _ after _ holds ⟨⟩
      exact ⟨rfl, holds⟩
    refine stats.bind fun stat => ?_
    dsimp only
    split
    · exact Triple.pure fun _ given => given
    · have reads : Triple (Given setting.root start (fun _ => True) fun files =>
            Got setting.root dir files ∧ Reached fd.opened setting.root fd.inode) (readBytes setting fd maxBytes)
          (fun _ => Given setting.root start (fun _ => True) fun files =>
            Got setting.root dir files ∧ Reached fd.opened setting.root fd.inode)
          (Given setting.root start (fun _ => True) fun files =>
            Got setting.root dir files ∧ Reached fd.opened setting.root fd.inode) := by
        refine perform_still trusted.sound trusted.used (fun _ _ => trivial) stable (fun _ holds _ => ⟨fd, rfl, holds.2⟩) ?_
        rintro files _ after _ holds ⟨⟩
        exact ⟨rfl, holds⟩
      exact reads.bind fun _ => Triple.pure fun _ given => given

theorem secureReadText_given (trusted : Trusted setting trustedRoot start) (name : String)
    (maxBytes : Nat) (absolute : isAbsolute dirPath = isAbsolute trustedRoot)
    (further : pathParts trustedRoot <+: pathParts dirPath) :
    Triple (Given setting.root start (fun _ => True) fun _ => True) (secureReadText setting dirPath name maxBytes)
      (fun _ => Given setting.root start (fun _ => True) fun _ => True)
      (Given setting.root start (fun _ => True) fun _ => True) := by
  refine rejectName_bind name (fun _ given => given) fun safe => ?_
  refine (orNone_triple (openPath_given trusted (fun _ _ => trivial) (Stable.const True) absolute further)).bind fun result => ?_
  cases result with
  | none => exact Triple.pure fun _ holds => holds.2 rfl
  | some dir =>
    exact (closing_given trusted (readFileAt_given trusted maxBytes safe)).weaken (fun _ holds => holds.1 dir rfl)
      (fun _ _ given => given) fun _ given => given

/-- A name that is absent is as good as removed. -/
def forgive (files : Files) : Except Errno Files → Except Errno (Unit × Files)
  | .ok left => .ok ((), left)
  | .error .noEntry => .ok ((), files)
  | .error errno => .error errno

theorem forgive_unlink {result : Unit} (later : Later root start files)
    (got : Got root dir files) (acted : forgive files (files.unlink false dir.inode name) = .ok (result, after)) :
    Later root files after ∧ after.attrs = files.attrs ∧ after.next = files.next ∧
      (∀ entry ∈ files.entries, entry.name ≠ name → entry ∈ after.entries) ∧
        (files.lookup dir.inode name = none ∧ after = files ∨ files.unlink false dir.inode name = .ok after) := by
  cases unlinked : files.unlink false dir.inode name with
  | ok left =>
    rw [unlinked] at acted
    cases acted
    obtain ⟨same, next⟩ := unlink_attrs unlinked
    exact ⟨unlink_later later.sound (fun _ member own => got.1.below_of_entry member own) unlinked, same, next,
      unlink_kept unlinked, .inr rfl⟩
  | error errno =>
    rw [unlinked] at acted
    cases errno with
    | noEntry =>
      cases acted
      refine ⟨Later.refl later.sound, rfl, rfl, fun _ member _ => member, .inl ⟨?_, rfl⟩⟩
      unfold Files.unlink at unlinked
      split at unlinked
      · next absent => exact absent
      · split at unlinked
        · split at unlinked <;> cases unlinked
        · cases unlinked
    | _ => cases acted

theorem forgive_error {dir : Nat} {errno : Errno}
    (failed : forgive files (files.unlink false dir name) = .error errno) :
    ∃ child, files.lookup dir name = some child ∧ files.kind child = .directory := by
  cases found : files.lookup dir name with
  | none =>
    unfold Files.unlink at failed
    rw [found] at failed
    cases failed
  | some child =>
    refine ⟨child, rfl, ?_⟩
    by_contra plain
    unfold Files.unlink at failed
    rw [found] at failed
    dsimp only at failed
    rw [if_neg plain] at failed
    cases failed

theorem unlinkName_triple {action : Action} {before ends failed : World → Prop} (triple : Triple before
      (perform setting action (some dir) fun files => forgive files (files.unlink false dir.inode name)) (fun _ => ends) failed)
    (rescue : ∀ world, failed world → ends world) :
    Triple before (unlinkName setting action dir name) (fun _ => ends) failed := by
  intro world holds
  obtain ⟨well, badly⟩ := triple world holds
  unfold perform at well badly
  unfold unlinkName handle perform
  dsimp only at well badly ⊢
  cases troubled : setting.trouble world.calls with
  | some errno =>
    rw [troubled] at well badly
    have left := badly _ _ rfl
    cases errno <;> first
      | exact ⟨by rintro _ _ ⟨⟩; exact rescue _ left, fun _ _ ran => nomatch ran⟩
      | exact ⟨fun _ _ ran => (nomatch ran), by rintro _ _ ⟨⟩; exact left⟩
  | none =>
    rw [troubled] at well badly
    cases unlinked : ((setting.tenant world.calls).foldl (Files.move setting.root) world.files).unlink false dir.inode name with
    | ok left =>
      rw [unlinked] at well
      exact ⟨by rintro _ _ ⟨⟩; exact well () _ rfl, fun _ _ ran => nomatch ran⟩
    | error errno =>
      rw [unlinked] at well badly
      cases errno <;> first
        | exact ⟨by rintro _ _ ⟨⟩; exact well () _ rfl, fun _ _ ran => nomatch ran⟩
        | exact ⟨fun _ _ ran => (nomatch ran), by rintro _ _ ⟨⟩; exact badly _ _ rfl⟩

theorem secureUnlink_given (trusted : Trusted setting trustedRoot start) (name : String)
    (absolute : isAbsolute dirPath = isAbsolute trustedRoot) (further : pathParts trustedRoot <+: pathParts dirPath) :
    Triple (Given setting.root start (fun _ => True) fun _ => True) (secureUnlink setting dirPath name)
      (fun _ => Given setting.root start (fun _ => True) fun _ => True)
      (Given setting.root start (fun _ => True) fun _ => True) := by
  refine rejectName_bind name (fun _ given => given) fun safe => ?_
  refine (orNone_triple (openPath_given trusted (fun _ _ => trivial) (Stable.const True) absolute further)).bind fun result => ?_
  cases result with
  | none => exact Triple.pure fun _ holds => holds.2 rfl
  | some dir =>
    refine (closing_given trusted (unlinkName_triple ?_ fun _ given => given)).weaken (fun _ holds => holds.1 dir rfl)
      (fun _ _ given => given) fun _ given => given
    refine perform_given trusted.sound trusted.used (fun _ _ => trivial) (fun _ _ _ => trivial) (Stable.got dir)
      (fun _ got _ => ⟨dir, rfl, got.2⟩) ?_ fun _ _ _ got _ _ => got
    intro files _ after later got acted _
    obtain ⟨further, same, -⟩ := forgive_unlink later got acted
    refine ⟨further, fun inode _ _ changed => ?_, trivial, got.1.later further, got.2⟩
    rw [same] at changed
    exact absurd rfl changed

end

end Boron.SafeIO
