import Boron.SafeIO.Confinement

namespace Boron.SafeIO

open List Sys Inodes

theorem splitSlash_plain {text part : List Char} (member : part ∈ splitSlash text) : '/' ∉ part := by
  induction text generalizing part with
  | nil =>
    rw [splitSlash, mem_singleton] at member
    rw [member]
    exact not_mem_nil
  | cons c rest ih =>
    unfold splitSlash at member
    split at member
    · rcases mem_cons.mp member with rfl | later
      · exact not_mem_nil
      · exact ih later
    · next other =>
      split at member
      · rw [mem_singleton.mp member, mem_singleton]
        exact fun same => other same.symm
      · next first parts split =>
        rw [split] at ih
        rcases mem_cons.mp member with rfl | later
        · rw [mem_cons]
          rintro (same | inside)
          · exact other same.symm
          · exact ih mem_cons_self inside
        · exact ih (mem_cons_of_mem _ later)

theorem splitSlash_of_plain {text : List Char} (plain : '/' ∉ text) : splitSlash text = [text] := by
  induction text with
  | nil => rfl
  | cons c rest ih =>
    rw [mem_cons, not_or] at plain
    rw [splitSlash, if_neg fun same => plain.1 same.symm, ih plain.2]

theorem pathParts_safe {path part : String} (noParent : ".." ∉ pathParts path) (member : part ∈ pathParts path) :
    safeName part = true := by
  have different : part ≠ ".." := fun same => noParent (same ▸ member)
  obtain ⟨inside, kept⟩ := mem_filter.mp member
  obtain ⟨text, split, rfl⟩ := mem_map.mp inside
  have plain := splitSlash_plain split
  rw [Bool.and_eq_true] at kept
  unfold safeName
  simp only [Bool.and_eq_true, Bool.not_eq_true', contains_eq_mem, decide_eq_false_iff_not, String.toList_ofList]
  exact ⟨⟨⟨kept.1, plain⟩, kept.2⟩, decide_eq_true different⟩

theorem pathParts_of_safe {part : String} (safe : safeName part = true) :
    pathParts part = [part] ∧ isAbsolute part = false ∧ part ≠ ".." := by
  unfold safeName at safe
  simp only [Bool.and_eq_true, Bool.not_eq_true', contains_eq_mem, decide_eq_false_iff_not, decide_eq_true_eq] at safe
  obtain ⟨⟨⟨filled, plain⟩, noDot⟩, noParent⟩ := safe
  refine ⟨?_, ?_, noParent⟩
  · unfold pathParts
    rw [splitSlash_of_plain plain, map_cons, map_nil, String.ofList_toList, filter_cons_of_pos, filter_nil]
    rw [Bool.and_eq_true]
    exact ⟨decide_eq_true filled, decide_eq_true noDot⟩
  · refine decide_eq_false fun starts => plain ?_
    exact List.mem_of_mem_head? (Option.mem_def.mpr starts)

/-- A directory that was reached, and is below the root unless it was removed. -/
def Got (root : Nat) (fd : Fd) (files : Files) : Prop := Held files root fd.inode ∧ Reached fd.opened root fd.inode

def Onway (root : Nat) (parts : List String) (fd : Fd) (files : Files) : Prop :=
  (∃ ahead rest, parts = ahead ++ rest ∧ Anchored files root ahead fd.inode) ∨
    Held files root fd.inode ∧ (parts = [] → Reached fd.opened root fd.inode)

section
variable {root : Nat} {start files : Files} {C : Call → Prop} {P : Files → Prop} {setting : Setting} {trustedRoot : String}

theorem Stable.got (fd : Fd) : Stable root (Got root fd) := fun _ _ _ _ later holds => ⟨holds.1.later later, holds.2⟩

theorem Stable.onway (parts : List String) (fd : Fd) : Stable root (Onway root parts fd) := by
  intro files left sound _ later holds
  rcases holds with ⟨ahead, rest, rfl, anchored⟩ | ⟨held, reached⟩
  · exact .inl ⟨ahead, rest, rfl, anchored.later sound later⟩
  · exact .inr ⟨held.later later, reached⟩

theorem Trusted.held (trusted : Trusted setting trustedRoot start) (later : Later setting.root start files) :
    Held files setting.root setting.root :=
  ⟨(later.kind _ trusted.used).trans trusted.directory, Nat.lt_of_lt_of_le trusted.used later.next, .inl .refl⟩

theorem Trusted.got_of_onway (trusted : Trusted setting trustedRoot start) (later : Later setting.root start files) {fd : Fd}
    (onway : Onway setting.root [] fd files) : Got setting.root fd files := by
  rcases onway with ⟨ahead, rest, empty, anchored⟩ | ⟨held, reached⟩
  · obtain ⟨rfl, rfl⟩ := append_eq_nil_iff.mp empty.symm
    have atRoot : fd.inode = setting.root := anchored
    unfold Got
    rw [atRoot]
    exact ⟨trusted.held later, .inl rfl⟩
  · exact ⟨held, reached rfl⟩

variable {parts : List String} {part : String}

section
variable (trusted : Trusted setting trustedRoot start)
include trusted

theorem Trusted.onway_child (later : Later setting.root start files)
    {fd : Fd} {child : Nat} (safe : safeName part = true)
    (onway : Onway setting.root (part :: parts) fd files) (found : files.lookup fd.inode part = some child)
    (directory : files.kind child = .directory) : Onway setting.root parts ⟨child, files⟩ files := by
  have member := lookup_some safe found
  have below (held : Held files setting.root fd.inode) : Onway setting.root parts ⟨child, files⟩ files :=
    .inr ⟨held.child later.sound member directory, fun _ => .inr ⟨_, member, rfl, held.below_of_entry member rfl⟩⟩
  rcases onway with ⟨ahead, rest, split, anchored⟩ | ⟨held, -⟩
  · cases ahead with
    | nil =>
      have atRoot : fd.inode = setting.root := anchored
      rw [atRoot] at below
      exact below (trusted.held later)
    | cons name ahead =>
      obtain ⟨rfl, rfl⟩ := cons.inj split
      obtain ⟨-, next, inside, -, further⟩ := anchored
      have same := later.sound.named _ inside _ member rfl rfl
      cases same
      exact .inl ⟨ahead, rest, rfl, further⟩
  · exact below held

section
variable (tame : ∀ call, Tame start call → C call)
include tame

theorem step_given
    {next : Sys World Failure Fd} {B : Files → Prop} {R : Fd → Files → Prop} (current : Fd) (stable : Stable setting.root P)
    (stable' : ∀ child, Stable setting.root (R child)) (kept : ∀ child files, R child files → P files)
    (opens : Triple (Given setting.root start C B) next (fun child => Given setting.root start C (R child))
      (Given setting.root start C P)) :
    Triple (Given setting.root start C B) (step setting current next) (fun child => Given setting.root start C (R child))
      (Given setting.root start C P) := by
  have closed : Triple (Given setting.root start C B) (do let child ← next; close setting current; return child)
      (fun child => Given setting.root start C (R child)) (Given setting.root start C P) := by
    refine opens.bind fun child => ?_
    have closes := (close_given trusted.sound trusted.used tame (stable' child) current).weaken
      (fun _ given => given) (fun _ _ given => given) fun _ given =>
        given.mono (fun _ fits => fits) fun _ _ holds => kept child _ holds
    exact closes.bind fun _ => Triple.pure fun _ given => given
  exact Triple.handle closed fun _ =>
    (close_given trusted.sound trusted.used tame stable current).bind fun _ => Triple.fail fun _ given => given

theorem openAt_given (parts : List String) (current : Fd) (stable : Stable setting.root P) (safe : safeName part = true) :
    Triple (Given setting.root start C fun files => P files ∧ Onway setting.root (part :: parts) current files)
      (openAt setting current part)
      (fun child => Given setting.root start C fun files => P files ∧ Onway setting.root parts child files)
      (Given setting.root start C fun files => P files ∧ Onway setting.root (part :: parts) current files) := by
  refine perform_still trusted.sound trusted.used tame (stable.and (Stable.onway _ _)) (fun _ _ touches => nomatch touches) ?_
  intro files child after later holds acted
  split at acted
  · cases acted
  · next inode found =>
    split at acted
    · next directory =>
      cases acted
      exact ⟨rfl, holds.1, trusted.onway_child later safe holds.2 found directory⟩
    · cases acted
    · cases acted

theorem walk_given {current : Fd} (stable : Stable setting.root P) (safe : ∀ part ∈ parts, safeName part = true) :
    Triple (Given setting.root start C fun files => P files ∧ Onway setting.root parts current files)
      (walk setting current parts) (fun child => Given setting.root start C fun files => P files ∧ Got setting.root child files)
      (Given setting.root start C P) := by
  induction parts generalizing current with
  | nil =>
    exact Triple.pure fun _ given => given.mono (fun _ fits => fits) fun files later holds =>
      ⟨holds.1, trusted.got_of_onway later holds.2⟩
  | cons part rest ih =>
    have opens := (openAt_given trusted tame rest current stable (safe part mem_cons_self)).weaken
      (fun _ given => given) (fun _ _ given => given) fun _ given =>
        given.mono (fun _ fits => fits) fun _ _ holds => holds.1
    have stepped := step_given trusted tame (R := fun child files => P files ∧ Onway setting.root rest child files)
      current stable (fun child => stable.and (Stable.onway rest child)) (fun _ _ holds => holds.1) opens
    exact stepped.bind fun child => ih fun name member => safe name (mem_cons_of_mem _ member)

end

end

variable {path : String}

section
variable (trusted : Trusted setting trustedRoot start)
include trusted

theorem openDirNofollow_given (tame : ∀ call, Tame start call → C call)
    {dirFd : Option Fd} (stable : Stable setting.root P)
    (onway : ".." ∉ pathParts path → ∀ files, Later setting.root start files → P files →
      Onway setting.root (pathParts path) ⟨startOf setting path dirFd, files⟩ files) :
    Triple (Given setting.root start C P) (openDirNofollow setting path dirFd)
      (fun fd => Given setting.root start C fun files => P files ∧ Got setting.root fd files) (Given setting.root start C P) := by
  unfold openDirNofollow
  split
  · exact Triple.fail fun _ given => given
  · next noParent =>
    have starts : Triple (Given setting.root start C P) (openStart setting path dirFd)
        (fun fd => Given setting.root start C fun files => P files ∧ Onway setting.root (pathParts path) fd files)
        (Given setting.root start C P) := by
      refine perform_still trusted.sound trusted.used tame stable (fun _ _ touches => nomatch touches) ?_
      rintro files _ after later holds ⟨⟩
      exact ⟨rfl, holds, onway noParent files later holds⟩
    exact starts.bind fun fd => walk_given trusted tame stable fun part member => pathParts_safe noParent member

theorem Trusted.onway (later : Later setting.root start files) (start' : startOf setting path none = startOf setting trustedRoot none) (further : pathParts trustedRoot <+: pathParts path)
    (opened : Files) : Onway setting.root (pathParts path) ⟨startOf setting path none, opened⟩ files := by
  obtain ⟨rest, split⟩ := further
  refine .inl ⟨pathParts trustedRoot, rest, split.symm, ?_⟩
  rw [start']
  exact trusted.anchored.later trusted.sound later

theorem openPath_given (tame : ∀ call, Tame start call → C call) (stable : Stable setting.root P) (absolute : isAbsolute path = isAbsolute trustedRoot)
    (further : pathParts trustedRoot <+: pathParts path) :
    Triple (Given setting.root start C P) (openDirNofollow setting path none)
      (fun fd => Given setting.root start C fun files => P files ∧ Got setting.root fd files) (Given setting.root start C P) := by
  refine openDirNofollow_given trusted tame stable fun _ files later _ => trusted.onway later ?_ further files
  unfold startOf
  rw [absolute]

theorem openPart_given (tame : ∀ call, Tame start call → C call) (current : Fd) (stable : Stable setting.root P) (safe : safeName part = true) :
    Triple (Given setting.root start C fun files => P files ∧ Got setting.root current files)
      (openDirNofollow setting part (some current))
      (fun fd => Given setting.root start C fun files => (P files ∧ Got setting.root current files) ∧ Got setting.root fd files)
      (Given setting.root start C fun files => P files ∧ Got setting.root current files) := by
  obtain ⟨single, relative, -⟩ := pathParts_of_safe safe
  refine openDirNofollow_given trusted tame (stable.and (Stable.got current)) fun _ files _ holds => ?_
  have own : startOf setting part (some current) = current.inode := by
    unfold startOf
    rw [relative]
    rfl
  rw [own, single]
  exact .inr ⟨holds.2.1, fun empty => nomatch empty⟩

end

theorem orUnsafe_triple {α : Type} {body : Sys World Failure α} {before failed : World → Prop} {ends : α → World → Prop}
    (triple : Triple before body ends failed) : Triple before (orUnsafe body) ends failed := by
  refine Triple.handle triple fun failure => ?_
  cases failure with
  | os _ => exact Triple.fail fun _ holds => holds
  | unsafePath => exact Triple.fail fun _ holds => holds

theorem rejectName_bind {α : Type} (name : String) {rest : Sys World Failure α} {before failed : World → Prop}
    {ends : α → World → Prop} (fails : ∀ world, before world → failed world)
    (triple : safeName name = true → Triple before rest ends failed) :
    Triple before (do rejectName name; rest) ends failed := by
  unfold rejectName
  split
  · next safe => exact Triple.bind (Triple.pure fun _ holds => holds) fun _ => triple safe
  · exact Triple.bind (Q := fun _ _ => False) (Triple.fail fails) fun _ _ never => never.elim

theorem descend_given (trusted : Trusted setting trustedRoot start) (tame : ∀ call, Tame start call → C call)
    {current : Fd} (stable : Stable setting.root P) (safe : ∀ part ∈ parts, safeName part = true) :
    Triple (Given setting.root start C fun files => P files ∧ Got setting.root current files)
      (descend setting current parts) (fun child => Given setting.root start C fun files => P files ∧ Got setting.root child files)
      (Given setting.root start C P) := by
  induction parts generalizing current with
  | nil => exact Triple.pure fun _ given => given
  | cons part rest ih =>
    have opens := (orUnsafe_triple (openPart_given trusted tame current stable (safe part mem_cons_self))).weaken
      (fun _ given => given)
      (fun _ _ given => given.mono (fun _ fits => fits) fun _ _ holds => (⟨holds.1.1, holds.2⟩ : P _ ∧ Got setting.root _ _))
      (fun _ given => (given.mono (fun _ fits => fits) fun _ _ holds => holds.1 : Given setting.root start C P _))
    have checked := rejectName_bind part (fun _ given => given.mono (fun _ fits => fits) fun _ _ holds => holds.1)
      fun _ => opens
    have stepped := step_given trusted tame current stable (fun child => stable.and (Stable.got child))
      (fun _ _ holds => holds.1) checked
    exact stepped.bind fun child => ih fun name member => safe name (mem_cons_of_mem _ member)

theorem openDirBeneath_given (trusted : Trusted setting trustedRoot start) (tame : ∀ call, Tame start call → C call)
    (relative : String) (stable : Stable setting.root P) :
    Triple (Given setting.root start C P) (openDirBeneath setting trustedRoot relative)
      (fun fd => Given setting.root start C fun files => P files ∧ Got setting.root fd files) (Given setting.root start C P) := by
  unfold openDirBeneath
  split
  · exact Triple.fail fun _ given => given
  · next noParent =>
    exact (openPath_given trusted tame stable rfl (prefix_refl _)).bind fun fd =>
      descend_given trusted tame stable fun part member => pathParts_safe noParent member

end

end Boron.SafeIO

namespace Boron.SafeIO

open Inodes

section
variable {root : Nat} {start files after : Files} {C : Call → Prop} {P Q : Files → Prop} {setting : Setting} {trustedRoot : String}
  {name : String}

variable {attrs : Attrs}

theorem make_tame {action : Action} {fd : Option Fd} {dir : Nat} {kind : Kind} {trouble : Option Errno} (later : Later root start files) (plain : kind ≠ .regular)
    (made : files.make dir name kind attrs = .ok after) : Tame start ⟨action, fd, files, after, trouble⟩ := by
  obtain ⟨rfl, -⟩ := make_some made
  refine ⟨fun entry member => List.mem_append_left _ member, fun inode used _ => ?_, fun inode low high => ?_⟩
  · have other : inode ≠ files.next := Nat.ne_of_lt (Nat.lt_of_lt_of_le used later.next)
    exact Function.update_of_ne other _ _
  · have same : inode = files.next := Nat.le_antisymm (Nat.le_of_lt_succ high) low
    have own : (files.add dir name kind attrs).kind inode = kind := by
      rw [same]
      exact Function.update_self _ _ _
    rw [own]
    exact plain

theorem make_attrs {dir : Nat} {kind : Kind} (made : files.make dir name kind attrs = .ok after)
    {inode : Nat} (used : inode < files.next) : after.attrs inode = files.attrs inode := by
  obtain ⟨rfl, -⟩ := make_some made
  exact Function.update_of_ne (Nat.ne_of_lt used) _ _

theorem Got.make_later (later : Later root start files) (small : root < start.next) {dir : Fd} {kind : Kind}
    (got : Got root dir files) (made : files.make dir.inode name kind attrs = .ok after) :
    Later root files after :=
  Inodes.make_later later.sound (Nat.lt_of_lt_of_le small later.next) (fun alive _ => got.1.below_of_alive alive) made

theorem setAttrs_tame {action : Action} {fd : Option Fd} {inode : Nat} {f : Attrs → Attrs} {trouble : Option Errno}
    (other : inode < start.next → start.kind inode ≠ .regular) :
    Tame start ⟨action, fd, files, files.setAttrs inode f, trouble⟩ := by
  refine ⟨fun _ member => member, fun own used regular => ?_, fun own low high => absurd high (Nat.not_lt.mpr low)⟩
  refine Function.update_of_ne (fun same => ?_) _ _
  rw [same] at used regular
  exact other used regular

section
variable (trusted : Trusted setting trustedRoot start)
include trusted

section
variable (tame : ∀ call, Tame start call → C call)
include tame

theorem setAttrs_given (action : Action) {fd : Fd} {f : Attrs → Attrs} (stable : Stable setting.root P)
    (reached : ∀ files, P files → Reached fd.opened setting.root fd.inode)
    (inside : ∀ files, P files → files.kind fd.inode = .regular → Inside files setting.root fd.inode)
    (call : ∀ files, Later setting.root start files → P files →
      C ⟨action, some fd, files, files.setAttrs fd.inode f, none⟩)
    (kept : ∀ files, P files → P (files.setAttrs fd.inode f)) :
    Sys.Triple (Given setting.root start C P)
      (perform setting action (some fd) fun files => .ok ((), files.setAttrs fd.inode f)) (fun _ => Given setting.root start C P)
      (Given setting.root start C P) := by
  refine perform_given trusted.sound trusted.used tame (fun _ _ fits => fits) stable
    (fun files holds _ => ⟨fd, rfl, reached files holds⟩) ?_ fun _ _ _ holds _ _ => holds
  rintro files _ after later holds ⟨⟩ -
  refine ⟨attrs_later later.sound _ _, fun inode used regular changed => ?_, call files later holds, kept files holds⟩
  have own : inode = fd.inode := by
    by_contra other
    exact changed (Function.update_of_ne other _ _)
  rw [own] at regular ⊢
  exact inside files holds regular

section
variable (stable : Stable setting.root P)
include stable

theorem mkdir_given (dir : Fd) (part : String) (mode : Nat) :
    Sys.Triple (Given setting.root start C fun files => P files ∧ Got setting.root dir files) (mkdir setting dir part mode)
      (fun _ => Given setting.root start C fun files => P files ∧ Got setting.root dir files)
      (Given setting.root start C fun files => P files ∧ Got setting.root dir files) := by
  have both : Stable setting.root fun files => P files ∧ Got setting.root dir files := stable.and (Stable.got dir)
  have makes : Sys.Triple (Given setting.root start C fun files => P files ∧ Got setting.root dir files)
      (perform setting .makeDir (some dir) fun files =>
        (files.make dir.inode part .directory { uid := 0, gid := 0, mode := mode, data := [] }).map fun left => ((), left))
      (fun _ => Given setting.root start C fun files => P files ∧ Got setting.root dir files)
      (Given setting.root start C fun files => P files ∧ Got setting.root dir files) := by
    refine perform_given trusted.sound trusted.used tame (fun _ _ fits => fits) both
      (fun files holds _ => ⟨dir, rfl, holds.2.2⟩) ?_ fun _ _ _ holds _ _ => holds
    intro files _ after later holds acted _
    cases made : files.make dir.inode part .directory { uid := 0, gid := 0, mode := mode, data := [] } with
    | error errno =>
      rw [made] at acted
      cases acted
    | ok left =>
      rw [made] at acted
      cases acted
      have further := holds.2.make_later later trusted.used made
      have plain : Kind.directory ≠ Kind.regular := Kind.noConfusion
      exact ⟨further, fun inode used _ changed => absurd (make_attrs made used) changed,
        tame _ (make_tame later plain made),
        both files _ later.sound (Nat.lt_of_lt_of_le trusted.used later.next) further holds⟩
  refine Sys.Triple.handle makes fun failure => ?_
  split
  · exact Sys.Triple.pure fun _ given => given
  · exact Sys.Triple.fail fun _ given => given

section
variable (kept : ∀ files inode f, P files → P (Files.setAttrs files inode f))
include kept

theorem setAttrs_directory (action : Action) (fd : Fd) (f : Attrs → Attrs) :
    Sys.Triple (Given setting.root start C fun files => P files ∧ Got setting.root fd files)
      (perform setting action (some fd) fun files => .ok ((), files.setAttrs fd.inode f))
      (fun _ => Given setting.root start C fun files => P files ∧ Got setting.root fd files)
      (Given setting.root start C fun files => P files ∧ Got setting.root fd files) := by
  refine setAttrs_given trusted tame action (stable.and (Stable.got fd)) (fun _ holds => holds.2.2) (fun files holds regular => ?_)
    (fun files later holds => tame _ (setAttrs_tame fun used regular => ?_)) fun files holds => ⟨kept files _ _ holds.1, ?_⟩
  · rw [holds.2.1.directory] at regular
    cases regular
  · rw [← later.kind _ used, holds.2.1.directory] at regular
    cases regular
  · exact ⟨holds.2.1.setAttrs _ _, holds.2.2⟩

theorem makeComponent_given (uid gid mode : Nat) (parent : Fd) {part : String} (safe : safeName part = true) :
    Sys.Triple (Given setting.root start C fun files => P files ∧ Got setting.root parent files)
      (makeComponent setting uid gid mode parent part)
      (fun child => Given setting.root start C fun files => P files ∧ Got setting.root child files)
      (Given setting.root start C P) := by
  have lessen {fd : Fd} (world : World) (given : Given setting.root start C (fun files => P files ∧ Got setting.root fd files) world) :
      Given setting.root start C P world := given.mono (fun _ fits => fits) fun _ _ holds => holds.1
  have opens (child : Fd) (world : World) (given : Given setting.root start C
        (fun files => (P files ∧ Got setting.root parent files) ∧ Got setting.root child files) world) :
      Given setting.root start C (fun files => P files ∧ Got setting.root child files) world :=
    given.mono (fun _ fits => fits) fun _ _ holds => ⟨holds.1.1, holds.2⟩
  have makes := (mkdir_given trusted tame stable parent part mode).weaken
    (fun _ given => given) (fun _ _ given => given) lessen
  have opened := (orUnsafe_triple (openPart_given trusted tame parent stable safe)).weaken
    (fun _ given => given) opens lessen
  refine makes.bind fun _ => opened.bind fun child => ?_
  have changes (action : Action) (f : Attrs → Attrs) :=
    (setAttrs_directory trusted tame stable kept action child f).weaken
      (fun _ given => given) (fun _ _ given => given) lessen
  exact (changes _ _).bind fun _ => (changes _ _).bind fun _ => Sys.Triple.pure fun _ given => given

theorem makeComponents_given
    (uid gid mode : Nat) (opened : List Fd) (parent : Fd) {parts : List String} (safe : ∀ part ∈ parts, safeName part = true) :
    Sys.Triple (Given setting.root start C fun files => P files ∧ Got setting.root parent files)
      (makeComponents setting uid gid mode opened parent parts) (fun _ => Given setting.root start C P)
      (Given setting.root start C P) := by
  induction parts generalizing opened parent with
  | nil => exact Sys.Triple.pure fun _ given => given.mono (fun _ fits => fits) fun _ _ holds => holds.1
  | cons part rest ih =>
    have makes := makeComponent_given trusted tame stable kept uid gid mode parent (safe part List.mem_cons_self)
    refine (Sys.Triple.caught makes).bind fun result => ?_
    cases result with
    | error failure => exact Sys.Triple.pure fun _ holds => holds.2 failure rfl
    | ok child =>
      have further := ih (opened ++ [child]) child fun name member => safe name (List.mem_cons_of_mem _ member)
      exact further.weaken (fun _ holds => holds.1 child rfl) (fun _ _ given => given) fun _ given => given

theorem secureMkdirs_given (relative : String) (uid gid mode : Nat) :
    Sys.Triple (Given setting.root start C P) (secureMkdirs setting trustedRoot relative uid gid mode)
      (fun _ => Given setting.root start C P) (Given setting.root start C P) := by
  unfold secureMkdirs
  split
  · exact Sys.Triple.fail fun _ given => given
  · next noParent =>
    refine (openPath_given trusted tame stable rfl (List.prefix_refl _)).bind fun parent => ?_
    refine (makeComponents_given trusted tame stable kept uid gid mode [parent] parent fun part member =>
      pathParts_safe noParent member).bind fun ended => ?_
    obtain ⟨opened, ended⟩ := ended
    have closes : Sys.Triple (Given setting.root start C P) (Sys.each (close setting) opened)
        (fun _ => Given setting.root start C P) (Given setting.root start C P) :=
      Sys.Triple.each fun fd _ => close_given trusted.sound trusted.used tame stable fd
    refine closes.bind fun _ => ?_
    cases ended with
    | some failure => exact Sys.Triple.fail fun _ given => given
    | none => exact Sys.Triple.pure fun _ given => given

end

end

end

end

end

end Boron.SafeIO
