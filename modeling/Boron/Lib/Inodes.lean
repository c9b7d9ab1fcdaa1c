import Mathlib.Logic.Relation
import Mathlib.Data.List.Nodup

namespace Inodes

inductive Kind
  | directory
  | regular
  | symlink
  | special
  deriving DecidableEq

structure Entry where
  dir : Nat
  name : String
  child : Nat
  deriving DecidableEq

structure Attrs where
  uid : Nat
  gid : Nat
  mode : Nat
  data : List UInt8
  deriving DecidableEq

/-- Inode 0 is the root; those from `next` on are not in use. -/
structure Files where
  entries : List Entry
  kind : Nat → Kind
  attrs : Nat → Attrs
  next : Nat

inductive Errno
  | noEntry
  | exists
  | loop
  | notDirectory
  | isDirectory
  | notEmpty
  | invalid
  | io
  deriving DecidableEq

def Contains (files : Files) (dir child : Nat) : Prop :=
  ∃ name, ⟨dir, name, child⟩ ∈ files.entries ∧ files.kind child = .directory

/-- Reached from the first through real directories only. -/
def Below (files : Files) : Nat → Nat → Prop := Relation.ReflTransGen (Contains files)

structure Sound (files : Files) : Prop where
  dirs : ∀ entry ∈ files.entries, files.kind entry.dir = .directory
  used : ∀ entry ∈ files.entries, entry.dir < files.next ∧ entry.child < files.next
  named : ∀ entry ∈ files.entries, ∀ other ∈ files.entries, entry.dir = other.dir → entry.name = other.name → entry = other
  single : ∀ entry ∈ files.entries, ∀ other ∈ files.entries, files.kind entry.child = .directory →
    entry.child = other.child → entry = other
  top : ∀ entry ∈ files.entries, entry.child ≠ 0
  root : files.kind 0 = .directory ∧ 0 < files.next

/-- A directory that was removed while it was open. -/
structure Dead (files : Files) (dir : Nat) : Prop where
  directory : files.kind dir = .directory
  top : dir ≠ 0
  unnamed : ∀ entry ∈ files.entries, entry.child ≠ dir
  empty : ∀ entry ∈ files.entries, entry.dir ≠ dir

structure Held (files : Files) (root dir : Nat) : Prop where
  directory : files.kind dir = .directory
  used : dir < files.next
  below : Below files root dir ∨ Dead files dir

def Inside (files : Files) (root inode : Nat) : Prop :=
  ∀ entry ∈ files.entries, entry.child = inode → Below files root entry.dir

/-- A path that leads to the root of a tree through directories outside of it. -/
def Anchored (files : Files) (root : Nat) : List String → Nat → Prop
  | [], dir => dir = root
  | name :: rest, dir => ¬ Below files root dir ∧
      ∃ child, ⟨dir, name, child⟩ ∈ files.entries ∧ files.kind child = .directory ∧ Anchored files root rest child

/-- What one file system is to an earlier one, when only the inside of a tree has changed. -/
structure Later (root : Nat) (files left : Files) : Prop where
  sound : Sound left
  next : files.next ≤ left.next
  kind : ∀ inode, inode < files.next → left.kind inode = files.kind inode
  keeps : ∀ entry ∈ files.entries, ¬ Below files root entry.dir → entry ∈ left.entries
  back : ∀ inode, inode < files.next → Below left root inode → Below files root inode
  forth : ∀ dir, files.kind dir = .directory → dir < files.next → Below files root dir →
    Below left root dir ∨ Dead left dir
  dead : ∀ dir, Dead files dir → dir < files.next → Dead left dir
  entries : ∀ entry ∈ left.entries, entry.child < files.next → entry ∈ files.entries ∨ Below left root entry.dir
  names : ∀ entry ∈ left.entries, entry.child < files.next → ∃ old ∈ files.entries, old.child = entry.child

section
variable {files mid left : Files} {root dir inode : Nat} {entry : Entry}

theorem Later.refl (sound : Sound files) : Later root files files where
  sound := sound
  next := Nat.le_refl _
  kind _ _ := rfl
  keeps _ member _ := member
  back _ _ below := below
  forth _ _ _ below := .inl below
  dead _ dead _ := dead
  entries _ member _ := .inl member
  names entry member _ := ⟨entry, member, rfl⟩

theorem Dead.not_dir (dead : Dead files dir) (member : entry ∈ files.entries) : entry.dir ≠ dir := dead.empty entry member

theorem Later.trans (sound : Sound files) (first : Later root files mid) (second : Later root mid left) :
    Later root files left where
  sound := second.sound
  next := Nat.le_trans first.next second.next
  kind inode used := (second.kind inode (Nat.lt_of_lt_of_le used first.next)).trans (first.kind inode used)
  keeps entry member outside := by
    have kept := first.keeps entry member outside
    refine second.keeps entry kept fun below => outside ?_
    exact first.back entry.dir (sound.used entry member).1 below
  back inode used below := first.back inode used (second.back inode (Nat.lt_of_lt_of_le used first.next) below)
  forth dir directory used below := by
    have used' := Nat.lt_of_lt_of_le used first.next
    rcases first.forth dir directory used below with still | dead
    · exact second.forth dir ((first.kind dir used).trans directory) used' still
    · exact .inr (second.dead dir dead used')
  dead dir dead used := second.dead dir (first.dead dir dead used) (Nat.lt_of_lt_of_le used first.next)
  entries entry member used := by
    rcases second.entries entry member (Nat.lt_of_lt_of_le used first.next) with before | below
    · rcases first.entries entry before used with old | below
      · exact .inl old
      · have directory := first.sound.dirs entry before
        rcases second.forth entry.dir directory (first.sound.used entry before).1 below with still | dead
        · exact .inr still
        · exact absurd rfl (dead.not_dir member)
    · exact .inr below
  names entry member used := by
    obtain ⟨between, known, same⟩ := second.names entry member (Nat.lt_of_lt_of_le used first.next)
    rw [← same] at used ⊢
    exact first.names between known used

theorem Held.later (held : Held files root dir) (later : Later root files left) : Held left root dir := by
  refine ⟨(later.kind dir held.used).trans held.directory, Nat.lt_of_lt_of_le held.used later.next, ?_⟩
  rcases held.below with below | dead
  · exact later.forth dir held.directory held.used below
  · exact .inr (later.dead dir dead held.used)

/-- An inode without a name gets none. -/
def Nameless (files : Files) (inode : Nat) : Prop := ∀ entry ∈ files.entries, entry.child ≠ inode

theorem Nameless.later (nameless : Nameless files inode) (used : inode < files.next) (later : Later root files left) :
    Nameless left inode := by
  intro entry member same
  obtain ⟨old, known, own⟩ := later.names entry member (same ▸ used)
  exact nameless old known (own.trans same)

theorem Inside.later (inside : Inside files root inode) (sound : Sound files) (used : inode < files.next)
    (later : Later root files left) : Inside left root inode := by
  intro entry member same
  rcases later.entries entry member (same ▸ used) with old | below
  · rcases later.forth entry.dir (sound.dirs entry old) (sound.used entry old).1 (inside entry old same) with still | dead
    · exact still
    · exact absurd rfl (dead.not_dir member)
  · exact below

theorem Anchored.later (sound : Sound files) (later : Later root files left) {path : List String}
    (anchored : Anchored files root path dir) : Anchored left root path dir := by
  induction path generalizing dir with
  | nil => exact anchored
  | cons name rest ih =>
    obtain ⟨outside, child, member, directory, further⟩ := anchored
    obtain ⟨dirUsed, childUsed⟩ := sound.used _ member
    exact ⟨fun below => outside (later.back dir dirUsed below), child, later.keeps _ member outside,
      (later.kind child childUsed).trans directory, ih further⟩

/-- A directory with a name in it is not removed. -/
theorem Held.below_of_entry (held : Held files root dir) (member : entry ∈ files.entries) (own : entry.dir = dir) :
    Below files root dir := by
  rcases held.below with below | dead
  · exact below
  · exact absurd own (dead.not_dir member)

theorem Held.child (held : Held files root dir) (sound : Sound files) {name : String} {child : Nat}
    (member : ⟨dir, name, child⟩ ∈ files.entries) (directory : files.kind child = .directory) : Held files root child :=
  ⟨directory, (sound.used _ member).2, .inl ((held.below_of_entry member rfl).tail ⟨name, member, directory⟩)⟩

end

def safeName (name : String) : Bool := name ≠ "" && !name.toList.contains '/' && name ≠ "." && name ≠ ".."

namespace Files
variable (files : Files)

/-- A name that is not one component leads anywhere: here to the root. -/
def lookup (dir : Nat) (name : String) : Option Nat :=
  if safeName name then (files.entries.find? fun entry => entry.dir = dir && entry.name = name).map Entry.child else some 0

def parent (dir : Nat) : Option Nat := (files.entries.find? fun entry => entry.child = dir).map Entry.dir

/-- The way up from a directory meets `top`, and does not meet `avoided` before. -/
def climbs (avoided : Option Nat) (top : Nat) : Nat → Nat → Bool
  | 0, _ => false
  | fuel + 1, dir =>
    if some dir = avoided then false
    else if dir = top then true
    else match files.parent dir with
      | some above => climbs avoided top fuel above
      | none => false

def within (root dir : Nat) : Bool := files.climbs none root (files.entries.length + 1) dir

def alive (dir : Nat) : Bool := dir = 0 || files.entries.any fun entry => entry.child = dir

def isEmpty (dir : Nat) : Bool := files.entries.all fun entry => entry.dir ≠ dir

def links (inode : Nat) : Nat := files.entries.countP fun entry => entry.child = inode

/-- A new inode under a new name. -/
def add (dir : Nat) (name : String) (kind : Kind) (attrs : Attrs) : Files where
  entries := files.entries ++ [⟨dir, name, files.next⟩]
  kind := Function.update files.kind files.next kind
  attrs := Function.update files.attrs files.next attrs
  next := files.next + 1

def make (dir : Nat) (name : String) (kind : Kind) (attrs : Attrs) : Except Errno Files :=
  if (files.lookup dir name).isSome then .error .exists
  else if files.alive dir && decide (files.kind dir = .directory) then .ok (files.add dir name kind attrs)
  else .error .noEntry

def link (inode dir : Nat) (name : String) : Except Errno Files :=
  if (files.lookup dir name).isSome then .error .exists
  else if files.alive dir && decide (files.kind dir = .directory) && decide (files.kind inode ≠ .directory) &&
      decide (inode < files.next) && decide (0 < files.links inode) then
    .ok { files with entries := files.entries ++ [⟨dir, name, inode⟩] }
  else .error .noEntry

def drop (entry : Entry) : Files := { files with entries := files.entries.filter (· ≠ entry) }

/-- `unlinkat`, and with `directories` also `rmdir`. -/
def unlink (directories : Bool) (dir : Nat) (name : String) : Except Errno Files :=
  match files.lookup dir name with
  | none => .error .noEntry
  | some child =>
    if files.kind child = .directory then
      if directories && files.isEmpty child then .ok (files.drop ⟨dir, name, child⟩) else .error .isDirectory
    else .ok (files.drop ⟨dir, name, child⟩)

def vacate (kind : Kind) (dir : Nat) (name : String) : Except Errno Files :=
  match files.lookup dir name with
  | none => .ok files
  | some child =>
    if files.kind child = .directory then
      if kind ≠ .directory then .error .isDirectory
      else if files.isEmpty child then .ok (files.drop ⟨dir, name, child⟩)
      else .error .notEmpty
    else if kind = .directory then .error .notDirectory
    else .ok (files.drop ⟨dir, name, child⟩)

def relocate (source target : Entry) : Files :=
  { files with entries := files.entries.filter (· ≠ source) ++ [target] }

/-- `renameat`. A directory is not moved into itself. -/
def rename (dir : Nat) (name : String) (newDir : Nat) (newName : String) : Except Errno Files :=
  match files.lookup dir name with
  | none => .error .noEntry
  | some child =>
    if files.lookup newDir newName = some child then .ok files
    else match files.vacate (files.kind child) newDir newName with
      | .error error => .error error
      | .ok vacated =>
        if vacated.climbs (some child) 0 (vacated.entries.length + 1) newDir &&
            decide (files.kind newDir = .directory) && safeName name && safeName newName then
          .ok (vacated.relocate ⟨dir, name, child⟩ ⟨newDir, newName, child⟩)
        else .error .invalid

def setAttrs (inode : Nat) (f : Attrs → Attrs) : Files :=
  { files with attrs := Function.update files.attrs inode (f (files.attrs inode)) }

end Files

/-- A change of the names below the root of a tree. -/
inductive Move
  | create (dir : Nat) (name : String) (kind : Kind) (attrs : Attrs)
  | link (inode dir : Nat) (name : String)
  | unlink (dir : Nat) (name : String)
  | rename (dir : Nat) (name : String) (newDir : Nat) (newName : String)

/-- What the result leaves, if it leaves anything. -/
def settle (files : Files) : Except Errno Files → Files
  | .ok left => left
  | .error _ => files

def Files.move (root : Nat) (files : Files) : Move → Files
  | .create dir name kind attrs => if files.within root dir then settle files (files.make dir name kind attrs) else files
  | .link inode dir name => if files.within root dir then settle files (files.link inode dir name) else files
  | .unlink dir name => if files.within root dir then settle files (files.unlink true dir name) else files
  | .rename dir name newDir newName =>
    if files.within root dir && files.within root newDir then settle files (files.rename dir name newDir newName) else files

end Inodes
