import Boron.Lib.Inodes

namespace Inodes
open List

section
variable {files left : Files} {root dir child inode : Nat} {name : String} {entry : Entry}

theorem lookup_some (safe : safeName name = true) (found : files.lookup dir name = some child) :
    ⟨dir, name, child⟩ ∈ files.entries := by
  unfold Files.lookup at found
  rw [if_pos safe] at found
  obtain ⟨entry, hit, rfl⟩ := Option.map_eq_some_iff.mp found
  have member := List.mem_of_find?_eq_some hit
  have named := List.find?_some hit
  rw [Bool.and_eq_true, decide_eq_true_eq, decide_eq_true_eq] at named
  rw [← named.1, ← named.2]
  exact member

theorem lookup_none (found : files.lookup dir name = none) :
    safeName name = true ∧ ∀ entry ∈ files.entries, entry.dir = dir → entry.name ≠ name := by
  unfold Files.lookup at found
  split at found
  · next safe =>
    refine ⟨safe, fun entry member own same => ?_⟩
    have none := List.find?_eq_none.mp (Option.map_eq_none_iff.mp found) entry member
    rw [own, same] at none
    simp at none
  · cases found

theorem parent_some {above : Nat} (found : files.parent dir = some above) :
    ∃ name, ⟨above, name, dir⟩ ∈ files.entries := by
  obtain ⟨entry, hit, rfl⟩ := Option.map_eq_some_iff.mp found
  have own : entry.child = dir := by simpa using List.find?_some hit
  rw [← own]
  exact ⟨entry.name, List.mem_of_find?_eq_some hit⟩

theorem parent_of_entry (sound : Sound files) (member : entry ∈ files.entries) (directory : files.kind entry.child = .directory) :
    files.parent entry.child = some entry.dir := by
  cases found : files.parent entry.child with
  | none =>
    have none := List.find?_eq_none.mp (Option.map_eq_none_iff.mp found) entry member
    simp at none
  | some above =>
    obtain ⟨other, hit⟩ := parent_some found
    have same := sound.single entry member _ hit directory rfl
    rw [same]

theorem below_of_climbs {fuel : Nat} {avoided : Option Nat} (directory : files.kind dir = .directory) (sound : Sound files)
    (climbs : files.climbs avoided root fuel dir = true) : Below files root dir := by
  induction fuel generalizing dir with
  | zero => cases climbs
  | succ fuel ih =>
    unfold Files.climbs at climbs
    split at climbs
    · cases climbs
    · split at climbs
      · next top =>
        rw [top]
        exact Relation.ReflTransGen.refl
      · split at climbs
        · next above found =>
          obtain ⟨name, member⟩ := parent_some found
          exact (ih (sound.dirs _ member) climbs).tail ⟨name, member, directory⟩
        · cases climbs

theorem avoids_of_climbs {fuel avoided : Nat} (sound : Sound files) (below : Below files root dir)
    (climbs : files.climbs (some avoided) 0 fuel dir = true) :
    Relation.ReflTransGen (fun above inner => Contains files above inner ∧ inner ≠ avoided) root dir ∧ dir ≠ avoided := by
  induction fuel generalizing dir with
  | zero => cases climbs
  | succ fuel ih =>
    unfold Files.climbs at climbs
    split at climbs
    · cases climbs
    · next other =>
      have apart : dir ≠ avoided := by
        intro same
        exact other (congrArg some same)
      refine ⟨?_, apart⟩
      rcases Relation.ReflTransGen.cases_tail below with rfl | ⟨above, further, name, member, directory⟩
      · exact Relation.ReflTransGen.refl
      · split at climbs
        · next top => exact absurd top (sound.top _ member)
        · rw [parent_of_entry sound member directory] at climbs
          exact (ih further climbs).1.tail ⟨⟨name, member, directory⟩, apart⟩

theorem within_below (sound : Sound files) (directory : files.kind dir = .directory) (within : files.within root dir = true) :
    Below files root dir := below_of_climbs directory sound within

theorem alive_of_climbs {fuel avoided : Nat} (climbs : files.climbs (some avoided) 0 fuel dir = true) : files.alive dir = true := by
  cases fuel with
  | zero => cases climbs
  | succ fuel =>
    unfold Files.climbs at climbs
    unfold Files.alive
    split at climbs
    · cases climbs
    · split at climbs
      · next top => simp [top]
      · split at climbs
        · next above found =>
          obtain ⟨name, member⟩ := parent_some found
          rw [Bool.or_eq_true]
          exact .inr (any_eq_true.mpr ⟨_, member, by simp⟩)
        · cases climbs

theorem Dead.not_alive (dead : Dead files dir) : files.alive dir = false := by
  unfold Files.alive
  rw [Bool.or_eq_false_iff, any_eq_false]
  refine ⟨decide_eq_false dead.top, fun entry member => ?_⟩
  simpa using dead.unnamed entry member

theorem Held.below_of_alive (held : Held files root dir) (alive : files.alive dir = true) : Below files root dir := by
  rcases held.below with below | dead
  · exact below
  · rw [dead.not_alive] at alive
    cases alive

theorem below_mono (kept : ∀ above inner, Contains files above inner → Contains left above inner)
    (below : Below files root dir) : Below left root dir := Relation.ReflTransGen.mono kept _ _ below

variable {kind : Kind} {attrs : Attrs}

section
variable (sound : Sound files)
include sound

theorem later_add (below : Below files root dir)
    (directory : files.kind dir = .directory) (used : dir < files.next) (alive : files.alive dir = true)
    (free : ∀ entry ∈ files.entries, entry.dir = dir → entry.name ≠ name) :
    Later root files (files.add dir name kind attrs) := by
  have old (inode : Nat) (small : inode < files.next) : (files.add dir name kind attrs).kind inode = files.kind inode :=
    Function.update_of_ne (Nat.ne_of_lt small) ..
  have split : ∀ entry ∈ (files.add dir name kind attrs).entries, entry ∈ files.entries ∨ entry = ⟨dir, name, files.next⟩ := by
    intro entry member
    rcases mem_append.mp member with before | last
    · exact .inl before
    · exact .inr (mem_singleton.mp last)
  have mono (above inner : Nat) (contains : Contains files above inner) :
      Contains (files.add dir name kind attrs) above inner := by
    obtain ⟨inside, member, isDir⟩ := contains
    exact ⟨inside, mem_append_left _ member, (old inner (sound.used _ member).2).trans isDir⟩
  have leaf (inode : Nat) (reached : Below (files.add dir name kind attrs) root inode) (small : root < files.next) :
      inode = files.next ∨ Below files root inode := by
    induction reached with
    | refl => exact .inr Relation.ReflTransGen.refl
    | @tail above inner _ contains ih =>
      obtain ⟨inside, member, isDir⟩ := contains
      rcases split _ member with before | new
      · right
        have usedAbove := (sound.used _ before).1
        rcases ih with fresh | reachable
        · exact absurd fresh (Nat.ne_of_lt usedAbove)
        · rw [old inner (sound.used _ before).2] at isDir
          exact reachable.tail ⟨inside, before, isDir⟩
      · left
        exact congrArg Entry.child new
  have rootUsed : root < files.next := by
    rcases Relation.ReflTransGen.cases_head below with rfl | ⟨inner, ⟨inside, member, -⟩, -⟩
    · exact used
    · exact (sound.used _ member).1
  exact {
    sound := {
      dirs := fun entry member => by
        rcases split entry member with before | rfl
        · rw [old _ (sound.used entry before).1]
          exact sound.dirs entry before
        · rw [old _ used]
          exact directory
      used := fun entry member => by
        rcases split entry member with before | rfl
        · obtain ⟨dirUsed, childUsed⟩ := sound.used entry before
          exact ⟨Nat.lt_succ_of_lt dirUsed, Nat.lt_succ_of_lt childUsed⟩
        · exact ⟨Nat.lt_succ_of_lt used, Nat.lt_succ_self _⟩
      named := fun entry member other member' same same' => by
        rcases split entry member with before | rfl
        · rcases split other member' with before' | rfl
          · exact sound.named entry before other before' same same'
          · exact absurd same' (free entry before same)
        · rcases split other member' with before' | rfl
          · exact absurd same'.symm (free other before' same.symm)
          · rfl
      single := fun entry member other member' isDir same => by
        rcases split entry member with before | rfl
        · rcases split other member' with before' | rfl
          · rw [old _ (sound.used entry before).2] at isDir
            exact sound.single entry before other before' isDir same
          · exact absurd same (Nat.ne_of_lt (sound.used entry before).2)
        · rcases split other member' with before' | rfl
          · exact absurd same.symm (Nat.ne_of_lt (sound.used other before').2)
          · rfl
      top := fun entry member => by
        rcases split entry member with before | rfl
        · exact sound.top entry before
        · exact Nat.ne_of_gt sound.root.2
      root := ⟨(old 0 sound.root.2).trans sound.root.1, Nat.lt_succ_of_lt sound.root.2⟩ }
    next := Nat.le_succ _
    kind := old
    keeps := fun entry member _ => mem_append_left _ member
    back := fun inode small reached => by
      rcases leaf inode reached rootUsed with fresh | reachable
      · exact absurd fresh (Nat.ne_of_lt small)
      · exact reachable
    forth := fun _ _ _ reachable => .inl (below_mono mono reachable)
    dead := fun other dead small => by
      refine ⟨(old other small).trans dead.directory, dead.top, fun entry member => ?_, fun entry member => ?_⟩
      · rcases split entry member with before | rfl
        · exact dead.unnamed entry before
        · exact fun same => absurd same.symm (Nat.ne_of_lt small)
      · rcases split entry member with before | rfl
        · exact dead.empty entry before
        · intro same
          change dir = other at same
          rw [same, dead.not_alive] at alive
          cases alive
    entries := fun entry member small => by
      rcases split entry member with before | rfl
      · exact .inl before
      · exact absurd small (Nat.lt_irrefl _)
    names := fun entry member small => by
      rcases split entry member with before | rfl
      · exact ⟨entry, before, rfl⟩
      · exact absurd small (Nat.lt_irrefl _) }

theorem later_link (below : Below files root dir) (directory : files.kind dir = .directory)
    (used : dir < files.next) (alive : files.alive dir = true) (plain : files.kind inode ≠ .directory) (known : inode < files.next)
    (named : ∃ entry ∈ files.entries, entry.child = inode)
    (free : ∀ entry ∈ files.entries, entry.dir = dir → entry.name ≠ name) :
    Later root files { files with entries := files.entries ++ [⟨dir, name, inode⟩] } := by
  have split : ∀ entry ∈ files.entries ++ [⟨dir, name, inode⟩], entry ∈ files.entries ∨ entry = ⟨dir, name, inode⟩ := by
    intro entry member
    rcases mem_append.mp member with before | last
    · exact .inl before
    · exact .inr (mem_singleton.mp last)
  have mono (above inner : Nat) (contains : Contains files above inner) :
      Contains { files with entries := files.entries ++ [⟨dir, name, inode⟩] } above inner := by
    obtain ⟨inside, member, isDir⟩ := contains
    exact ⟨inside, mem_append_left _ member, isDir⟩
  have back (above inner : Nat) (contains : Contains { files with entries := files.entries ++ [⟨dir, name, inode⟩] } above inner) :
      Contains files above inner := by
    obtain ⟨inside, member, isDir⟩ := contains
    rcases split _ member with before | new
    · exact ⟨inside, before, isDir⟩
    · have same : inner = inode := congrArg Entry.child new
      rw [same] at isDir
      exact absurd isDir plain
  exact {
    sound := {
      dirs := fun entry member => by
        rcases split entry member with before | rfl
        · exact sound.dirs entry before
        · exact directory
      used := fun entry member => by
        rcases split entry member with before | rfl
        · exact sound.used entry before
        · exact ⟨used, known⟩
      named := fun entry member other member' same same' => by
        rcases split entry member with before | rfl
        · rcases split other member' with before' | rfl
          · exact sound.named entry before other before' same same'
          · exact absurd same' (free entry before same)
        · rcases split other member' with before' | rfl
          · exact absurd same'.symm (free other before' same.symm)
          · rfl
      single := fun entry member other member' isDir same => by
        rcases split entry member with before | rfl
        · rcases split other member' with before' | rfl
          · exact sound.single entry before other before' isDir same
          · rw [same] at isDir
            exact absurd isDir plain
        · exact absurd isDir plain
      top := fun entry member => by
        rcases split entry member with before | rfl
        · exact sound.top entry before
        · intro same
          change inode = 0 at same
          rw [same] at plain
          exact plain sound.root.1
      root := sound.root }
    next := Nat.le_refl _
    kind := fun _ _ => rfl
    keeps := fun entry member _ => mem_append_left _ member
    back := fun _ _ reached => below_mono back reached
    forth := fun _ _ _ reachable => .inl (below_mono mono reachable)
    dead := fun other dead _ => by
      refine ⟨dead.directory, dead.top, fun entry member => ?_, fun entry member => ?_⟩
      · rcases split entry member with before | rfl
        · exact dead.unnamed entry before
        · intro same
          change inode = other at same
          rw [same] at plain
          exact plain dead.directory
      · rcases split entry member with before | rfl
        · exact dead.empty entry before
        · intro same
          change dir = other at same
          rw [same, dead.not_alive] at alive
          cases alive
    entries := fun entry member _ => by
      rcases split entry member with before | rfl
      · exact .inl before
      · exact .inr (below_mono mono below)
    names := fun entry member _ => by
      rcases split entry member with before | rfl
      · exact ⟨entry, before, rfl⟩
      · exact named }

theorem later_drop (member : entry ∈ files.entries) (below : Below files root entry.dir)
    (leaf : files.kind entry.child = .directory → ∀ other ∈ files.entries, other.dir ≠ entry.child) :
    Later root files (files.drop entry) := by
  have mem {other : Entry} : other ∈ (files.drop entry).entries ↔ other ∈ files.entries ∧ other ≠ entry := by
    unfold Files.drop
    rw [mem_filter, decide_eq_true_eq]
  have back (above inner : Nat) (contains : Contains (files.drop entry) above inner) : Contains files above inner := by
    obtain ⟨inside, other, isDir⟩ := contains
    exact ⟨inside, (mem.mp other).1, isDir⟩
  have gone (isDir : files.kind entry.child = .directory) : Dead (files.drop entry) entry.child := by
    refine ⟨isDir, sound.top entry member, fun other inside same => ?_, fun other inside same => ?_⟩
    · obtain ⟨before, different⟩ := mem.mp inside
      exact different (sound.single entry member other before isDir same.symm).symm
    · exact leaf isDir other (mem.mp inside).1 same
  have forth (dir : Nat) (reachable : Below files root dir) : Below (files.drop entry) root dir ∨ Dead (files.drop entry) dir := by
    induction reachable with
    | refl => exact .inl Relation.ReflTransGen.refl
    | @tail above inner _ contains ih =>
      obtain ⟨inside, hit, isDir⟩ := contains
      by_cases same : (⟨above, inside, inner⟩ : Entry) = entry
      · right
        have own : inner = entry.child := congrArg Entry.child same
        rw [own] at isDir ⊢
        exact gone isDir
      · have kept := mem.mpr ⟨hit, same⟩
        rcases ih with still | dead
        · exact .inl (still.tail ⟨inside, kept, isDir⟩)
        · exact absurd rfl (dead.not_dir kept)
  exact {
    sound := {
      dirs := fun other inside => sound.dirs other (mem.mp inside).1
      used := fun other inside => sound.used other (mem.mp inside).1
      named := fun first inFirst second inSecond => sound.named first (mem.mp inFirst).1 second (mem.mp inSecond).1
      single := fun first inFirst second inSecond => sound.single first (mem.mp inFirst).1 second (mem.mp inSecond).1
      top := fun other inside => sound.top other (mem.mp inside).1
      root := sound.root }
    next := Nat.le_refl _
    kind := fun _ _ => rfl
    keeps := fun other inside outside => mem.mpr ⟨inside, fun same => outside (same ▸ below)⟩
    back := fun _ _ reached => below_mono back reached
    forth := fun dir _ _ reachable => forth dir reachable
    dead := fun other dead _ => ⟨dead.directory, dead.top, fun entry inside => dead.unnamed entry (mem.mp inside).1,
      fun entry inside => dead.empty entry (mem.mp inside).1⟩
    entries := fun other inside _ => .inl (mem.mp inside).1
    names := fun other inside _ => ⟨other, (mem.mp inside).1, rfl⟩ }

theorem later_relocate {source target : Entry} (member : source ∈ files.entries)
    (same : target.child = source.child) (below : Below files root source.dir) (below' : Below files root target.dir)
    (directory : files.kind target.dir = .directory) (used : target.dir < files.next) (alive : files.alive target.dir = true)
    (free : ∀ entry ∈ files.entries, entry.dir = target.dir → entry.name ≠ target.name)
    (avoids : Relation.ReflTransGen (fun above inner => Contains files above inner ∧ inner ≠ source.child) root target.dir) :
    Later root files (files.relocate source target) := by
  have mem {other : Entry} : other ∈ (files.relocate source target).entries ↔
      (other ∈ files.entries ∧ other ≠ source) ∨ other = target := by
    unfold Files.relocate
    rw [mem_append, mem_filter, decide_eq_true_eq, mem_singleton]
  have kept (above inner : Nat) (contains : Contains files above inner) (other : inner ≠ source.child) :
      Contains (files.relocate source target) above inner := by
    obtain ⟨inside, hit, isDir⟩ := contains
    exact ⟨inside, mem.mpr (.inl ⟨hit, fun equal => other (congrArg Entry.child equal)⟩), isDir⟩
  have reached : Below (files.relocate source target) root target.dir :=
    Relation.ReflTransGen.mono (fun above inner both => kept above inner both.1 both.2) _ _ avoids
  have forth (dir : Nat) (reachable : Below files root dir) : Below (files.relocate source target) root dir := by
    induction reachable with
    | refl => exact Relation.ReflTransGen.refl
    | @tail above inner _ contains ih =>
      by_cases moved : inner = source.child
      · obtain ⟨inside, hit, isDir⟩ := contains
        refine reached.tail ⟨target.name, mem.mpr (.inr ?_), isDir⟩
        rw [moved, ← same]
      · exact ih.tail (kept above inner contains moved)
  have back (dir : Nat) (reachable : Below (files.relocate source target) root dir) : Below files root dir := by
    induction reachable with
    | refl => exact Relation.ReflTransGen.refl
    | @tail above inner _ contains ih =>
      obtain ⟨inside, hit, isDir⟩ := contains
      rcases mem.mp hit with ⟨before, -⟩ | new
      · exact ih.tail ⟨inside, before, isDir⟩
      · have own : inner = source.child := (congrArg Entry.child new).trans same
        rw [own] at isDir ⊢
        exact below.tail ⟨source.name, member, isDir⟩
  exact {
    sound := {
      dirs := fun entry inside => by
        rcases mem.mp inside with ⟨before, -⟩ | rfl
        · exact sound.dirs entry before
        · exact directory
      used := fun entry inside => by
        rcases mem.mp inside with ⟨before, -⟩ | rfl
        · exact sound.used entry before
        · rw [same]
          exact ⟨used, (sound.used source member).2⟩
      named := fun first inFirst second inSecond equal equal' => by
        rcases mem.mp inFirst with ⟨before, -⟩ | rfl
        · rcases mem.mp inSecond with ⟨before', -⟩ | rfl
          · exact sound.named first before second before' equal equal'
          · exact absurd equal' (free first before equal)
        · rcases mem.mp inSecond with ⟨before', -⟩ | rfl
          · exact absurd equal'.symm (free second before' equal.symm)
          · rfl
      single := fun first inFirst second inSecond isDir equal => by
        rcases mem.mp inFirst with ⟨before, other⟩ | rfl
        · rcases mem.mp inSecond with ⟨before', -⟩ | rfl
          · exact sound.single first before second before' isDir equal
          · exact absurd (sound.single first before source member isDir (equal.trans same)) other
        · rcases mem.mp inSecond with ⟨before', other⟩ | rfl
          · have isDir' : files.kind second.child = .directory := equal ▸ isDir
            exact absurd (sound.single second before' source member isDir' (equal.symm.trans same)) other
          · rfl
      top := fun entry inside => by
        rcases mem.mp inside with ⟨before, -⟩ | rfl
        · exact sound.top entry before
        · rw [same]
          exact sound.top source member
      root := sound.root }
    next := Nat.le_refl _
    kind := fun _ _ => rfl
    keeps := fun other inside outside => mem.mpr (.inl ⟨inside, fun equal => outside (equal ▸ below)⟩)
    back := fun dir _ reachable => back dir reachable
    forth := fun dir _ _ reachable => .inl (forth dir reachable)
    dead := fun other dead _ => by
      refine ⟨dead.directory, dead.top, fun entry inside => ?_, fun entry inside => ?_⟩
      · rcases mem.mp inside with ⟨before, -⟩ | rfl
        · exact dead.unnamed entry before
        · rw [same]
          exact dead.unnamed source member
      · rcases mem.mp inside with ⟨before, -⟩ | rfl
        · exact dead.empty entry before
        · intro equal
          rw [equal, dead.not_alive] at alive
          cases alive
    entries := fun entry inside _ => by
      rcases mem.mp inside with ⟨before, -⟩ | rfl
      · exact .inl before
      · exact .inr reached
    names := fun entry inside _ => by
      rcases mem.mp inside with ⟨before, -⟩ | rfl
      · exact ⟨entry, before, rfl⟩
      · exact ⟨source, member, same.symm⟩ }

theorem used_of_below (small : root < files.next) (below : Below files root dir) : dir < files.next := by
  rcases Relation.ReflTransGen.cases_tail below with rfl | ⟨above, -, name, member, -⟩
  · exact small
  · exact (sound.used _ member).2

end

theorem isEmpty_leaf (empty : files.isEmpty dir = true) : ∀ other ∈ files.entries, other.dir ≠ dir := by
  intro other member
  have all := all_eq_true.mp empty other member
  simpa using all

theorem make_some (made : files.make dir name kind attrs = .ok left) :
    left = files.add dir name kind attrs ∧ files.alive dir = true ∧ files.kind dir = .directory ∧ safeName name = true ∧
      ∀ entry ∈ files.entries, entry.dir = dir → entry.name ≠ name := by
  unfold Files.make at made
  split at made
  · cases made
  · next absent =>
    split at made
    · next open_ =>
      rw [Bool.and_eq_true, decide_eq_true_eq] at open_
      cases found : files.lookup dir name with
      | some child =>
        rw [found] at absent
        exact absurd rfl absent
      | none =>
        obtain ⟨safe, free⟩ := lookup_none found
        cases made
        exact ⟨rfl, open_.1, open_.2, safe, free⟩
    · cases made

theorem make_later (sound : Sound files) (small : root < files.next)
    (below : files.alive dir = true → files.kind dir = .directory → Below files root dir)
    (made : files.make dir name kind attrs = .ok left) : Later root files left := by
  obtain ⟨rfl, alive, directory, -, free⟩ := make_some made
  have reached := below alive directory
  exact later_add sound reached directory (used_of_below sound small reached) alive free

theorem link_later (sound : Sound files) (small : root < files.next)
    (below : files.kind dir = .directory → Below files root dir) (linked : files.link inode dir name = .ok left) :
    Later root files left := by
  unfold Files.link at linked
  split at linked
  · cases linked
  · next absent =>
    split at linked
    · next fits =>
      simp only [Bool.and_eq_true, decide_eq_true_eq] at fits
      obtain ⟨⟨⟨⟨alive, directory⟩, plain⟩, known⟩, several⟩ := fits
      have named : ∃ entry ∈ files.entries, entry.child = inode := by
        obtain ⟨entry, member, own⟩ := countP_pos_iff.mp several
        exact ⟨entry, member, of_decide_eq_true own⟩
      cases found : files.lookup dir name with
      | some child =>
        rw [found] at absent
        exact absurd rfl absent
      | none =>
        cases linked
        exact later_link sound (below directory) directory (used_of_below sound small (below directory)) alive plain known
          named (lookup_none found).2
    · cases linked

theorem drop_absent (absent : entry ∉ files.entries) : files.drop entry = files := by
  unfold Files.drop
  have same : files.entries.filter (· ≠ entry) = files.entries := by
    rw [filter_eq_self]
    intro other member
    refine decide_eq_true fun equal => absent ?_
    rw [← equal]
    exact member
  rw [same]

variable {directories : Bool}

theorem unlink_later (sound : Sound files) (below : ∀ entry ∈ files.entries, entry.dir = dir → Below files root dir)
    (unlinked : files.unlink directories dir name = .ok left) : Later root files left := by
  have dropped {child : Nat} (leaf : files.kind child = .directory → ∀ other ∈ files.entries, other.dir ≠ child) :
      Later root files (files.drop ⟨dir, name, child⟩) := by
    by_cases member : (⟨dir, name, child⟩ : Entry) ∈ files.entries
    · exact later_drop sound member (below _ member rfl) leaf
    · rw [drop_absent member]
      exact Later.refl sound
  unfold Files.unlink at unlinked
  split at unlinked
  · cases unlinked
  · next child found =>
    split at unlinked
    · split at unlinked
      · next both =>
        rw [Bool.and_eq_true] at both
        cases unlinked
        exact dropped fun _ => isEmpty_leaf both.2
      · cases unlinked
    · next plain =>
      cases unlinked
      exact dropped fun isDir => absurd isDir plain

theorem vacate_later (sound : Sound files)
    (below : ∀ entry ∈ files.entries, entry.dir = dir → Below files root dir) (safe : safeName name = true)
    (vacated : files.vacate kind dir name = .ok left) :
    Later root files left ∧ left.kind = files.kind ∧ left.next = files.next ∧
      (∀ entry ∈ left.entries, entry ∈ files.entries ∧ (entry.dir = dir → entry.name ≠ name)) ∧
        ∀ entry ∈ files.entries, some entry.child ≠ files.lookup dir name → entry ∈ left.entries := by
  have dropped {child : Nat} (found : files.lookup dir name = some child)
      (leaf : files.kind child = .directory → ∀ other ∈ files.entries, other.dir ≠ child) :
      Later root files (files.drop ⟨dir, name, child⟩) ∧
        (∀ entry ∈ (files.drop ⟨dir, name, child⟩).entries, entry ∈ files.entries ∧ (entry.dir = dir → entry.name ≠ name)) ∧
          ∀ entry ∈ files.entries, some entry.child ≠ files.lookup dir name →
            entry ∈ (files.drop ⟨dir, name, child⟩).entries := by
    have member := lookup_some safe found
    refine ⟨later_drop sound member (below _ member rfl) leaf, fun entry inside => ?_, fun entry inside other => ?_⟩
    · obtain ⟨before, different⟩ := mem_filter.mp inside
      rw [decide_eq_true_eq] at different
      exact ⟨before, fun own same => different (sound.named entry before _ member own same)⟩
    · refine mem_filter.mpr ⟨inside, decide_eq_true fun equal => other ?_⟩
      rw [found, equal]
  unfold Files.vacate at vacated
  split at vacated
  · next found =>
    cases vacated
    exact ⟨Later.refl sound, rfl, rfl, fun entry inside => ⟨inside, (lookup_none found).2 entry inside⟩, fun entry inside _ => inside⟩
  · next child found =>
    split at vacated
    · split at vacated
      · cases vacated
      · split at vacated
        · next empty =>
          cases vacated
          obtain ⟨later, free, others⟩ := dropped found fun _ => isEmpty_leaf empty
          exact ⟨later, rfl, rfl, free, others⟩
        · cases vacated
    · next plain =>
      split at vacated
      · cases vacated
      · cases vacated
        obtain ⟨later, free, others⟩ := dropped found fun isDir => absurd isDir plain
        exact ⟨later, rfl, rfl, free, others⟩

theorem rename_later {newDir : Nat} {newName : String} (sound : Sound files)
    (below : ∀ entry ∈ files.entries, entry.dir = dir → Below files root dir) (small : root < files.next)
    (below' : files.kind newDir = .directory → files.alive newDir = true ∨ (∃ entry ∈ files.entries, entry.dir = newDir) →
      Below files root newDir)
    (renamed : files.rename dir name newDir newName = .ok left) : Later root files left := by
  unfold Files.rename at renamed
  split at renamed
  · cases renamed
  · next child found =>
    split at renamed
    · cases renamed
      exact Later.refl sound
    · next other =>
      split at renamed
      · cases renamed
      · next vacated vacates =>
        split at renamed
        · next passes =>
          simp only [Bool.and_eq_true, decide_eq_true_eq] at passes
          obtain ⟨⟨⟨climbs, directory⟩, safe⟩, safe'⟩ := passes
          cases renamed
          have inDir : ∀ entry ∈ files.entries, entry.dir = newDir → Below files root newDir := by
            intro entry member own
            exact below' directory (.inr ⟨entry, member, own⟩)
          obtain ⟨later, kinds, next, free, others⟩ := vacate_later sound inDir safe' vacates
          have member := lookup_some safe found
          have still : (⟨dir, name, child⟩ : Entry) ∈ vacated.entries := others _ member fun same => other same.symm
          have alive := alive_of_climbs climbs
          have aliveBefore : files.alive newDir = true := by
            unfold Files.alive at alive ⊢
            rw [Bool.or_eq_true] at alive ⊢
            rcases alive with top | named
            · exact .inl top
            · obtain ⟨entry, inside, own⟩ := any_eq_true.mp named
              exact .inr (any_eq_true.mpr ⟨entry, (free entry inside).1, own⟩)
          have newBelow := below' directory (.inl aliveBefore)
          have used := used_of_below sound small newBelow
          have reached : Below vacated root newDir := by
            rcases later.forth newDir directory used newBelow with still | dead
            · exact still
            · rw [dead.not_alive] at alive
              cases alive
          have source : Below vacated root dir := by
            have dirUsed := (sound.used _ member).1
            rcases later.forth dir (sound.dirs _ member) dirUsed (below _ member rfl) with still | dead
            · exact still
            · exact absurd rfl (dead.not_dir still)
          have moved : Later root vacated (vacated.relocate ⟨dir, name, child⟩ ⟨newDir, newName, child⟩) := by
            refine later_relocate later.sound still rfl source reached ?_ ?_ alive (fun entry inside => (free entry inside).2)
              (avoids_of_climbs later.sound reached climbs).1
            · rw [kinds]
              exact directory
            · rw [next]
              exact used
          exact later.trans sound moved
        · cases renamed

theorem unlink_attrs (unlinked : files.unlink directories dir name = .ok left) :
    left.attrs = files.attrs ∧ left.next = files.next := by
  unfold Files.unlink at unlinked
  split at unlinked
  · cases unlinked
  · split at unlinked
    · split at unlinked
      · cases unlinked
        exact ⟨rfl, rfl⟩
      · cases unlinked
    · cases unlinked
      exact ⟨rfl, rfl⟩

theorem vacate_attrs (vacated : files.vacate kind dir name = .ok left) : left.attrs = files.attrs := by
  unfold Files.vacate at vacated
  split at vacated
  · cases vacated
    rfl
  · split at vacated
    · split at vacated
      · cases vacated
      · split at vacated
        · cases vacated
          rfl
        · cases vacated
    · split at vacated
      · cases vacated
      · cases vacated
        rfl

theorem rename_attrs {newDir : Nat} {newName : String} (renamed : files.rename dir name newDir newName = .ok left) :
    left.attrs = files.attrs := by
  unfold Files.rename at renamed
  split at renamed
  · cases renamed
  · split at renamed
    · cases renamed
      rfl
    · split at renamed
      · cases renamed
      · next vacated vacates =>
        split at renamed
        · cases renamed
          have same : vacated.attrs = files.attrs := vacate_attrs vacates
          exact same
        · cases renamed

/-- What `unlink` takes away. -/
theorem unlink_kept (unlinked : files.unlink directories dir name = .ok left) :
    ∀ other ∈ files.entries, other.name ≠ name → other ∈ left.entries := by
  have kept {child : Nat} {other : Entry} (member : other ∈ files.entries) (different : other.name ≠ name) :
      other ∈ (files.drop ⟨dir, name, child⟩).entries := by
    refine mem_filter.mpr ⟨member, decide_eq_true fun same => different ?_⟩
    rw [same]
  intro other member different
  unfold Files.unlink at unlinked
  split at unlinked
  · cases unlinked
  · split at unlinked
    · split at unlinked
      · cases unlinked
        exact kept member different
      · cases unlinked
    · cases unlinked
      exact kept member different

/-- The name is gone. -/
theorem unlink_gone (sound : Sound files) (safe : safeName name = true)
    (unlinked : files.unlink directories dir name = .ok left) :
    ∀ other ∈ left.entries, other ∈ files.entries ∧ ¬ (other.dir = dir ∧ other.name = name) := by
  have dropped {child : Nat} (found : files.lookup dir name = some child) {other : Entry}
      (member : other ∈ (files.drop ⟨dir, name, child⟩).entries) :
      other ∈ files.entries ∧ ¬ (other.dir = dir ∧ other.name = name) := by
    obtain ⟨inside, different⟩ := mem_filter.mp member
    rw [decide_eq_true_eq] at different
    exact ⟨inside, fun there => different (sound.named _ inside _ (lookup_some safe found) there.1 there.2)⟩
  intro other member
  unfold Files.unlink at unlinked
  split at unlinked
  · cases unlinked
  · next child found =>
    split at unlinked
    · split at unlinked
      · cases unlinked
        exact dropped found member
      · cases unlinked
    · cases unlinked
      exact dropped found member

theorem inside_of_links (one : files.links inode = 1) (member : entry ∈ files.entries) (own : entry.child = inode)
    (below : Below files root entry.dir) : Inside files root inode := by
  intro other inside same
  unfold Files.links at one
  rw [countP_eq_length_filter] at one
  obtain ⟨single, only⟩ := length_eq_one_iff.mp one
  have first : entry ∈ files.entries.filter fun entry => entry.child = inode :=
    mem_filter.mpr ⟨member, decide_eq_true own⟩
  have second : other ∈ files.entries.filter fun entry => entry.child = inode :=
    mem_filter.mpr ⟨inside, decide_eq_true same⟩
  rw [only, mem_singleton] at first second
  rw [second, ← first]
  exact below

theorem settle_later (sound : Sound files) {result : Except Errno Files}
    (later : ∀ left, result = .ok left → Later root files left) : Later root files (settle files result) := by
  cases result with
  | ok left => exact later left rfl
  | error _ => exact Later.refl sound

theorem move_later (sound : Sound files) (small : root < files.next) (move : Move) :
    Later root files (files.move root move) := by
  have inside {dir : Nat} (within : files.within root dir = true) : ∀ entry ∈ files.entries, entry.dir = dir →
      Below files root dir := by
    intro entry member own
    have directory := sound.dirs entry member
    rw [own] at directory
    exact within_below sound directory within
  cases move with
  | create dir name kind attrs =>
    unfold Files.move
    dsimp only
    split
    · next within =>
      exact settle_later sound fun left made =>
        make_later sound small (fun _ directory => within_below sound directory within) made
    · exact Later.refl sound
  | link inode dir name =>
    unfold Files.move
    dsimp only
    split
    · next within =>
      exact settle_later sound fun left linked =>
        link_later sound small (fun directory => within_below sound directory within) linked
    · exact Later.refl sound
  | unlink dir name =>
    unfold Files.move
    dsimp only
    split
    · next within => exact settle_later sound fun left unlinked => unlink_later sound (inside within) unlinked
    · exact Later.refl sound
  | rename dir name newDir newName =>
    unfold Files.move
    dsimp only
    split
    · next both =>
      rw [Bool.and_eq_true] at both
      exact settle_later sound fun left renamed =>
        rename_later sound (inside both.1) small (fun directory _ => within_below sound directory both.2) renamed
    · exact Later.refl sound

theorem moves_later (sound : Sound files) (small : root < files.next) (moves : List Move) :
    Later root files (moves.foldl (Files.move root) files) := by
  induction moves generalizing files with
  | nil => exact Later.refl sound
  | cons move moves ih =>
    have first := move_later sound small move
    exact first.trans sound (ih first.sound (Nat.lt_of_lt_of_le small first.next))

theorem attrs_later (sound : Sound files) (inode : Nat) (f : Attrs → Attrs) : Later root files (files.setAttrs inode f) :=
  have same : Later root files files := Later.refl sound
  ⟨⟨sound.dirs, sound.used, sound.named, sound.single, sound.top, sound.root⟩, same.next, same.kind, same.keeps, same.back,
    fun _ _ _ below => .inl below, fun _ dead _ => ⟨dead.directory, dead.top, dead.unnamed, dead.empty⟩, same.entries,
    same.names⟩

theorem Held.setAttrs (held : Held files root dir) (inode : Nat) (f : Attrs → Attrs) :
    Held (files.setAttrs inode f) root dir := by
  refine ⟨held.directory, held.used, ?_⟩
  rcases held.below with below | dead
  · exact .inl below
  · exact .inr ⟨dead.directory, dead.top, dead.unnamed, dead.empty⟩

end

end Inodes
