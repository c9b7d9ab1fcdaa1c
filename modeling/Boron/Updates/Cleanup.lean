import Boron.Updates.Jobs
import Boron.Lib.Ranking

namespace Boron.Updates

/-- A row of `update_jobs` with the column that only a manual rollback reads. -/
structure HistoryRow extends UpdateJob where
  rolledBack : Bool

/-- What `listdir` and `stat` say about an entry of the versions root; a time
that cannot be read is `none`. -/
structure RootEntry where
  name : String
  isLink : Bool
  isDir : Bool
  mtime : Option Int

/-- The versions root and the live link, which points nowhere while the live
directory is a plain one. -/
structure Disk where
  entries : List RootEntry
  live : Option String
  isDir : String → Bool

/-- `os.path.realpath`, the digits of a regular expression and the settings;
times are in microseconds. -/
structure Cleaner where
  realpath : String → String
  isDecimal : Char → Bool
  versionsRoot : String
  keepOldDays : Int

variable (cleaner : Cleaner)

def day : Int := 86400000000

/-- `\d+` up to the end of a part -/
def isNumber (part : List Char) : Bool := part ≠ [] && part.all cleaner.isDecimal

/-- `_VERSION_DIR_RE`; its `$` also stands before a last line feed. -/
def isVersionDir (name : String) : Bool :=
  let text := if name.toList.getLast? = some '\n' then name.toList.dropLast else name.toList
  "boron-".toList.isPrefixOf text && match (text.drop 6).splitOn '.' with
    | [major, minor, patch] => isNumber cleaner major && isNumber cleaner minor && isNumber cleaner patch
    | _ => false

/-- `ORDER BY id DESC LIMIT n` -/
def newestRows (n : Nat) (rows : List HistoryRow) : List HistoryRow :=
  (rows.insertionSort fun a b => b.id ≤ a.id).take n

/-- The directories of a job, but for empty ones. -/
def HistoryRow.dirs (row : HistoryRow) : List String := (row.oldDir.toList ++ row.newDir.toList).filter (· ≠ "")

/-- The jobs whose directories are protected: of the last twenty that have ended
those that ended after the cutoff. -/
def protecting (utcnow : Int) (rows : List HistoryRow) : List HistoryRow :=
  (newestRows 20 (rows.filter fun row => row.completedAt.isSome)).filter fun row =>
    row.completedAt.any fun completed => utcnow - cleaner.keepOldDays * day ≤ completed

def protectedDirs (utcnow : Int) (rows : List HistoryRow) : List String :=
  (protecting cleaner utcnow rows).flatMap fun row => row.dirs.map cleaner.realpath

def RootEntry.path (entry : RootEntry) : String := cleaner.versionsRoot ++ "/" ++ entry.name

def isPruned (now utcnow : Int) (rows : List HistoryRow) (disk : Disk) (entry : RootEntry) : Bool :=
  let real := cleaner.realpath (entry.path cleaner)
  isVersionDir cleaner entry.name && !entry.isLink && entry.isDir &&
    !(disk.live = some real || real ∈ protectedDirs cleaner utcnow rows) &&
    entry.mtime.any fun mtime => mtime ≤ now - cleaner.keepOldDays * day

/-- `cleanup_old_versions`: the directories it gives to `rmtree`. The clock is
read for the files and once more for the rows. -/
def cleanupOldVersions (now utcnow : Int) (rows : List HistoryRow) (disk : Disk) : List RootEntry :=
  disk.entries.filter (isPruned cleaner now utcnow rows disk)

/-- `rollback_candidate`: the job whose old directory is offered. -/
def rollbackCandidate (rows : List HistoryRow) (disk : Disk) : Option HistoryRow :=
  disk.live.bind fun live =>
    (newestRows 10 (rows.filter fun row => row.kind = .update && row.status = .completed && !row.rolledBack)).find?
      fun row => row.newDir.any (fun dir => dir ≠ "" && cleaner.realpath dir = live) &&
        row.oldDir.any fun dir => dir ≠ "" && disk.isDir dir

/-- The job names the directory as the previous or the target one. -/
def HistoryRow.Names (row : HistoryRow) (cleaner : Cleaner) (entry : RootEntry) : Prop :=
  ∃ dir ∈ row.dirs, cleaner.realpath dir = cleaner.realpath (entry.path cleaner)

/-- The job ended within the window, and fewer than twenty newer jobs have. -/
def HistoryRow.Protects (row : HistoryRow) (cleaner : Cleaner) (utcnow : Int) (rows : List HistoryRow) : Prop :=
  row ∈ newestRows 20 (rows.filter fun row => row.completedAt.isSome) ∧
    ∃ completed, row.completedAt = some completed ∧ utcnow - cleaner.keepOldDays * day ≤ completed

theorem cleanup_spec {now utcnow : Int} {rows : List HistoryRow} {disk : Disk} {entry : RootEntry} :
    entry ∈ cleanupOldVersions cleaner now utcnow rows disk ↔ entry ∈ disk.entries ∧
      isVersionDir cleaner entry.name ∧ entry.isLink = false ∧ entry.isDir ∧
      disk.live ≠ some (cleaner.realpath (entry.path cleaner)) ∧
      cleaner.realpath (entry.path cleaner) ∉ protectedDirs cleaner utcnow rows ∧
      ∃ mtime, entry.mtime = some mtime ∧ mtime ≤ now - cleaner.keepOldDays * day := by
  simp only [cleanupOldVersions, List.mem_filter, isPruned, Bool.and_eq_true, Bool.not_eq_true', Bool.or_eq_false_iff,
    decide_eq_false_iff_not, Option.any_eq_true, decide_eq_true_eq, ne_eq, and_assoc]

theorem mem_protectedDirs {utcnow : Int} {rows : List HistoryRow} {row : HistoryRow} {dir : String}
    (protects : row.Protects cleaner utcnow rows) (names : dir ∈ row.dirs) :
    cleaner.realpath dir ∈ protectedDirs cleaner utcnow rows := by
  obtain ⟨newest, completed, ended, late⟩ := protects
  refine List.mem_flatMap.mpr ⟨row, List.mem_filter.mpr ⟨newest, ?_⟩, List.mem_map_of_mem names⟩
  rw [ended]
  exact decide_eq_true late

theorem plain_kept : isVersionDir cleaner "boron" = false := rfl

def plainCleaner : Cleaner :=
  { realpath := id, isDecimal := Char.isDigit, versionsRoot := "/opt", keepOldDays := 3 }

def versionDir (name : String) (mtime : Int) : RootEntry := { name, isLink := false, isDir := true, mtime := some mtime }

def twoVersions : Disk :=
  { entries := [versionDir "boron-1.0.0" (10 * day), versionDir "boron-2.0.0" (90 * day)]
    live := some "/opt/boron-2.0.0", isDir := fun dir => dir = "/opt/boron-1.0.0" || dir = "/opt/boron-2.0.0" }

def jobFrom (id : Nat) (status : Status) (oldDir newDir : String) (completedAt : Option Int) : HistoryRow :=
  { id, kind := .update, status, fromVersion := "1.0.0", toVersion := "2.0.0", initiatedBy := "admin"
    oldDir := some oldDir, newDir := some newDir, progressMessage := "", steps := [], error := none
    startedAt := some 0, completedAt, rolledBack := false }

def busyWeek : List HistoryRow :=
  jobFrom 1 .completed "/opt/boron-1.0.0" "/opt/boron-2.0.0" (some (98 * day)) ::
    (List.range 20).map fun k => jobFrom (k + 2) .failed "/opt/boron-2.0.0" "" (some (99 * day))

end Boron.Updates
