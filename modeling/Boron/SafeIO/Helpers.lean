import Boron.Lib.Sys
import Boron.Lib.Text
import Boron.Lib.Inodes

namespace Boron.SafeIO

open Inodes

/-- The process id and the random part of a temporary name. -/
structure Suffix where
  text : String
  plain : '/' ∉ text.toList

structure Setting where
  /-- The inode of the trusted root. -/
  root : Nat
  cwd : Nat
  /-- The moves of the tenant just before a call. -/
  tenant : Nat → List Move
  trouble : Nat → Option Errno
  /-- How many bytes a write takes. -/
  written : Nat → Nat
  suffix : Suffix

inductive Action
  | openAt
  | close
  | stat
  | makeDir
  | create
  | createTemporary
  | check
  | write
  | chown
  | chmod
  | read
  | unlink
  | rename
  /-- With the inode that was made under the name, and whether it is still to be renamed. -/
  | dropTemporary (name : String) (temporary : Nat) (pending : Bool)
  /-- The last close of a helper that replaces a file, and whether it is replaced. -/
  | release (done : Bool)

/-- Whether an inode is changed or read, or gets or loses an entry. -/
def Action.touches : Action → Bool
  | .openAt | .close | .stat | .check | .release _ => false
  | _ => true

structure Fd where
  inode : Nat
  opened : Files

structure Call where
  action : Action
  fd : Option Fd
  before : Files
  after : Files
  trouble : Option Errno

structure World where
  files : Files
  calls : Nat
  log : List Call

inductive Failure
  | os (errno : Errno)
  | unsafePath

section
variable (setting : Setting)

def perform {α : Type} (action : Action) (fd : Option Fd) (act : Files → Except Errno (α × Files)) : Sys World Failure α :=
  ⟨fun world =>
    let files := (setting.tenant world.calls).foldl (Files.move setting.root) world.files
    let left (after : Files) : World :=
      { files := after, calls := world.calls + 1, log := world.log ++ [⟨action, fd, files, after, setting.trouble world.calls⟩] }
    match setting.trouble world.calls with
    | some errno => (.error (.os errno), left files)
    | none => match act files with
      | .error errno => (.error (.os errno), left files)
      | .ok (result, after) => (.ok result, left after)⟩

/-- Python's `finally`. An error of the clean-up hides the one before. -/
def finally_ {α : Type} (body : Sys World Failure α) (cleanUp : Except Failure α → Sys World Failure Unit) :
    Sys World Failure α := do
  let result ← Sys.caught body
  cleanUp result
  Sys.ofExcept result

def close (fd : Fd) : Sys World Failure Unit := perform setting .close (some fd) fun files => .ok ((), files)

def release (fd : Fd) (done : Bool) : Sys World Failure Unit :=
  perform setting (.release done) (some fd) fun files => .ok ((), files)

def splitSlash : List Char → List (List Char)
  | [] => [[]]
  | c :: rest =>
    if c = '/' then [] :: splitSlash rest
    else match splitSlash rest with
      | [] => [[c]]
      | part :: parts => (c :: part) :: parts

def pathParts (path : String) : List String :=
  ((splitSlash path.toList).map String.ofList).filter fun part => part ≠ "" && part ≠ "."

def isAbsolute (path : String) : Bool := path.toList.head? = some '/'

/-- Python's `"/".join`. -/
def joinSlash : List String → String
  | [] => ""
  | [part] => part
  | part :: rest => part ++ "/" ++ joinSlash rest

/-- `os.path.join`, for parts without a slash. -/
def joinPath (path : String) (parts : List String) : String :=
  parts.foldl (fun path part =>
    if path = "" ∨ path.toList.getLast? = some '/' then path ++ part else path ++ "/" ++ part) path

/-- `replace("\\\\", "/")`. -/
def forward (path : String) : String := String.ofList (path.toList.map fun c => if c = '\\' then '/' else c)

def openAt (fd : Fd) (part : String) : Sys World Failure Fd :=
  perform setting .openAt (some fd) fun files =>
    match files.lookup fd.inode part with
    | none => .error .noEntry
    | some child => match files.kind child with
      | .directory => .ok (⟨child, files⟩, files)
      | .symlink => .error .loop
      | _ => .error .notDirectory

def startOf (path : String) (dirFd : Option Fd) : Nat :=
  if isAbsolute path then 0 else (dirFd.map Fd.inode).getD setting.cwd

def openStart (path : String) (dirFd : Option Fd) : Sys World Failure Fd :=
  perform setting .openAt dirFd fun files => .ok (⟨startOf setting path dirFd, files⟩, files)

def step (current : Fd) (next : Sys World Failure Fd) : Sys World Failure Fd :=
  Sys.handle (do
    let child ← next
    close setting current
    return child) fun failure => do
      close setting current
      Sys.fail failure

def walk (current : Fd) : List String → Sys World Failure Fd
  | [] => pure current
  | part :: rest => do
    let child ← step setting current (openAt setting current part)
    walk child rest

def openDirNofollow (path : String) (dirFd : Option Fd) : Sys World Failure Fd :=
  if ".." ∈ pathParts path then Sys.fail (.os .invalid)
  else do
    let current ← openStart setting path dirFd
    walk setting current (pathParts path)

def rejectName (name : String) : Sys World Failure Unit := if safeName name then pure () else Sys.fail .unsafePath

/-- `except OSError`. -/
def orUnsafe {α : Type} (body : Sys World Failure α) : Sys World Failure α :=
  Sys.handle body fun
    | .os _ => Sys.fail .unsafePath
    | failure => Sys.fail failure

def descend (current : Fd) : List String → Sys World Failure Fd
  | [] => pure current
  | part :: rest => do
    let child ← step setting current (do
      rejectName part
      orUnsafe (openDirNofollow setting part (some current)))
    descend child rest

def openDirBeneath (trustedRoot relative : String) : Sys World Failure Fd :=
  if ".." ∈ pathParts relative then Sys.fail .unsafePath
  else do
    let current ← openDirNofollow setting trustedRoot none
    descend setting current (pathParts relative)

def fchown (fd : Fd) (uid gid : Nat) : Sys World Failure Unit :=
  perform setting .chown (some fd) fun files =>
    .ok ((), files.setAttrs fd.inode fun attrs => { attrs with uid := uid, gid := gid })

def fchmod (fd : Fd) (mode : Nat) : Sys World Failure Unit :=
  perform setting .chmod (some fd) fun files => .ok ((), files.setAttrs fd.inode fun attrs => { attrs with mode := mode })

def mkdir (fd : Fd) (part : String) (mode : Nat) : Sys World Failure Unit :=
  Sys.handle (perform setting .makeDir (some fd) fun files =>
      (files.make fd.inode part .directory { uid := 0, gid := 0, mode := mode, data := [] }).map fun left => ((), left)) fun
    | .os .exists => pure ()
    | failure => Sys.fail failure

def makeComponent (uid gid mode : Nat) (parent : Fd) (part : String) : Sys World Failure Fd := do
  mkdir setting parent part mode
  let child ← orUnsafe (openDirNofollow setting part (some parent))
  fchown setting child uid gid
  fchmod setting child mode
  return child

def makeComponents (uid gid mode : Nat) (opened : List Fd) (parent : Fd) :
    List String → Sys World Failure (List Fd × Option Failure)
  | [] => pure (opened, none)
  | part :: rest => do
    match ← Sys.caught (makeComponent setting uid gid mode parent part) with
    | .error failure => pure (opened, some failure)
    | .ok child => makeComponents uid gid mode (opened ++ [child]) child rest

def secureMkdirs (trustedRoot relative : String) (uid gid mode : Nat) : Sys World Failure String :=
  if ".." ∈ pathParts relative then Sys.fail .unsafePath
  else do
    let parent ← openDirNofollow setting trustedRoot none
    let (opened, ended) ← makeComponents setting uid gid mode [parent] parent (pathParts relative)
    Sys.each (close setting) opened
    match ended with
    | some failure => Sys.fail failure
    | none => return joinPath trustedRoot (pathParts relative)

/-- `O_CREAT` without `O_EXCL`. -/
def openOrCreate (dir : Fd) (name : String) (mode : Nat) : Sys World Failure Fd :=
  perform setting .create (some dir) fun files =>
    match files.lookup dir.inode name with
    | none => (files.make dir.inode name .regular { uid := 0, gid := 0, mode := mode, data := [] }).map
        fun left => (⟨files.next, left⟩, left)
    | some child => match files.kind child with
      | .symlink => .error .loop
      | .directory => .error .isDirectory
      | _ => .ok (⟨child, files⟩, files)

/-- `fstat`: the kind and the number of names. -/
def fstat (action : Action) (fd : Fd) : Sys World Failure (Kind × Nat) :=
  perform setting action (some fd) fun files => .ok ((files.kind fd.inode, files.links fd.inode), files)

def ensureFileAt (dir : Fd) (name : String) (uid gid mode : Nat) : Sys World Failure Unit := do
  let fd ← orUnsafe (openOrCreate setting dir name mode)
  finally_ (do
    let (kind, links) ← fstat setting .check fd
    if kind ≠ .regular ∨ links ≠ 1 then Sys.fail .unsafePath
    fchown setting fd uid gid
    fchmod setting fd mode) fun _ => close setting fd

def secureEnsureFileBeneath (trustedRoot relativeDir name : String) (uid gid mode : Nat) : Sys World Failure Unit := do
  rejectName name
  let dir ← openDirBeneath setting trustedRoot relativeDir
  finally_ (ensureFileAt setting dir name uid gid mode) fun _ => close setting dir

def lstat (dir : Fd) (name : String) : Sys World Failure Kind :=
  perform setting .stat (some dir) fun files =>
    match files.lookup dir.inode name with
    | none => .error .noEntry
    | some child => .ok (files.kind child, files)

def secureEnsureFile (dirPath name : String) (uid gid mode : Nat) : Sys World Failure Unit := do
  rejectName name
  let dir ← openDirNofollow setting dirPath none
  finally_ (do
    let existing ← Sys.handle (do return some (← lstat setting dir name)) fun
      | .os .noEntry => pure none
      | failure => Sys.fail failure
    if existing = some .symlink then Sys.fail .unsafePath
    ensureFileAt setting dir name uid gid mode) fun _ => close setting dir

def openFile (dir : Fd) (name : String) : Sys World Failure Fd :=
  perform setting .openAt (some dir) fun files =>
    match files.lookup dir.inode name with
    | none => .error .noEntry
    | some child => match files.kind child with
      | .symlink => .error .loop
      | _ => .ok (⟨child, files⟩, files)

def readBytes (fd : Fd) (maxBytes : Nat) : Sys World Failure (List UInt8) :=
  perform setting .read (some fd) fun files => .ok ((files.attrs fd.inode).data.take maxBytes, files)

/-- `except OSError: return None`. -/
def orNone {α : Type} (body : Sys World Failure α) : Sys World Failure (Option α) :=
  Sys.handle (do return some (← body)) fun
    | .os _ => pure none
    | failure => Sys.fail failure

def readFileAt (dir : Fd) (name : String) (maxBytes : Nat) : Sys World Failure (Option (List UInt8)) := do
  match ← orNone (openFile setting dir name) with
  | none => return none
  | some fd => finally_ (do
      let (kind, _) ← fstat setting .stat fd
      if kind ≠ .regular then return none
      else return some (← readBytes setting fd maxBytes)) fun _ => close setting fd

def secureReadText (dirPath name : String) (maxBytes : Nat) : Sys World Failure (Option (List UInt8)) := do
  rejectName name
  match ← orNone (openDirNofollow setting dirPath none) with
  | none => return none
  | some dir => finally_ (readFileAt setting dir name maxBytes) fun _ => close setting dir

def unlinkName (action : Action) (dir : Fd) (name : String) : Sys World Failure Unit :=
  Sys.handle (perform setting action (some dir) fun files => (files.unlink false dir.inode name).map fun left => ((), left)) fun
    | .os .noEntry => pure ()
    | failure => Sys.fail failure

def secureUnlink (dirPath name : String) : Sys World Failure Unit := do
  rejectName name
  match ← orNone (openDirNofollow setting dirPath none) with
  | none => return ()
  | some dir => finally_ (unlinkName setting .unlink dir name) fun _ => close setting dir

def createTemporary (dir : Fd) (name : String) (mode : Nat) : Sys World Failure Fd :=
  perform setting .createTemporary (some dir) fun files =>
    (files.make dir.inode name .regular { uid := 0, gid := 0, mode := mode, data := [] }).map
      fun left => (⟨files.next, left⟩, left)

def writeBytes (fd : Fd) (count : Nat) (pending : List UInt8) : Sys World Failure Unit :=
  perform setting .write (some fd) fun files =>
    .ok ((), files.setAttrs fd.inode fun attrs => { attrs with data := attrs.data ++ pending.take count })

/-- The fuel is at least the number of bytes: each write takes one or more. -/
def writeAll (fd : Fd) : Nat → List UInt8 → Sys World Failure Unit
  | _, [] => pure ()
  | 0, _ :: _ => Sys.fail (.os .io)
  | fuel + 1, pending => do
    let count := setting.written (← Sys.get).calls
    writeBytes setting fd count pending
    if count = 0 then Sys.fail (.os .io)
    writeAll fd fuel (pending.drop count)

def renameOver (dir : Fd) (temporary name : String) : Sys World Failure Unit :=
  perform setting .rename (some dir) fun files =>
    (files.rename dir.inode temporary dir.inode name).map fun left => ((), left)

def temporaryName (name : String) : String := "." ++ name ++ ".tmp." ++ setting.suffix.text

def replaceFileAtFd (dir : Fd) (name : String) (data : List UInt8) (uid gid mode : Nat) : Sys World Failure Unit := do
  rejectName name
  let temporary := temporaryName setting name
  let fd ← createTemporary setting dir temporary mode
  finally_ (do
    finally_ (do
      writeAll setting fd data.length data
      fchown setting fd uid gid
      fchmod setting fd mode) fun _ => close setting fd
    renameOver setting dir temporary name) fun result =>
      unlinkName setting (.dropTemporary temporary fd.inode result.toOption.isNone) dir temporary

def secureReplaceFile (dirPath name : String) (data : List UInt8) (uid gid mode : Nat) : Sys World Failure Unit := do
  let dir ← openDirNofollow setting dirPath none
  finally_ (replaceFileAtFd setting dir name data uid gid mode) fun result =>
    release setting dir result.toOption.isSome

def secureWriteFileBeneath (trustedRoot relative : String) (data : List UInt8) (uid gid mode : Nat) :
    Sys World Failure Unit := do
  let parts := pathParts (forward relative)
  match parts.getLast? with
  | none => Sys.fail .unsafePath
  | some name =>
    if ".." ∈ parts then Sys.fail .unsafePath
    else do
      let joined := joinSlash parts.dropLast
      let parent := if joined = "" then "." else joined
      let _ ← secureMkdirs setting trustedRoot parent uid gid 0o750
      let dir ← openDirBeneath setting trustedRoot parent
      finally_ (replaceFileAtFd setting dir name data uid gid mode) fun result =>
        release setting dir result.toOption.isSome

/-- A call of one of the helpers, with its arguments. -/
inductive Request
  | mkdirs (relative : String) (uid gid mode : Nat)
  | ensureFileBeneath (relativeDir name : String) (uid gid mode : Nat)
  | writeFileBeneath (relative : String) (data : List UInt8) (uid gid mode : Nat)
  | ensureFile (dirPath name : String) (uid gid mode : Nat)
  | replaceFile (dirPath name : String) (data : List UInt8) (uid gid mode : Nat)
  | unlink (dirPath name : String)
  | readText (dirPath name : String) (maxBytes : Nat)

def Request.perform (trustedRoot : String) : Request → Sys World Failure Unit
  | .mkdirs relative uid gid mode => do let _ ← secureMkdirs setting trustedRoot relative uid gid mode
  | .ensureFileBeneath relativeDir name uid gid mode =>
    secureEnsureFileBeneath setting trustedRoot relativeDir name uid gid mode
  | .writeFileBeneath relative data uid gid mode => secureWriteFileBeneath setting trustedRoot relative data uid gid mode
  | .ensureFile dirPath name uid gid mode => secureEnsureFile setting dirPath name uid gid mode
  | .replaceFile dirPath name data uid gid mode => secureReplaceFile setting dirPath name data uid gid mode
  | .unlink dirPath name => secureUnlink setting dirPath name
  | .readText dirPath name maxBytes => do let _ ← secureReadText setting dirPath name maxBytes

end

end Boron.SafeIO
