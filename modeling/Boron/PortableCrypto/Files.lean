import Boron.Lib.Sys

namespace Boron.PortableCrypto

abbrev Bytes := List UInt8

abbrev Path := String

def magic : Bytes := "BORON-AES256-GCM".toList.map (fun c => UInt8.ofNat c.toNat) ++ [1]

def saltSize : Nat := 16
def nonceSize : Nat := 12
def tagSize : Nat := 16
def chunkSize : Nat := 1024 * 1024
def headerSize : Nat := magic.length + saltSize + nonceSize

/-- Scrypt, and of AES-GCM the key stream of a nonce and the tag of a header and a ciphertext. -/
structure Primitives (Key : Type) where
  scrypt : String → Bytes → Key
  stream : Key → Bytes → Nat → UInt8
  tag : Key → Bytes → Bytes → Bytes → Bytes
  tag_length : ∀ key nonce header cipher, (tag key nonce header cipher).length = tagSize

/-- `update` from a position of the key stream, in both directions. -/
def update (stream : Nat → UInt8) : Nat → Bytes → Bytes
  | _, [] => []
  | position, byte :: rest => (byte ^^^ stream position) :: update stream (position + 1) rest

/-- What an encryptor has been finalized on. -/
structure Sealed (Key : Type) where
  key : Key
  nonce : Bytes
  header : Bytes
  cipher : Bytes
  tag : Bytes
  deriving DecidableEq

/-- What is raised; an interrupt is no `Exception`. -/
inductive Raised
  | portable (message : String)
  | invalidTag
  | os
  | interrupt
  deriving DecidableEq

/-- A call that fails, and how much of its data it has written before. -/
structure Fault where
  raised : Raised
  written : Nat

/-- `faults` tells of each call to come whether it fails, and `removal` of `unlink`. -/
structure World (Key : Type) where
  files : Path → Option Bytes
  made : List (Sealed Key)
  faults : List (Option Fault)
  removal : Option Raised

variable {Key : Type}

abbrev Prog (Key : Type) := Sys (World Key) Raised

def World.put (w : World Key) (path : Path) (content : Option Bytes) : World Key :=
  { w with files := fun other => if other = path then content else w.files other }

def call (target : Path) (bytes : Bytes) : Prog Key Unit := ⟨fun w =>
  let append (part : Bytes) (later : List (Option Fault)) : World Key :=
    { w.put target ((w.files target).map (· ++ part)) with faults := later }
  match w.faults with
  | [] => (.ok (), append bytes [])
  | none :: later => (.ok (), append bytes later)
  | some fault :: later => (.error fault.raised, append (bytes.take fault.written) later)⟩

def tick : Prog Key Unit := ⟨fun w =>
  match w.faults with
  | [] => (.ok (), w)
  | none :: later => (.ok (), { w with faults := later })
  | some fault :: later => (.error fault.raised, { w with faults := later })⟩

/-- `os.open` with `O_CREAT | O_EXCL | O_NOFOLLOW` -/
def openExclusive (target : Path) : Prog Key Unit := do
  tick
  let w ← Sys.get
  if (w.files target).isSome then Sys.fail .os else Sys.modify fun w => w.put target (some [])

/-- `open("rb")` or `stat` -/
def readable (source : Path) : Prog Key Bytes := do
  tick
  let w ← Sys.get
  match w.files source with
  | none => Sys.fail .os
  | some content => return content

/-- `unlink(missing_ok=True)` -/
def unlink (target : Path) : Prog Key Unit := do
  let w ← Sys.get
  match w.removal with
  | some raised => Sys.fail raised
  | none => Sys.modify fun w => w.put target none

def derive (primitives : Primitives Key) (passphrase : String) (salt : Bytes) : Except Raised Key :=
  if passphrase.length < 16 then .error (.portable "A valid destination recovery key is required")
  else .ok (primitives.scrypt passphrase salt)

/-- From the creation of the target on, an `Exception` removes it. -/
def created (target : Path) (convert : Raised → Raised) (body : Prog Key Unit) : Prog Key Unit := do
  openExclusive target
  Sys.handle body fun raised =>
    if raised = .interrupt then Sys.fail raised
    else do
      unlink target
      Sys.fail (convert raised)

/-- The chunks that `read(CHUNK_SIZE)` gives up to the end of the file; the first number bounds them. -/
def chunks : Nat → Bytes → List Bytes
  | 0, _ => []
  | fuel + 1, rest => if rest = [] then [] else rest.take chunkSize :: chunks fuel (rest.drop chunkSize)

/-- The loop of `encrypt`, with its last, empty read. -/
def writeChunks (target : Path) (stream : Nat → UInt8) : Nat → List Bytes → Prog Key Unit
  | _, [] => tick
  | position, chunk :: rest => do
    tick
    call target (update stream position chunk)
    writeChunks target stream (position + chunk.length) rest

/-- `encrypt`, with the bytes of `os.urandom` -/
def encrypt (primitives : Primitives Key) (salt nonce : Bytes) (source target : Path) (passphrase : String) :
    Prog Key Unit := do
  let header := magic ++ salt ++ nonce
  let key ← Sys.ofExcept (derive primitives passphrase salt)
  created target id do
    let content ← readable source
    let stream := primitives.stream key nonce
    call target header
    writeChunks target stream 0 (chunks content.length content)
    let cipher := update stream 0 content
    let tag := primitives.tag key nonce header cipher
    Sys.modify fun w => { w with made := w.made ++ [{ key, nonce, header, cipher, tag }] }
    call target []
    call target tag
    tick

/-- The `while remaining` loop of `decrypt`; the first number bounds its turns. -/
def readChunks (target : Path) (stream : Nat → UInt8) : Nat → Nat → Nat → Bytes → Prog Key Unit
  | 0, _, _, _ => pure ()
  | fuel + 1, remaining, position, rest =>
    if remaining = 0 then pure ()
    else do
      tick
      let chunk := rest.take (min chunkSize remaining)
      if chunk = [] then Sys.fail (.portable "Encrypted archive ended unexpectedly")
      else do
        call target (update stream position chunk)
        readChunks target stream fuel (remaining - chunk.length) (position + chunk.length) (rest.drop chunk.length)

/-- `except InvalidTag` -/
def wrongTag (raised : Raised) : Raised :=
  if raised = .invalidTag then .portable "Recovery key is incorrect or the archive was modified" else raised

def decrypt [DecidableEq Key] (primitives : Primitives Key) (source target : Path) (passphrase : String) : Prog Key Unit := do
  let content ← readable source
  let size := content.length
  if size < headerSize + tagSize then Sys.fail (.portable "This is not a complete Boron encrypted archive")
  else do
    let content ← readable source
    tick
    let header := content.take headerSize
    if magic.isPrefixOf header = false then Sys.fail (.portable "This is not a Boron encrypted archive")
    else do
      let salt := (header.drop magic.length).take saltSize
      let nonce := header.drop (header.length - nonceSize)
      tick
      let tag := content.drop (size - tagSize)
      tick
      let remaining := size - headerSize - tagSize
      let body := content.drop headerSize
      let key ← Sys.ofExcept (derive primitives passphrase salt)
      created target wrongTag do
        readChunks target (primitives.stream key nonce) remaining remaining 0 body
        let w ← Sys.get
        if ⟨key, nonce, header, body.take remaining, tag⟩ ∈ w.made then call target [] else Sys.fail .invalidTag
        tick

end Boron.PortableCrypto
