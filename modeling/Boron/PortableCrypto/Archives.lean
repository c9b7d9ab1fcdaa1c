import Boron.PortableCrypto.Files

namespace Boron.PortableCrypto
open List Sys
variable {Key : Type}

section
variable {stream : Nat → UInt8} {w w' : World Key} {target : Path} {bytes written : Bytes} {raised : Raised}

theorem update_append (position : Nat) (part rest : Bytes) :
    update stream position (part ++ rest) = update stream position part ++ update stream (position + part.length) rest := by
  induction part generalizing position with
  | nil => rfl
  | cons byte part ih =>
    have moved : position + (byte :: part).length = position + 1 + part.length := by
      rw [length_cons]
      omega
    rw [cons_append, update, update, ih, moved, cons_append]

theorem update_length (position : Nat) (part : Bytes) : (update stream position part).length = part.length := by
  induction part generalizing position with
  | nil => rfl
  | cons byte part ih => rw [update, length_cons, length_cons, ih]

theorem update_update (position : Nat) (part : Bytes) : update stream position (update stream position part) = part := by
  induction part generalizing position with
  | nil => rfl
  | cons byte part ih => rw [update, update, ih, UInt8.xor_assoc, UInt8.xor_self, UInt8.xor_zero]

theorem chunks_flatten {fuel : Nat} {rest : Bytes} (enough : rest.length ≤ fuel) : (chunks fuel rest).flatten = rest := by
  induction fuel generalizing rest with
  | zero =>
    have empty : rest = [] := eq_nil_of_length_eq_zero (by omega)
    rw [empty]
    rfl
  | succ fuel ih =>
    unfold chunks
    split
    · next empty => exact empty.symm
    · next some_rest =>
      have fewer : (rest.drop chunkSize).length ≤ fuel := by
        rw [length_drop]
        have size : 0 < chunkSize := by decide
        omega
      rw [flatten_cons, ih fewer, take_append_drop]

@[simp] theorem put_files (path : Path) (content : Option Bytes) : (w.put path content).files path = content := if_pos rfl

theorem put_others {other path : Path} (apart : other ≠ path) (content : Option Bytes) :
    (w.put path content).files other = w.files other := if_neg apart

/-- Only a file may have changed, and how often calls fail. -/
structure Aside (target : Path) (w w' : World Key) : Prop where
  files : ∀ other, other ≠ target → w'.files other = w.files other
  removal : w'.removal = w.removal

instance : Std.Refl (@Aside Key target) := ⟨fun _ => ⟨fun _ _ => rfl, rfl⟩⟩

instance : IsTrans (World Key) (Aside target) :=
  ⟨fun _ _ _ first second =>
    ⟨fun other apart => (second.files other apart).trans (first.files other apart), second.removal.trans first.removal⟩⟩

theorem tick_keeps : Keeps (Aside target) (tick : Prog Key Unit) := by
  intro w
  unfold tick
  dsimp only
  split <;> exact ⟨fun _ _ => rfl, rfl⟩

theorem call_keeps : Keeps (Aside target) (call target bytes : Prog Key Unit) := by
  intro w
  unfold call
  dsimp only
  split <;> exact ⟨fun other apart => put_others apart _, rfl⟩

theorem readable_keeps (source : Path) : Keeps (Aside target) (readable source : Prog Key Bytes) := by
  refine tick_keeps.bind fun _ => Keeps.get.bind fun w => ?_
  cases w.files source with
  | none => exact Keeps.fail _
  | some content => exact Keeps.pure content

theorem call_ok (ran : (call target bytes).run w = (.ok (), w')) (holds : w.files target = some written) :
    w'.files target = some (written ++ bytes) ∧ w'.made = w.made := by
  unfold call at ran
  dsimp only at ran
  split at ran
  · cases ran
    rw [holds]
    exact ⟨if_pos rfl, rfl⟩
  · cases ran
    rw [holds]
    exact ⟨if_pos rfl, rfl⟩
  · cases ran

theorem tick_ok (ran : tick.run w = (.ok (), w')) : w'.files = w.files ∧ w'.made = w.made := by
  unfold tick at ran
  dsimp only at ran
  split at ran
  · cases ran
    exact ⟨rfl, rfl⟩
  · cases ran
    exact ⟨rfl, rfl⟩
  · cases ran

variable {source : Path}

theorem readable_ok {content : Bytes} (ran : (readable source).run w = (.ok content, w')) :
    w.files source = some content ∧ w'.files = w.files ∧ w'.made = w.made := by
  obtain ⟨_, mid, ticked, ran⟩ := bind_eq_ok.mp ran
  obtain ⟨files, made⟩ := tick_ok ticked
  obtain ⟨_, _, got, ran⟩ := bind_eq_ok.mp ran
  cases got
  split at ran
  · cases ran
  · next held =>
    cases ran
    exact ⟨files ▸ held, files, made⟩

theorem writeChunks_ok {position : Nat} {list : List Bytes} (ran : (writeChunks target stream position list).run w = (.ok (), w'))
    (holds : w.files target = some written) :
    w'.files target = some (written ++ update stream position list.flatten) ∧ w'.made = w.made := by
  induction list generalizing w position written with
  | nil =>
    obtain ⟨files, made⟩ := tick_ok ran
    rw [files, holds]
    exact ⟨congrArg some (append_nil written).symm, made⟩
  | cons chunk list ih =>
    obtain ⟨_, read, ticked, ran⟩ := bind_eq_ok.mp ran
    obtain ⟨files, made⟩ := tick_ok ticked
    obtain ⟨_, wrote, called, ran⟩ := bind_eq_ok.mp ran
    obtain ⟨after, made'⟩ := call_ok called (files ▸ holds)
    obtain ⟨whole, made''⟩ := ih ran after
    rw [flatten_cons, update_append, ← append_assoc]
    exact ⟨whole, made''.trans (made'.trans made)⟩

theorem readChunks_ok {fuel remaining position : Nat} {rest : Bytes}
    (ran : (readChunks target stream fuel remaining position rest).run w = (.ok (), w')) (enough : remaining ≤ fuel)
    (holds : w.files target = some written) :
    w'.files target = some (written ++ update stream position (rest.take remaining)) ∧ w'.made = w.made := by
  induction fuel generalizing w remaining position rest written with
  | zero =>
    cases ran
    have none_left : remaining = 0 := by omega
    rw [none_left, holds]
    exact ⟨congrArg some (append_nil written).symm, rfl⟩
  | succ fuel ih =>
    unfold readChunks at ran
    split at ran
    · next none_left =>
      cases ran
      rw [none_left, holds]
      exact ⟨congrArg some (append_nil written).symm, rfl⟩
    · next some_left =>
      obtain ⟨_, read, ticked, ran⟩ := bind_eq_ok.mp ran
      obtain ⟨files, made⟩ := tick_ok ticked
      dsimp only at ran
      split at ran
      · cases ran
      · next some_chunk =>
        obtain ⟨_, wrote, called, ran⟩ := bind_eq_ok.mp ran
        obtain ⟨after, made'⟩ := call_ok called (files ▸ holds)
        have positive : 0 < (rest.take (min chunkSize remaining)).length := length_pos_iff.mpr some_chunk
        have length : (rest.take (min chunkSize remaining)).length = min (min chunkSize remaining) rest.length := length_take
        obtain ⟨whole, made''⟩ := ih ran (by omega) after
        refine ⟨?_, made''.trans (made'.trans made)⟩
        rw [whole, append_assoc, ← update_append]
        have split_at : rest.take remaining = rest.take (min chunkSize remaining) ++
            (rest.drop (rest.take (min chunkSize remaining)).length).take
              (remaining - (rest.take (min chunkSize remaining)).length) := by
          have whole_length : remaining = (rest.take (min chunkSize remaining)).length +
              (remaining - (rest.take (min chunkSize remaining)).length) := by omega
          have front : rest.take (rest.take (min chunkSize remaining)).length = rest.take (min chunkSize remaining) := by
            rw [take_eq_take_iff]
            omega
          rw [whole_length, take_add, ← whole_length, front]
        rw [split_at]

theorem writeChunks_keeps (position : Nat) (list : List Bytes) :
    Keeps (Aside target) (writeChunks target stream position list : Prog Key Unit) := by
  induction list generalizing position with
  | nil => exact tick_keeps
  | cons chunk list ih => exact tick_keeps.bind fun _ => call_keeps.bind fun _ => ih _

theorem readChunks_keeps (fuel remaining position : Nat) (rest : Bytes) :
    Keeps (Aside target) (readChunks target stream fuel remaining position rest : Prog Key Unit) := by
  induction fuel generalizing remaining position rest with
  | zero => exact Keeps.pure ()
  | succ fuel ih =>
    unfold readChunks
    split
    · exact Keeps.pure ()
    · refine tick_keeps.bind fun _ => ?_
      dsimp only
      split
      · exact Keeps.fail _
      · exact call_keeps.bind fun _ => ih _ _ _

theorem openExclusive_ok (ran : (openExclusive target).run w = (.ok (), w')) :
    w.files target = none ∧ w'.files = (w.put target (some [])).files ∧ w'.made = w.made ∧ w'.removal = w.removal := by
  obtain ⟨_, mid, ticked, ran⟩ := bind_eq_ok.mp ran
  obtain ⟨files, made⟩ := tick_ok ticked
  have kept := (tick_keeps : Keeps (Aside target) (tick : Prog Key Unit)) w
  rw [ticked] at kept
  obtain ⟨_, _, got, ran⟩ := bind_eq_ok.mp ran
  cases got
  split at ran
  · cases ran
  · next absent =>
    cases ran
    rw [files] at absent
    refine ⟨by simpa using absent, ?_, made, kept.removal⟩
    funext other
    simp only [World.put, files]

theorem tick_same {result : Except Raised Unit} (ran : tick.run w = (result, w')) : w'.files = w.files := by
  unfold tick at ran
  dsimp only at ran
  split at ran <;> cases ran <;> rfl

theorem tick_removal {result : Except Raised Unit} (ran : tick.run w = (result, w')) : w'.removal = w.removal := by
  unfold tick at ran
  dsimp only at ran
  split at ran <;> cases ran <;> rfl

variable {result : Except Raised Bytes}

section
variable (ran : (readable source).run w = (result, w'))
include ran

theorem readable_run : ∃ ticked, tick.run w = (ticked, w') := by
  unfold readable at ran
  rw [run_bind] at ran
  cases first : (tick : Prog Key Unit).run w with
  | mk ticked mid =>
    rw [first] at ran
    cases ticked with
    | error raised =>
      cases ran
      exact ⟨_, rfl⟩
    | ok done =>
      dsimp only at ran
      rw [run_get_bind] at ran
      split at ran <;> cases ran <;> exact ⟨_, rfl⟩

theorem readable_same : w'.files = w.files := by
  obtain ⟨ticked, first⟩ := readable_run ran
  exact tick_same first

theorem readable_removal : w'.removal = w.removal := by
  obtain ⟨ticked, first⟩ := readable_run ran
  exact tick_removal first

end

theorem openExclusive_error (ran : (openExclusive target).run w = (.error raised, w')) : w'.files = w.files := by
  rcases bind_eq_error.mp ran with ticked | ⟨_, mid, ticked, ran⟩
  · exact tick_same ticked
  · rw [run_get_bind] at ran
    split at ran
    · cases ran
      exact tick_same ticked
    · cases ran

theorem created_error {convert : Raised → Raised} {body : Prog Key Unit} (keeps : Keeps (Aside target) body)
    (ran : (created target convert body).run w = (.error raised, w'))
    (removed : w.files target = none → raised ≠ .interrupt ∧ w.removal = none) : w'.files = w.files := by
  rcases bind_eq_error.mp ran with opened | ⟨_, mid, opened, ran⟩
  · exact openExclusive_error opened
  · obtain ⟨absent, files, _, removal⟩ := openExclusive_ok opened
    obtain ⟨exception, removable⟩ := removed absent
    cases failed : body.run mid with
    | mk result left =>
      cases result with
      | ok _ =>
        rw [handle_of_ok failed] at ran
        cases ran
      | error first =>
        have kept := keeps mid
        rw [failed] at kept
        rw [handle_of_error failed] at ran
        by_cases interrupted : first = .interrupt
        · rw [if_pos interrupted] at ran
          cases ran
          exact absurd interrupted exception
        · have gone : (unlink target).run left = (.ok (), left.put target none) := by
            unfold unlink
            rw [run_get_bind, kept.removal, removal, removable]
            rfl
          rw [if_neg interrupted, bind_of_ok gone] at ran
          cases ran
          funext other
          by_cases same : other = target
          · rw [same, put_files, absent]
          · rw [put_others same, kept.files other same, files, put_others same]

theorem created_ok {convert : Raised → Raised} {body : Prog Key Unit} (ran : (created target convert body).run w = (.ok (), w')) :
    w.files target = none ∧ ∃ mid, mid.files = (w.put target (some [])).files ∧ mid.made = w.made ∧
      body.run mid = (.ok (), w') := by
  obtain ⟨_, mid, opened, ran⟩ := bind_eq_ok.mp ran
  obtain ⟨absent, files, made, _⟩ := openExclusive_ok opened
  refine ⟨absent, mid, files, made, ?_⟩
  cases ended : body.run mid with
  | mk result left =>
    cases result with
    | ok _ =>
      rw [handle_of_ok ended] at ran
      exact ran
    | error first =>
      rw [handle_of_error ended] at ran
      split at ran
      · cases ran
      · obtain ⟨_, _, _, last⟩ := bind_eq_ok.mp ran
        cases last

end

/-- A run of `encrypt`: what it was given and what `os.urandom` gave it. -/
structure Made where
  passphrase : String
  salt : Bytes
  nonce : Bytes
  content : Bytes
  salted : salt.length = saltSize
  nonced : nonce.length = nonceSize

namespace Made

def header (made : Made) : Bytes := magic ++ made.salt ++ made.nonce

variable (primitives : Primitives Key) (made : Made)

def key : Key := primitives.scrypt made.passphrase made.salt

def cipher : Bytes := update (primitives.stream (made.key primitives) made.nonce) 0 made.content

def tag : Bytes := primitives.tag (made.key primitives) made.nonce made.header (made.cipher primitives)

def sealed : Sealed Key :=
  { key := made.key primitives, nonce := made.nonce, header := made.header, cipher := made.cipher primitives,
    tag := made.tag primitives }

def archive : Bytes := made.header ++ made.cipher primitives ++ made.tag primitives

theorem header_length : made.header.length = headerSize := by
  unfold header headerSize
  rw [length_append, length_append, made.salted, made.nonced]

theorem archive_length : (made.archive primitives).length = headerSize + made.content.length + tagSize := by
  unfold archive
  rw [length_append, length_append, made.header_length, cipher, update_length, tag, primitives.tag_length]

theorem header_salt : (made.header.drop magic.length).take saltSize = made.salt := by
  unfold header
  rw [append_assoc, drop_left, ← made.salted, take_left]

theorem header_nonce : made.header.drop (made.header.length - nonceSize) = made.nonce := by
  have length : made.header.length - nonceSize = (magic ++ made.salt).length := by
    have nonced := made.nonced
    unfold header
    simp only [length_append]
    omega
  rw [length]
  exact drop_left

theorem archive_header : (made.archive primitives).take headerSize = made.header := by
  unfold archive
  rw [append_assoc, ← made.header_length, take_left]

theorem archive_cipher : ((made.archive primitives).drop headerSize).take
    ((made.archive primitives).length - headerSize - tagSize) = made.cipher primitives := by
  have cipher_length : (made.cipher primitives).length = made.content.length := update_length _ _
  have length := made.archive_length primitives
  have remaining : (made.archive primitives).length - headerSize - tagSize = (made.cipher primitives).length := by omega
  unfold archive at remaining ⊢
  rw [remaining, append_assoc, ← made.header_length, drop_left, take_left]

theorem archive_tag : (made.archive primitives).drop ((made.archive primitives).length - tagSize) = made.tag primitives := by
  have front : (made.archive primitives).length - tagSize = (made.header ++ made.cipher primitives).length := by
    rw [made.archive_length, length_append, made.header_length, cipher, update_length]
    omega
  rw [front]
  unfold archive
  rw [drop_left]

theorem cipher_content : update (primitives.stream (made.key primitives) made.nonce) 0 (made.cipher primitives) =
    made.content := update_update _ _

end Made

section
variable {primitives : Primitives Key} {w w' : World Key} {source target : Path} {passphrase : String} {made : Made}

/-- An encryption that ends well has written the archive of the source. -/
theorem encrypt_ok (ran : (encrypt primitives made.salt made.nonce source target made.passphrase).run w = (.ok (), w'))
    (content : w.files source = some made.content) :
    w'.files target = some (made.archive primitives) ∧ w'.made = w.made ++ [made.sealed primitives] := by
  obtain ⟨key, derived, ran⟩ := ofExcept_bind_ok ran
  have same : key = made.key primitives := by
    unfold derive at derived
    split at derived
    · cases derived
    · cases derived
      rfl
  subst same
  obtain ⟨absent, start, files, keptStart, ran⟩ := created_ok ran
  have apart : source ≠ target := by
    rintro rfl
    rw [absent] at content
    cases content
  obtain ⟨read, opened, readFile, ran⟩ := bind_eq_ok.mp ran
  obtain ⟨found, filesOpened, keptOpened⟩ := readable_ok readFile
  rw [files, put_others apart, content] at found
  cases found
  have empty : opened.files target = some [] := by rw [filesOpened, files, put_files]
  obtain ⟨_, headed, wroteHeader, ran⟩ := bind_eq_ok.mp ran
  obtain ⟨after, keptHeaded⟩ := call_ok wroteHeader empty
  obtain ⟨_, filled, wroteChunks, ran⟩ := bind_eq_ok.mp ran
  obtain ⟨body, keptFilled⟩ := writeChunks_ok wroteChunks after
  rw [chunks_flatten (Nat.le_refl _)] at body
  rw [run_modify_bind] at ran
  obtain ⟨_, finalized, wroteLast, ran⟩ := bind_eq_ok.mp ran
  obtain ⟨last, noted⟩ := call_ok wroteLast body
  obtain ⟨_, tagged, wroteTag, closed⟩ := bind_eq_ok.mp ran
  obtain ⟨whole, notedTag⟩ := call_ok wroteTag last
  obtain ⟨filesClosed, notedClosed⟩ := tick_ok closed
  constructor
  · rw [filesClosed, whole, append_nil, nil_append]
    rfl
  · rw [notedClosed, notedTag, noted, ← keptStart, ← keptOpened, ← keptHeaded, ← keptFilled]
    rfl

theorem encryptBody_keeps (key : Key) (nonce header : Bytes) : Keeps (Aside target) (do
    let content ← readable source
    call target header
    writeChunks target (primitives.stream key nonce) 0 (chunks content.length content)
    let cipher := update (primitives.stream key nonce) 0 content
    let tag := primitives.tag key nonce header cipher
    Sys.modify fun w => { w with made := w.made ++ [{ key, nonce, header, cipher, tag }] }
    call target []
    call target tag
    tick : Prog Key Unit) := by
  refine (readable_keeps source).bind fun content => call_keeps.bind fun _ => (writeChunks_keeps _ _).bind fun _ => ?_
  refine (Keeps.modify fun w => ⟨fun _ _ => rfl, rfl⟩).bind fun _ => ?_
  exact call_keeps.bind fun _ => call_keeps.bind fun _ => tick_keeps

/-- An encryption that raises leaves no target that was not there before. -/
theorem encrypt_error {salt nonce : Bytes} {raised : Raised}
    (ran : (encrypt primitives salt nonce source target passphrase).run w = (.error raised, w'))
    (removed : w.files target = none → raised ≠ .interrupt ∧ w.removal = none) : w'.files = w.files := by
  rcases bind_eq_error.mp ran with derived | ⟨key, mid, derived, ran⟩
  · cases (Prod.mk.inj derived).2
    rfl
  · cases (Prod.mk.inj derived).2
    exact created_error (encryptBody_keeps key nonce _) ran removed

def Calm (source : Path) (content : Bytes) (known : List (Sealed Key)) (w : World Key) : Prop :=
  w.faults = [] ∧ w.files source = some content ∧ ∀ entry ∈ known, entry ∈ w.made

theorem tick_calm (quiet : w.faults = []) : tick.run w = (.ok (), w) := by
  unfold tick
  dsimp only
  rw [quiet]

theorem tick_total (content : Bytes) (known : List (Sealed Key)) : Sys.Total (Calm source content known) tick := by
  intro w calm
  exact ⟨(), w, tick_calm calm.1, calm⟩

theorem call_total (content : Bytes) (known : List (Sealed Key)) (apart : source ≠ target) (bytes : Bytes) :
    Sys.Total (Calm source content known) (call target bytes) := by
  intro w calm
  obtain ⟨quiet, held, noted⟩ := calm
  unfold call
  dsimp only
  rw [quiet]
  exact ⟨(), _, rfl, rfl, (put_others apart _).trans held, noted⟩

theorem readable_calm {content : Bytes} {known : List (Sealed Key)} (calm : Calm source content known w) :
    (readable source).run w = (.ok content, w) := by
  unfold readable
  rw [bind_of_ok (tick_calm calm.1), run_get_bind, calm.2.1]
  rfl

theorem writeChunks_total (content : Bytes) (known : List (Sealed Key)) (apart : source ≠ target) (stream : Nat → UInt8)
    (position : Nat) (list : List Bytes) : Sys.Total (Calm source content known) (writeChunks target stream position list) := by
  induction list generalizing position with
  | nil => exact tick_total content known
  | cons chunk list ih =>
    exact (tick_total content known).bind fun _ => (call_total content known apart _).bind fun _ => ih _

theorem readChunks_total (content : Bytes) (known : List (Sealed Key)) (apart : source ≠ target) (stream : Nat → UInt8)
    {fuel remaining position : Nat} {rest : Bytes} (enough : remaining ≤ rest.length) :
    Sys.Total (Calm source content known) (readChunks target stream fuel remaining position rest) := by
  induction fuel generalizing remaining position rest with
  | zero => exact Sys.Total.pure ()
  | succ fuel ih =>
    unfold readChunks
    split
    · exact Sys.Total.pure ()
    · next some_left =>
      refine (tick_total content known).bind fun _ => ?_
      have size : 0 < chunkSize := by decide
      have length : (rest.take (min chunkSize remaining)).length = min (min chunkSize remaining) rest.length := length_take
      have some_chunk : rest.take (min chunkSize remaining) ≠ [] := length_pos_iff.mp (by omega)
      rw [if_neg some_chunk]
      refine (call_total content known apart _).bind fun _ => ih ?_
      rw [length_drop]
      omega

theorem created_calm {content : Bytes} {known : List (Sealed Key)} {convert : Raised → Raised} {body : Prog Key Unit}
    (apart : source ≠ target) (total : Sys.Total (Calm source content known) body) (calm : Calm source content known w)
    (absent : w.files target = none) : ∃ w', (created target convert body).run w = (.ok (), w') := by
  have opened : (openExclusive target).run w = (.ok (), w.put target (some [])) := by
    unfold openExclusive
    rw [bind_of_ok (tick_calm calm.1), run_get_bind, absent]
    rfl
  obtain ⟨_, w', ran, _⟩ := total (w.put target (some [])) ⟨calm.1, (put_others apart _).trans calm.2.1, calm.2.2⟩
  exact ⟨w', by unfold created; rw [bind_of_ok opened, handle_of_ok ran]⟩

theorem derive_ok {salt : Bytes} (long : 16 ≤ passphrase.length) :
    derive primitives passphrase salt = .ok (primitives.scrypt passphrase salt) := if_neg (Nat.not_lt.mpr long)

/-- If nothing fails, then a source is encrypted to a new target. -/
theorem encrypt_calm {content salt nonce : Bytes} (calm : Calm source content [] w) (absent : w.files target = none)
    (long : 16 ≤ passphrase.length) :
    ∃ w', (encrypt primitives salt nonce source target passphrase).run w = (.ok (), w') := by
  have apart : source ≠ target := by
    rintro rfl
    have there := calm.2.1
    rw [absent] at there
    cases there
  have body : Sys.Total (Calm source content []) (do
      let content ← readable source
      call target (magic ++ salt ++ nonce)
      writeChunks target (primitives.stream (primitives.scrypt passphrase salt) nonce) 0 (chunks content.length content)
      let cipher := update (primitives.stream (primitives.scrypt passphrase salt) nonce) 0 content
      let tag := primitives.tag (primitives.scrypt passphrase salt) nonce (magic ++ salt ++ nonce) cipher
      Sys.modify fun w => { w with made := w.made ++
        [{ key := primitives.scrypt passphrase salt, nonce, header := magic ++ salt ++ nonce, cipher, tag }] }
      call target []
      call target tag
      tick : Prog Key Unit) := by
    have reads : Sys.Total (Calm source content []) (readable source : Prog Key Bytes) := fun w calm =>
      ⟨content, w, readable_calm calm, calm⟩
    refine reads.bind fun _ => (call_total content [] apart _).bind fun _ => ?_
    refine (writeChunks_total content [] apart _ _ _).bind fun _ => ?_
    refine Sys.Total.bind (fun w calm => ⟨(), _, rfl, calm.1, calm.2.1, fun _ member => nomatch member⟩) fun _ => ?_
    refine (call_total content [] apart _).bind fun _ => (call_total content [] apart _).bind fun _ => ?_
    exact tick_total content []
  obtain ⟨w', ran⟩ : ∃ w', (created target id _).run w = (.ok (), w') := created_calm apart body calm absent
  refine ⟨w', ?_⟩
  unfold encrypt
  rw [ofExcept_bind (derive_ok long)]
  exact ran

variable [DecidableEq Key]

theorem decryptBody_keeps (key : Key) (nonce header tag body : Bytes) (remaining : Nat) : Keeps (Aside target) (do
    readChunks target (primitives.stream key nonce) remaining remaining 0 body
    let w ← Sys.get
    if ⟨key, nonce, header, body.take remaining, tag⟩ ∈ w.made then call target [] else fail .invalidTag
    tick : Prog Key Unit) := by
  refine (readChunks_keeps _ _ _ _).bind fun _ => Keeps.get.bind fun w => ?_
  split
  · exact call_keeps.bind fun _ => tick_keeps
  · exact (Keeps.fail _).bind fun _ => tick_keeps

theorem decrypt_error {raised : Raised} (ran : (decrypt primitives source target passphrase).run w = (.error raised, w'))
    (removed : w.files target = none → raised ≠ .interrupt ∧ w.removal = none) : w'.files = w.files := by
  rcases bind_eq_error.mp ran with stated | ⟨file, stated, first, ran⟩
  · exact readable_same stated
  · have statedFiles := readable_same first
    dsimp only at ran
    split at ran
    · cases ran
      exact statedFiles
    · rcases bind_eq_error.mp ran with opened | ⟨content, opened, second, ran⟩
      · exact (readable_same opened).trans statedFiles
      · have openedFiles := (readable_same second).trans statedFiles
        rcases bind_eq_error.mp ran with headed | ⟨_, headed, third, ran⟩
        · exact (tick_same headed).trans openedFiles
        · have headedFiles := (tick_same third).trans openedFiles
          split at ran
          · cases ran
            exact headedFiles
          · rcases bind_eq_error.mp ran with tagged | ⟨_, tagged, fourth, ran⟩
            · exact (tick_same tagged).trans headedFiles
            · have taggedFiles := (tick_same fourth).trans headedFiles
              rcases bind_eq_error.mp ran with sought | ⟨_, sought, fifth, ran⟩
              · exact (tick_same sought).trans taggedFiles
              · have soughtFiles := (tick_same fifth).trans taggedFiles
                have removal : sought.removal = w.removal := by
                  rw [tick_removal fifth, tick_removal fourth, tick_removal third, readable_removal second,
                    readable_removal first]
                rcases bind_eq_error.mp ran with derived | ⟨key, same, derived, ran⟩
                · cases (Prod.mk.inj derived).2
                  exact soughtFiles
                · cases (Prod.mk.inj derived).2
                  rw [← soughtFiles]
                  refine created_error (decryptBody_keeps key _ _ _ _ _) ran fun absent => ?_
                  rw [soughtFiles] at absent
                  rw [removal]
                  exact removed absent

/-- What a decryption that ends well has found in the source. -/
theorem decrypt_ok (ran : (decrypt primitives source target passphrase).run w = (.ok (), w')) :
    ∃ file, w.files source = some file ∧ headerSize + tagSize ≤ file.length ∧
      let header := file.take headerSize
      let key := primitives.scrypt passphrase ((header.drop magic.length).take saltSize)
      let nonce := header.drop (header.length - nonceSize)
      let cipher := (file.drop headerSize).take (file.length - headerSize - tagSize)
      ⟨key, nonce, header, cipher, file.drop (file.length - tagSize)⟩ ∈ w.made ∧
        w'.files target = some (update (primitives.stream key nonce) 0 cipher) ∧ w'.made = w.made := by
  obtain ⟨file, stated, first, ran⟩ := bind_eq_ok.mp ran
  obtain ⟨found, filesStated, madeStated⟩ := readable_ok first
  dsimp only at ran
  split at ran
  · cases ran
  · next complete =>
    obtain ⟨again, opened, second, ran⟩ := bind_eq_ok.mp ran
    obtain ⟨foundAgain, filesOpened, madeOpened⟩ := readable_ok second
    rw [filesStated, found] at foundAgain
    cases foundAgain
    obtain ⟨_, headed, third, ran⟩ := bind_eq_ok.mp ran
    obtain ⟨filesHeaded, madeHeaded⟩ := tick_ok third
    split at ran
    · cases ran
    · obtain ⟨_, tagged, fourth, ran⟩ := bind_eq_ok.mp ran
      obtain ⟨filesTagged, madeTagged⟩ := tick_ok fourth
      obtain ⟨_, sought, fifth, ran⟩ := bind_eq_ok.mp ran
      obtain ⟨filesSought, madeSought⟩ := tick_ok fifth
      obtain ⟨key, derived, ran⟩ := ofExcept_bind_ok ran
      have same : key = primitives.scrypt passphrase (((file.take headerSize).drop magic.length).take saltSize) := by
        unfold derive at derived
        split at derived
        · cases derived
        · cases derived
          rfl
      subst same
      obtain ⟨absent, start, files, keptStart, ran⟩ := created_ok ran
      have empty : start.files target = some [] := by rw [files, put_files]
      obtain ⟨_, filled, readAll, ran⟩ := bind_eq_ok.mp ran
      obtain ⟨body, keptFilled⟩ := readChunks_ok readAll (Nat.le_refl _) empty
      have noted : filled.made = w.made := by
        rw [keptFilled, keptStart, madeSought, madeTagged, madeHeaded, madeOpened, madeStated]
      rw [run_get_bind] at ran
      split at ran
      · next known =>
        obtain ⟨_, finalized, last, closed⟩ := bind_eq_ok.mp ran
        obtain ⟨whole, keptLast⟩ := call_ok last body
        obtain ⟨filesClosed, madeClosed⟩ := tick_ok closed
        refine ⟨file, found, Nat.not_lt.mp complete, noted ▸ known, ?_, ?_⟩
        · rw [filesClosed, whole, append_nil, nil_append]
        · rw [madeClosed, keptLast, noted]
      · obtain ⟨_, _, failed, _⟩ := bind_eq_ok.mp ran
        cases failed

theorem cut_file {file : Bytes} {head tail : Nat} (fits : head + tail ≤ file.length) :
    file.take head ++ (file.drop head).take (file.length - head - tail) ++ file.drop (file.length - tail) = file := by
  have last : file.drop (file.length - tail) = (file.drop head).drop (file.length - head - tail) := by
    rw [drop_drop]
    exact congrArg (List.drop · file) (by omega)
  rw [last, append_assoc, take_append_drop, take_append_drop]

/-- If nothing fails, then an archive is decrypted to a new target under its own passphrase. -/
theorem decrypt_calm (calm : Calm source (made.archive primitives) [made.sealed primitives] w)
    (absent : w.files target = none) (long : 16 ≤ made.passphrase.length) :
    ∃ w', (decrypt primitives source target made.passphrase).run w = (.ok (), w') := by
  have apart : source ≠ target := by
    rintro rfl
    have there := calm.2.1
    rw [absent] at there
    cases there
  have length := made.archive_length primitives
  have begins : magic.isPrefixOf made.header = true :=
    isPrefixOf_iff_prefix.mpr ⟨made.salt ++ made.nonce, (append_assoc _ _ _).symm⟩
  have total : Sys.Total (Calm source (made.archive primitives) [made.sealed primitives]) (do
      readChunks target (primitives.stream (made.key primitives) made.nonce)
        ((made.archive primitives).length - headerSize - tagSize)
        ((made.archive primitives).length - headerSize - tagSize) 0 ((made.archive primitives).drop headerSize)
      let w ← Sys.get
      if made.sealed primitives ∈ w.made then call target [] else fail .invalidTag
      tick : Prog Key Unit) := by
    refine (readChunks_total _ _ apart _ (by rw [length_drop]; omega)).bind fun _ => ?_
    intro later calmLater
    have known := calmLater.2.2 _ (mem_singleton.mpr rfl)
    obtain ⟨_, last, ran, held⟩ := call_total _ _ apart [] later calmLater
    obtain ⟨_, closed, ran', held'⟩ := tick_total _ _ last held
    refine ⟨(), closed, ?_, held'⟩
    rw [run_get_bind, if_pos known, bind_of_ok ran]
    exact ran'
  obtain ⟨w', ran⟩ : ∃ w', (created target wrongTag _).run w = (.ok (), w') := created_calm apart total calm absent
  refine ⟨w', ?_⟩
  have complete : ¬(made.archive primitives).length < headerSize + tagSize := by omega
  unfold decrypt
  rw [bind_of_ok (readable_calm calm)]
  dsimp only
  rw [if_neg complete, bind_of_ok (readable_calm calm), bind_of_ok (tick_calm calm.1), made.archive_header, begins, if_neg (by decide),
    bind_of_ok (tick_calm calm.1), bind_of_ok (tick_calm calm.1), made.header_salt, ofExcept_bind (derive_ok long),
    made.header_nonce, made.archive_cipher, made.archive_tag]
  exact ran

end

/-- What happens in a place: runs of the two programs, files that anyone changes, and what will fail. -/
inductive Event
  | encrypt (salt nonce : Bytes) (source target : Path) (passphrase : String) (salted : salt.length = saltSize)
    (nonced : nonce.length = nonceSize)
  | decrypt (source target : Path) (passphrase : String)
  | edit (path : Path) (content : Option Bytes)
  | weather (faults : List (Option Fault)) (removal : Option Raised)

section
variable (primitives : Primitives Key)

/-- Every run that is known is one of `encrypt`. -/
def Genuine (w : World Key) : Prop := ∀ entry ∈ w.made, ∃ made : Made, entry = made.sealed primitives

theorem genuine_of_made {p : Prog Key α} (same : ∀ w, (p.run w).2.made = w.made) : Keeps (Stays (Genuine primitives)) p := by
  intro w genuine entry member
  rw [same w] at member
  exact genuine entry member

theorem tick_genuine : Keeps (Stays (Genuine primitives)) tick := by
  refine genuine_of_made primitives fun w => ?_
  unfold tick
  dsimp only
  split <;> rfl

theorem call_genuine (target : Path) (bytes : Bytes) : Keeps (Stays (Genuine primitives)) (call target bytes) := by
  refine genuine_of_made primitives fun w => ?_
  unfold call
  dsimp only
  split <;> rfl

theorem readable_genuine (source : Path) : Keeps (Stays (Genuine primitives)) (readable source) := by
  refine (tick_genuine primitives).bind fun _ => Keeps.get.bind fun w => ?_
  split
  · exact Keeps.fail _
  · exact Keeps.pure _

theorem writeChunks_genuine (target : Path) (stream : Nat → UInt8) (position : Nat) (list : List Bytes) :
    Keeps (Stays (Genuine primitives)) (writeChunks target stream position list) := by
  induction list generalizing position with
  | nil => exact tick_genuine primitives
  | cons chunk list ih => exact (tick_genuine primitives).bind fun _ => (call_genuine primitives target _).bind fun _ => ih _

theorem readChunks_genuine (target : Path) (stream : Nat → UInt8) (fuel remaining position : Nat) (rest : Bytes) :
    Keeps (Stays (Genuine primitives)) (readChunks target stream fuel remaining position rest) := by
  induction fuel generalizing remaining position rest with
  | zero => exact Keeps.pure ()
  | succ fuel ih =>
    unfold readChunks
    split
    · exact Keeps.pure ()
    · refine (tick_genuine primitives).bind fun _ => ?_
      dsimp only
      split
      · exact Keeps.fail _
      · exact (call_genuine primitives target _).bind fun _ => ih _ _ _

theorem created_genuine (target : Path) (convert : Raised → Raised) {body : Prog Key Unit}
    (keeps : Keeps (Stays (Genuine primitives)) body) :
    Keeps (Stays (Genuine primitives)) (created target convert body) := by
  have opens : Keeps (Stays (Genuine primitives)) (openExclusive target : Prog Key Unit) := by
    refine (tick_genuine primitives).bind fun _ => Keeps.get.bind fun w => ?_
    split
    · exact Keeps.fail _
    · exact Keeps.modify fun w genuine => genuine
  have removes : Keeps (Stays (Genuine primitives)) (unlink target : Prog Key Unit) := by
    refine Keeps.get.bind fun w => ?_
    split
    · exact Keeps.fail _
    · exact Keeps.modify fun w genuine => genuine
  refine opens.bind fun _ => keeps.handle fun raised => ?_
  split
  · exact Keeps.fail _
  · exact removes.bind fun _ => Keeps.fail _

theorem encrypt_genuine {salt nonce : Bytes} (source target : Path) (passphrase : String) (salted : salt.length = saltSize)
    (nonced : nonce.length = nonceSize) :
    Keeps (Stays (Genuine primitives)) (encrypt primitives salt nonce source target passphrase) := by
  intro w
  unfold encrypt
  by_cases long : passphrase.length < 16
  · have short : derive primitives passphrase salt = .error (.portable "A valid destination recovery key is required") :=
      if_pos long
    rw [short]
    exact fun genuine => genuine
  · rw [ofExcept_bind (derive_ok (Nat.not_lt.mp long))]
    refine created_genuine primitives target id ((readable_genuine primitives source).bind fun content => ?_) w
    refine (call_genuine primitives target _).bind fun _ => (writeChunks_genuine primitives target _ _ _).bind fun _ => ?_
    refine (Keeps.modify fun w genuine entry member => ?_).bind fun _ => ?_
    · rcases mem_append.mp member with old | new
      · exact genuine entry old
      · exact ⟨⟨passphrase, salt, nonce, content, salted, nonced⟩, mem_singleton.mp new⟩
    · exact (call_genuine primitives target _).bind fun _ => (call_genuine primitives target _).bind fun _ => tick_genuine primitives

variable [DecidableEq Key]

theorem decrypt_genuine (source target : Path) (passphrase : String) :
    Keeps (Stays (Genuine primitives)) (decrypt primitives source target passphrase) := by
  refine (readable_genuine primitives source).bind fun _ => ?_
  dsimp only
  split
  · exact Keeps.fail _
  · refine (readable_genuine primitives source).bind fun _ => (tick_genuine primitives).bind fun _ => ?_
    split
    · exact Keeps.fail _
    · refine (tick_genuine primitives).bind fun _ => (tick_genuine primitives).bind fun _ => ?_
      refine (Keeps.ofExcept _).bind fun key => created_genuine primitives target wrongTag ?_
      refine (readChunks_genuine primitives target _ _ _ _ _).bind fun _ => Keeps.get.bind fun w => ?_
      split
      · exact (call_genuine primitives target _).bind fun _ => tick_genuine primitives
      · exact (Keeps.fail _).bind fun _ => tick_genuine primitives

def happen (event : Event) (w : World Key) : World Key :=
  match event with
  | .encrypt salt nonce source target passphrase _ _ => ((encrypt primitives salt nonce source target passphrase).run w).2
  | .decrypt source target passphrase => ((decrypt primitives source target passphrase).run w).2
  | .edit path content => w.put path content
  | .weather faults removal => { w with faults, removal }

/-- The worlds that any events lead to, from one in which nothing has been encrypted. -/
def Reached (w : World Key) : Prop :=
  ∃ start : World Key, start.made = [] ∧ Sys.Reaches (happen primitives) (fun _ _ => True) start w

variable {primitives}

theorem Reached.genuine {w : World Key} (reached : Reached primitives w) : Genuine primitives w := by
  obtain ⟨start, empty, run⟩ := reached
  refine run.invariant (fun entry member => by rw [empty] at member; cases member) fun w event _ => ?_
  cases event with
  | encrypt salt nonce source target passphrase salted nonced => exact encrypt_genuine primitives source target passphrase salted nonced w
  | decrypt source target passphrase => exact decrypt_genuine primitives source target passphrase w
  | edit path content => exact fun genuine => genuine
  | weather faults removal => exact fun genuine => genuine

/-- A file that is decrypted is the archive of a run under the same passphrase. -/
theorem decrypt_made {w w' : World Key} {source target : Path} {passphrase : String} (genuine : Genuine primitives w)
    (free : ∀ salt p q, primitives.scrypt p salt = primitives.scrypt q salt → p = q)
    (ran : (decrypt primitives source target passphrase).run w = (.ok (), w')) :
    ∃ made : Made, made.passphrase = passphrase ∧ made.sealed primitives ∈ w.made ∧
      w.files source = some (made.archive primitives) ∧ w'.files target = some made.content := by
  obtain ⟨file, found, complete, known, written, _⟩ := decrypt_ok ran
  obtain ⟨made, same⟩ := genuine _ known
  have fields := Sealed.mk.inj same
  obtain ⟨key, nonce, header, cipher, tag⟩ := fields
  have salt : ((file.take headerSize).drop magic.length).take saltSize = made.salt := by
    rw [header]
    exact made.header_salt
  rw [salt] at key written
  refine ⟨made, (free _ _ _ key).symm, same ▸ known, ?_, ?_⟩
  · rw [found, ← cut_file complete, header, cipher, tag]
    rfl
  · rw [written, cipher, nonce, key, made.cipher_content]

end

/-- Archives come back, nothing else is decrypted, and an exception leaves no target behind that was not there before,
unless the removal of the target fails as well. -/
structure Archived [DecidableEq Key] (primitives : Primitives Key) (w : World Key) : Prop where
  encrypts : ∀ (made : Made) source target, 16 ≤ made.passphrase.length → w.files source = some made.content →
    w.files target = none → w.faults = [] →
      ∃ w', (encrypt primitives made.salt made.nonce source target made.passphrase).run w = (.ok (), w')
  returns : ∀ (made : Made) source target w', 16 ≤ made.passphrase.length → w.files source = some made.content →
    (encrypt primitives made.salt made.nonce source target made.passphrase).run w = (.ok (), w') →
      ∀ again last (other : World Key), other.faults = [] → other.files again = w'.files target → other.files last = none →
        (∀ entry ∈ w'.made, entry ∈ other.made) →
          ∃ ended, (decrypt primitives again last made.passphrase).run other = (.ok (), ended) ∧
            ended.files last = some made.content
  nothingElse : ∀ source target passphrase w', (decrypt primitives source target passphrase).run w = (.ok (), w') →
    ∃ made : Made, made.passphrase = passphrase ∧ made.sealed primitives ∈ w.made ∧
      w.files source = some (made.archive primitives) ∧ w'.files target = some made.content
  encryptRaises : ∀ salt nonce source target passphrase raised w',
    (encrypt primitives salt nonce source target passphrase).run w = (.error raised, w') →
      (w.files target = none → raised ≠ .interrupt ∧ w.removal = none) → w'.files = w.files
  decryptRaises : ∀ source target passphrase raised w',
    (decrypt primitives source target passphrase).run w = (.error raised, w') →
      (w.files target = none → raised ≠ .interrupt ∧ w.removal = none) → w'.files = w.files

/-- A cipher that leaves everything as it is, with a tag of zeros. -/
def plainPrimitives : Primitives (String × Bytes) where
  scrypt passphrase salt := (passphrase, salt)
  stream _ _ _ := 0
  tag _ _ _ _ := List.replicate tagSize 0
  tag_length _ _ _ _ := List.length_replicate

/-- Two bytes in one file, and calls that will fail. -/
def smallWorld (faults : List (Option Fault)) (removal : Option Raised) : World (String × Bytes) where
  files path := if path = "archive.tar" then some [7, 9] else none
  made := []
  faults
  removal

def smallRun (faults : List (Option Fault)) (removal : Option Raised) :
    Except Raised Unit × World (String × Bytes) :=
  (encrypt plainPrimitives (List.replicate 16 1) (List.replicate 12 2) "archive.tar" "archive.enc"
    "correct horse battery staple").run (smallWorld faults removal)

end Boron.PortableCrypto
