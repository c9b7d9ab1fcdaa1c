import Boron.Rpc.Frames

namespace Boron.Rpc
open List Json

variable {F : Type} {lib : Floats F}

theorem decodeUtf8_encodeUtf8 (text : List Char) : decodeUtf8 (encodeUtf8 text) = some text := by
  have decoded : (encodeUtf8 text).toByteArray.utf8Decode? = some text.toArray := List.utf8Decode?_utf8Encode
  unfold decodeUtf8
  rw [decoded]
  simp

theorem length_encodeUtf8 {text : List Char} (ascii : Ascii text) : (encodeUtf8 text).length = text.length := by
  induction text with
  | nil => rfl
  | cons c text ih =>
    obtain ⟨small, others⟩ := ascii_cons.mp ascii
    have one : c.utf8Size = 1 := by
      have bound : c.val.toNat < 128 := small
      unfold Char.utf8Size
      rw [if_pos (UInt32.le_iff_toNat_le.mpr (Nat.le_of_lt_succ bound))]
    have rest := ih others
    unfold encodeUtf8 at rest ⊢
    rw [flatMap_cons, length_append, String.length_utf8EncodeChar, one, rest, length_cons]
    omega

theorem unpackLength_packLength {length : Nat} {header : Bytes} (packed : packLength length = some header) :
    header.length = 4 ∧ unpackLength header = length ∧ length < 4294967296 := by
  unfold packLength at packed
  split at packed
  · next small =>
    cases packed
    refine ⟨rfl, ?_, small⟩
    simp only [unpackLength, foldl_cons, foldl_nil, UInt8.toNat_ofNat']
    omega
  · cases packed

/-- A stream that hands out its bytes in their order, however they arrive. -/
structure Faithful {σ : Type} (exactly : Nat → σ → Except String (Bytes × σ)) (bytes : σ → Bytes) (good : σ → Prop) :
    Prop where
  gives : ∀ stream front behind, good stream → bytes stream = front ++ behind →
    ∃ left, exactly front.length stream = .ok (front, left) ∧ bytes left = behind ∧ good left

theorem recvExact_faithful : Faithful recvExact flatten fun chunks => ∀ chunk ∈ chunks, chunk ≠ [] := by
  refine ⟨fun chunks => ?_⟩
  induction chunks with
  | nil =>
    intro front behind _ same
    obtain ⟨rfl, rfl⟩ := append_eq_nil_iff.mp same.symm
    exact ⟨[], rfl, rfl, nofun⟩
  | cons chunk chunks ih =>
    intro front behind good same
    have some_bytes := good chunk mem_cons_self
    have others : ∀ chunk ∈ chunks, chunk ≠ [] := fun other member => good other (mem_cons_of_mem chunk member)
    cases count : front.length with
    | zero =>
      obtain rfl := length_eq_zero_iff.mp count
      exact ⟨chunk :: chunks, rfl, same, good⟩
    | succ remaining =>
      rw [recvExact, if_neg some_bytes]
      by_cases whole : chunk.length ≤ remaining + 1
      · obtain ⟨tail, rfl, later⟩ : ∃ tail, front = chunk ++ tail ∧ chunks.flatten = tail ++ behind := by
          obtain ⟨tail, rfl, later⟩ | ⟨tail, rfl, later⟩ := append_eq_append_iff.mp same
          · exact ⟨tail, rfl, later⟩
          · have none : tail = [] := by
              refine length_eq_zero_iff.mp ?_
              simp only [length_append] at whole
              omega
            subst none
            exact ⟨[], by simp, by simpa using later.symm⟩
        obtain ⟨left, got, rest, stays⟩ := ih tail behind others later
        have length : remaining + 1 - chunk.length = tail.length := by
          rw [length_append] at count
          omega
        refine ⟨left, ?_, rest, stays⟩
        rw [if_pos whole, length, got]
        rfl
      · obtain ⟨tail, rfl, later⟩ : ∃ tail, chunk = front ++ tail ∧ behind = tail ++ chunks.flatten := by
          obtain ⟨tail, rfl, later⟩ | ⟨tail, rfl, later⟩ := append_eq_append_iff.mp same
          · simp only [length_append] at count
            omega
          · exact ⟨tail, rfl, later⟩
        refine ⟨tail :: chunks, ?_, later.symm, ?_⟩
        · rw [if_neg whole, ← count, take_left, drop_left]
        · intro other member
          rcases mem_cons.mp member with rfl | inside
          · rintro rfl
            rw [append_nil] at whole
            omega
          · exact others other inside

theorem readExactly_faithful : Faithful (fun count reader => readExactly count reader.buffer reader.incoming)
    StreamReader.bytes fun _ => True := by
  refine ⟨fun ⟨buffer, incoming⟩ front behind _ same => ?_⟩
  unfold StreamReader.bytes at same
  dsimp only at same ⊢
  have enough {buffer : Bytes} {incoming : List Bytes} (same : buffer ++ incoming.flatten = front ++ behind)
      (there : front.length ≤ buffer.length) : buffer.take front.length = front ∧
        buffer.drop front.length ++ incoming.flatten = behind := by
    have taken := congrArg (take front.length) same
    have dropped := congrArg (List.drop front.length) same
    rw [take_append_of_le_length there, take_left] at taken
    rw [drop_append_of_le_length there, drop_left] at dropped
    exact ⟨taken, dropped⟩
  induction incoming generalizing buffer with
  | nil =>
    have there : front.length ≤ buffer.length := by
      rw [flatten_nil, append_nil] at same
      rw [same, length_append]
      omega
    obtain ⟨taken, dropped⟩ := enough same there
    exact ⟨⟨buffer.drop front.length, []⟩, by rw [readExactly, if_pos there, taken], dropped, trivial⟩
  | cons chunk incoming ih =>
    by_cases there : front.length ≤ buffer.length
    · obtain ⟨taken, dropped⟩ := enough same there
      exact ⟨⟨buffer.drop front.length, chunk :: incoming⟩, by rw [readExactly, if_pos there, taken], dropped, trivial⟩
    · rw [readExactly, if_neg there]
      exact ih (buffer ++ chunk) (by rw [append_assoc, ← flatten_cons, same])

variable {body : Value F}

theorem frame_parts {frame : Bytes} (encoded : encodeBody lib body = some frame) :
    ∃ header payload, frame = header ++ payload ∧ header.length = 4 ∧ payload.length = body.size lib ∧
      (decodeUtf8 payload).bind (loads lib) = some body.read ∧ decodeFrameHeader header =
        if maxFrameBytes < body.size lib then .error s!"frame of {body.size lib} bytes exceeds max {maxFrameBytes}"
        else .ok (body.size lib) := by
  obtain ⟨text, dumped, framed⟩ := Option.bind_eq_some_iff.mp encoded
  obtain ⟨header, packed, rfl⟩ := Option.map_eq_some_iff.mp framed
  obtain ⟨four, length, _⟩ := unpackLength_packLength packed
  have written : text = body.text lib := by
    unfold dumps at dumped
    split at dumped
    · exact (Option.some.inj dumped).symm
    · cases dumped
  have size : (encodeUtf8 text).length = body.size lib := by
    rw [written, length_encodeUtf8 (ascii_text body), length_text]
  refine ⟨header, encodeUtf8 text, rfl, four, size, ?_, ?_⟩
  · rw [decodeUtf8_encodeUtf8, Option.bind_some, loads_dumps dumped]
  · unfold decodeFrameHeader
    rw [if_neg (not_not_intro four), length, size]

theorem readWith_frame {σ : Type} {exactly : Nat → σ → Except String (Bytes × σ)} {bytes : σ → Bytes} {good : σ → Prop}
    (faithful : Faithful exactly bytes good) {stream : σ} {frame behind : Bytes} (stands : good stream)
    (encoded : encodeBody lib body = some frame) (arrives : bytes stream = frame ++ behind) :
    ∃ left, bytes left = behind ∧ readWith exactly lib stream =
      if maxFrameBytes < body.size lib then
        .error s!"frame of {body.size lib} bytes exceeds max {maxFrameBytes}"
      else .ok (body.read, left) := by
  obtain ⟨header, payload, rfl, four, size, loaded, decoded⟩ := frame_parts encoded
  rw [append_assoc] at arrives
  obtain ⟨middle, gotHeader, rest, stillStands⟩ := faithful.gives stream header _ stands arrives
  obtain ⟨left, gotPayload, remains, _⟩ := faithful.gives middle payload behind stillStands rest
  refine ⟨left, remains, ?_⟩
  rw [four] at gotHeader
  unfold readWith
  rw [gotHeader]
  change (decodeFrameHeader header >>= _) = _
  rw [decoded]
  split
  · rfl
  · rw [← size]
    change (exactly payload.length middle >>= _) = _
    rw [gotPayload]
    dsimp only [bind, Except.bind]
    rw [loaded]

/-- A frame is within the limit, and both decoders read it as it was encoded,
however its bytes and those behind it arrive. -/
structure Delivered (lib : Floats F) (body : Value F) (frame : Bytes) : Prop where
  within : frame.length ≤ 4 + maxFrameBytes
  sync : ∀ chunks behind, (∀ chunk ∈ chunks, chunk ≠ []) → chunks.flatten = frame ++ behind →
    ∃ left, readFrameSync lib chunks = .ok (body, left) ∧ left.flatten = behind
  async : ∀ reader behind, reader.bytes = frame ++ behind →
    ∃ left, readFrame lib reader = .ok (body, left) ∧ left.bytes = behind

theorem length_frame {frame : Bytes} (encoded : encodeBody lib body = some frame) :
    frame.length = 4 + body.size lib := by
  obtain ⟨header, payload, rfl, four, size, _⟩ := frame_parts encoded
  rw [length_append, four, size]

/-- An encoded body is delivered exactly when its text is within the limit and
has no pair of surrogates to join. -/
theorem delivered_iff {frame : Bytes} (distinct : body.Distinct) (encoded : encodeBody lib body = some frame) :
    Delivered lib body frame ↔ body.size lib ≤ maxFrameBytes ∧ body.Unpaired := by
  have length := length_frame encoded
  constructor
  · intro delivered
    have small : body.size lib ≤ maxFrameBytes := by
      have within := delivered.within
      omega
    have arrives : (StreamReader.mk frame []).bytes = frame ++ [] := rfl
    obtain ⟨left, read, _⟩ := delivered.async ⟨frame, []⟩ [] arrives
    obtain ⟨left', _, same⟩ := readWith_frame readExactly_faithful trivial encoded arrives
    rw [if_neg (Nat.not_lt.mpr small)] at same
    have equal := (read.symm.trans same)
    refine ⟨small, (read_eq_self_iff body distinct).mp ?_⟩
    injection equal with pair
    exact (congrArg Prod.fst pair).symm
  · rintro ⟨small, unpaired⟩
    have itself := (read_eq_self_iff body distinct).mpr unpaired
    refine ⟨by omega, fun chunks behind stands arrives => ?_, fun reader behind arrives => ?_⟩
    · obtain ⟨left, rest, read⟩ := readWith_frame recvExact_faithful stands encoded arrives
      rw [if_neg (Nat.not_lt.mpr small), itself] at read
      exact ⟨left, read, rest⟩
    · obtain ⟨left, rest, read⟩ := readWith_frame readExactly_faithful trivial encoded arrives
      rw [if_neg (Nat.not_lt.mpr small), itself] at read
      exact ⟨left, read, rest⟩

theorem distinctItems_strs (texts : List Str) : DistinctItems (texts.map (.str : Str → Value F)) := by
  induction texts with
  | nil => exact trivial
  | cons text texts ih => exact ⟨trivial, ih⟩

theorem protocolEnvelope_distinct : (protocolEnvelope : Value F).Distinct :=
  ⟨by simp [ofText, codePoint], trivial, distinctItems_strs rpcProtocolCapabilities, trivial⟩

theorem RpcRequest.body_distinct (request : RpcRequest F) : request.body.Distinct := by
  obtain ⟨op, params, credential, requestId⟩ := request
  refine ⟨by simp [ofText, codePoint], trivial, params.property, ?_, trivial, protocolEnvelope_distinct, trivial⟩
  cases credential with
  | none => exact trivial
  | some fields =>
    refine ⟨?_, ?_⟩
    · rw [map_map]
      exact fields.property
    · induction fields.val with
      | nil => exact trivial
      | cons field fields ih => exact ⟨trivial, ih⟩

theorem Response.body_distinct (response : Response F) : response.body.Distinct := by
  have error : response.error.Distinct := by
    unfold Response.error
    cases response.diagnostic with
    | none => exact ⟨by simp [ofText, codePoint], trivial, trivial, trivial⟩
    | some fields =>
      dsimp only
      split
      · exact ⟨by simp [ofText, codePoint], trivial, trivial, trivial⟩
      · exact ⟨by simp [ofText, codePoint], trivial, trivial, fields.property, trivial⟩
  unfold Response.body
  split
  · exact ⟨by simp [ofText, codePoint], trivial, response.result.property, protocolEnvelope_distinct, trivial⟩
  · exact ⟨by simp [ofText, codePoint], trivial, error, protocolEnvelope_distinct, trivial⟩

/-- Every frame an encoder emits is delivered exactly when the text of its body
is within the limit and no string in it has a high surrogate right before a low
one. -/
theorem frames_delivered_iff (lib : Floats F) :
    (∀ (request : RpcRequest F) (frame : Bytes), request.toBytes lib = some frame →
      (Delivered lib request.body frame ↔ request.body.size lib ≤ maxFrameBytes ∧ request.body.Unpaired)) ∧
    ∀ (response : Response F) (frame : Bytes), encodeResponse lib response = some frame →
      (Delivered lib response.body frame ↔ response.body.size lib ≤ maxFrameBytes ∧ response.body.Unpaired) :=
  ⟨fun request _ encoded => delivered_iff request.body_distinct encoded,
    fun response _ encoded => delivered_iff response.body_distinct encoded⟩

/-- What has no overlong number and fits in four bytes of length is encoded. -/
theorem encodeBody_some {body : Value F} (printable : body.printable = true) (small : body.size lib < 4294967296) :
    ∃ frame, encodeBody lib body = some frame := by
  have length : (encodeUtf8 (body.text lib)).length = body.size lib := by
    rw [length_encodeUtf8 (ascii_text body), length_text]
  have packed : ∃ header, packLength (body.size lib) = some header := ⟨_, if_pos small⟩
  obtain ⟨header, packed⟩ := packed
  refine ⟨header ++ encodeUtf8 (body.text lib), ?_⟩
  unfold encodeBody dumps
  rw [if_pos printable, Option.bind_some, length, packed]
  rfl

def halves : Floats Bool where
  text number := if number then ['1', '.', '5'] else ['0', '.', '5']
  ofText text := text.head? == some '1'
  written number := by
    cases number with
    | false =>
      refine ⟨false, ['0'], ['.', '5'], [], rfl, .inl rfl, .inr ⟨['5'], ⟨by simp, by simp⟩, rfl⟩, .inl rfl, by simp⟩
    | true =>
      refine ⟨false, ['1'], ['.', '5'], [], rfl, .inr ⟨⟨by simp, by simp⟩, by simp⟩,
        .inr ⟨['5'], ⟨by simp, by simp⟩, rfl⟩, .inl rfl, by simp⟩
  ofText_text number := by cases number <;> rfl

def loadResponse : Response Bool :=
  { ok := true, result := ⟨.list [.float true], ⟨trivial, trivial⟩⟩, errorCode := [], errorMessage := [], diagnostic := none }

/-- A listing that is `count` letters long. -/
def longResponse (count : Nat) : Response Bool :=
  { ok := true, result := ⟨.str (List.replicate count 0x61), trivial⟩, errorCode := [], errorMessage := []
    diagnostic := none }

theorem frames_delivered_iff_load :
    ∃ frame, encodeResponse halves loadResponse = some frame ∧ Delivered halves loadResponse.body frame := by
  have size : loadResponse.body.size halves ≤ 1000 := by decide
  obtain ⟨frame, encoded⟩ := @encodeBody_some Bool halves loadResponse.body rfl (by omega)
  have unpaired : loadResponse.body.Unpaired := (read_eq_self_iff _ loadResponse.body_distinct).mp rfl
  have limit : maxFrameBytes = 16777216 := rfl
  exact ⟨frame, encoded, ((frames_delivered_iff halves).2 loadResponse frame encoded).mpr ⟨by omega, unpaired⟩⟩

theorem size_longResponse (count : Nat) :
    (longResponse count).body.size halves = (longResponse 0).body.size halves + count := by
  have letters : ((replicate count (0x61 : CodePoint)).map width).sum = count := by
    induction count with
    | zero => rfl
    | succ count ih =>
      have one : width (0x61 : CodePoint) = 1 := rfl
      rw [replicate_succ, map_cons, sum_cons, ih, one]
      omega
  simp only [longResponse, Response.body, if_true, Value.size, entriesSize, strSize, letters, replicate_zero,
    map_nil, sum_nil]
  omega

/-- A listing of sixteen mebibytes is sent, and no decoder takes it. -/
theorem listing_undelivered : ¬ ∀ (response : Response Bool) (frame : Bytes),
    encodeResponse halves response = some frame → Delivered halves response.body frame := by
  intro always
  have base : (longResponse 0).body.size halves ≤ 1000 := by decide
  have size := size_longResponse (16 * 1024 * 1024)
  obtain ⟨frame, encoded⟩ := @encodeBody_some Bool halves (longResponse (16 * 1024 * 1024)).body rfl (by omega)
  have within := (always _ frame encoded).within
  rw [length_frame encoded, size] at within
  have some_bytes : 0 < (longResponse 0).body.size halves := by decide
  have limit : maxFrameBytes = 16 * 1024 * 1024 := rfl
  omega

end Boron.Rpc
