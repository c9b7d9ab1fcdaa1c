import Boron.Rpc.Delivered

namespace Boron.Rpc
open List Json

variable {F σ : Type} {lib : Floats F} {body : Value F} {frame part lost : Bytes}

/-- A stream that has fewer bytes than it is asked for says so. -/
def Starves (exactly : Nat → σ → Except String (Bytes × σ)) (bytes : σ → Bytes) (good : σ → Prop) (error : String) : Prop :=
  ∀ count stream, good stream → (bytes stream).length < count → exactly count stream = .error error

theorem recvExact_starves :
    Starves recvExact flatten (fun chunks => ∀ chunk ∈ chunks, chunk ≠ []) "socket closed while reading frame" := by
  intro count chunks
  induction chunks generalizing count with
  | nil =>
    intro _ short
    obtain ⟨remaining, rfl⟩ := Nat.exists_eq_succ_of_ne_zero (Nat.ne_of_gt short)
    rfl
  | cons chunk chunks ih =>
    intro good short
    rw [flatten_cons, length_append] at short
    obtain ⟨remaining, rfl⟩ : ∃ remaining, count = remaining + 1 := Nat.exists_eq_succ_of_ne_zero (by omega)
    have later := ih (remaining + 1 - chunk.length) (fun other member => good other (mem_cons_of_mem chunk member)) (by omega)
    rw [recvExact, if_neg (good chunk mem_cons_self), if_pos (by omega), later]
    rfl

theorem readExactly_starves :
    Starves (fun count reader => readExactly count reader.buffer reader.incoming) StreamReader.bytes (fun _ => True)
      "incomplete read" := by
  rintro count ⟨buffer, incoming⟩ - short
  unfold StreamReader.bytes at short
  dsimp only at short ⊢
  rw [length_append] at short
  induction incoming generalizing buffer with
  | nil => rw [readExactly, if_neg (by omega)]
  | cons chunk incoming ih =>
    rw [flatten_cons, length_append] at short
    rw [readExactly, if_neg (by omega)]
    exact ih (buffer ++ chunk) (by rw [length_append]; omega)

/-- What a decoder makes of a frame whose last bytes are lost. -/
def refusal (lib : Floats F) (body : Value F) (part : Bytes) (error : String) : String :=
  if 4 ≤ part.length ∧ maxFrameBytes < body.size lib then s!"frame of {body.size lib} bytes exceeds max {maxFrameBytes}" else error

theorem readWith_part {exactly : Nat → σ → Except String (Bytes × σ)} {bytes : σ → Bytes} {good : σ → Prop} {error : String}
    (faithful : Faithful exactly bytes good) (starves : Starves exactly bytes good error) {stream : σ} (stands : good stream)
    (encoded : encodeBody lib body = some frame) (cut : frame = bytes stream ++ lost) (some_ : lost ≠ []) :
    readWith exactly lib stream = .error (refusal lib body (bytes stream) error) := by
  have missing := length_pos_iff.mpr some_
  obtain ⟨header, payload, rfl, four, length, -, decoded⟩ := frame_parts encoded
  unfold readWith refusal
  by_cases short : (bytes stream).length < 4
  · rw [starves 4 stream stands short, if_neg (by omega)]
    rfl
  · obtain ⟨behind, arrived⟩ : ∃ behind, bytes stream = header ++ behind := by
      obtain ⟨tail, same, -⟩ | ⟨tail, same, -⟩ := append_eq_append_iff.mp cut
      · exact ⟨tail, same⟩
      · have none : tail = [] := by
          have lengths := congrArg List.length same
          rw [length_append] at lengths
          exact length_eq_zero_iff.mp (by omega)
        exact ⟨[], by rw [same, none, append_nil, append_nil]⟩
    obtain ⟨middle, gotHeader, rest, stillStands⟩ := faithful.gives stream header behind stands arrived
    rw [four] at gotHeader
    rw [gotHeader]
    change (decodeFrameHeader header >>= _) = _
    rw [decoded]
    by_cases large : maxFrameBytes < body.size lib
    · rw [if_pos large, if_pos ⟨by omega, large⟩]
      rfl
    · have tooFew : (bytes middle).length < body.size lib := by
        have lengths := congrArg List.length cut
        simp only [arrived, length_append] at lengths
        rw [rest]
        omega
      rw [if_neg large, if_neg fun both => large both.2]
      change (exactly (body.size lib) middle >>= _) = _
      rw [starves _ middle stillStands tooFew]
      rfl

/-- A frame whose connection is lost before its last byte is refused by both decoders, however it arrives: no part of a message
is taken for a message. -/
theorem cut_off_refused (encoded : encodeBody lib body = some frame) (cut : frame = part ++ lost) (some_ : lost ≠ []) :
    (∀ chunks, (∀ chunk ∈ chunks, chunk ≠ []) → chunks.flatten = part →
      readFrameSync lib chunks = .error (refusal lib body part "socket closed while reading frame")) ∧
    ∀ reader, reader.bytes = part → readFrame lib reader = .error (refusal lib body part "incomplete read") := by
  constructor
  · rintro chunks good rfl
    exact readWith_part recvExact_faithful recvExact_starves good encoded cut some_
  · rintro reader rfl
    exact readWith_part readExactly_faithful readExactly_starves trivial encoded cut some_

theorem cut_off_refused_load : ∃ frame, encodeResponse halves loadResponse = some frame ∧
    readFrame halves ⟨frame.dropLast, []⟩ = .error "incomplete read" := by
  have size : loadResponse.body.size halves ≤ 1000 := by decide
  obtain ⟨frame, encoded⟩ := @encodeBody_some Bool halves loadResponse.body rfl (by omega)
  have some_ : frame ≠ [] := fun none => by
    have length := length_frame encoded
    rw [none, length_nil] at length
    omega
  have refused := (cut_off_refused encoded (dropLast_append_getLast some_).symm (cons_ne_nil _ _)).2 ⟨frame.dropLast, []⟩
    (append_nil _)
  have limit : maxFrameBytes = 16777216 := rfl
  rw [refusal, if_neg fun both => by omega] at refused
  exact ⟨frame, encoded, refused⟩

end Boron.Rpc
