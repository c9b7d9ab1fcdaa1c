import Boron.Lib.JsonEqual

namespace Boron.Rpc
open Json

abbrev Bytes := List UInt8

def maxFrameBytes : Nat := 16 * 1024 * 1024

variable {F : Type}

/-- `str.encode("utf-8")`. -/
def encodeUtf8 (text : List Char) : Bytes := text.flatMap String.utf8EncodeChar

/-- `bytes.decode("utf-8")`. -/
def decodeUtf8 (bytes : Bytes) : Option (List Char) := bytes.toByteArray.utf8Decode?.map Array.toList

abbrev Dict (F : Type) := { entries : List (Str × Value F) // (Value.dict entries).Distinct }

/-- `RPC_PROTOCOL_VERSION`, of version 3.2.2. -/
def rpcProtocolVersion : Str := ofText ['3', '.', '2']

def rpcProtocolCapabilities : List Str :=
  [ofText "json-frame-v1".toList, ofText "request-id-v1".toList, ofText "error-diagnostic-v1".toList,
    ofText "principal-credential-v1".toList]

def protocolEnvelope : Value F :=
  .dict [(ofText "version".toList, .str rpcProtocolVersion),
    (ofText "capabilities".toList, .list (rpcProtocolCapabilities.map .str))]

structure RpcRequest (F : Type) where
  op : Str
  params : Dict F
  credential : Option { fields : List (Str × Str) // (fields.map Prod.fst).Nodup }
  requestId : Str

def RpcRequest.body (request : RpcRequest F) : Value F :=
  .dict [(ofText "op".toList, .str request.op), (ofText "params".toList, .dict request.params.val),
    (ofText "credential".toList, match request.credential with
      | none => .null
      | some fields => .dict (fields.val.map fun (key, value) => (key, .str value))),
    (ofText "request_id".toList, .str request.requestId), (ofText "protocol".toList, protocolEnvelope)]

/-- `_LEN_STRUCT.pack`. -/
def packLength (length : Nat) : Option Bytes :=
  if length < 4294967296 then
    some [.ofNat (length / 16777216), .ofNat (length / 65536), .ofNat (length / 256), .ofNat length]
  else none

/-- `_LEN_STRUCT.unpack`. -/
def unpackLength (header : Bytes) : Nat := header.foldl (fun length byte => length * 256 + byte.toNat) 0

def encodeBody (lib : Floats F) (body : Value F) : Option Bytes :=
  (dumps lib body).bind fun text => (packLength (encodeUtf8 text).length).map (· ++ encodeUtf8 text)

def RpcRequest.toBytes (lib : Floats F) (request : RpcRequest F) : Option Bytes := encodeBody lib request.body

/-- What `encode_response` is asked to send. -/
structure Response (F : Type) where
  ok : Bool
  result : { value : Value F // value.Distinct }
  errorCode : Str
  errorMessage : Str
  diagnostic : Option (Dict F)

def Response.error (response : Response F) : Value F :=
  .dict ([(ofText "code".toList, .str response.errorCode), (ofText "message".toList, .str response.errorMessage)] ++
    match response.diagnostic with
    | none => []
    | some fields => if fields.val.isEmpty then [] else [(ofText "diagnostic".toList, .dict fields.val)])

def Response.body (response : Response F) : Value F :=
  if response.ok then
    .dict [(ofText "ok".toList, .bool true), (ofText "result".toList, response.result.val),
      (ofText "protocol".toList, protocolEnvelope)]
  else
    .dict [(ofText "ok".toList, .bool false), (ofText "error".toList, response.error),
      (ofText "protocol".toList, protocolEnvelope)]

def encodeResponse (lib : Floats F) (response : Response F) : Option Bytes := encodeBody lib response.body

def decodeFrameHeader (header : Bytes) : Except String Nat :=
  if header.length ≠ 4 then .error "frame header must be exactly 4 bytes"
  else
    let length := unpackLength header
    if maxFrameBytes < length then .error s!"frame of {length} bytes exceeds max {maxFrameBytes}"
    else .ok length

/-- A frame from a stream that hands out exactly as many bytes as it is asked for. -/
def readWith {σ : Type} (exactly : Nat → σ → Except String (Bytes × σ)) (lib : Floats F) (stream : σ) :
    Except String (Value F × σ) := do
  let (header, stream) ← exactly 4 stream
  let length ← decodeFrameHeader header
  let (payload, stream) ← exactly length stream
  match (decodeUtf8 payload).bind (loads lib) with
  | none => .error "the payload is no JSON text"
  | some value => .ok (value, stream)

/-- `_recv_exact`: each `recv` gives the next chunk, or as much of it as it may. -/
def recvExact : Nat → List Bytes → Except String (Bytes × List Bytes)
  | 0, chunks => .ok ([], chunks)
  | _ + 1, [] => .error "socket closed while reading frame"
  | remaining + 1, chunk :: chunks =>
    if chunk = [] then .error "socket closed while reading frame"
    else if chunk.length ≤ remaining + 1 then
      (recvExact (remaining + 1 - chunk.length) chunks).map fun (behind, rest) => (chunk ++ behind, rest)
    else .ok (chunk.take (remaining + 1), chunk.drop (remaining + 1) :: chunks)

def readFrameSync (lib : Floats F) (chunks : List Bytes) : Except String (Value F × List Bytes) :=
  readWith recvExact lib chunks

/-- What an `asyncio.StreamReader` holds, and what will arrive. -/
structure StreamReader where
  buffer : Bytes
  incoming : List Bytes

def StreamReader.bytes (reader : StreamReader) : Bytes := reader.buffer ++ reader.incoming.flatten

/-- `readexactly` waits until its buffer has enough. -/
def readExactly (count : Nat) (buffer : Bytes) : List Bytes → Except String (Bytes × StreamReader)
  | [] =>
    if count ≤ buffer.length then .ok (buffer.take count, ⟨buffer.drop count, []⟩) else .error "incomplete read"
  | chunk :: incoming =>
    if count ≤ buffer.length then .ok (buffer.take count, ⟨buffer.drop count, chunk :: incoming⟩)
    else readExactly count (buffer ++ chunk) incoming

def readFrame (lib : Floats F) (reader : StreamReader) : Except String (Value F × StreamReader) :=
  readWith (fun count reader => readExactly count reader.buffer reader.incoming) lib reader

end Boron.Rpc
