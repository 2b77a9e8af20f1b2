import SessionRouter.Lib.Framing
import SessionRouter.Providers.Claude

/-!
The frames between the router and the Claude bridge: four bytes of length, most significant first,
and a JSON value. Both ends of the pipe are here, the decoder of the bridge, which takes whatever
chunks the pipe delivers, and the reader of the router.
-/

namespace SessionRouter.Providers

/-- `MAX_FRAME_BYTES` of the bridge. -/
def maxFrameBytes : ℕ := 1024 * 1024

/-- The one code a `BridgeFailure` of the frames carries. -/
inductive BridgeFailure where
  | bridgeProtocolError
  deriving DecidableEq

/-- The two JSON libraries. `parse` decodes UTF-8 and then JSON, each of which may fail. -/
structure JsonCodec (V : Type) where
  parse : List UInt8 → Option V
  stringify : V → List UInt8
  toVec : V → Option (List UInt8)

/-- `writeUInt32BE`, and `u32::to_be_bytes`. -/
def writeUInt32BE (n : ℕ) : List UInt8 :=
  [.ofNat (n / 2 ^ 24), .ofNat (n / 2 ^ 16), .ofNat (n / 2 ^ 8), .ofNat n]

/-- `readUInt32BE(0)`, and `u32::from_be_bytes`, of a buffer of at least four bytes. -/
def readUInt32BE : List UInt8 → ℕ
  | a :: b :: c :: d :: _ => ((a.toNat * 256 + b.toNat) * 256 + c.toNat) * 256 + d.toNat
  | _ => 0

section bridge

variable {V : Type} (json : JsonCodec V)

def encodeFrame (value : V) : Except BridgeFailure (List UInt8) :=
  let payload := json.stringify value
  if payload.length = 0 ∨ maxFrameBytes < payload.length then .error .bridgeProtocolError
  else .ok (writeUInt32BE payload.length ++ payload)

/-- The bytes that `write_frame` writes to a pipe that takes them. -/
def writeFrame (value : V) : Except ProviderError (List UInt8) :=
  match json.toVec value with
  | none => .error .bridgeProtocolError
  | some payload =>
    if payload.isEmpty ∨ maxProviderFrameBytes < payload.length then .error .bridgeProtocolError
    else .ok (writeUInt32BE payload.length ++ payload)

/-- The body of the loop in `push`: the first frame of the buffer and the buffer after it. -/
def nextFrame (buffer : List UInt8) : Except BridgeFailure (Option (V × List UInt8)) :=
  if buffer.length < 4 then .ok none
  else
    let length := readUInt32BE buffer
    if length = 0 ∨ maxFrameBytes < length then .error .bridgeProtocolError
    else if buffer.length < length + 4 then .ok none
    else
      match json.parse ((buffer.drop 4).take length) with
      | none => .error .bridgeProtocolError
      | some value => .ok (some (value, buffer.drop (length + 4)))

theorem readUInt32BE_append {buffer : List UInt8} (h : 4 ≤ buffer.length) (tail : List UInt8) :
    readUInt32BE (buffer ++ tail) = readUInt32BE buffer := by
  match buffer with
  | _ :: _ :: _ :: _ :: _ => rfl
  | [] | [_] | [_, _] | [_, _, _] => simp at h

theorem readUInt32BE_write {n : ℕ} (h : n < 2 ^ 32) (tail : List UInt8) :
    readUInt32BE (writeUInt32BE n ++ tail) = n := by
  simp only [writeUInt32BE, readUInt32BE, List.cons_append, UInt8.toNat_ofNat']
  omega

/-- How the first frame of a buffer is found. -/
inductive NextFrame (buffer : List UInt8) : Except BridgeFailure (Option (V × List UInt8)) → Prop
  | wait (h : buffer.length < 4 ∨ buffer.length < readUInt32BE buffer + 4)
      (hsmall : buffer.length < maxFrameBytes + 4) : NextFrame buffer (.ok none)
  | refuse (h : 4 ≤ buffer.length)
      (hlength : readUInt32BE buffer = 0 ∨ maxFrameBytes < readUInt32BE buffer ∨
        readUInt32BE buffer + 4 ≤ buffer.length ∧
          json.parse ((buffer.drop 4).take (readUInt32BE buffer)) = none) :
      NextFrame buffer (.error .bridgeProtocolError)
  | frame {value : V} (h : 4 ≤ buffer.length) (hpos : readUInt32BE buffer ≠ 0)
      (hle : readUInt32BE buffer ≤ maxFrameBytes)
      (hlength : readUInt32BE buffer + 4 ≤ buffer.length)
      (hparse : json.parse ((buffer.drop 4).take (readUInt32BE buffer)) = some value) :
      NextFrame buffer (.ok (some (value, buffer.drop (readUInt32BE buffer + 4))))

theorem nextFrame_cases (buffer : List UInt8) :
    NextFrame json buffer (nextFrame json buffer) := by
  unfold nextFrame
  split
  · next h => exact .wait (.inl h) (by omega)
  · next h =>
    dsimp only
    have hfour : 4 ≤ buffer.length := by omega
    split
    · next hbad => exact .refuse hfour (by tauto)
    · next hgood =>
      rw [not_or] at hgood
      split
      · next hshort => exact .wait (.inr hshort) (by omega)
      · next hlong =>
        cases hparse : json.parse ((buffer.drop 4).take (readUInt32BE buffer)) with
        | none => exact .refuse hfour (.inr (.inr ⟨by omega, hparse⟩))
        | some value => exact .frame hfour hgood.1 (by omega) (by omega) hparse

theorem nextFrame_item {buffer rest : List UInt8} {value : V}
    (h : nextFrame json buffer = .ok (some (value, rest))) :
    readUInt32BE buffer ≠ 0 ∧ readUInt32BE buffer ≤ maxFrameBytes ∧
      readUInt32BE buffer + 4 ≤ buffer.length ∧
      json.parse ((buffer.drop 4).take (readUInt32BE buffer)) = some value ∧
      rest = buffer.drop (readUInt32BE buffer + 4) := by
  have hcases := nextFrame_cases json buffer
  rw [h] at hcases
  cases hcases with
  | frame hfour hpos hle hlength hparse => exact ⟨hpos, hle, hlength, hparse, rfl⟩

theorem nextFrame_of_frame (buffer : List UInt8) (value : V) (hpos : readUInt32BE buffer ≠ 0)
    (hle : readUInt32BE buffer ≤ maxFrameBytes)
    (hlength : readUInt32BE buffer + 4 ≤ buffer.length)
    (hparse : json.parse ((buffer.drop 4).take (readUInt32BE buffer)) = some value) :
    nextFrame json buffer = .ok (some (value, buffer.drop (readUInt32BE buffer + 4))) := by
  unfold nextFrame
  rw [if_neg (by omega)]
  dsimp only
  rw [if_neg (by omega), if_neg (by omega), hparse]

/-- The loop of `push`. A frame is complete or refused whatever follows it. -/
def frameReader : Framing BridgeFailure V UInt8 where
  next := nextFrame json
  shrinks {xs value rest} h := by
    obtain ⟨-, -, hlength, -, rfl⟩ := nextFrame_item json h
    rw [List.length_drop]
    omega
  item_append {xs value rest} ys h := by
    obtain ⟨hpos, hle, hlength, hparse, rfl⟩ := nextFrame_item json h
    have hread := readUInt32BE_append (by omega : 4 ≤ xs.length) ys
    have hpayload : ((xs ++ ys).drop 4).take (readUInt32BE xs) =
        (xs.drop 4).take (readUInt32BE xs) := by
      rw [List.drop_append_of_le_length (by omega), List.take_append_of_le_length]
      rw [List.length_drop]
      omega
    rw [nextFrame_of_frame json (xs ++ ys) value, hread,
      List.drop_append_of_le_length hlength]
    · rwa [hread]
    · rwa [hread]
    · rw [hread, List.length_append]
      omega
    · rwa [hread, hpayload]
  error_append {xs e} ys h := by
    have hcases := nextFrame_cases json xs
    rw [h] at hcases
    cases hcases with
    | refuse hfour hlength =>
      have hread := readUInt32BE_append hfour ys
      unfold nextFrame
      rw [if_neg (by rw [List.length_append]; omega)]
      dsimp only
      rw [hread]
      rcases hlength with hzero | hlarge | ⟨hlong, hparse⟩
      · rw [if_pos (.inl hzero)]
      · rw [if_pos (.inr hlarge)]
      · split
        · rfl
        · rw [if_neg (by rw [List.length_append]; omega),
            List.drop_append_of_le_length (by omega),
            List.take_append_of_le_length (by rw [List.length_drop]; omega), hparse]

structure FrameDecoder where
  buffer : List UInt8 := []

namespace FrameDecoder

/-- `push`: the values of the frames that are complete now. -/
def push (d : FrameDecoder) (chunk : List UInt8) :
    Except BridgeFailure (List V × FrameDecoder) :=
  if chunk.length = 0 then .ok ([], d)
  else
    ((frameReader json).drain (d.buffer ++ chunk)).bind fun (frames, buffer) =>
      if maxFrameBytes + 4 < buffer.length then .error .bridgeProtocolError
      else .ok (frames, { buffer })

def finish (d : FrameDecoder) : Except BridgeFailure Unit :=
  if d.buffer.length ≠ 0 then .error .bridgeProtocolError else .ok ()

/-- The loop of `runBridge`: every chunk is pushed, up to the first failure, and the end of the
input finishes the decoder. -/
def receive (d : FrameDecoder) : List (List UInt8) → Except BridgeFailure (List V)
  | [] => d.finish.map fun _ => []
  | chunk :: chunks =>
    (d.push json chunk).bind fun (frames, d) =>
      (d.receive chunks).map fun later => frames ++ later

/-- A buffer that waits is too short for the check after the loop. -/
theorem length_of_wait {buffer : List UInt8} (h : nextFrame json buffer = .ok none) :
    buffer.length < maxFrameBytes + 4 := by
  have hcases := nextFrame_cases json buffer
  rw [h] at hcases
  cases hcases with
  | wait _ hsmall => exact hsmall

theorem push_eq_drain {d : FrameDecoder} (hwait : nextFrame json d.buffer = .ok none)
    (chunk : List UInt8) : d.push json chunk =
      ((frameReader json).drain (d.buffer ++ chunk)).map fun r => (r.1, { buffer := r.2 }) := by
  unfold push
  split
  · next hempty =>
    rw [List.length_eq_zero_iff.mp hempty, List.append_nil, Framing.drain_wait hwait]
    rfl
  · cases hdrain : (frameReader json).drain (d.buffer ++ chunk) with
    | error e => rfl
    | ok r =>
      have hsmall := length_of_wait json (Framing.next_of_drain hdrain)
      show ite _ _ _ = _
      rw [if_neg (by omega)]
      rfl

/-- What the decoder makes of a whole stream. -/
def decode (stream : List UInt8) : Except BridgeFailure (List V) :=
  ((frameReader json).drain stream).bind fun r =>
    (finish { buffer := r.2 }).map fun _ => r.1

theorem receive_eq_feed {d : FrameDecoder} (hwait : nextFrame json d.buffer = .ok none)
    (chunks : List (List UInt8)) : d.receive json chunks =
      ((frameReader json).feed d.buffer chunks).bind fun r =>
        (finish { buffer := r.2 }).map fun _ => r.1 := by
  induction chunks generalizing d with
  | nil => rfl
  | cons chunk chunks ih =>
    rw [receive, Framing.feed, push_eq_drain json hwait]
    cases hdrain : (frameReader json).drain (d.buffer ++ chunk) with
    | error e => rfl
    | ok r =>
      show (receive json { buffer := r.2 } chunks).map _ =
        (((frameReader json).feed r.2 chunks).map _).bind _
      have hwait' : nextFrame json r.2 = .ok none := Framing.next_of_drain hdrain
      rw [ih hwait']
      cases (frameReader json).feed r.2 chunks with
      | error e => rfl
      | ok r' =>
        show ((finish { buffer := r'.2 }).map _).map _ = (finish { buffer := r'.2 }).map _
        cases finish { buffer := r'.2 } <;> rfl

/-- The decoder makes of chunks what it makes of the stream they were cut from. -/
theorem receive_eq_decode (chunks : List (List UInt8)) :
    receive json {} chunks = decode json chunks.flatten := by
  have hwait : nextFrame json [] = .ok none := rfl
  rw [receive_eq_feed json hwait, Framing.feed_eq_drain chunks hwait]
  rfl

end FrameDecoder

/-- A frame at the head of the buffer, whoever wrote it. -/
theorem nextFrame_append {payload : List UInt8} {value : V} (hpos : payload ≠ [])
    (hle : payload.length ≤ maxFrameBytes) (hparse : json.parse payload = some value)
    (tail : List UInt8) :
    nextFrame json (writeUInt32BE payload.length ++ payload ++ tail) =
    .ok (some (value, tail)) := by
  have hlen : payload.length < 2 ^ 32 := by
    unfold maxFrameBytes at hle
    omega
  have hread : readUInt32BE (writeUInt32BE payload.length ++ payload ++ tail) = payload.length := by
    rw [List.append_assoc]
    exact readUInt32BE_write hlen _
  have hfour : ∀ n, (writeUInt32BE n).length = 4 := fun _ => rfl
  have hdrop : (writeUInt32BE payload.length ++ payload ++ tail).drop (payload.length + 4) =
      tail := by
    rw [List.drop_append, List.drop_eq_nil_of_le, List.nil_append]
    · rw [List.length_append, hfour]
      simp [Nat.add_comm]
    · rw [List.length_append, hfour]
      omega
  have hpayload : ((writeUInt32BE payload.length ++ payload ++ tail).drop 4).take payload.length =
      payload := by
    rw [List.append_assoc]
    exact List.take_left
  rw [nextFrame_of_frame json _ value, hread, hdrop]
  · rw [hread]
    simpa using hpos
  · rwa [hread]
  · rw [hread, List.length_append, List.length_append, hfour]
    omega
  · rwa [hread, hpayload]

/-- Who writes to the pipe: the bridge, or the router's `write_frame`. -/
inductive Writer where
  | bridge | router

/-- The encoding of a value; the router's serializer may fail. -/
def Writer.encoding : Writer → V → Option (List UInt8)
  | bridge, value => some (json.stringify value)
  | router, value => json.toVec value

/-- The bytes that the writer puts on the pipe. -/
def Writer.frame : Writer → V → Option (List UInt8)
  | bridge, value => (encodeFrame json value).toOption
  | router, value => (writeFrame json value).toOption

theorem Writer.frame_eq {w : Writer} {value : V} {payload : List UInt8}
    (hencoding : w.encoding json value = some payload) (hpos : 1 ≤ payload.length)
    (hle : payload.length ≤ maxFrameBytes) :
    w.frame json value = some (writeUInt32BE payload.length ++ payload) := by
  cases w with
  | bridge =>
    cases hencoding
    simp only [frame, encodeFrame]
    rw [if_neg (by omega)]
    rfl
  | router =>
    replace hencoding : json.toVec value = some payload := hencoding
    have hne : ¬payload.isEmpty = true := by
      rw [List.isEmpty_iff]
      rintro rfl
      simp at hpos
    have hmax : ¬maxProviderFrameBytes < payload.length := by
      unfold maxFrameBytes at hle
      unfold maxProviderFrameBytes
      omega
    simp only [frame, writeFrame, hencoding]
    rw [if_neg (not_or.mpr ⟨hne, hmax⟩)]
    rfl

/-- The frames of messages of an admissible size, each with the value it carries. -/
theorem frames_exist {messages : List (Writer × V)}
    (hjson : ∀ m ∈ messages, ∀ payload, m.1.encoding json m.2 = some payload →
      json.parse payload = some m.2)
    (hsize : ∀ m ∈ messages, ∃ payload, m.1.encoding json m.2 = some payload ∧
      1 ≤ payload.length ∧ payload.length ≤ maxFrameBytes) :
    ∃ items : List (V × List UInt8),
      messages.mapM (fun m => m.1.frame json m.2) = some (items.map Prod.snd) ∧
      items.map Prod.fst = messages.map Prod.snd ∧
      ∀ item ∈ items, ∀ tail, nextFrame json (item.2 ++ tail) = .ok (some (item.1, tail)) := by
  induction messages with
  | nil => exact ⟨[], rfl, rfl, by simp⟩
  | cons m messages ih =>
    obtain ⟨payload, hencoding, hpos, hle⟩ := hsize m List.mem_cons_self
    obtain ⟨items, hframes, hvalues, hnext⟩ :=
      ih (fun m' hm' => hjson m' (List.mem_cons_of_mem _ hm'))
        fun m' hm' => hsize m' (List.mem_cons_of_mem _ hm')
    refine ⟨(m.2, writeUInt32BE payload.length ++ payload) :: items, ?_, ?_, ?_⟩
    · rw [List.mapM_cons, m.1.frame_eq json hencoding hpos hle, hframes]
      rfl
    · rw [List.map_cons, List.map_cons, hvalues]
    · intro item hitem tail
      rcases List.mem_cons.mp hitem with rfl | hitem
      · have hne : payload ≠ [] := by
          rintro rfl
          simp at hpos
        exact nextFrame_append json hne hle (hjson m List.mem_cons_self payload hencoding) tail
      · exact hnext item hitem tail

/-- Values that either side writes arrive in order however the pipe cuts their frames, and what the
decoder makes of any stream, a failure included, does not depend on where the stream is cut. -/
theorem frames_survive_chunking (messages : List (Writer × V))
    (hjson : ∀ m ∈ messages, ∀ payload, m.1.encoding json m.2 = some payload →
      json.parse payload = some m.2)
    (hsize : ∀ m ∈ messages, ∃ payload, m.1.encoding json m.2 = some payload ∧
      1 ≤ payload.length ∧ payload.length ≤ maxFrameBytes) :
    (∃ frames, messages.mapM (fun m => m.1.frame json m.2) = some frames ∧
      ∀ chunks : List (List UInt8), chunks.flatten = frames.flatten →
        FrameDecoder.receive json {} chunks = .ok (messages.map Prod.snd)) ∧
    ∀ chunks chunks' : List (List UInt8), chunks.flatten = chunks'.flatten →
      FrameDecoder.receive json {} chunks = FrameDecoder.receive json {} chunks' := by
  constructor
  · obtain ⟨items, hframes, hvalues, hnext⟩ := frames_exist json hjson hsize
    refine ⟨_, hframes, fun chunks hcut => ?_⟩
    have hdrain : (frameReader json).drain (items.map Prod.snd).flatten =
        .ok (items.map Prod.fst, []) := Framing.drain_items hnext rfl
    rw [FrameDecoder.receive_eq_decode, hcut, FrameDecoder.decode, hdrain, hvalues]
    rfl
  · intro chunks chunks' hsame
    rw [FrameDecoder.receive_eq_decode, FrameDecoder.receive_eq_decode, hsame]

end bridge

section router

/-- `read_frames`: what the router reads from the bytes that the bridge writes until it closes its
end. `fromSlice` is the parser of the router. -/
def readFrames (fromSlice : List UInt8 → Option Value) (stream : List UInt8) :
    List Claude.WireEvent :=
  if stream.length < 4 then [.eof]
  else
    let length := readUInt32BE stream
    if length = 0 ∨ maxProviderFrameBytes < length then [.protocolError]
    else if stream.length < length + 4 then [.protocolError]
    else
      match fromSlice ((stream.drop 4).take length) with
      | some value =>
        if value.asObject.isSome then
          .message value :: readFrames fromSlice (stream.drop (length + 4))
        else [.protocolError]
      | none => [.protocolError]
termination_by stream.length
decreasing_by
  rw [List.length_drop]
  omega

/-- The router reads a complete frame as the bridge's own decoder would, when it holds an object. -/
theorem readFrames_of_nextFrame {json : JsonCodec Value} {stream rest : List UInt8} {value : Value}
    (h : nextFrame json stream = .ok (some (value, rest))) (hobject : value.asObject.isSome) :
    readFrames json.parse stream = .message value :: readFrames json.parse rest := by
  obtain ⟨hpos, hle, hlength, hparse, rfl⟩ := nextFrame_item json h
  have hmax : ¬(readUInt32BE stream = 0 ∨ maxProviderFrameBytes < readUInt32BE stream) := by
    unfold maxFrameBytes at hle
    unfold maxProviderFrameBytes
    omega
  conv_lhs => rw [readFrames]
  rw [if_neg (by omega)]
  dsimp only
  rw [if_neg hmax, if_neg (by omega), hparse]
  dsimp only
  rw [if_pos hobject]

/-- The objects that the bridge writes reach the router in order, and then the end of the pipe. -/
theorem readFrames_frames {json : JsonCodec Value} {values : List Value}
    (hjson : ∀ v ∈ values, json.parse (json.stringify v) = some v)
    (hsize : ∀ v ∈ values,
      1 ≤ (json.stringify v).length ∧ (json.stringify v).length ≤ maxFrameBytes)
    (hobject : ∀ v ∈ values, v.asObject.isSome) :
    ∃ frames, values.mapM (fun v => Writer.bridge.frame json v) = some frames ∧
      readFrames json.parse frames.flatten = values.map .message ++ [.eof] := by
  induction values with
  | nil =>
    refine ⟨[], rfl, ?_⟩
    rw [readFrames]
    rfl
  | cons v values ih =>
    obtain ⟨frames, hframes, hread⟩ := ih (fun w hw => hjson w (List.mem_cons_of_mem _ hw))
      (fun w hw => hsize w (List.mem_cons_of_mem _ hw))
      fun w hw => hobject w (List.mem_cons_of_mem _ hw)
    obtain ⟨hpos, hle⟩ := hsize v List.mem_cons_self
    have hne : json.stringify v ≠ [] := by
      intro hnil
      rw [hnil] at hpos
      simp at hpos
    refine ⟨(writeUInt32BE (json.stringify v).length ++ json.stringify v) :: frames, ?_, ?_⟩
    · rw [List.mapM_cons, Writer.frame_eq json (w := .bridge) rfl hpos hle, hframes]
      rfl
    · have hnext := nextFrame_append json hne hle (hjson v List.mem_cons_self) frames.flatten
      rw [List.flatten_cons, readFrames_of_nextFrame hnext (hobject v List.mem_cons_self), hread]
      rfl

end router

namespace Frames.Sample

/-- The JSON libraries as far as they concern the two truth values. -/
def json : JsonCodec Bool where
  parse bytes :=
    if bytes = "true".toUTF8.toList then some true
    else if bytes = "false".toUTF8.toList then some false
    else none
  stringify value := (toString value).toUTF8.toList
  toVec value := some (toString value).toUTF8.toList

theorem frames_survive_chunking_two :
    (∃ frames, [(Writer.bridge, true), (.router, false)].mapM (fun m => m.1.frame json m.2) =
        some frames ∧
      ∀ chunks : List (List UInt8), chunks.flatten = frames.flatten →
        FrameDecoder.receive json {} chunks = .ok [true, false]) ∧
    ∀ chunks chunks' : List (List UInt8), chunks.flatten = chunks'.flatten →
      FrameDecoder.receive json {} chunks = FrameDecoder.receive json {} chunks' := by
  apply frames_survive_chunking json [(Writer.bridge, true), (.router, false)]
  · rintro m hm payload hencoding
    rcases List.mem_pair.mp hm with rfl | rfl
    · obtain rfl := Option.some.inj hencoding
      decide +kernel
    · obtain rfl := Option.some.inj hencoding
      decide +kernel
  · intro m hm
    rcases List.mem_pair.mp hm with rfl | rfl
    · exact ⟨_, rfl, by decide +kernel, by decide +kernel⟩
    · exact ⟨_, rfl, by decide +kernel, by decide +kernel⟩

end Frames.Sample

end SessionRouter.Providers
