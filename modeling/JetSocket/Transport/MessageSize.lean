import JetSocket.Transport.Sending
import JetSocket.Transport.SyncTransport

/- How long the payloads are that `recv` returns, on both transports.

   Both give `max_message_size` to their `FrameParser`, which keeps it; no check reads it, and
   `Deflater.decompress` has no bound at all. So a payload is as long as what arrives.

   What is proved:
     1. `dataReceived_frames`, `recvChunk_frames` — the frames that bytes bring in.
     2. `Reception.held_small_iff`, `SyncReception.held_small_iff` — in a run, every data
        payload that waits in the queue or was returned is short enough exactly when every
        one that arrived is.
     3. `returned_small` — hence those that `recv` returns are. -/
namespace JetSocket.Transport
open JetSocket.Core Transition AsyncTransport

/-- The bound that `max_message_size` is meant to set on a data frame. -/
def Small (config : TransportConfig) (f : Frame) : Prop :=
  f.opcode.isControl = false → f.payload.length ≤ config.maxMessageSize

instance (config : TransportConfig) (f : Frame) : Decidable (Small config f) :=
  inferInstanceAs (Decidable (_ → _))

/-! ## The asyncio transport: what arrives -/

section Async
variable {Z : Zlib}

/-- What the frame loop queues. It ends where decompression raises. -/
def inflated : Option (Deflater Z) → List Frame → List Frame
  | _, [] => []
  | d, f :: rest =>
    match inflate d f with
    | none => []
    | some (qs, d) => qs ++ inflated d rest

/-- The frames that bytes bring in. -/
def arrived (c : Conn Z) (data : Bytes) : List Frame :=
  match c.proto.handshakeDone, c.proto.parser with
  | true, some parser =>
    match (parser.feed data).2 with
    | .ok (frames, _) => inflated c.proto.deflater frames
    | .error _ => []
  | _, _ => []

/-- One frame is inflated and queued, or decompression raises. -/
theorem handleFrame_inflate (c : Conn Z) (key : MaskKey) (f : Frame) :
    match inflate c.proto.deflater f with
    | none => handleFrame c key f = none
    | some (qs, d) => ∃ c', handleFrame c key f = some c' ∧
        c'.proto.frames = c.proto.frames ++ qs ∧ c'.proto.deflater = d := by
  have hnil := (List.append_nil c.proto.frames).symm
  have hqueue : ∃ c', some (c.queue f) = some c' ∧
      c'.proto.frames = c.proto.frames ++ [f] ∧ c'.proto.deflater = c.proto.deflater :=
    ⟨_, rfl, rfl, rfl⟩
  unfold inflate handleFrame
  cases hop : f.opcode with
  | ping =>
    cases hp : c.proto.parser with
    | none => exact ⟨_, rfl, hnil, rfl⟩
    | some parser => exact ⟨_, rfl, hnil, rfl⟩
  | close | pong => exact hqueue
  | text | binary | continuation =>
    cases hrsv1 : f.rsv1 with
    | false => exact hqueue
    | true =>
      cases hd : c.proto.deflater with
      | none =>
        rw [hd] at hqueue
        exact hqueue
      | some deflater =>
        cases hdec : deflater.decompress f.payload with
        | none => simp [Opcode.value, Opcode.isControl, hdec]
        | some r => simp [Opcode.value, Opcode.isControl, hdec, Conn.queue]

theorem handleFrames_frames : ∀ (fs : List Frame) (c : Conn Z) (keys : Nat → MaskKey),
    (handleFrames c keys fs).1.proto.frames = c.proto.frames ++ inflated c.proto.deflater fs
  | [], c, _ => (List.append_nil _).symm
  | f :: rest, c, keys => by
    have hone := handleFrame_inflate c (keys 0) f
    rw [handleFrames, inflated]
    cases hinf : inflate c.proto.deflater f with
    | none =>
      rw [hinf] at hone
      simp only [hone, List.append_nil]
    | some r =>
      rw [hinf] at hone
      obtain ⟨c', hc', hframes, hdeflater⟩ := hone
      simp only [hc']
      rw [handleFrames_frames rest c' _, hframes, hdeflater, List.append_assoc]

/-- **The arrival of bytes** queues the frames they bring in. -/
theorem dataReceived_frames (c : Conn Z) (data : Bytes) (keys : Nat → MaskKey) :
    (dataReceived c data keys).1.proto.frames = c.proto.frames ++ arrived c data := by
  have hnil := (List.append_nil c.proto.frames).symm
  unfold dataReceived arrived
  cases hdone : c.proto.handshakeDone with
  | false => exact hnil
  | true =>
    cases hp : c.proto.parser with
    | none => exact hnil
    | some parser =>
      simp only [Bool.not_true, Bool.false_eq_true, if_false]
      cases hfed : (parser.feed data).2 with
      | ok r => exact handleFrames_frames r.1 _ keys
      | error e =>
        cases e with
        | valueError | sizeOverflow | overflowError => exact hnil

/-- Every frame that `recvLoop` leaves or returns was in the queue. -/
theorem recvLoop_frames (v : AsyncTransport Z) (task : Nat) (key : MaskKey) (fs : List Frame) :
    (∀ f ∈ (v.recvLoop task key fs).1.conn.proto.frames, f ∈ fs) ∧
      ∀ f, (v.recvLoop task key fs).2.frame = some f → f ∈ fs := by
  have hbehind : ∀ f ∈ fs.dropWhile Skipped, f ∈ fs :=
    fun f hf => (List.dropWhile_suffix Skipped).subset hf
  rw [recvLoop_eq]
  cases hd : fs.dropWhile Skipped with
  | nil => exact ⟨fun f hf => absurd hf List.not_mem_nil, fun f hf => by cases hf⟩
  | cons g rest =>
    rw [hd] at hbehind
    have hrest : ∀ f ∈ rest, f ∈ fs := fun f hf => hbehind f (List.mem_cons_of_mem g hf)
    dsimp only
    split
    · refine ⟨?_, fun f hf => by cases hf⟩
      rw [recvClose_proto]
      exact hrest
    · refine ⟨hrest, fun f hf => ?_⟩
      obtain rfl : g = f := Option.some.inj hf
      exact hbehind g List.mem_cons_self

theorem recvRun_frames {v v' : AsyncTransport Z} {i : Input Z} {stop : RecvStop}
    (h : recvRun v i = some (v', stop)) :
    (∀ f ∈ v'.conn.proto.frames, f ∈ v.conn.proto.frames) ∧
      ∀ f, stop.frame = some f → f ∈ v.conn.proto.frames := by
  have hsame : ∀ e : Exc, (∀ f ∈ v.conn.proto.frames, f ∈ v.conn.proto.frames) ∧
      ∀ f, (RecvStop.raised e).frame = some f → f ∈ v.conn.proto.frames :=
    fun _ => ⟨fun _ hf => hf, fun _ hf => by cases hf⟩
  cases recvRun_cases h with
  | refused => exact hsame _
  | looped ready task key =>
    exact recvLoop_frames (v.withReady ready) task key v.conn.proto.frames
  | lost ready => exact hsame _
  | timedOut ready => exact hsame _

theorem close_frames (v : AsyncTransport Z) (task code : Nat) (reason : String) (key : MaskKey) :
    (v.close task code reason key).1.conn.proto.frames = v.conn.proto.frames := by
  have hfinish : ∀ u : AsyncTransport Z, u.conn.proto.frames = v.conn.proto.frames →
      u.closeFinish.conn.proto.frames = v.conn.proto.frames := by
    intro u hu
    unfold closeFinish
    rw [closeTransport_proto]
    exact hu
  unfold AsyncTransport.close
  split
  · rfl
  · dsimp only
    split
    · split
      · split
        · rfl
        · exact hfinish _ rfl
      · exact hfinish _ rfl
    · exact hfinish _ rfl

/-- `_wait_for_close` takes frames out of the queue. -/
theorem closeResume_frames (v : AsyncTransport Z) (task : Nat) :
    ∀ f ∈ (v.closeResume task).1.conn.proto.frames, f ∈ v.conn.proto.frames := by
  intro f hf
  have htail : f ∈ (v.conn.proto.frames.dropWhile (fun f => f.opcode.value != 0x8)).tail := by
    unfold closeResume at hf
    dsimp only at hf
    split at hf
    · unfold closeFinish at hf
      rw [closeTransport_proto] at hf
      exact hf
    · exact hf
  exact (List.dropWhile_suffix _).subset (List.mem_of_mem_tail htail)

theorem closeTimeout_frames (v : AsyncTransport Z) (task : Nat) :
    (v.closeTimeout task).conn.proto.frames = v.conn.proto.frames := by
  unfold closeTimeout closeFinish
  rw [closeTransport_proto]

end Async

/-! ## The asyncio transport: runs -/

namespace Sender
variable {Z : ZlibModule}

def frames (t : Sender Z) : List Frame := t.transport.conn.proto.frames

/-- The frame that a step returns from `recv`. -/
def returns (t : Sender Z) : Action Z → Option Frame
  | .receive i => (recvRun t.transport i).bind (fun r => r.2.frame)
  | _ => none

/-- The frames that a step brings in. -/
def arrives (t : Sender Z) : Action Z → List Frame
  | .receive (.dataReceived data _) => arrived t.transport.conn data
  | .finishConnect params _ =>
    arrived (t.transport.switchToFrames (params.bind (fun p => (p.deflater Z.toZlib).toOption)))
      (leftover t.transport.conn.proto.handshakeBuffer)
  | _ => []

/-- A step queues what arrives, and returns and keeps nothing else than what was there. -/
structure Moves (t t' : Sender Z) (i : Action Z) : Prop where
  arrived : ∀ f ∈ t.arrives i, f ∈ t'.frames
  kept : ∀ f ∈ t'.frames, f ∈ t.frames ∨ f ∈ t.arrives i
  returned : ∀ f, t.returns i = some f → f ∈ t.frames

variable {t t' : Sender Z} {i : Action Z}

/-- A step that only appends. -/
theorem Moves.of_append (h : t'.frames = t.frames ++ t.arrives i) (hreturns : t.returns i = none) :
    Moves t t' i where
  arrived f hf := h ▸ List.mem_append_right _ hf
  kept f hf := List.mem_append.mp (h ▸ hf)
  returned f hf := by
    rw [hreturns] at hf
    cases hf

/-- A step that takes nothing in. -/
theorem Moves.of_kept (harrives : t.arrives i = []) (h : ∀ f ∈ t'.frames, f ∈ t.frames)
    (hreturned : ∀ f, t.returns i = some f → f ∈ t.frames) : Moves t t' i where
  arrived f hf := by
    rw [harrives] at hf
    cases hf
  kept f hf := .inl (h f hf)
  returned := hreturned

/-- A step that leaves the queue. -/
theorem Moves.of_eq (h : t'.frames = t.frames) (harrives : t.arrives i = [])
    (hreturns : t.returns i = none) : Moves t t' i :=
  .of_append (by rw [h, harrives, List.append_nil]) hreturns

/-- `connect` ends by receiving what followed the header. -/
theorem finishConnect_frames (v : AsyncTransport Z.toZlib) (deflater : Option (Deflater Z.toZlib))
    (keys : Nat → MaskKey) :
    (v.finishConnect deflater keys).1.conn.proto.frames = v.conn.proto.frames ++
      arrived (v.switchToFrames deflater) (leftover v.conn.proto.handshakeBuffer) := by
  rw [finishConnect_conn]
  split
  · rename_i hempty
    have hnone : (v.config.parser.feed []).2 = .ok ([], 0) :=
      congrArg Prod.snd (feed_encodeAll v.config.parser v.config.order v.config.maxFrameSize
        v.config.maxMessageSize [])
    rw [List.isEmpty_iff.mp hempty]
    simp only [arrived, switchToFrames, hnone, inflated, List.append_nil]
  · exact dataReceived_frames _ _ keys

theorem Transmitted.frames {compressible : Bool} {frame : Frame}
    (h : Transmitted t compressible frame t') : t'.frames = t.frames := by
  have hprepared : ∀ {u : Sender Z} {out : Suspended},
      Prepared t u compressible frame out → u.frames = t.frames := by
    intro u out hout
    unfold Sender.frames
    rw [hout.transport]
  cases h with
  | raises => rfl
  | waits _ _ hout | writes _ _ hout =>
    have hframes := hprepared hout
    exact hframes

/-- Outside the calls of `send` and `send_frame`. -/
theorem Advanced.moves {v : AsyncTransport Z.toZlib} (h : Advanced t i v)
    (ht : t'.transport = v) : Moves t t' i := by
  have hframes : t'.frames = v.conn.proto.frames := by
    unfold Sender.frames
    rw [ht]
  cases h with
  | @received i _ hi hv =>
    cases i with
    | dataReceived data keys =>
      cases hv
      exact .of_append (hframes.trans (dataReceived_frames t.transport.conn data keys)) rfl
    | connectionLost exc =>
      cases hv
      exact .of_eq hframes rfl rfl
    | finishConnect deflater keys => exact hi.elim
    | recv | resume | timeout =>
      obtain ⟨⟨u, stop⟩, hrun, rfl⟩ := Option.map_eq_some_iff.mp hv
      obtain ⟨hkept, hreturned⟩ := recvRun_frames hrun
      refine .of_kept rfl (fun f hf => hkept f (hframes ▸ hf)) (fun f hf => hreturned f ?_)
      simp only [returns, hrun] at hf
      exact hf
  | connected hv =>
    simp only [Transport.step] at hv
    split at hv
    · cases hv
      exact .of_append (hframes.trans (finishConnect_frames t.transport _ _)) rfl
    · cases hv
  | paused | resumed | refused => exact .of_eq hframes rfl rfl
  | pinged hping =>
    unfold AsyncTransport.ping at hping
    split at hping
    · cases hping
    · split at hping <;> cases hping
      exact .of_eq hframes rfl rfl
  | closed task code reason key =>
    exact .of_eq (hframes.trans (close_frames t.transport task code reason key)) rfl rfl
  | closeWoken task =>
    exact .of_kept rfl (fun f hf => closeResume_frames t.transport task f (hframes ▸ hf))
      (fun f hf => by cases hf)
  | closeTimedOut task =>
    exact .of_eq (hframes.trans (closeTimeout_frames t.transport task)) rfl rfl

/-- **What a step does to the queue.** -/
theorem step_moves (h : step t i = some t') : Moves t t' i := by
  cases hcall : i.call with
  | some c =>
    obtain ⟨compressible, frame⟩ := c
    have hframes := (step_call hcall h).frames
    cases i with
    | send | sendFrame => exact .of_eq hframes rfl rfl
    | _ => cases hcall
  | none =>
    by_cases hresume : i = .resumeSend
    · subst hresume
      simp only [step] at h
      split at h
      · cases h
        refine .of_eq ?_ rfl rfl
        unfold resumeSend
        dsimp only
        split <;> rfl
      · cases h
    · exact (step_other hcall hresume h).advanced.moves rfl

end Sender

/-- A connection, and the frames that its calls of `recv` returned. -/
structure Reception (Z : ZlibModule) where
  sender : Sender Z
  returned : List Frame

namespace Reception
variable {Z : ZlibModule}

def start (Z : ZlibModule) (config : TransportConfig) (compressionThreshold : Int)
    (request : Bytes) : Reception Z :=
  { sender := .start Z config compressionThreshold request, returned := [] }

def step (s : Reception Z) (i : Action Z) : Option (Reception Z) :=
  (s.sender.step i).map (fun sender =>
    { sender, returned := s.returned ++ (s.sender.returns i).toList })

/-- The frames that wait in the queue, and those that were returned. -/
def held (s : Reception Z) : List Frame := s.sender.frames ++ s.returned

/-- The data frames that a step brings in are small. -/
def Fits (config : TransportConfig) (s : Reception Z) (i : Action Z) : Prop :=
  ∀ f ∈ s.sender.arrives i, Small config f

instance (config : TransportConfig) (s : Reception Z) (i : Action Z) :
    Decidable (s.Fits config i) :=
  inferInstanceAs (Decidable (∀ _ ∈ _, _))

theorem arrives_held (s : Reception Z) (i : Action Z) (s' : Reception Z)
    (h : s.step i = some s') : ∀ f ∈ s.sender.arrives i, f ∈ s'.held := by
  obtain ⟨sender, hs, rfl⟩ := Option.map_eq_some_iff.mp h
  exact fun f hf => List.mem_append_left _ ((Sender.step_moves hs).arrived f hf)

theorem held_from (s : Reception Z) (i : Action Z) (s' : Reception Z) (h : s.step i = some s') :
    ∀ f ∈ s'.held, f ∈ s.held ∨ f ∈ s.sender.arrives i := by
  obtain ⟨sender, hs, rfl⟩ := Option.map_eq_some_iff.mp h
  have hmoves := Sender.step_moves hs
  intro f hf
  rcases List.mem_append.mp hf with hqueue | hreturned
  · exact (hmoves.kept f hqueue).imp_left (List.mem_append_left _)
  · rcases List.mem_append.mp hreturned with hearlier | hnow
    · exact .inl (List.mem_append_right _ hearlier)
    · exact .inl (List.mem_append_left _ (hmoves.returned f (Option.mem_toList.mp hnow)))

/-- **The queue and the results.** In a run, every data frame in them is small exactly when every
one that arrived is. -/
theorem held_small_iff (Z : ZlibModule) (config : TransportConfig) (compressionThreshold : Int)
    (request : Bytes) (actions : List (Action Z)) :
    Always step (fun s => ∀ f ∈ s.held, Small config f)
        (start Z config compressionThreshold request) actions ↔
      Meets step (Fits config) (start Z config compressionThreshold request) actions :=
  always_held_iff arrives_held held_from (Small config) actions (fun _ hf => by cases hf)

end Reception

/-! ## The blocking transport -/

section Sync
variable {Z : Zlib}

/-- The data frames among parsed frames, or `none` where decompression raises. A Close frame
takes the deflater with it. -/
def dataFrames : Option (Deflater Z) → List Frame → Option (List Frame)
  | _, [] => some []
  | d, f :: rest =>
    if f.opcode = .close then dataFrames none rest
    else if f.opcode.isControl then dataFrames d rest
    else (inflate d f).bind (fun r => (dataFrames r.2 rest).map (r.1 ++ ·))

namespace SyncTransport

/-- The frames that a read of the socket brings in. -/
def arrived (t : SyncTransport Z) : Read → List Frame
  | .chunk (b :: bs) =>
    match t.socket, t.parser with
    | true, some parser =>
      match (parser.feed (b :: bs)).2 with
      | .ok (frames, _) => (dataFrames t.deflater frames).getD []
      | .error _ => []
    | _, _ => []
  | _ => []

theorem sendAll_rest (t : SyncTransport Z) (data : Bytes) :
    (t.sendAll data).deflater = t.deflater ∧ (t.sendAll data).pendingFrames = t.pendingFrames := by
  unfold sendAll
  split <;> exact ⟨rfl, rfl⟩

theorem handleCloseFrame_rest (t : SyncTransport Z) (key : MaskKey) (f : Frame) :
    (t.handleCloseFrame key f).deflater = none ∧
      (t.handleCloseFrame key f).pendingFrames = t.pendingFrames := by
  refine ⟨rfl, ?_⟩
  unfold handleCloseFrame closeSocket
  dsimp only
  split
  · rfl
  · split
    · exact (sendAll_rest _ _).2
    · rfl

theorem handlePingFrame_rest (t : SyncTransport Z) (key : MaskKey) (f : Frame) :
    (t.handlePingFrame key f).deflater = t.deflater ∧
      (t.handlePingFrame key f).pendingFrames = t.pendingFrames := by
  unfold handlePingFrame
  split
  · exact sendAll_rest _ _
  · exact ⟨rfl, rfl⟩

/-- The frame loop of `recv` finds the data frames, and leaves the pending ones. -/
theorem handleFrames_dataFrames : ∀ (fs : List Frame) (t : SyncTransport Z)
    (keys : Nat → MaskKey),
    (t.handleFrames keys fs).2 = dataFrames t.deflater fs ∧
      (t.handleFrames keys fs).1.pendingFrames = t.pendingFrames
  | [], _, _ => ⟨rfl, rfl⟩
  | f :: rest, t, keys => by
    -- The loop behind this frame, from the state the frame leaves.
    have hrest := fun u : SyncTransport Z =>
      handleFrames_dataFrames rest u (fun i => keys (i + 1))
    have hskip : ∀ u : SyncTransport Z, u.pendingFrames = t.pendingFrames →
        ((u.handleFrames (fun i => keys (i + 1)) rest).2.map (([] : List Frame) ++ ·)) =
            dataFrames u.deflater rest ∧
          (u.handleFrames (fun i => keys (i + 1)) rest).1.pendingFrames = t.pendingFrames := by
      intro u hu
      rw [(hrest u).1, (hrest u).2, hu]
      refine ⟨?_, rfl⟩
      cases dataFrames u.deflater rest <;> rfl
    have hkeep : (t.handleFrames (fun i => keys (i + 1)) rest).2.map ([f] ++ ·) =
          (dataFrames t.deflater rest).map ([f] ++ ·) ∧
        (t.handleFrames (fun i => keys (i + 1)) rest).1.pendingFrames = t.pendingFrames := by
      rw [(hrest t).1]
      exact ⟨rfl, (hrest t).2⟩
    rw [SyncTransport.handleFrames, dataFrames]
    unfold handleFrame inflate
    cases hop : f.opcode with
    | close =>
      obtain ⟨hdeflater, hpending⟩ := handleCloseFrame_rest t (keys 0) f
      have h := hskip _ hpending
      rw [hdeflater] at h
      exact h
    | ping =>
      obtain ⟨hdeflater, hpending⟩ := handlePingFrame_rest t (keys 0) f
      have h := hskip _ hpending
      rw [hdeflater] at h
      exact h
    | pong => exact hskip t rfl
    | text | binary | continuation =>
      cases hrsv1 : f.rsv1 with
      | false => exact hkeep
      | true =>
        cases hd : t.deflater with
        | none =>
          rw [hd] at hkeep
          exact hkeep
        | some deflater =>
          cases hdec : deflater.decompress f.payload with
          | none => simp [Opcode.value, Opcode.isControl, hdec]
          | some r =>
            have hinflated := hrest { t with deflater := some r.2 }
            simp [Opcode.value, Opcode.isControl, hdec, hinflated.1, hinflated.2]

/-- A run of `recv` keeps and returns what was pending, and what it brings in. -/
structure Takes (t t' : SyncTransport Z) (stop : RecvStop) (fresh : List Frame) : Prop where
  arrived : ∀ f ∈ fresh, f ∈ t'.pendingFrames ∨ stop.frame = some f
  kept : ∀ f ∈ t'.pendingFrames, f ∈ t.pendingFrames ∨ f ∈ fresh
  returned : ∀ f, stop.frame = some f → f ∈ t.pendingFrames ∨ f ∈ fresh

/-- A run that brings nothing in, and returns nothing. -/
theorem Takes.of_eq {t t' : SyncTransport Z} {stop : RecvStop} {fresh : List Frame}
    (h : t'.pendingFrames = t.pendingFrames) (hstop : stop.frame = none) (hfresh : fresh = []) :
    Takes t t' stop fresh := by
  subst hfresh
  refine ⟨fun f hf => absurd hf List.not_mem_nil, fun f hf => .inl (h ▸ hf), fun f hf => ?_⟩
  rw [hstop] at hf
  cases hf

theorem recv_frames (t : SyncTransport Z) : Takes t t.recv.1 t.recv.2 [] := by
  unfold recv
  split
  · exact .of_eq rfl rfl rfl
  · cases hp : t.pendingFrames with
    | nil => exact .of_eq rfl rfl rfl
    | cons g rest =>
      refine ⟨fun f hf => absurd hf List.not_mem_nil, fun f hf => .inl ?_, fun f hf => .inl ?_⟩
      · rw [hp]
        exact List.mem_cons_of_mem g hf
      · rw [hp]
        obtain rfl : g = f := Option.some.inj hf
        exact List.mem_cons_self

theorem arrived_chunk {t : SyncTransport Z} {parser : FrameParser} {b : UInt8} {bs : Bytes}
    (hsocket : t.socket = true) (hp : t.parser = some parser) :
    t.arrived (.chunk (b :: bs)) =
      match (parser.feed (b :: bs)).2 with
      | .ok (frames, _) => (dataFrames t.deflater frames).getD []
      | .error _ => [] := by
  simp only [arrived, hsocket, hp]

/-- **A read of the socket** brings in the data frames it completes. -/
theorem recvChunk_frames (t : SyncTransport Z) (read : Read) (keys : Nat → MaskKey) :
    Takes t (t.recvChunk read keys).1 (t.recvChunk read keys).2 (t.arrived read) := by
  unfold recvChunk
  by_cases hsocket : t.socket = true
  · rw [if_neg (by simp [hsocket])]
    cases read with
    | timedOut | failed => exact .of_eq rfl rfl rfl
    | chunk data =>
      cases data with
      | nil => exact .of_eq rfl rfl rfl
      | cons b bs =>
        cases hp : t.parser with
        | none => exact .of_eq rfl rfl (by simp only [arrived, hsocket, hp])
        | some parser =>
          rw [arrived_chunk hsocket hp]
          dsimp only
          cases hfed : (parser.feed (b :: bs)).2 with
          | error e =>
            cases e with
            | valueError | sizeOverflow | overflowError => exact .of_eq rfl rfl rfl
          | ok r =>
            obtain ⟨hdata, hpending⟩ := handleFrames_dataFrames r.1
              { t with parser := some (parser.feed (b :: bs)).1 } keys
            dsimp only at hdata hpending ⊢
            rw [← hdata]
            generalize SyncTransport.handleFrames _ keys r.1 = q at hpending ⊢
            obtain ⟨u, _ | _ | ⟨g, rest⟩⟩ := q
            · exact .of_eq hpending rfl rfl
            · exact .of_eq hpending rfl rfl
            · refine ⟨fun f hf => ?_, fun f hf => ?_, fun f hf => .inr ?_⟩
              · rcases List.mem_cons.mp hf with rfl | hrest
                · exact .inr rfl
                · exact .inl (List.mem_append_right _ hrest)
              · rcases List.mem_append.mp hf with hearlier | hrest
                · exact .inl (hpending ▸ hearlier)
                · exact .inr (List.mem_cons_of_mem g hrest)
              · obtain rfl : g = f := Option.some.inj hf
                exact List.mem_cons_self
  · rw [if_pos (by simp [hsocket])]
    refine .of_eq rfl rfl ?_
    unfold arrived
    rw [Bool.eq_false_of_not_eq_true hsocket]
    split <;> rfl

theorem close_frames (t : SyncTransport Z) (code : Nat) (reason : String) (key : MaskKey) :
    (t.close code reason key).pendingFrames = t.pendingFrames := by
  unfold SyncTransport.close
  split
  · rfl
  · unfold closeSocket
    dsimp only
    split
    · split
      · exact (sendAll_rest _ _).2
      · rfl
    · rfl

end SyncTransport

/-- What the thread that uses a transport does next. A call of `recv` that waits goes on with
what its read comes to. -/
inductive SyncInput (Z : Zlib) where
  | finishConnect (deflater : Option (Deflater Z))
  | recv
  | read (read : Read) (keys : Nat → MaskKey)
  | close (code : Nat) (reason : String) (key : MaskKey)

/-- A transport, whether a call of `recv` reads, and the frames that `recv` returned. -/
structure SyncReception (Z : Zlib) where
  transport : SyncTransport Z
  reading : Bool
  returned : List Frame

namespace SyncReception

def start (Z : Zlib) (config : TransportConfig) : SyncReception Z :=
  { transport := .new Z config, reading := false, returned := [] }

/-- `recv` has run. -/
def after (s : SyncReception Z) (r : SyncTransport Z × RecvStop) : SyncReception Z :=
  { transport := r.1, reading := r.2 = .waiting, returned := s.returned ++ r.2.frame.toList }

def step (s : SyncReception Z) : SyncInput Z → Option (SyncReception Z)
  | .finishConnect deflater =>
    if s.reading ∨ s.transport.connected then none
    else some { s with transport := s.transport.finishConnect deflater }
  | .recv => if s.reading then none else some (s.after s.transport.recv)
  | .read read keys => if s.reading then some (s.after (s.transport.recvChunk read keys)) else none
  | .close code reason key =>
    if s.reading then none else some { s with transport := s.transport.close code reason key }

/-- The frames that a step brings in. -/
def arrives (s : SyncReception Z) : SyncInput Z → List Frame
  | .read read _ => if s.reading then s.transport.arrived read else []
  | _ => []

/-- The frames that are pending, and those that were returned. -/
def held (s : SyncReception Z) : List Frame := s.transport.pendingFrames ++ s.returned

/-- The data frames that a step brings in are small. -/
def Fits (config : TransportConfig) (s : SyncReception Z) (i : SyncInput Z) : Prop :=
  ∀ f ∈ s.arrives i, Small config f

instance (config : TransportConfig) (s : SyncReception Z) (i : SyncInput Z) :
    Decidable (s.Fits config i) :=
  inferInstanceAs (Decidable (∀ _ ∈ _, _))

/-- From `s` to `s'` the frames of `fresh` came in, and no others. -/
def Gains (s s' : SyncReception Z) (fresh : List Frame) : Prop :=
  (∀ f ∈ fresh, f ∈ s'.held) ∧ ∀ f ∈ s'.held, f ∈ s.held ∨ f ∈ fresh

theorem after_gains (s : SyncReception Z) {r : SyncTransport Z × RecvStop} {fresh : List Frame}
    (h : SyncTransport.Takes s.transport r.1 r.2 fresh) : Gains s (s.after r) fresh := by
  have hreturned : ∀ f, r.2.frame = some f → f ∈ (s.after r).held := fun f hf =>
    List.mem_append_right _ (List.mem_append_right _ (Option.mem_toList.mpr hf))
  constructor
  · intro f hf
    exact (h.arrived f hf).elim (List.mem_append_left _) (hreturned f)
  · intro f hf
    rcases List.mem_append.mp hf with hpending | hreturned
    · exact (h.kept f hpending).imp_left (List.mem_append_left _)
    · rcases List.mem_append.mp hreturned with hearlier | hnow
      · exact .inl (List.mem_append_right _ hearlier)
      · exact (h.returned f (Option.mem_toList.mp hnow)).imp_left (List.mem_append_left _)

theorem gains_of_eq {s s' : SyncReception Z} (h : s'.held = s.held) : Gains s s' [] :=
  ⟨fun _ hf => absurd hf List.not_mem_nil, fun _ hf => .inl (h ▸ hf)⟩

/-- **What a step brings in.** -/
theorem step_gains {s s' : SyncReception Z} {i : SyncInput Z} (h : s.step i = some s') :
    Gains s s' (s.arrives i) := by
  cases i with
  | finishConnect deflater =>
    simp only [step] at h
    split at h
    · cases h
    · cases h
      exact gains_of_eq rfl
  | recv =>
    simp only [step] at h
    split at h
    · cases h
    · cases h
      exact s.after_gains s.transport.recv_frames
  | read read keys =>
    simp only [step] at h
    split at h
    · rename_i hreading
      cases h
      simp only [arrives, if_pos hreading]
      exact s.after_gains (s.transport.recvChunk_frames read keys)
    · cases h
  | close code reason key =>
    simp only [step] at h
    split at h
    · cases h
    · cases h
      refine gains_of_eq ?_
      unfold held
      rw [SyncTransport.close_frames]

/-- **The pending frames and the results.** In a run, every data frame in them is small exactly
when every one that arrived is. -/
theorem held_small_iff (Z : Zlib) (config : TransportConfig) (inputs : List (SyncInput Z)) :
    Always step (fun s => ∀ f ∈ s.held, Small config f) (start Z config) inputs ↔
      Meets step (Fits config) (start Z config) inputs :=
  always_held_iff (fun _ _ _ hs => (step_gains hs).1) (fun _ _ _ hs => (step_gains hs).2)
    (Small config) inputs (fun _ hf => by cases hf)

end SyncReception
end Sync

/-! ## Both transports -/

/-- **The payloads that `recv` returns** are no longer than `max_message_size`, on either
transport, in every run in which no longer one arrives. -/
theorem returned_small (Z : ZlibModule) (config : TransportConfig) :
    (∀ (compressionThreshold : Int) (request : Bytes) (actions : List (Action Z)),
      Meets Reception.step (Reception.Fits config)
          (.start Z config compressionThreshold request) actions →
        Always Reception.step (fun s => ∀ f ∈ s.returned, Small config f)
          (.start Z config compressionThreshold request) actions) ∧
    ∀ inputs : List (SyncInput Z.toZlib),
      Meets SyncReception.step (SyncReception.Fits config) (.start Z.toZlib config) inputs →
        Always SyncReception.step (fun s => ∀ f ∈ s.returned, Small config f)
          (.start Z.toZlib config) inputs := by
  constructor
  · intro compressionThreshold request actions hfits
    apply Always.mono _ ((Reception.held_small_iff Z config compressionThreshold request
      actions).mpr hfits)
    exact fun s hs f hf => hs f (List.mem_append_right _ hf)
  · intro inputs hfits
    apply Always.mono _ ((SyncReception.held_small_iff Z.toZlib config inputs).mpr hfits)
    exact fun s hs f hf => hs f (List.mem_append_right _ hf)

/-- Frames of 1024 bytes, and messages of 4. -/
def tight : TransportConfig :=
  { order := .little, maxFrameSize := 1024, maxMessageSize := 4, readTimeout := false }

/-- The handshake ends, the bytes arrive, and `recv` is called. -/
def receiving (Z : ZlibModule) (data : Bytes) : List (Action Z) :=
  [.receive (.dataReceived headerEnd (fun _ => ⟨0, 0, 0, 0⟩)),
    .finishConnect none (fun _ => ⟨0, 0, 0, 0⟩),
    .receive (.dataReceived data (fun _ => ⟨0, 0, 0, 0⟩)), .receive (.recv 0 ⟨0, 0, 0, 0⟩)]

/-- `recv` is called on a new connection, and the bytes arrive. -/
def reading (Z : Zlib) (data : Bytes) : List (SyncInput Z) :=
  [.finishConnect none, .recv, .read (.chunk data) (fun _ => ⟨0, 0, 0, 0⟩)]

/-- Four bytes fit. -/
theorem returned_small_four :
    Always Reception.step (fun s => ∀ f ∈ s.returned, Small tight f)
        (.start smallZlib tight 1024 []) (receiving smallZlib [0x82, 0x04, 1, 2, 3, 4]) ∧
      Always SyncReception.step (fun s => ∀ f ∈ s.returned, Small tight f)
        (.start smallZlib.toZlib tight) (reading smallZlib.toZlib [0x82, 0x04, 1, 2, 3, 4]) :=
  ⟨(returned_small smallZlib tight).1 1024 [] _ (by decide),
    (returned_small smallZlib tight).2 _ (by decide)⟩

/-- Five do not, and are returned. -/
theorem oversized_returned :
    ¬ Always Reception.step (fun s => ∀ f ∈ s.returned, Small tight f)
        (.start smallZlib tight 1024 []) (receiving smallZlib [0x82, 0x05, 1, 2, 3, 4, 5]) ∧
      ¬ Always SyncReception.step (fun s => ∀ f ∈ s.returned, Small tight f)
        (.start smallZlib.toZlib tight) (reading smallZlib.toZlib [0x82, 0x05, 1, 2, 3, 4, 5]) := by
  constructor <;> decide

end JetSocket.Transport
