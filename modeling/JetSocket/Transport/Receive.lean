import JetSocket.Transport.AsyncTransport
import JetSocket.Transport.Handshake
import JetSocket.Lib.Transition
import Mathlib.Data.List.TakeWhile

/- Runs of a connection's receive side: the callbacks of the event loop, the end of
   `connect`, and any number of `recv` calls, each running between two
   suspensions.

   What is proved:
     1. `recvLoop_eq` — what `recv` does with the queue it finds.
     2. `recvRun_close` — what `recv` makes of a Close frame: the code is kept in the
        transport, and is not in the exception.
     3. `dataReceived_grows` — what the arrival of bytes can change for a waiting
        `recv`: it may wake, nothing else.
     4. `no_lost_wakeup_iff` — a run never has a `recv` waiting on a lost connection
        exactly when no `recv` looks at the queue after the loss and finds nothing
        to return. `recv` clears the event before it waits and tests
        `_connection_lost` only after waking, so such a call sleeps for good. -/
namespace JetSocket.Transport
open JetSocket.Core Transition AsyncTransport

variable {Z : Zlib}

/-- What can happen next to a connection that has started its handshake. -/
inductive Input (Z : Zlib) where
  | dataReceived (data : Bytes) (keys : Nat → MaskKey)
  | connectionLost (exc : Option Exc)
  | finishConnect (deflater : Option (Deflater Z)) (keys : Nat → MaskKey)
  | recv (task : Nat) (key : MaskKey)
  | resume (task : Nat) (key : MaskKey)
  | timeout (task : Nat)

/-- A call of `recv` that has not ended. -/
def InRecv (t : AsyncTransport Z) (task : Nat) : Prop :=
  task ∈ t.conn.proto.frameReady.parked ∨ task ∈ t.conn.proto.frameReady.woken

instance (t : AsyncTransport Z) (task : Nat) : Decidable (InRecv t task) :=
  inferInstanceAs (Decidable (_ ∨ _))

/-- The handshake response is there and `connect` has not gone on. -/
def responded (t : AsyncTransport Z) : Bool :=
  match t.conn.proto.handshakeFuture with
  | .result _ => !t.conn.proto.handshakeDone
  | _ => false

/-- How a call of `recv` that ran ended, and the transport after it. -/
def recvRun (t : AsyncTransport Z) : Input Z → Option (AsyncTransport Z × RecvStop)
  | .recv task key => if InRecv t task then none else some (t.recv task key)
  | .resume task key =>
    if task ∈ t.conn.proto.frameReady.woken then some (t.recvResume task key) else none
  | .timeout task =>
    if t.config.readTimeout = true ∧ InRecv t task then some (t.recvTimeout task) else none
  | _ => none

/-- One step. An exception in `data_received` goes to the event loop. -/
def step (t : AsyncTransport Z) : Input Z → Option (AsyncTransport Z)
  | .dataReceived data keys => some { t with conn := (dataReceived t.conn data keys).1 }
  | .connectionLost exc => some { t with conn := connectionLost t.conn exc }
  | .finishConnect deflater keys =>
    if responded t then some (t.finishConnect deflater keys).1 else none
  | i => (recvRun t i).map Prod.fst

/-! ## What recv does with the queue -/

/-- A frame `recv` drops. -/
def Skipped (f : Frame) : Bool := f.opcode.value == 0xA

/-- **`recv` in one equation**: behind the Pong frames it waits, raises at a Close
frame, or returns. -/
theorem recvLoop_eq (t : AsyncTransport Z) (task : Nat) (key : MaskKey) : ∀ fs : List Frame,
    t.recvLoop task key fs =
      match fs.dropWhile Skipped with
      | [] => ((t.setFrames []).park task, .waiting)
      | f :: rest =>
        if f.opcode.value = 0x8 then
          ((t.setFrames rest).recvClose key f,
            .raised (.connectionError "Connection closed by remote"))
        else (t.setFrames rest, .returned f)
  | [] => rfl
  | f :: rest => by
    have ih := recvLoop_eq t task key rest
    by_cases hpong : f.opcode.value = 0xA
    · have hclose : ¬ f.opcode.value = 0x8 := by
        rw [hpong]
        decide
      rw [AsyncTransport.recvLoop, if_neg hclose, if_pos hpong, ih,
        List.dropWhile_cons_of_pos (by simp [Skipped, hpong])]
    · rw [AsyncTransport.recvLoop, List.dropWhile_cons_of_neg (by simp [Skipped, hpong])]
      simp only [if_neg hpong]

/-- `_frame_ready` has moved on. -/
def AsyncTransport.withReady (t : AsyncTransport Z) (ready : Event) : AsyncTransport Z :=
  { t with conn := { t.conn with proto := { t.conn.proto with frameReady := ready } } }

/-- How a run of `recv` ends: it is refused, it goes through the queue, it wakes to a lost
connection, or it has waited too long. -/
inductive Ran (t : AsyncTransport Z) : Input Z → AsyncTransport Z → RecvStop → Prop where
  | refused {task : Nat} {key : MaskKey} (h : ¬ (t.connected = true ∧ t.protocol = true)) :
      Ran t (.recv task key) t (.raised (.connectionError "Transport is not connected"))
  | looped {i : Input Z} (ready : Event) (task : Nat) (key : MaskKey) :
      Ran t i ((t.withReady ready).recvLoop task key t.conn.proto.frames).1
        ((t.withReady ready).recvLoop task key t.conn.proto.frames).2
  | lost {task : Nat} {key : MaskKey} (ready : Event) (hlost : t.conn.proto.connectionLost = true)
      (hempty : t.conn.proto.frames = []) :
      Ran t (.resume task key) { t.withReady ready with connected := false }
        (.raised (.connectionError "Connection closed by remote"))
  | timedOut {task : Nat} (ready : Event) :
      Ran t (.timeout task) (t.withReady ready)
        (.raised (.timeoutError "Read operation timed out" "recv"))

theorem recvRun_cases {t t' : AsyncTransport Z} {i : Input Z} {stop : RecvStop}
    (h : recvRun t i = some (t', stop)) : Ran t i t' stop := by
  cases i with
  | recv task key =>
    simp only [recvRun] at h
    split at h
    · cases h
    · have hrun := Option.some.inj h
      unfold recv at hrun
      split at hrun
      · rename_i hnot
        cases hrun
        refine .refused (fun hready => ?_)
        rw [hready.1, hready.2] at hnot
        cases hnot
      · obtain ⟨rfl, rfl⟩ := Prod.ext_iff.mp hrun
        exact .looped t.conn.proto.frameReady task key
  | resume task key =>
    simp only [recvRun] at h
    split at h
    · have hrun := Option.some.inj h
      unfold recvResume at hrun
      dsimp only at hrun
      split at hrun
      · rename_i hlost
        obtain ⟨hlost, hempty⟩ := Bool.and_eq_true_iff.mp hlost
        cases hrun
        exact .lost (t.conn.proto.frameReady.resume task) hlost (List.isEmpty_iff.mp hempty)
      · obtain ⟨rfl, rfl⟩ := Prod.ext_iff.mp hrun
        exact .looped (t.conn.proto.frameReady.resume task) task key
    · cases h
  | timeout task =>
    simp only [recvRun] at h
    split at h
    · cases h
      exact .timedOut (t.conn.proto.frameReady.giveUp task)
    · cases h
  | _ => cases h

/-! ## What becomes of a frame -/

/-- What `data_received` does with one frame, unless decompression raises. -/
inductive Handled (c : Conn Z) (key : MaskKey) (f : Frame) : Conn Z → Prop where
  | answered {parser : FrameParser} (hping : f.opcode.value = 0x9)
      (hp : c.proto.parser = some parser) :
      Handled c key f (c.write (parser.encode .pong f.payload (some key) true))
  | ignored (hping : f.opcode.value = 0x9) (hp : c.proto.parser = none) : Handled c key f c
  | queued (hother : f.opcode.value ≠ 0x9) : Handled c key f (c.queue f)
  | inflated {d d' : Deflater Z} {payload : Bytes} (hrsv1 : f.rsv1 = true)
      (hd : c.proto.deflater = some d) (hdec : d.decompress f.payload = some (payload, d')) :
      Handled c key f ({ c with proto := { c.proto with deflater := some d' } }.queue
        { opcode := f.opcode, payload := payload, fin := f.fin })

theorem handleFrame_cases {c c' : Conn Z} {key : MaskKey} {f : Frame}
    (h : handleFrame c key f = some c') : Handled c key f c' := by
  unfold handleFrame at h
  split at h
  · rename_i hping
    cases hp : c.proto.parser with
    | none =>
      rw [hp] at h
      cases h
      exact .ignored hping hp
    | some parser =>
      rw [hp] at h
      cases h
      exact .answered hping hp
  · rename_i hother
    split at h
    · cases h
      exact .queued hother
    · split at h
      · rename_i hrsv1 hd
        split at h
        · cases h
        · rename_i hdec
          cases h
          exact .inflated hrsv1 hd hdec
      · cases h
        exact .queued hother

/-- **The frame loop** keeps what one frame keeps. -/
theorem handleFrames_keeps {R : Conn Z → Conn Z → Prop} (hrefl : ∀ c, R c c)
    (htrans : ∀ {a b c}, R a b → R b c → R a c)
    (hone : ∀ {c c' key f}, Handled c key f c' → R c c') :
    ∀ (fs : List Frame) (c : Conn Z) (keys : Nat → MaskKey), R c (handleFrames c keys fs).1
  | [], c, _ => hrefl c
  | f :: rest, c, keys => by
    rw [handleFrames]
    cases h : handleFrame c (keys 0) f with
    | none => exact hrefl c
    | some c' =>
      have hrest := handleFrames_keeps hrefl htrans hone rest c' (fun i => keys (i + 1))
      exact htrans (hone (handleFrame_cases h)) hrest

/-- **The arrival of bytes** keeps what one frame keeps, where only the writes and `_can_write`
are looked at. -/
theorem dataReceived_keeps {R : Conn Z → Conn Z → Prop}
    (hsame : ∀ {c c'}, c'.sock.written = c.sock.written →
      c'.proto.canWrite = c.proto.canWrite → R c c')
    (htrans : ∀ {a b c}, R a b → R b c → R a c)
    (hone : ∀ {c c' key f}, Handled c key f c' → R c c') (c : Conn Z) (data : Bytes)
    (keys : Nat → MaskKey) : R c (dataReceived c data keys).1 := by
  unfold dataReceived
  split
  · exact hsame rfl rfl
  · split
    · exact hsame rfl rfl
    · dsimp only
      split
      · exact hsame rfl rfl
      · exact hsame rfl rfl
      · have hloop := handleFrames_keeps (R := R) (fun _ => hsame rfl rfl) htrans hone
        refine htrans ?_ (hloop _ _ keys)
        exact hsame rfl rfl

theorem dataReceived_canWrite (c : Conn Z) (data : Bytes) (keys : Nat → MaskKey) :
    (dataReceived c data keys).1.proto.canWrite = c.proto.canWrite := by
  refine dataReceived_keeps (R := fun a b => b.proto.canWrite = a.proto.canWrite)
    (fun _ h => h) (fun h h' => h'.trans h) (fun h => ?_) c data keys
  cases h with
  | answered | ignored | queued | inflated => rfl

/-- The settings of the decompressor stay, whatever it has taken. -/
theorem dataReceived_params (c : Conn Z) (data : Bytes) (keys : Nat → MaskKey) :
    (dataReceived c data keys).1.proto.deflater.map Deflater.params =
      c.proto.deflater.map Deflater.params := by
  have hone : ∀ {c c' : Conn Z} {key : MaskKey} {f : Frame}, Handled c key f c' →
      c'.proto.deflater.map Deflater.params = c.proto.deflater.map Deflater.params := by
    intro c c' key f h
    cases h with
    | answered | ignored | queued => rfl
    | inflated hrsv1 hd hdec =>
      rw [hd]
      unfold Deflater.decompress at hdec
      split at hdec
      · cases hdec
      · cases hdec
        rfl
  unfold dataReceived
  split
  · rfl
  · split
    · rfl
    · dsimp only
      split
      · rfl
      · rfl
      · exact handleFrames_keeps
          (R := fun a b => b.proto.deflater.map Deflater.params = a.proto.deflater.map Deflater.params)
          (fun _ => rfl) (fun h h' => h'.trans h) hone _ _ keys

/-! ## What the arrival of bytes changes -/

/-- From `c` to `c'` only the queue, the event, the decompressor and the socket moved,
and the event at most by being set. -/
structure Grows (c c' : Conn Z) : Prop where
  connectionLost : c'.proto.connectionLost = c.proto.connectionLost
  handshakeDone : c'.proto.handshakeDone = c.proto.handshakeDone
  handshakeBuffer : c'.proto.handshakeBuffer = c.proto.handshakeBuffer
  handshakeFuture : c'.proto.handshakeFuture = c.proto.handshakeFuture
  frameReady : c'.proto.frameReady = c.proto.frameReady ∨
    c'.proto.frameReady = c.proto.frameReady.set

theorem Grows.refl (c : Conn Z) : Grows c c := ⟨rfl, rfl, rfl, rfl, Or.inl rfl⟩

theorem Grows.trans {a b c : Conn Z} (h : Grows a b) (h' : Grows b c) : Grows a c where
  connectionLost := h'.connectionLost.trans h.connectionLost
  handshakeDone := h'.handshakeDone.trans h.handshakeDone
  handshakeBuffer := h'.handshakeBuffer.trans h.handshakeBuffer
  handshakeFuture := h'.handshakeFuture.trans h.handshakeFuture
  frameReady := by
    rcases h.frameReady with h | h <;> rcases h'.frameReady with h' | h' <;>
      simp [h, h', Event.set_set]

theorem Handled.grows {c c' : Conn Z} {key : MaskKey} {f : Frame} (h : Handled c key f c') :
    Grows c c' := by
  cases h with
  | answered => exact ⟨rfl, rfl, rfl, rfl, Or.inl rfl⟩
  | ignored => exact Grows.refl c
  | queued | inflated => exact ⟨rfl, rfl, rfl, rfl, Or.inr rfl⟩

theorem handleFrames_grows (fs : List Frame) (c : Conn Z) (keys : Nat → MaskKey) :
    Grows c (handleFrames c keys fs).1 :=
  handleFrames_keeps Grows.refl Grows.trans Handled.grows fs c keys

theorem dataReceived_done {c : Conn Z} (h : c.proto.handshakeDone = true) (data : Bytes)
    (keys : Nat → MaskKey) : Grows c (dataReceived c data keys).1 := by
  unfold dataReceived
  rw [h]
  simp only [Bool.not_true, Bool.false_eq_true, if_false]
  split
  · exact Grows.refl c
  · have fed : ∀ p, Grows c { c with proto := { c.proto with parser := some p } } :=
      fun _ => ⟨rfl, rfl, rfl, rfl, Or.inl rfl⟩
    split
    · exact ⟨rfl, rfl, rfl, rfl, Or.inl rfl⟩
    · exact fed _
    · rename_i frames _ _
      exact (fed _).trans (handleFrames_grows frames _ keys)

/-- **Bytes wake or do nothing**: whatever arrives, a `recv` that waits is left alone or
woken, and the loss flag does not move. -/
theorem dataReceived_grows (c : Conn Z) (data : Bytes) (keys : Nat → MaskKey) :
    (dataReceived c data keys).1.proto.connectionLost = c.proto.connectionLost ∧
      ((dataReceived c data keys).1.proto.frameReady = c.proto.frameReady ∨
        (dataReceived c data keys).1.proto.frameReady = c.proto.frameReady.set) := by
  cases h : c.proto.handshakeDone with
  | false => simp [dataReceived, h]
  | true =>
    have hg := dataReceived_done h data keys
    exact ⟨hg.connectionLost, hg.frameReady⟩

/-- `connect` ends by receiving what followed the header. -/
theorem finishConnect_conn (t : AsyncTransport Z) (deflater : Option (Deflater Z))
    (keys : Nat → MaskKey) :
    (t.finishConnect deflater keys).1.conn =
      if (leftover t.conn.proto.handshakeBuffer).isEmpty then t.switchToFrames deflater
      else (dataReceived (t.switchToFrames deflater) (leftover t.conn.proto.handshakeBuffer)
        keys).1 := by
  unfold finishConnect
  dsimp only
  split <;> split <;> rfl

theorem finishConnect_grows (t : AsyncTransport Z) (deflater : Option (Deflater Z))
    (keys : Nat → MaskKey) :
    (t.finishConnect deflater keys).1.conn.proto.connectionLost = t.conn.proto.connectionLost ∧
      ((t.finishConnect deflater keys).1.conn.proto.frameReady = t.conn.proto.frameReady ∨
        (t.finishConnect deflater keys).1.conn.proto.frameReady =
          t.conn.proto.frameReady.set) := by
  rw [finishConnect_conn]
  split
  · exact ⟨rfl, Or.inl rfl⟩
  · exact dataReceived_grows _ _ keys

/-- From `t` to `t'`, the end of `connect`: the parser is made, and the rest of the object is
left alone. -/
structure Finished (t t' : AsyncTransport Z) : Prop where
  config : t'.config = t.config
  closing : t'.closing = t.closing
  protocol : t'.protocol = t.protocol
  asyncioTransport : t'.asyncioTransport = t.asyncioTransport
  parser : t'.parser = some t.config.parser
  closeCode : t'.closeCode = t.closeCode
  closeReason : t'.closeReason = t.closeReason
  canWrite : t'.conn.proto.canWrite = t.conn.proto.canWrite

theorem finishConnect_finished (t : AsyncTransport Z) (deflater : Option (Deflater Z))
    (keys : Nat → MaskKey) : Finished t (t.finishConnect deflater keys).1 := by
  have hcanWrite : (t.finishConnect deflater keys).1.conn.proto.canWrite =
      t.conn.proto.canWrite := by
    rw [finishConnect_conn]
    split
    · rfl
    · exact dataReceived_canWrite _ _ keys
  unfold finishConnect at hcanWrite ⊢
  dsimp only at hcanWrite ⊢
  split <;> rename_i hr <;> rw [hr] at hcanWrite <;>
    exact ⟨rfl, rfl, rfl, rfl, rfl, rfl, rfl, hcanWrite⟩

/-! ## The wakeup -/

/-- A `recv` that waits on the cleared event of a lost connection. -/
def Stranded (t : AsyncTransport Z) : Prop :=
  t.conn.proto.frameReady.parked ≠ [] ∧ t.conn.proto.connectionLost = true

/-- A frame is queued that `recv` does not skip. -/
def HasFrame (t : AsyncTransport Z) : Prop :=
  ∃ f ∈ t.conn.proto.frames, ¬ Skipped f

/-- Where a `recv` runs on a lost connection, it has a frame to take; a woken one may
also find no frame at all. -/
def Served (t : AsyncTransport Z) : Input Z → Prop
  | .recv _ _ =>
    t.connected = true → t.protocol = true → t.conn.proto.connectionLost = true → HasFrame t
  | .resume _ _ => t.conn.proto.connectionLost = true → t.conn.proto.frames = [] ∨ HasFrame t
  | _ => True

theorem dropWhile_nil_iff (fs : List Frame) :
    fs.dropWhile Skipped = [] ↔ ¬ ∃ f ∈ fs, ¬ Skipped f := by
  rw [List.dropWhile_eq_nil_iff]
  push Not
  rfl

theorem closeTransport_proto (t : AsyncTransport Z) : t.closeTransport.conn.proto = t.conn.proto := by
  unfold closeTransport
  dsimp only
  split <;> rfl

/-- A Close frame touches neither the queue nor the event. -/
theorem recvClose_proto (t : AsyncTransport Z) (key : MaskKey) (f : Frame) :
    (t.recvClose key f).conn.proto = t.conn.proto := by
  unfold recvClose
  rw [closeTransport_proto]
  dsimp only
  split
  · rfl
  · split <;> rfl

/-- The code stays in the transport. -/
theorem recvClose_closeCode (t : AsyncTransport Z) (key : MaskKey) {f : Frame} {code : Nat}
    (hc : f.closeCode = some code) (h0 : code ≠ 0) :
    (t.recvClose key f).closeCode = some code := by
  cases code with
  | zero => exact (h0 rfl).elim
  | succ n =>
    unfold recvClose closeTransport
    rw [hc]
    dsimp only
    split
    · rfl
    · split <;> rfl

/-- **A Close frame in `recv`**: called or woken, `recv` keeps the code of the frame and raises
an exception that does not have it. -/
theorem recvRun_close {t t' : AsyncTransport Z} {i : Input Z} {stop : RecvStop} {f : Frame}
    {rest : List Frame} {code : Nat} (hi : ∀ task, i ≠ .timeout task) (hc : t.connected = true)
    (hp : t.protocol = true) (hf : t.conn.proto.frames.dropWhile Skipped = f :: rest)
    (hop : f.opcode.value = 0x8) (hcode : f.closeCode = some code) (h0 : code ≠ 0)
    (hs : recvRun t i = some (t', stop)) :
    stop = .raised (.connectionError "Connection closed by remote") ∧
      t'.closeCode = some code := by
  have hloop : ∀ (v : AsyncTransport Z) (task : Nat) (key : MaskKey),
      (v.recvLoop task key t.conn.proto.frames).2 =
          .raised (.connectionError "Connection closed by remote") ∧
        (v.recvLoop task key t.conn.proto.frames).1.closeCode = some code := by
    intro v task key
    rw [recvLoop_eq, hf]
    dsimp only
    rw [if_pos hop]
    exact ⟨rfl, recvClose_closeCode _ key hcode h0⟩
  cases recvRun_cases hs with
  | refused hnot => exact (hnot ⟨hc, hp⟩).elim
  | looped ready task key => exact hloop (t.withReady ready) task key
  | lost _ _ hempty =>
    rw [hempty] at hf
    cases hf
  | timedOut => exact (hi _ rfl).elim

/-- `recv` over a queue waits exactly when there is nothing but Pong frames in it. -/
theorem recvLoop_stranded (t : AsyncTransport Z) (task : Nat) (key : MaskKey) :
    Stranded (t.recvLoop task key t.conn.proto.frames).1 ↔
      t.conn.proto.connectionLost = true ∧
        (t.conn.proto.frameReady.parked ≠ [] ∨ ¬ HasFrame t) := by
  rw [recvLoop_eq]
  cases hd : t.conn.proto.frames.dropWhile Skipped with
  | nil =>
    have hnone : ¬ HasFrame t := (dropWhile_nil_iff _).mp hd
    simp [Stranded, park, setFrames, hnone]
  | cons f rest =>
    have hsome : HasFrame t := by
      by_contra hnone
      rw [(dropWhile_nil_iff _).mpr hnone] at hd
      cases hd
    dsimp only
    split
    · simp only [Stranded, recvClose_proto, setFrames, hsome, not_true, or_false]
      exact And.comm
    · simp only [Stranded, setFrames, hsome, not_true, or_false]
      exact And.comm

/-- **One step**: from a state with no stranded `recv`, the next has none exactly when
the step is served. -/
theorem step_served {t t' : AsyncTransport Z} {i : Input Z} (h : ¬ Stranded t)
    (hs : step t i = some t') : ¬ Stranded t' ↔ Served t i := by
  -- Outside `recv` the flag is set only where the waiting tasks wake.
  have grows : ∀ {c : Conn Z}, c.proto.connectionLost = t.conn.proto.connectionLost →
      (c.proto.frameReady = t.conn.proto.frameReady ∨
        c.proto.frameReady = t.conn.proto.frameReady.set) →
      ¬ Stranded { t with conn := c } := by
    rintro c hl (he | he) ⟨hp, hlost⟩
    · exact h ⟨he ▸ hp, hl ▸ hlost⟩
    · rw [he] at hp
      exact hp rfl
  cases i with
  | dataReceived data keys =>
    cases hs
    obtain ⟨hl, he⟩ := dataReceived_grows t.conn data keys
    exact iff_of_true (grows hl he) trivial
  | connectionLost exc =>
    cases hs
    refine iff_of_true ?_ trivial
    rintro ⟨hp, -⟩
    exact hp rfl
  | finishConnect deflater keys =>
    simp only [step] at hs
    split at hs
    · cases hs
      obtain ⟨hl, he⟩ := finishConnect_grows t deflater keys
      exact iff_of_true (grows hl he) trivial
    · cases hs
  | timeout task =>
    simp only [step, recvRun] at hs
    split at hs
    · cases hs
      refine iff_of_true ?_ trivial
      rintro ⟨hp, hlost⟩
      refine h ⟨fun hnil => hp ?_, hlost⟩
      simp [recvTimeout, hnil]
    · cases hs
  | recv task key =>
    simp only [step, recvRun] at hs
    split at hs
    · cases hs
    · cases hs
      unfold recv Served
      split
      · rename_i hnot
        refine iff_of_true h (fun hc hp => ?_)
        rw [hc, hp] at hnot
        cases hnot
      · rename_i hready
        obtain ⟨hc, hp⟩ : t.connected = true ∧ t.protocol = true := by simpa using hready
        rw [recvLoop_stranded]
        simp only [hc, hp, true_imp_iff]
        constructor
        · intro hn hlost
          by_contra hnone
          exact hn ⟨hlost, Or.inr hnone⟩
        · rintro hserved ⟨hlost, hparked | hnone⟩
          · exact h ⟨hparked, hlost⟩
          · exact hnone (hserved hlost)
  | resume task key =>
    simp only [step, recvRun] at hs
    split at hs
    · cases hs
      unfold recvResume Served
      dsimp only
      split
      · rename_i hlost
        obtain ⟨-, hempty⟩ := Bool.and_eq_true_iff.mp hlost
        exact iff_of_true h (fun _ => Or.inl (List.isEmpty_iff.mp hempty))
      · rename_i hnot
        rw [recvLoop_stranded]
        constructor
        · intro hn hlost
          by_contra hno
          exact hn ⟨hlost, Or.inr (fun hsome => hno (Or.inr hsome))⟩
        · rintro hserved ⟨hlost, hparked | hnone⟩
          · exact h ⟨hparked, hlost⟩
          · rcases hserved hlost with hnil | hsome
            · exact hnot (Bool.and_eq_true_iff.mpr ⟨hlost, List.isEmpty_iff.mpr hnil⟩)
            · exact hnone hsome
    · cases hs

/-- The connection from the start of the handshake on. -/
def start (Z : Zlib) (config : TransportConfig) (request : Bytes) : AsyncTransport Z :=
  (AsyncTransport.new Z config).beginHandshake request

/-- **When the wakeup is not lost.** A run never reaches a state with a `recv` waiting on
a lost connection exactly when every `recv` that runs in it is served. -/
theorem no_lost_wakeup_iff (Z : Zlib) (config : TransportConfig) (request : Bytes)
    (run : List (Input Z)) :
    Always step (fun t => ¬ Stranded t) (start Z config request) run ↔
      Meets step Served (start Z config request) run :=
  always_iff_meets (fun _ _ _ h hs => step_served h hs) run (fun h => h.1 rfl)

/-- Nothing compressed passes. -/
def plainZlib : Zlib := ⟨Unit, fun _ => (), fun _ _ => none⟩

/-- The connection is lost while nobody reads it, and the next `recv` waits for ever. -/
theorem lost_before_recv_strands :
    ¬ Always step (fun t => ¬ Stranded t) (start plainZlib ⟨.little, 1024, 4096, false⟩ [])
      [.dataReceived headerEnd (fun _ => ⟨0, 0, 0, 0⟩), .finishConnect none (fun _ => ⟨0, 0, 0, 0⟩),
        .connectionLost none, .recv 0 ⟨0, 0, 0, 0⟩] := by
  intro h
  exact h.last rfl ⟨List.cons_ne_nil 0 [], rfl⟩

end JetSocket.Transport
