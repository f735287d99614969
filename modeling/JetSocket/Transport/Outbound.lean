import JetSocket.Transport.OnWire
import JetSocket.Transport.SendOrder

/- What the other end reads of everything that is written, in any run of a connection.

   Calls of `send` and `send_frame` may be under way in any number, beside `ping`, `close`, the
   PONGs and the echo of a Close frame, while writing is paused and resumed. `Outbound` keeps,
   beside the connection, the frames given to the calls that have written, in the order of the
   writes, those given to the calls that wait, and the settings `connect` ended with.

   The invariant has two halves. `Written` is about the wire. `Queued` is about the calls that wait,
   while there is a transport: their frames go on from there, and the compressor has come to the end
   of them.

   What is proved:
     1. `sound_step` — one step keeps the invariant.
     2. `peer_recovers` — over any run in which no call overtakes another and the other end can
        take what is given: however the bytes are cut, its parser takes them all, every frame is
        masked, and its decompressor recovers the messages of the calls, in the order of the
        writes. -/
namespace JetSocket.Transport
open JetSocket.Core Transition AsyncTransport StatefulCodec Incremental

variable {Z : ZlibModule}

/-! ## One call -/

namespace Sender

/-- `out` is the frame, packed by the compressor of `t`, and `u` has the compressor after it. -/
structure Packed (t u : Sender Z) (frame : Frame) (out : Suspended) : Prop where
  transport : u.transport = t.transport
  suspended : u.suspended = t.suspended
  isSealed : Sealed out.frameData (Given.wire t.deflater ⟨frame, out.number.isSome⟩).1
  deflater : u.deflater = (Given.wire t.deflater ⟨frame, out.number.isSome⟩).2

/-- What becomes of a call, with the frame it packs. -/
inductive Called (t : Sender Z) (compressible : Bool) (frame : Frame) : Sender Z → Prop where
  | raises (h : ¬ t.Ready) : Called t compressible frame t
  | waits {u : Sender Z} {out : Suspended} (h : t.Ready) (hblocked : t.Blocked)
      (hnumber : out.number.isSome = true ↔ t.Compresses compressible frame.payload)
      (hout : Packed t u frame out) : Called t compressible frame (u.wait out)
  | writes {u : Sender Z} {out : Suspended} (h : t.Ready) (hblocked : ¬ t.Blocked)
      (hnumber : out.number.isSome = true ↔ t.Compresses compressible frame.payload)
      (hout : Packed t u frame out) : Called t compressible frame (u.write out)

theorem pack_packed (t : Sender Z) (task : Nat) (key : MaskKey) (compressible : Bool)
    (frame : Frame) (parser : FrameParser) {out : Suspended}
    (hout : out = { task, number := (t.pack compressible frame.rsv1 frame.payload).2.2.2
                    frameData := parser.encode frame.opcode
                      (t.pack compressible frame.rsv1 frame.payload).2.1 (some key) frame.fin
                      (t.pack compressible frame.rsv1 frame.payload).2.2.1 }) :
    (out.number.isSome = true ↔ t.Compresses compressible frame.payload) ∧
      Packed t (t.pack compressible frame.rsv1 frame.payload).1 frame out := by
  subst hout
  unfold pack Compresses
  cases hd : t.deflater with
  | none =>
    refine ⟨iff_of_false (by simp) (by simp), rfl, rfl, ?_, ?_⟩
    · rw [hd]
      exact ⟨parser, key, rfl⟩
    · rw [hd]
      rfl
  | some deflater =>
    dsimp only
    by_cases hdue : compressible = true ∧ t.compressionThreshold ≤ frame.payload.length
    · rw [if_pos hdue]
      refine ⟨iff_of_true rfl ⟨rfl, hdue⟩, rfl, rfl, ?_, ?_⟩
      · rw [hd]
        exact ⟨parser, key, rfl⟩
      · rw [hd]
        rfl
    · rw [if_neg hdue]
      refine ⟨iff_of_false (by simp) (fun h => hdue h.2), rfl, rfl, ?_, ?_⟩
      · rw [hd]
        exact ⟨parser, key, rfl⟩
      · rw [hd]
        rfl

theorem transmit_called (t : Sender Z) (task : Nat) (key : MaskKey) (compressible : Bool)
    (frame : Frame) : Called t compressible frame (t.transmit task key compressible frame).1 := by
  unfold transmit
  cases hc : t.transport.connected with
  | false => exact .raises (fun h => Bool.false_ne_true (hc.symm.trans h.1))
  | true =>
    cases hp : t.transport.parser with
    | none => exact .raises (fun h => by simpa [hp] using h.2.1)
    | some parser =>
      cases ha : t.transport.asyncioTransport with
      | false => exact .raises (fun h => Bool.false_ne_true (ha.symm.trans h.2.2))
      | true =>
        have hready : t.Ready := ⟨hc, by rw [hp]; rfl, ha⟩
        obtain ⟨hnumber, hout⟩ := pack_packed t task key compressible frame parser rfl
        by_cases hblocked : t.Blocked
        · simp only [if_pos hblocked]
          exact .waits hready hblocked hnumber hout
        · simp only [if_neg hblocked]
          exact .writes hready hblocked hnumber hout

variable {t t' : Sender Z} {i : Action Z}

/-- **A call**, with the frame it packs. -/
theorem step_called {c : Bool × Frame} (hcall : i.call = some c) (h : step t i = some t') :
    Called t c.1 c.2 t' := by
  cases i with
  | send task data binary key =>
    cases hcall
    simp only [step] at h
    split at h
    · cases h
      exact transmit_called t task key true (data.frame binary)
    · cases h
  | sendFrame task frame' key =>
    cases hcall
    simp only [step] at h
    split at h
    · cases h
      exact transmit_called t task key _ frame'
    · cases h
  | _ => cases hcall

/-- What a call is given is allowed. -/
theorem Fitting.allowed (hi : t.Fitting i) {c : Bool × Frame} (hcall : i.call = some c)
    {number : Option Nat} (hnumber : number.isSome = true ↔ t.Compresses c.1 c.2.payload) :
    Given.Allowed ⟨c.2, number.isSome⟩ := by
  cases i with
  | send task data binary key =>
    cases hcall
    have hdata : (data.frame binary).opcode.isControl = false := by
      unfold Data.frame
      dsimp only
      split <;> rfl
    have hnever : ∀ P : Prop, (data.frame binary).opcode.isControl = true → P :=
      fun _ h => absurd (hdata.symm.trans h) Bool.false_ne_true
    exact ⟨hnever _, hnever _, fun _ => rfl⟩
  | sendFrame task frame key =>
    cases hcall
    refine ⟨hi.1, fun hcontrol => ?_, hi.2⟩
    rw [Bool.eq_false_iff]
    intro hsome
    obtain ⟨-, hcompressible, -⟩ := hnumber.mp hsome
    dsimp only at hcontrol hcompressible
    rw [hcontrol] at hcompressible
    cases hcompressible
  | _ => cases hcall

/-- Outside the calls and the end of `connect`, the compressor stays or is dropped. -/
theorem step_deflater (hcall : i.call = none) (hresume : i ≠ .resumeSend)
    (hconnect : ∀ params keys, i ≠ .finishConnect params keys) (h : step t i = some t') :
    t'.deflater = t.deflater ∨ t'.deflater = none := by
  have hadopt : ∀ v : AsyncTransport Z.toZlib,
      (t.adopt v).deflater = t.deflater ∨ (t.adopt v).deflater = none := by
    intro v
    unfold adopt
    dsimp only
    split
    · exact .inl rfl
    · exact .inr rfl
  cases i with
  | receive i =>
    simp only [step] at h
    split at h
    · obtain ⟨v, -, rfl⟩ := Option.map_eq_some_iff.mp h
      exact hadopt v
    · cases h
  | finishConnect params keys => exact absurd rfl (hconnect params keys)
  | send | sendFrame => cases hcall
  | resumeSend => exact absurd rfl hresume
  | pauseWriting | resumeWriting =>
    cases h
    exact .inl rfl
  | ping payload key =>
    simp only [step] at h
    split at h <;> cases h <;> exact .inl rfl
  | close task code reason key =>
    simp only [step] at h
    split at h
    · cases h
      exact hadopt _
    · cases h
  | closeResume task =>
    simp only [step] at h
    split at h
    · cases h
      exact hadopt _
    · cases h
  | closeTimeout task =>
    simp only [step] at h
    split at h
    · cases h
      exact hadopt (t.transport.closeTimeout task)
    · cases h

/-- A call that goes on leaves the compressor alone. -/
theorem resumeSend_rest (h : step t .resumeSend = some t') :
    t'.deflater = t.deflater ∧
      t'.transport.conn.proto.handshakeDone = t.transport.conn.proto.handshakeDone := by
  simp only [step] at h
  split at h
  · cases h
    unfold resumeSend
    dsimp only
    split <;> exact ⟨rfl, rfl⟩
  · cases h

/-- The end of `connect` comes once, and makes the compressor of its settings. -/
theorem finishConnect_rest {params : Option DeflateParams} {keys : Nat → MaskKey}
    (h : step t (.finishConnect params keys) = some t') :
    t.transport.conn.proto.handshakeDone = false ∧
      t'.transport.conn.proto.handshakeDone = true ∧
      (∀ p ∈ params, ∃ d, p.deflater Z.toZlib = .ok d) ∧
      t'.deflater = (params.map (fun p => p.compressor Z)).or t.deflater := by
  have hends : ∀ {deflater : Option (Deflater Z.toZlib)} {v : AsyncTransport Z.toZlib},
      Transport.step t.transport (.finishConnect deflater keys) = some v →
      t.transport.conn.proto.handshakeDone = false ∧ v.conn.proto.handshakeDone = true := by
    intro deflater v hv
    simp only [Transport.step] at hv
    split at hv
    · rename_i hresponded
      obtain rfl := Option.some.inj hv
      refine ⟨?_, ?_⟩
      · unfold responded at hresponded
        split at hresponded
        · simpa using hresponded
        · cases hresponded
      · rw [finishConnect_conn]
        split
        · rfl
        · exact (dataReceived_replies _ _ keys).handshakeDone rfl
    · cases hv
  simp only [step, finishConnect] at h
  split at h
  · obtain ⟨v, hv, rfl⟩ := Option.map_eq_some_iff.mp h
    exact ⟨(hends hv).1, (hends hv).2, fun p hp => absurd hp (Option.not_mem_none p), rfl⟩
  · split at h
    · cases h
    · rename_i p _ d hd
      obtain ⟨v, hv, rfl⟩ := Option.map_eq_some_iff.mp h
      refine ⟨(hends hv).1, (hends hv).2, fun q hq => ?_, rfl⟩
      cases hq
      exact ⟨d, hd⟩

/-- The transport is never got back. -/
theorem Advanced.transport_kept {v : AsyncTransport Z.toZlib} (h : Advanced t i v)
    (ha : v.asyncioTransport = true) : t.transport.asyncioTransport = true := by
  have hloop : ∀ (u : AsyncTransport Z.toZlib) (task : Nat) (key : MaskKey) (fs : List Frame),
      (u.recvLoop task key fs).1.asyncioTransport = true → u.asyncioTransport = true := by
    intro u task key fs hloop
    rw [recvLoop_eq] at hloop
    split at hloop
    · exact hloop
    · split at hloop
      · cases hloop
      · exact hloop
  have hrun : ∀ {i : Input Z.toZlib} {u : AsyncTransport Z.toZlib} {stop : RecvStop},
      recvRun t.transport i = some (u, stop) → u.asyncioTransport = true →
        t.transport.asyncioTransport = true := by
    intro i u stop hr hu
    cases recvRun_cases hr with
    | refused | lost | timedOut => exact hu
    | looped ready task key => exact hloop (t.transport.withReady ready) task key _ hu
  cases h with
  | @received i v hi h =>
    cases i with
    | dataReceived | connectionLost =>
      cases h
      exact ha
    | finishConnect => exact hi.elim
    | recv | resume | timeout =>
      simp only [Transport.step] at h
      obtain ⟨r, hr, rfl⟩ := Option.map_eq_some_iff.mp h
      exact hrun hr ha
  | connected h =>
    simp only [Transport.step] at h
    split at h
    · cases h
      exact (finishConnect_finished ..).asyncioTransport.symm.trans ha
    · cases h
  | paused | resumed | refused => exact ha
  | pinged h =>
    unfold AsyncTransport.ping at h
    split at h
    · cases h
    · split at h
      · cases h
        exact ha
      · cases h
  | closed task code reason key =>
    unfold AsyncTransport.close closeFinish closeTransport at ha
    split at ha
    · exact ha
    · dsimp only at ha
      split at ha
      · rename_i htransport
        exact htransport
      · cases ha
  | closeWoken task =>
    unfold closeResume closeFinish closeTransport at ha
    dsimp only at ha
    split at ha
    · cases ha
    · exact ha
  | closeTimedOut task =>
    unfold closeTimeout closeFinish closeTransport at ha
    cases ha

end Sender

/-! ## Runs -/

/-- A connection, with the frames of the calls that have written, in the order of the writes,
those of the calls that wait, and the settings that `connect` ended with. -/
structure Outbound (Z : ZlibModule) where
  sender : Sender Z
  params : Option DeflateParams
  sent : List Frame
  waiting : List Frame

namespace Outbound

/-- A connection with its handshake begun. -/
def start (Z : ZlibModule) (config : TransportConfig) (compressionThreshold : Int)
    (request : Bytes) : Outbound Z :=
  { sender := Sender.start Z config compressionThreshold request, params := none, sent := [],
    waiting := [] }

/-- A call with this frame comes to `t`. -/
def called (s : Outbound Z) (t : Sender Z) (frame : Frame) : Outbound Z :=
  if ¬ s.sender.Ready then { s with sender := t }
  else if s.sender.Blocked then { s with sender := t, waiting := s.waiting ++ [frame] }
  else { s with sender := t, sent := s.sent ++ [frame] }

/-- What happened on the way to `t`. -/
def noted (s : Outbound Z) (t : Sender Z) (i : Action Z) : Outbound Z :=
  match i.call with
  | some c => s.called t c.2
  | none =>
    match i with
    | .resumeSend =>
      { s with
        sender := t
        sent := if s.sender.transport.asyncioTransport then s.sent ++ s.waiting.take 1 else s.sent
        waiting := s.waiting.tail }
    | .finishConnect params _ => { s with sender := t, params := params }
    | _ => { s with sender := t }

/-- One step. -/
def step (s : Outbound Z) (i : Action Z) : Option (Outbound Z) :=
  (s.sender.step i).map (fun t => s.noted t i)

/-- No call overtakes another, and the other end can take what is given. -/
def Careful (s : Outbound Z) (i : Action Z) : Prop := s.sender.KeepsTurn i ∧ s.sender.Fitting i

instance (s : Outbound Z) (i : Action Z) : Decidable (s.Careful i) :=
  inferInstanceAs (Decidable (_ ∧ _))

/-- The compressor, as `connect` made it. -/
def compressor (s : Outbound Z) : Option (CompressHalf Z) := s.params.map (fun p => p.compressor Z)

/-- The other end's `Deflater`. -/
def peer (s : Outbound Z) : Option (Deflater Z.toZlib) :=
  s.params.bind (fun p => (p.swap.deflater Z.toZlib).toOption)

/-- What is on the wire. -/
abbrev Written (request : Bytes) (s : Outbound Z) (blocks : List Block) (out : List Given) : Prop :=
  OnWire request s.compressor s.sender.transport.conn.sock.written s.sent blocks out

/-- What waits: the frames that the compressor makes of `waits`, from `c` on. -/
structure Queued (s : Outbound Z) (c : Option (CompressHalf Z)) (held : List Block)
    (waits : List Given) : Prop where
  suspended : s.sender.suspended.map Suspended.frameData = held.map Prod.fst
  whole : Whole held
  allowed : ∀ g ∈ waits, g.Allowed
  frames : held.map Prod.snd = (encodeRun Given.wire c waits).1
  deflater : s.sender.deflater = none ∨ s.sender.deflater = (encodeRun Given.wire c waits).2
  numbers : s.sender.suspended.map (fun o => o.number.isSome) = waits.map Given.compressed
  waiting : s.waiting = waits.map Given.frame
  plain : c = none → ∀ g ∈ waits, g.compressed = false

/-- The compressor behind what is written. -/
def reached (s : Outbound Z) (out : List Given) : Option (CompressHalf Z) :=
  compressorBehind s.compressor out

/-- `connect` has ended once, with settings that both ends can work with. -/
structure Settled (s : Outbound Z) : Prop where
  done : s.params.isSome = true → s.sender.transport.conn.proto.handshakeDone = true
  peer : ∀ p ∈ s.params, ∃ d, p.deflater Z.toZlib = .ok d

/-- The invariant of runs. -/
structure Sound (request : Bytes) (s : Outbound Z) : Prop where
  settled : s.Settled
  wire : ∃ blocks out, s.Written request blocks out ∧
    (s.sender.transport.asyncioTransport = true →
      ∃ held waits, s.Queued (s.reached out) held waits)

/-- No compressed frame waits. -/
theorem Queued.all_plain {s : Outbound Z} {c : Option (CompressHalf Z)} {held : List Block}
    {waits : List Given} (h : s.Queued c held waits) (hpending : s.sender.pending = []) :
    ∀ g ∈ waits, g.compressed = false := by
  have hnone : ∀ o ∈ s.sender.suspended, o.number.isSome = false := by
    intro o ho
    have hnumber := List.filterMap_eq_nil_iff.mp hpending o ho
    rw [hnumber]
    rfl
  intro g hg
  have hmem : g.compressed ∈ waits.map Given.compressed := List.mem_map_of_mem hg
  rw [← h.numbers] at hmem
  obtain ⟨o, ho, hsame⟩ := List.mem_map.mp hmem
  rw [← hsame]
  exact hnone o ho

variable {request : Bytes} {s s' : Outbound Z}

variable {c : Option (CompressHalf Z)} {held : List Block} {waits : List Given} {g : Given}

/-- Where there is no compressor to come to, none is used. -/
theorem Queued.uncompressed (h : s.Queued c held waits)
    (hg : g.compressed = true → s.sender.deflater.isSome = true) :
    c = none → g.compressed = false := by
  intro hnone
  by_contra hsome
  have hdeflater := hg (eq_true_of_ne_false hsome)
  rcases h.deflater with hd | hd
  · rw [hd] at hdeflater
    cases hdeflater
  · rw [hd, Given.run_plain (h.plain hnone), hnone] at hdeflater
    cases hdeflater

variable (s') in
/-- One more call waits. -/
theorem Queued.snoc (h : s.Queued c held waits) {o : Suspended}
    (suspended : s'.sender.suspended = s.sender.suspended ++ [o])
    (number : o.number.isSome = g.compressed)
    (isSealed : Sealed o.frameData (g.wire s.sender.deflater).1) (allowed : g.Allowed)
    (deflater : s'.sender.deflater = (g.wire s.sender.deflater).2)
    (waiting : s'.waiting = s.waiting ++ [g.frame])
    (hg : g.compressed = true → s.sender.deflater.isSome = true) :
    s'.Queued c (held ++ [(o.frameData, (g.wire s.sender.deflater).1)]) (waits ++ [g]) := by
  have hsame := Given.wire_dropped h.deflater hg
  have hrun := Given.run_snoc c waits g
  refine ⟨?_, h.whole.append (.single isSealed (allowed.wire_fits _)), ?_, ?_, ?_, ?_, ?_, ?_⟩
  · rw [suspended, List.map_append, List.map_append, h.suspended]
    rfl
  · intro g' hg'
    rcases List.mem_append.mp hg' with hg' | hg'
    · exact h.allowed g' hg'
    · rw [List.mem_singleton.mp hg']
      exact allowed
  · rw [hrun, List.map_append, h.frames, ← hsame.1]
    rfl
  · rw [hrun, deflater]
    exact hsame.2
  · rw [suspended, List.map_append, List.map_append, h.numbers, List.map_singleton, number]
    rfl
  · rw [waiting, h.waiting, List.map_append]
    rfl
  · intro hnone g' hg'
    rcases List.mem_append.mp hg' with hg' | hg'
    · exact h.plain hnone g' hg'
    · rw [List.mem_singleton.mp hg']
      exact h.uncompressed hg hnone

variable (s') in
/-- A frame that is written while others wait: it is not compressed, or none of the others is. -/
theorem Queued.overtaken (h : s.Queued c held waits)
    (suspended : s'.sender.suspended = s.sender.suspended)
    (deflater : s'.sender.deflater = (g.wire s.sender.deflater).2)
    (waiting : s'.waiting = s.waiting)
    (hg : g.compressed = true → s.sender.deflater.isSome = true)
    (hturn : g.compressed = true → s.sender.pending = []) :
    (g.wire s.sender.deflater).1 = (g.wire c).1 ∧ s'.Queued (g.wire c).2 held waits := by
  cases hcompressed : g.compressed with
  | false =>
    rw [Given.wire_plain hcompressed] at deflater ⊢
    rw [Given.wire_plain hcompressed]
    refine ⟨rfl, ⟨?_, h.whole, h.allowed, h.frames, ?_, ?_, waiting.trans h.waiting, h.plain⟩⟩
    · rw [suspended, h.suspended]
    · rw [deflater]
      exact h.deflater
    · rw [suspended, h.numbers]
  | true =>
    have hplain := h.all_plain (hturn hcompressed)
    have hrun := Given.run_plain (Z := Z) hplain
    have hd : s.sender.deflater = none ∨ s.sender.deflater = c := by
      have hd := h.deflater
      rwa [hrun] at hd
    obtain ⟨hframe, hafter⟩ := Given.wire_dropped hd hg
    refine ⟨hframe, ⟨?_, h.whole, h.allowed, ?_, ?_, ?_, waiting.trans h.waiting, fun _ => hplain⟩⟩
    · rw [suspended, h.suspended]
    · rw [h.frames, hrun, hrun]
    · rw [hrun, deflater]
      exact hafter
    · rw [suspended, h.numbers]

variable (s') in
/-- The first call that waits has gone on. -/
theorem Queued.tail (h : s.Queued c held waits) {o : Suspended}
    (suspended : s.sender.suspended = o :: s'.sender.suspended)
    (deflater : s'.sender.deflater = s.sender.deflater) (waiting : s'.waiting = s.waiting.tail) :
    ∃ (g : Given) (held' : List Block) (waits' : List Given),
      s.waiting.take 1 = [g.frame] ∧ g.Allowed ∧ Sealed o.frameData (g.wire c).1 ∧
      (c = none → g.compressed = false) ∧ s'.Queued (g.wire c).2 held' waits' := by
  obtain ⟨hsuspended, hwhole, hallowed, hframes, hdeflater, hnumbers, hwaiting, hplain⟩ := h
  rw [suspended, List.map_cons] at hsuspended hnumbers
  cases waits with
  | nil => cases hnumbers
  | cons g waits' =>
    cases held with
    | nil => cases hsuspended
    | cons block held' =>
      obtain ⟨hdata, hsuspended⟩ := List.cons.inj hsuspended
      obtain ⟨hframe, hframes⟩ := List.cons.inj hframes
      obtain ⟨-, hnumbers⟩ := List.cons.inj hnumbers
      refine ⟨g, held', waits', ?_, hallowed g List.mem_cons_self, ?_,
        fun hnone => hplain hnone g List.mem_cons_self, hsuspended,
        fun x hx => hwhole x (List.mem_cons_of_mem block hx),
        fun g' hg => hallowed g' (List.mem_cons_of_mem g hg), hframes, ?_, hnumbers, ?_, ?_⟩
      · rw [hwaiting]
        rfl
      · rw [hdata, ← hframe]
        exact (hwhole block List.mem_cons_self).1
      · rw [deflater]
        exact hdeflater
      · rw [waiting, hwaiting]
        rfl
      · intro hnone g' hg
        cases hc : c with
        | none => exact hplain hc g' (List.mem_cons_of_mem g hg)
        | some half =>
          -- a compressor is not lost on the way
          rw [hc] at hnone
          unfold Given.wire at hnone
          split at hnone <;> cases hnone

/-- **A call** keeps the invariant, unless it overtakes another. -/
theorem sound_call (h : s.Sound request) {i : Action Z} {call : Bool × Frame} {t' : Sender Z}
    (hcall : i.call = some call) (hcare : s.Careful i) (ht : s.sender.step i = some t') :
    (s.called t' call.2).Sound request := by
  obtain ⟨hsettled, blocks, out, hwritten, hqueued⟩ := h
  unfold called
  cases Sender.step_called hcall ht with
  | raises hready =>
    rw [if_pos hready]
    exact ⟨hsettled, blocks, out, hwritten, hqueued⟩
  | @waits u o hready hblocked hnumber hout =>
    rw [if_neg (not_not.mpr hready), if_pos hblocked]
    obtain ⟨held, waits, hq⟩ := hqueued hready.2.2
    have hwaiting := hq.snoc ⟨u.wait o, s.params, s.sent, s.waiting ++ [call.2]⟩
      (g := ⟨call.2, o.number.isSome⟩) (congrArg (· ++ [o]) hout.suspended) rfl hout.isSealed
      (hcare.2.allowed hcall hnumber) hout.deflater rfl (fun hg => (hnumber.mp hg).1)
    have hconn := congrArg AsyncTransport.conn hout.transport
    refine ⟨⟨fun hp => ?_, hsettled.peer⟩, blocks, out, ⟨?_, hwritten.whole, hwritten.allowed,
      hwritten.frames, hwritten.sent, hwritten.plain⟩, fun _ => ⟨_, _, hwaiting⟩⟩
    · show u.transport.conn.proto.handshakeDone = true
      rw [hconn]
      exact hsettled.done hp
    · show u.transport.conn.sock.written = _
      rw [hconn]
      exact hwritten.written
  | @writes u o hready hblocked hnumber hout =>
    rw [if_neg (not_not.mpr hready), if_neg hblocked]
    obtain ⟨held, waits, hq⟩ := hqueued hready.2.2
    have hcompressed : o.number.isSome = true → s.sender.deflater.isSome = true :=
      fun hg => (hnumber.mp hg).1
    have hturn : o.number.isSome = true → s.sender.pending = [] := by
      intro hg
      by_contra hne
      exact hcare.1 call hcall ⟨hready, hblocked, hnumber.mp hg, hne⟩
    obtain ⟨hframe, hbehind⟩ := hq.overtaken
      ⟨u.write o, s.params, s.sent ++ [call.2], s.waiting⟩
      (g := ⟨call.2, o.number.isSome⟩) hout.suspended hout.deflater rfl hcompressed hturn
    have hconn := congrArg AsyncTransport.conn hout.transport
    have hsock : u.transport.conn.sock.written ++ [o.frameData] =
        s.sender.transport.conn.sock.written ++ [o.frameData] := by rw [hconn]
    obtain ⟨hsnoc, hreached⟩ := hwritten.snoc (g := ⟨call.2, o.number.isSome⟩) hsock
      (hframe ▸ hout.isSealed) (hcare.2.allowed hcall hnumber) (hq.uncompressed hcompressed)
    refine ⟨⟨fun hp => ?_, hsettled.peer⟩, _, _, hsnoc, fun _ => ⟨held, waits, ?_⟩⟩
    · show u.transport.conn.proto.handshakeDone = true
      rw [hconn]
      exact hsettled.done hp
    · rw [show Outbound.reached ⟨u.write o, s.params, s.sent ++ [call.2], s.waiting⟩ _ = _ from
        hreached]
      exact hbehind

/-- **A call that waited** keeps the invariant. -/
theorem sound_resumeSend (h : s.Sound request) {t' : Sender Z}
    (ht : s.sender.step .resumeSend = some t') : (s.noted t' .resumeSend).Sound request := by
  obtain ⟨hsettled, blocks, out, hwritten, hqueued⟩ := h
  obtain ⟨o, hout⟩ := Sender.step_resumeSend ht
  obtain ⟨hdeflater, hdone⟩ := Sender.resumeSend_rest ht
  have hdone : (s.noted t' .resumeSend).Settled :=
    ⟨fun hp => hdone.trans (hsettled.done hp), hsettled.peer⟩
  cases ha : s.sender.transport.asyncioTransport with
  | true =>
    obtain ⟨held, waits, hq⟩ := hqueued ha
    obtain ⟨g, held', waits', htake, hallowed, hsealed, hplain, hbehind⟩ :=
      hq.tail (s.noted t' .resumeSend) hout.suspended hdeflater rfl
    have hsent : (s.noted t' .resumeSend).sent = s.sent ++ [g.frame] := by
      rw [← htake]
      exact if_pos ha
    obtain ⟨hsnoc, hreached⟩ := hwritten.snoc (hout.writes ha).1 hsealed hallowed hplain
    rw [← hsent] at hsnoc
    refine ⟨hdone, _, _, hsnoc, fun _ => ⟨held', waits', ?_⟩⟩
    rw [show (s.noted t' .resumeSend).reached _ = _ from hreached]
    exact hbehind
  | false =>
    -- the transport is gone: what waits is never written
    have hsent : (s.noted t' .resumeSend).sent = s.sent := if_neg (by simp [ha])
    refine ⟨hdone, blocks, out, ⟨(hout.raises ha).1.trans hwritten.written, hwritten.whole,
      hwritten.allowed, hwritten.frames, hwritten.sent.trans (congrArg contents hsent.symm),
      hwritten.plain⟩, fun htransport => ?_⟩
    exact absurd (htransport.symm.trans (hout.transport.trans ha)) (by decide)

/-- **Everything else** but the end of `connect`. -/
theorem sound_other (h : s.Sound request) {i : Action Z} {t' : Sender Z} (hcall : i.call = none)
    (hresume : i ≠ .resumeSend) (hconnect : ∀ params keys, i ≠ .finishConnect params keys)
    (hfit : s.sender.Fitting i) (ht : s.sender.step i = some t') :
    ({ s with sender := t' } : Outbound Z).Sound request := by
  obtain ⟨hsettled, blocks, out, hwritten, hqueued⟩ := h
  obtain ⟨hadvanced, hsuspended, -, -⟩ := Sender.step_other hcall hresume ht
  obtain ⟨hadded, hdone⟩ := hadvanced.replies hfit
  obtain ⟨_, _, hsame, hreached⟩ := hwritten.own hadded
  refine ⟨⟨fun hp => hdone (hsettled.done hp), hsettled.peer⟩, _, _, hsame, fun ha => ?_⟩
  obtain ⟨held, waits, hq⟩ := hqueued (hadvanced.transport_kept ha)
  refine ⟨held, waits, ?_⟩
  rw [show ({ s with sender := t' } : Outbound Z).reached _ = _ from hreached]
  refine ⟨?_, hq.whole, hq.allowed, hq.frames, ?_, ?_, hq.waiting, hq.plain⟩
  · rw [hsuspended, hq.suspended]
  · rcases Sender.step_deflater hcall hresume hconnect ht with hd | hd
    · rw [hd]
      exact hq.deflater
    · exact .inl hd
  · rw [hsuspended, hq.numbers]

/-- **The end of `connect`**: the settings, and nothing that was compressed before. -/
theorem sound_finishConnect (h : s.Sound request) {params : Option DeflateParams}
    {keys : Nat → MaskKey} {t' : Sender Z}
    (ht : s.sender.step (.finishConnect params keys) = some t') :
    ({ s with sender := t', params := params } : Outbound Z).Sound request := by
  obtain ⟨hsettled, blocks, out, hwritten, hqueued⟩ := h
  obtain ⟨hadvanced, hsuspended, -, -⟩ :=
    Sender.step_other (i := .finishConnect params keys) rfl (by simp) ht
  obtain ⟨hresponded, hdone, hpeer, hdeflater⟩ := Sender.finishConnect_rest ht
  have hnone : s.compressor = none := by
    unfold compressor
    cases hp : s.params with
    | none => rfl
    | some p =>
      have hset := hsettled.done (by rw [hp]; rfl)
      exact absurd (hset.symm.trans hresponded) (by decide)
  have hplain := hwritten.plain hnone
  -- nothing was compressed, so that any compressor does for what is written
  let u : Outbound Z := { s with params := params }
  have hstart : u.Written request blocks out := by
    refine ⟨hwritten.written, hwritten.whole, hwritten.allowed, ?_, hwritten.sent,
      fun _ => hplain⟩
    rw [hwritten.frames, Given.run_plain hplain, Given.run_plain hplain]
  have hreach : u.reached out = params.map (fun p => p.compressor Z) := by
    unfold reached compressorBehind
    rw [Given.run_plain hplain]
    rfl
  obtain ⟨_, _, hsame, hreached⟩ := hstart.own (hadvanced.replies trivial).written
  refine ⟨⟨fun _ => hdone, hpeer⟩, _, _, hsame, fun ha => ?_⟩
  obtain ⟨held, waits, hq⟩ := hqueued (hadvanced.transport_kept ha)
  have hbefore : s.reached out = none := by
    unfold reached compressorBehind
    rw [Given.run_plain hplain, hnone]
  have hwaits := hq.plain hbefore
  have hrun := Given.run_plain (Z := Z) hwaits
  refine ⟨held, waits, ?_⟩
  rw [show ({ s with sender := t', params := params } : Outbound Z).reached _ = _ from hreached,
    show compressorBehind u.compressor out = _ from hreach]
  refine ⟨?_, hq.whole, hq.allowed, ?_, ?_, ?_, hq.waiting, fun _ => hwaits⟩
  · rw [hsuspended, hq.suspended]
  · rw [hq.frames, hrun, hrun]
  · rw [hrun]
    cases params with
    | none =>
      have hd := hq.deflater
      rw [hrun, hbefore] at hd
      exact .inl (hdeflater.trans (or_self_iff.mp hd))
    | some p => exact .inr hdeflater
  · rw [hsuspended, hq.numbers]

/-- **One step** that is careful keeps the invariant. -/
theorem sound_step (s : Outbound Z) (i : Action Z) (s' : Outbound Z) (h : s.Sound request)
    (hcare : s.Careful i) (hs : s.step i = some s') : s'.Sound request := by
  obtain ⟨t', ht, rfl⟩ := Option.map_eq_some_iff.mp hs
  cases hcall : i.call with
  | some call =>
    have hnoted : s.noted t' i = s.called t' call.2 := by
      unfold noted
      rw [hcall]
    rw [hnoted]
    exact sound_call h hcall hcare ht
  | none =>
    cases i with
    | send | sendFrame => cases hcall
    | resumeSend => exact sound_resumeSend h ht
    | finishConnect params keys => exact sound_finishConnect h ht
    | _ => exact sound_other h rfl (by simp) (by simp) hcare.2 ht

theorem sound_start (config : TransportConfig) (compressionThreshold : Int) (request : Bytes) :
    (start Z config compressionThreshold request).Sound request := by
  refine ⟨⟨fun h => (Bool.false_ne_true h).elim, fun p hp => absurd hp (Option.not_mem_none p)⟩,
    [], [], .nothing request none,
    fun _ => ⟨[], [], ⟨rfl, Whole.nil, fun g hg => absurd hg List.not_mem_nil, rfl, .inl rfl, rfl,
      rfl, fun _ g hg => absurd hg List.not_mem_nil⟩⟩⟩

/-- **The peer recovers everything.** In any run in which no call overtakes another and the other
end can take what is given: cut in any way, what is written behind the request is masked frames
that its parser takes one and all, and its decompressor recovers the messages of the calls that
have written, in the order of the writes. -/
theorem peer_recovers (hz : Z.SyncFlushed) (config : TransportConfig) (compressionThreshold : Int)
    (request : Bytes) (run : List (Action Z)) {s : Outbound Z}
    (hrun : exec step (start Z config compressionThreshold request) run = some s)
    (hcare : Meets step Careful (start Z config compressionThreshold request) run)
    (order : Word.ByteOrder) (maxFrameSize maxMessageSize : Nat)
    (hmax : maxFrameSize ≤ ssizeMax)
    (hlen : ∀ w ∈ framesWritten s.sender.transport, w.length ≤ maxFrameSize)
    (chunks : List Bytes) (hcut : chunks.flatten = (framesWritten s.sender.transport).flatten) :
    (∀ w ∈ framesWritten s.sender.transport, IsMasked w) ∧
      ∃ frames queued peer',
        (FrameParser.new order maxFrameSize maxMessageSize).feedAll chunks =
            (FrameParser.new order maxFrameSize maxMessageSize,
              .ok (frames, chunks.flatten.length)) ∧
          inflateAll s.peer frames = some (queued, peer') ∧
          contents queued = contents s.sent := by
  obtain ⟨hsettled, blocks, out, hwritten, -⟩ := (always_of_meets (I := Sound request) sound_step
    (sound_start config compressionThreshold request) hcare).last hrun
  exact hwritten.recovers hz (paired_new hsettled.peer) order maxFrameSize maxMessageSize hmax hlen
    chunks hcut

/-- Two messages wait, a Ping goes out before them, and a Close frame behind them. -/
def busyRun : List (Action smallZlib) :=
  Sender.opening ++ [.pauseWriting, Sender.sends 1 [], Sender.sends 2 hello,
    .ping [0x01] ⟨1, 2, 3, 4⟩, .resumeWriting, .resumeSend, .resumeSend,
    .close 3 1000 "bye" ⟨5, 6, 7, 8⟩]

theorem peer_recovers_busy :
    ∃ s frames queued peer',
      exec step (start smallZlib ⟨.little, 1024, 4096, false⟩ 0 []) busyRun = some s ∧
      (FrameParser.new .big 1024 4096).feedAll [(framesWritten s.sender.transport).flatten] =
        (FrameParser.new .big 1024 4096, .ok (frames, 38)) ∧
      inflateAll s.peer frames = some (queued, peer') ∧
      contents queued = [(.binary, [], true), (.binary, hello, true)] := by
  obtain ⟨-, frames, queued, peer', hfeed, hinflate, hcontents⟩ :=
    peer_recovers smallZlib_syncFlushed ⟨.little, 1024, 4096, false⟩ 0 [] busyRun rfl (by decide)
      .big 1024 4096 (by decide) (by decide) [_] (List.append_nil _)
  exact ⟨_, frames, queued, peer', rfl, hfeed, hinflate, hcontents⟩

end Outbound
end JetSocket.Transport
