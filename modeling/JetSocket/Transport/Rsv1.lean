import JetSocket.Transport.MessageSize

/- A frame with RSV1 set, on a connection without permessage-deflate.

   The parser lets RSV1 through, as it does not know what was negotiated, and leaves it to the
   transports to look at. Both look at it where they decide whether to decompress, and pass the
   frame on as it is when there is no deflater (`transport/_async.py`, `data_received`;
   `transport/_sync.py`, `recv`).

   A transport is watched: the frames that the parser hands over at a step, whether that step
   failed the connection, and what `recv` returns. `Refused` is what the other two reserved bits
   get. Failing is closing the socket in `data_received`, and raising `ProtocolError` in the
   blocking `recv`.

   Result: `rsv1_refused_iff`, a run of either transport refuses RSV1 exactly when no frame with
   RSV1 arrives in it. -/
namespace JetSocket.Transport
open JetSocket.Core Transition AsyncTransport

/-! ## Watching a transport -/

/-- What a step comes to: the transport after it, whether it failed the connection, and the
frames that `recv` returned. -/
structure Outcome (T : Type) where
  transport : T
  failed : Bool
  returned : List Frame

/-- A transport, with the frames that arrived at every step so far and whether the step failed the
connection, and with all that `recv` returned. -/
structure Watched (T : Type) where
  transport : T
  arrivals : List (List Frame × Bool)
  returned : List Frame

/-- No frame with RSV1 was returned, and each that arrived failed the connection. -/
def Watched.Refused {T : Type} (w : Watched T) : Prop :=
  (∀ f ∈ w.returned, f.rsv1 = false) ∧
    ∀ a ∈ w.arrivals, (∃ f ∈ a.1, f.rsv1 = true) → a.2 = true

section Watch
variable {T ι : Type} (arrives : T → ι → List Frame) (next : T → ι → Option (Outcome T))

def Watched.step (w : Watched T) (i : ι) : Option (Watched T) :=
  (next w.transport i).map (fun o =>
    { transport := o.transport
      arrivals := w.arrivals ++ [(arrives w.transport i, o.failed)]
      returned := w.returned ++ o.returned })

/-- What arrives has RSV1 clear. -/
def NoRsv1 (w : Watched T) (i : ι) : Prop := ∀ f ∈ arrives w.transport i, f.rsv1 = false

def Watched.start (t : T) : Watched T := { transport := t, arrivals := [], returned := [] }

/-- A step passes frames with RSV1 on, from what arrives to the queue and from there to `recv`, and
does not fail the connection where frames arrive. -/
structure Passes (queue : T → List Frame) (t : T) (fs : List Frame) (o : Outcome T) : Prop where
  kept : ∀ f ∈ queue o.transport, f.rsv1 = true → f ∈ queue t ∨ f ∈ fs
  returned : ∀ f ∈ o.returned, f.rsv1 = true → f ∈ queue t ∨ f ∈ fs
  stands : fs ≠ [] → o.failed = false

/-- Every queued frame with RSV1 arrived, and the connection stood. -/
def Backed (queue : T → List Frame) (w : Watched T) : Prop :=
  ∀ f ∈ queue w.transport, f.rsv1 = true → ∃ a ∈ w.arrivals, f ∈ a.1 ∧ a.2 = false

variable {arrives next} {queue : T → List Frame}

/-- Where RSV1 was refused so far, no queued frame has it. -/
theorem Backed.clear {w : Watched T} (hb : Backed queue w) (hr : w.Refused) {f : Frame}
    (hf : f ∈ queue w.transport) : f.rsv1 = false := by
  by_contra hrsv1
  have hset : f.rsv1 = true := Bool.eq_true_of_not_eq_false hrsv1
  obtain ⟨a, ha, hmem, hstood⟩ := hb f hf hset
  have hfailed := hr.2 a ha ⟨f, hmem, hset⟩
  rw [hstood] at hfailed
  cases hfailed

theorem backed_step
    (hnext : ∀ t i o, next t i = some o → Passes queue t (arrives t i) o)
    (w : Watched T) (i : ι) (w' : Watched T) (hb : Backed queue w)
    (hs : w.step arrives next i = some w') : Backed queue w' := by
  obtain ⟨o, ho, rfl⟩ := Option.map_eq_some_iff.mp hs
  have hpasses := hnext _ _ _ ho
  intro f hf hrsv1
  obtain hold | hnew := hpasses.kept f hf hrsv1
  · obtain ⟨a, ha, hmem, hstood⟩ := hb f hold hrsv1
    exact ⟨a, List.mem_append_left _ ha, hmem, hstood⟩
  · exact ⟨_, List.mem_append_right _ List.mem_cons_self, hnew,
      hpasses.stands (List.ne_nil_of_mem hnew)⟩

/-- **One step**: what was refused so far is refused after it exactly when nothing with RSV1
arrives. -/
theorem refused_step
    (hnext : ∀ t i o, next t i = some o → Passes queue t (arrives t i) o)
    (w : Watched T) (i : ι) (w' : Watched T) (hb : Backed queue w) (hr : w.Refused)
    (hs : w.step arrives next i = some w') : w'.Refused ↔ NoRsv1 arrives w i := by
  obtain ⟨o, ho, rfl⟩ := Option.map_eq_some_iff.mp hs
  have hpasses := hnext _ _ _ ho
  constructor
  · intro h f hf
    by_contra hrsv1
    have hset : f.rsv1 = true := Bool.eq_true_of_not_eq_false hrsv1
    have hfailed := h.2 _ (List.mem_append_right _ List.mem_cons_self) ⟨f, hf, hset⟩
    rw [hpasses.stands (List.ne_nil_of_mem hf)] at hfailed
    cases hfailed
  · intro hclear
    constructor
    · intro f hf
      obtain hold | hnew := List.mem_append.mp hf
      · exact hr.1 f hold
      · by_contra hrsv1
        have hset : f.rsv1 = true := Bool.eq_true_of_not_eq_false hrsv1
        obtain hqueued | harrived := hpasses.returned f hnew hset
        · exact hrsv1 (hb.clear hr hqueued)
        · exact hrsv1 (hclear f harrived)
    · rintro a ha ⟨f, hf, hset⟩
      obtain hold | hnew := List.mem_append.mp ha
      · exact hr.2 a hold ⟨f, hf, hset⟩
      · obtain rfl := List.mem_singleton.mp hnew
        rw [hclear f hf] at hset
        cases hset

theorem refused_iff
    (hnext : ∀ t i o, next t i = some o → Passes queue t (arrives t i) o) {t : T}
    (hempty : queue t = []) (run : List ι) :
    Always (Watched.step arrives next) Watched.Refused (Watched.start t) run ↔
      Meets (Watched.step arrives next) (NoRsv1 arrives) (Watched.start t) run := by
  refine always_iff_meets_of_inv (backed_step hnext) (refused_step hnext) run ?_ ?_
  · intro f hf
    rw [show queue (Watched.start t).transport = [] from hempty] at hf
    cases hf
  · exact ⟨fun f hf => absurd hf List.not_mem_nil, fun a ha => absurd ha List.not_mem_nil⟩

end Watch

/-! ## What the parser hands over -/

/-- The frames that a `feed` returns, none where it raises. -/
def handedOver (parser : Option FrameParser) (data : Bytes) : List Frame :=
  match parser with
  | none => []
  | some parser =>
    match (parser.feed data).2 with
    | .ok (frames, _) => frames
    | .error _ => []

variable {Z : Zlib}

/-- Nothing that is inflated has RSV1. -/
theorem inflate_rsv1 {d d' : Option (Deflater Z)} {f g : Frame} {qs : List Frame}
    (h : inflate d f = some (qs, d')) (hg : g ∈ qs) (hrsv1 : g.rsv1 = true) : g = f := by
  have hself : ∀ d'' : Option (Deflater Z), some ([f], d'') = some (qs, d') → g = f := by
    intro d'' he
    obtain ⟨rfl, -⟩ := Prod.mk.inj (Option.some.inj he)
    exact List.mem_singleton.mp hg
  unfold inflate at h
  split at h
  · obtain ⟨rfl, -⟩ := Prod.mk.inj (Option.some.inj h)
    cases hg
  · split at h
    · exact hself _ h
    · split at h
      · obtain ⟨r, -, hr⟩ := Option.map_eq_some_iff.mp h
        obtain ⟨rfl, -⟩ := Prod.mk.inj hr
        obtain rfl := List.mem_singleton.mp hg
        cases hrsv1
      · exact hself _ h

theorem inflated_rsv1 {g : Frame} (hrsv1 : g.rsv1 = true) : ∀ (fs : List Frame)
    (d : Option (Deflater Z)), g ∈ inflated d fs → g ∈ fs
  | [], _, h => h
  | f :: rest, d, h => by
    rw [inflated] at h
    cases hinf : inflate d f with
    | none =>
      rw [hinf] at h
      cases h
    | some r =>
      rw [hinf] at h
      obtain hone | hmore := List.mem_append.mp h
      · rw [inflate_rsv1 hinf hone hrsv1]
        exact List.mem_cons_self
      · exact List.mem_cons_of_mem f (inflated_rsv1 hrsv1 rest r.2 hmore)

theorem dataFrames_rsv1 {g : Frame} (hrsv1 : g.rsv1 = true) : ∀ (fs : List Frame)
    (d : Option (Deflater Z)), g ∈ (dataFrames d fs).getD [] → g ∈ fs
  | [], _, h => h
  | f :: rest, d, h => by
    rw [dataFrames] at h
    split at h
    · exact List.mem_cons_of_mem f (dataFrames_rsv1 hrsv1 rest none h)
    · split at h
      · exact List.mem_cons_of_mem f (dataFrames_rsv1 hrsv1 rest d h)
      · cases hinf : inflate d f with
        | none =>
          rw [hinf] at h
          cases h
        | some r =>
          rw [hinf, Option.bind_some] at h
          cases hdata : dataFrames r.2 rest with
          | none =>
            rw [hdata] at h
            cases h
          | some ds =>
            rw [hdata] at h
            obtain hone | hmore := List.mem_append.mp h
            · rw [inflate_rsv1 hinf hone hrsv1]
              exact List.mem_cons_self
            · have hrest := dataFrames_rsv1 hrsv1 rest r.2
              rw [hdata] at hrest
              exact List.mem_cons_of_mem f (hrest hmore)

/-! ## The asyncio transport -/

/-- What can happen next to a connection that negotiates no extension. -/
inductive PlainInput where
  | dataReceived (data : Bytes) (keys : Nat → MaskKey)
  | connectionLost (exc : Option Exc)
  | finishConnect (keys : Nat → MaskKey)
  | recv (task : Nat) (key : MaskKey)
  | resume (task : Nat) (key : MaskKey)
  | timeout (task : Nat)

def PlainInput.input : PlainInput → Input Z
  | .dataReceived data keys => .dataReceived data keys
  | .connectionLost exc => .connectionLost exc
  | .finishConnect keys => .finishConnect none keys
  | .recv task key => .recv task key
  | .resume task key => .resume task key
  | .timeout task => .timeout task

/-- The frames that arrive with bytes. -/
def incoming (c : Conn Z) (data : Bytes) : List Frame :=
  if c.proto.handshakeDone then handedOver c.proto.parser data else []

def AsyncTransport.arrives (t : AsyncTransport Z) : PlainInput → List Frame
  | .dataReceived data _ => incoming t.conn data
  | .finishConnect _ =>
    if (leftover t.conn.proto.handshakeBuffer).isEmpty then []
    else incoming (t.switchToFrames none) (leftover t.conn.proto.handshakeBuffer)
  | _ => []

/-- Nothing is received on a socket that this side has closed. -/
def PlainInput.possible (t : AsyncTransport Z) : PlainInput → Bool
  | .dataReceived _ _ => !t.conn.sock.closing
  | _ => true

def AsyncTransport.next (t : AsyncTransport Z) (i : PlainInput) :
    Option (Outcome (AsyncTransport Z)) :=
  if i.possible t then
    (step t i.input).map (fun u =>
      { transport := u
        failed := !t.conn.sock.closing && u.conn.sock.closing
        returned := (recvRun t i.input).elim [] (fun r => r.2.frame.toList) })
  else none

/-- Bytes that bring frames leave the socket alone. -/
theorem dataReceived_stands {c : Conn Z} {data : Bytes} (h : incoming c data ≠ [])
    (keys : Nat → MaskKey) : (dataReceived c data keys).1.sock.closing = c.sock.closing := by
  unfold incoming at h
  unfold dataReceived
  cases hdone : c.proto.handshakeDone with
  | false =>
    rw [hdone] at h
    exact absurd rfl h
  | true =>
    rw [hdone, if_pos rfl] at h
    cases hp : c.proto.parser with
    | none =>
      rw [hp] at h
      exact absurd rfl h
    | some parser =>
      rw [hp] at h
      dsimp only [handedOver] at h
      simp only [Bool.not_true, Bool.false_eq_true, if_false]
      cases hfed : (parser.feed data).2 with
      | error e =>
        rw [hfed] at h
        exact absurd rfl h
      | ok r =>
        have hloop := handleFrames_keeps (Z := Z)
          (R := fun c c' => c'.sock.closing = c.sock.closing) (fun _ => rfl)
          (fun h h' => h'.trans h) (fun hone => by cases hone <;> rfl)
        exact hloop r.1 _ keys

/-- What bytes bring in with RSV1 is queued as it arrived. -/
theorem dataReceived_rsv1 (c : Conn Z) (data : Bytes) (keys : Nat → MaskKey) {f : Frame}
    (hf : f ∈ (dataReceived c data keys).1.proto.frames) (hrsv1 : f.rsv1 = true) :
    f ∈ c.proto.frames ∨ f ∈ incoming c data := by
  rw [dataReceived_frames] at hf
  refine (List.mem_append.mp hf).imp_right (fun hnew => ?_)
  unfold arrived at hnew
  unfold incoming handedOver
  cases hdone : c.proto.handshakeDone with
  | false =>
    rw [hdone] at hnew
    cases hnew
  | true =>
    cases hp : c.proto.parser with
    | none =>
      rw [hdone, hp] at hnew
      cases hnew
    | some parser =>
      rw [hdone, hp] at hnew
      cases hfed : (parser.feed data).2 with
      | error e =>
        simp only [hfed] at hnew
        cases hnew
      | ok r =>
        simp only [hfed] at hnew
        simp only [hfed, if_true]
        exact inflated_rsv1 hrsv1 r.1 _ hnew

/-- **The asyncio transport** passes RSV1 on. -/
theorem AsyncTransport.passes (t : AsyncTransport Z) (i : PlainInput) (o : Outcome (AsyncTransport Z))
    (h : t.next i = some o) :
    Passes (fun t : AsyncTransport Z => t.conn.proto.frames) t (t.arrives i) o := by
  unfold AsyncTransport.next at h
  split at h
  · obtain ⟨u, hu, rfl⟩ := Option.map_eq_some_iff.mp h
    have hnothing : t.arrives i = [] → u.conn.proto.frames = t.conn.proto.frames →
        recvRun (Z := Z) t i.input = none →
        Passes (fun t : AsyncTransport Z => t.conn.proto.frames) t (t.arrives i)
          { transport := u
            failed := !t.conn.sock.closing && u.conn.sock.closing
            returned := (recvRun t i.input).elim [] (fun r => r.2.frame.toList) } := by
      intro harrives hframes hrun
      rw [harrives, hrun]
      exact ⟨fun f hf _ => .inl (hframes ▸ hf), fun f hf => (by cases hf), fun h => absurd rfl h⟩
    have hran : t.arrives i = [] → ∀ stop, recvRun (Z := Z) t i.input = some (u, stop) →
        Passes (fun t : AsyncTransport Z => t.conn.proto.frames) t (t.arrives i)
          { transport := u
            failed := !t.conn.sock.closing && u.conn.sock.closing
            returned := (recvRun t i.input).elim [] (fun r => r.2.frame.toList) } := by
      intro harrives stop hrun
      obtain ⟨hkept, hreturned⟩ := recvRun_frames hrun
      rw [harrives, hrun]
      refine ⟨fun f hf _ => .inl (hkept f hf), fun f hf _ => .inl ?_, fun h => absurd rfl h⟩
      exact hreturned f (by simpa using hf)
    cases i with
    | dataReceived data keys =>
      obtain rfl := Option.some.inj hu
      refine ⟨fun f hf hrsv1 => dataReceived_rsv1 t.conn data keys hf hrsv1,
        fun f hf => (by cases hf), fun hsome => ?_⟩
      rw [dataReceived_stands hsome keys]
      cases t.conn.sock.closing <;> rfl
    | connectionLost exc =>
      obtain rfl := Option.some.inj hu
      exact hnothing rfl rfl rfl
    | finishConnect keys =>
      simp only [PlainInput.input, step] at hu
      split at hu
      · obtain rfl := Option.some.inj hu
        have hconn := finishConnect_conn t none keys
        by_cases hempty : (leftover t.conn.proto.handshakeBuffer).isEmpty = true
        · rw [if_pos hempty] at hconn
          refine hnothing (if_pos hempty) ?_ rfl
          rw [hconn]
          rfl
        · rw [if_neg hempty] at hconn
          have harrives : t.arrives (.finishConnect keys) =
              incoming (t.switchToFrames none) (leftover t.conn.proto.handshakeBuffer) :=
            if_neg hempty
          rw [harrives]
          refine ⟨fun f hf hrsv1 => ?_, fun f hf => (by cases hf), fun hsome => ?_⟩
          · rw [hconn] at hf
            exact dataReceived_rsv1 (t.switchToFrames none) _ keys hf hrsv1
          · dsimp only
            rw [hconn, dataReceived_stands hsome keys]
            show (!t.conn.sock.closing && t.conn.sock.closing) = false
            cases t.conn.sock.closing <;> rfl
      · cases hu
    | recv task key | resume task key | timeout task =>
      obtain ⟨⟨u', stop⟩, hrun, rfl⟩ := Option.map_eq_some_iff.mp hu
      exact hran rfl stop hrun
  · cases h

/-! ## The blocking transport -/

/-- What the thread that reads does next. A call that waits goes on with what its read comes to. -/
inductive ReaderInput where
  | recv
  | read (read : Read) (keys : Nat → MaskKey)

/-- A transport, and whether a call of `recv` reads. -/
structure Reader (Z : Zlib) where
  transport : SyncTransport Z
  reading : Bool

/-- A protocol error is how the blocking `recv` fails the connection. -/
def AsyncTransport.RecvStop.isProtocolError : RecvStop → Bool
  | .raised (.protocolError _) => true
  | _ => false

def Reader.outcome (r : SyncTransport Z × RecvStop) : Outcome (Reader Z) :=
  { transport := { transport := r.1, reading := r.2 = .waiting }
    failed := r.2.isProtocolError
    returned := r.2.frame.toList }

def Reader.next (t : Reader Z) : ReaderInput → Option (Outcome (Reader Z))
  | .recv => if t.reading then none else some (outcome t.transport.recv)
  | .read read keys => if t.reading then some (outcome (t.transport.recvChunk read keys)) else none

/-- The frames that arrive with a read. -/
def Reader.arrives (t : Reader Z) : ReaderInput → List Frame
  | .read (.chunk (b :: bs)) _ =>
    if t.transport.socket then handedOver t.transport.parser (b :: bs) else []
  | _ => []

/-- Nothing but what arrives is brought in. -/
theorem arrived_rsv1 (t : SyncTransport Z) (read : Read) (keys : Nat → MaskKey) (reading : Bool)
    {f : Frame} (hf : f ∈ t.arrived read) (hrsv1 : f.rsv1 = true) :
    f ∈ Reader.arrives ⟨t, reading⟩ (.read read keys) := by
  cases read with
  | timedOut | failed => cases hf
  | chunk data =>
    cases data with
    | nil => cases hf
    | cons b bs =>
      dsimp only [Reader.arrives]
      unfold SyncTransport.arrived at hf
      unfold handedOver
      cases hsocket : t.socket with
      | false =>
        rw [hsocket] at hf
        cases hf
      | true =>
        cases hp : t.parser with
        | none =>
          rw [hsocket, hp] at hf
          cases hf
        | some parser =>
          rw [hsocket, hp] at hf
          cases hfed : (parser.feed (b :: bs)).2 with
          | error e =>
            simp only [hfed] at hf
            cases hf
          | ok r =>
            simp only [hfed] at hf
            simp only [hfed, if_true]
            exact dataFrames_rsv1 hrsv1 r.1 _ hf

/-- A read that brings frames does not raise `ProtocolError`. -/
theorem recvChunk_stands {t : SyncTransport Z} {read : Read} {keys : Nat → MaskKey}
    {reading : Bool} (h : Reader.arrives ⟨t, reading⟩ (.read read keys) ≠ []) :
    (t.recvChunk read keys).2.isProtocolError = false := by
  cases read with
  | timedOut | failed => exact absurd rfl h
  | chunk data =>
    cases data with
    | nil => exact absurd rfl h
    | cons b bs =>
      dsimp only [Reader.arrives] at h
      unfold SyncTransport.recvChunk
      cases hsocket : t.socket with
      | false =>
        rw [hsocket] at h
        exact absurd rfl h
      | true =>
        cases hp : t.parser with
        | none =>
          rw [hsocket, hp] at h
          exact absurd rfl h
        | some parser =>
          rw [hsocket, hp] at h
          dsimp only [handedOver] at h
          simp only [Bool.not_true, Bool.false_eq_true, if_false]
          cases hfed : (parser.feed (b :: bs)).2 with
          | error e =>
            rw [hfed] at h
            exact absurd rfl h
          | ok r =>
            dsimp only
            generalize SyncTransport.handleFrames _ keys r.1 = q
            obtain ⟨u, _ | _ | ⟨g, rest⟩⟩ := q
            · rfl
            · rfl
            · rfl

/-- **The blocking transport** passes RSV1 on. -/
theorem Reader.passes (t : Reader Z) (i : ReaderInput) (o : Outcome (Reader Z))
    (h : t.next i = some o) :
    Passes (fun t : Reader Z => t.transport.pendingFrames) t (t.arrives i) o := by
  cases i with
  | recv =>
    simp only [Reader.next] at h
    split at h
    · cases h
    · obtain rfl := Option.some.inj h
      have htakes := t.transport.recv_frames
      refine ⟨fun f hf _ => htakes.kept f hf, fun f hf _ => ?_, fun h => absurd rfl h⟩
      exact htakes.returned f (by simpa [outcome] using hf)
  | read read keys =>
    simp only [Reader.next] at h
    split at h
    · obtain rfl := Option.some.inj h
      have htakes := t.transport.recvChunk_frames read keys
      refine ⟨fun f hf hrsv1 => ?_, fun f hf hrsv1 => ?_, fun hsome => recvChunk_stands hsome⟩
      · exact (htakes.kept f hf).imp_right
          (fun hnew => arrived_rsv1 t.transport read keys t.reading hnew hrsv1)
      · have hstop := htakes.returned f (by simpa [outcome] using hf)
        exact hstop.imp_right
          (fun hnew => arrived_rsv1 t.transport read keys t.reading hnew hrsv1)
    · cases h

/-! ## Runs -/

/-- The asyncio transport from the start of its handshake on. -/
def plainAsync (Z : Zlib) (config : TransportConfig) (request : Bytes) :
    Watched (AsyncTransport Z) := .start (start Z config request)

/-- The blocking transport after a handshake without an extension. -/
def plainReader (Z : Zlib) (config : TransportConfig) : Watched (Reader Z) :=
  .start { transport := (SyncTransport.new Z config).finishConnect none, reading := false }

/-- **RSV1 without an extension** is refused, by either transport, exactly in the runs in which no
frame with RSV1 arrives. -/
theorem rsv1_refused_iff (Z : Zlib) (config : TransportConfig) (request : Bytes) :
    (∀ run, Always (Watched.step arrives next) Watched.Refused (plainAsync Z config request) run ↔
      Meets (Watched.step arrives next) (NoRsv1 arrives) (plainAsync Z config request) run) ∧
    ∀ run, Always (Watched.step Reader.arrives Reader.next) Watched.Refused
        (plainReader Z config) run ↔
      Meets (Watched.step Reader.arrives Reader.next) (NoRsv1 Reader.arrives)
        (plainReader Z config) run :=
  ⟨fun run => refused_iff AsyncTransport.passes rfl run, fun run => refused_iff Reader.passes rfl run⟩

/-- A text frame with RSV1 is returned by both transports. -/
theorem rsv1_returned :
    ¬ Always (Watched.step arrives next) Watched.Refused
        (plainAsync plainZlib ⟨.little, 1024, 4096, false⟩ [])
        [.dataReceived headerEnd (fun _ => ⟨0, 0, 0, 0⟩), .finishConnect (fun _ => ⟨0, 0, 0, 0⟩),
          .dataReceived [0xC1, 0x01, 0x41] (fun _ => ⟨0, 0, 0, 0⟩), .recv 0 ⟨0, 0, 0, 0⟩] ∧
      ¬ Always (Watched.step Reader.arrives Reader.next) Watched.Refused
        (plainReader plainZlib ⟨.little, 1024, 4096, false⟩)
        [.recv, .read (.chunk [0xC1, 0x01, 0x41]) (fun _ => ⟨0, 0, 0, 0⟩)] := by
  have hset : ∀ f : Frame, f.rsv1 = true → ¬ f.rsv1 = false := fun f h h' => by simp [h] at h'
  constructor
  · intro h
    have hlast := h.last rfl
    exact hset _ rfl (hlast.1 { opcode := .text, payload := [0x41], rsv1 := true } (by decide))
  · intro h
    have hlast := h.last rfl
    exact hset _ rfl (hlast.1 { opcode := .text, payload := [0x41], rsv1 := true } (by decide))

end JetSocket.Transport
