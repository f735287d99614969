import JetSocket.Transport.Connect
import JetSocket.Transport.Delivery
import JetSocket.Transport.SyncTransport

/- The bytes behind the handshake response, on both transports.

   The response and the frames share one byte stream, and a read may end anywhere in it. The
   asyncio protocol gathers what arrives in one buffer until `connect` goes on, and `connect`
   hands the part behind the header to the parser. The blocking transport reads the response
   into a local variable and hands over nothing of it.

   Correspondence (Python ↔ Lean), for the blocking transport:
     `_perform_handshake`, up to its loop ↔ `SyncTransport.beginHandshake`
     one turn of its loop, and the rest   ↔ `readResponse`

   What is proved:
     1. `dataReceived_feeds`, `recvChunk_feeds` — `feeds` is what `parser.feed` is given.
     2. `async_boundary` — in every run of the asyncio transport, the parser has been fed what
        arrived behind the first blank line, in order and once.
     3. `sync_boundary_iff` — in a run of the blocking one, exactly when the read that completes
        the header brings nothing behind it. -/
namespace JetSocket.Transport
open JetSocket.Core Transition AsyncTransport

variable {Z : Zlib}

/-- `parser.feed(data)`, for the parser that it leaves. -/
def afterFeed (p : FrameParser) (data : Bytes) : FrameParser := (p.feed data).1

/-! ## The asyncio transport -/

/-- What `data_received` gives to `parser.feed`. -/
def feeds (c : Conn Z) (data : Bytes) : List Bytes :=
  if c.proto.handshakeDone ∧ c.proto.parser.isSome then [data] else []

theorem handleFrames_parser_eq (fs : List Frame) (c : Conn Z) (keys : Nat → MaskKey) :
    (handleFrames c keys fs).1.proto.parser = c.proto.parser := by
  apply handleFrames_keeps (R := fun a b => b.proto.parser = a.proto.parser) (fun _ => rfl)
    (fun hab hbc => hbc.trans hab)
  intro c c' key f h
  cases h <;> rfl

/-- The parser is fed that, and nothing else. -/
theorem dataReceived_feeds (c : Conn Z) (data : Bytes) (keys : Nat → MaskKey) :
    (dataReceived c data keys).1.proto.parser =
      c.proto.parser.map (fun p => (feeds c data).foldl afterFeed p) := by
  unfold dataReceived feeds
  cases hdone : c.proto.handshakeDone with
  | false =>
    cases hp : c.proto.parser with
    | none => simp [hp]
    | some p => simp [hp]
  | true =>
    cases hp : c.proto.parser with
    | none => simp [hp]
    | some p =>
      simp only [Bool.not_true, Bool.false_eq_true, if_false, Option.isSome_some, and_self, if_true,
        Option.map_some, List.foldl_cons, List.foldl_nil, afterFeed]
      split
      · rfl
      · rfl
      · exact handleFrames_parser_eq _ _ keys

/-- A connection, what has arrived, and what the parser has been fed. -/
structure AsyncFeed (Z : Zlib) where
  transport : AsyncTransport Z
  received : Bytes
  fed : List Bytes

namespace AsyncFeed

/-- The handshake has begun. -/
def start (Z : Zlib) (config : TransportConfig) (request : Bytes) : AsyncFeed Z :=
  { transport := Transport.start Z config request, received := [], fed := [] }

/-- What a step feeds to the parser. `connect` calls `data_received` itself, unless nothing is
left over. -/
def feedsOf (s : AsyncFeed Z) : Input Z → List Bytes
  | .dataReceived data _ => feeds s.transport.conn data
  | .finishConnect deflater _ =>
    let remaining := leftover s.transport.conn.proto.handshakeBuffer
    if remaining.isEmpty then [] else feeds (s.transport.switchToFrames deflater) remaining
  | _ => []

def arrivesOf : Input Z → Bytes
  | .dataReceived data _ => data
  | _ => []

def step (s : AsyncFeed Z) (i : Input Z) : Option (AsyncFeed Z) :=
  (Transport.step s.transport i).map (fun t =>
    { transport := t, received := s.received ++ arrivesOf i, fed := s.fed ++ s.feedsOf i })

/-- The parser has been fed what arrived behind the header, once `connect` has gone on, and
nothing before. -/
def Exact (s : AsyncFeed Z) : Prop :=
  s.fed.flatten =
    if s.transport.conn.proto.handshakeDone then leftover s.received else []

/-- The invariant of runs: before, the buffer has all; after, there is a parser. -/
structure HandedOver (s : AsyncFeed Z) : Prop where
  exact : Exact s
  before : s.transport.conn.proto.handshakeDone = false →
    s.transport.conn.proto.handshakeBuffer = s.received
  future : ∀ data, s.transport.conn.proto.handshakeFuture = .result data →
    (findSub headerEnd s.received).isSome = true
  after : s.transport.conn.proto.handshakeDone = true →
    s.transport.conn.proto.parser.isSome = true ∧ (findSub headerEnd s.received).isSome = true

theorem header_append {data : Bytes} (h : (findSub headerEnd data).isSome = true) (more : Bytes) :
    (findSub headerEnd (data ++ more)).isSome = true := by
  obtain ⟨i, hi⟩ := Option.isSome_iff_exists.mp h
  rw [findSub_append headerEnd data more i hi]
  rfl

/-- A step that leaves the handshake and the parser alone. -/
theorem HandedOver.of_same {s : AsyncFeed Z} (h : HandedOver s) {t : AsyncTransport Z}
    (hdone : t.conn.proto.handshakeDone = s.transport.conn.proto.handshakeDone)
    (hbuffer : t.conn.proto.handshakeBuffer = s.transport.conn.proto.handshakeBuffer)
    (hfuture : ∀ data, t.conn.proto.handshakeFuture = .result data →
      s.transport.conn.proto.handshakeFuture = .result data)
    (hparser : t.conn.proto.parser = s.transport.conn.proto.parser) :
    HandedOver { s with transport := t } where
  exact := by
    have hexact := h.exact
    unfold Exact at hexact ⊢
    dsimp only
    rw [hdone]
    exact hexact
  before hfalse := hbuffer.trans (h.before (hdone ▸ hfalse))
  future data hdata := h.future data (hfuture data hdata)
  after htrue := by
    rw [hparser]
    exact h.after (hdone ▸ htrue)

/-- A run of `recv` looks at the queue only. -/
theorem recvRun_handshake {t t' : AsyncTransport Z} {i : Input Z} {stop : RecvStop}
    (h : recvRun t i = some (t', stop)) :
    t'.conn.proto.handshakeDone = t.conn.proto.handshakeDone ∧
      t'.conn.proto.handshakeBuffer = t.conn.proto.handshakeBuffer ∧
      t'.conn.proto.handshakeFuture = t.conn.proto.handshakeFuture ∧
      t'.conn.proto.parser = t.conn.proto.parser := by
  cases recvRun_cases h with
  | refused | lost | timedOut => exact ⟨rfl, rfl, rfl, rfl⟩
  | looped ready task key =>
    rw [recvLoop_eq]
    split
    · exact ⟨rfl, rfl, rfl, rfl⟩
    · split
      · dsimp only
        rw [recvClose_proto]
        exact ⟨rfl, rfl, rfl, rfl⟩
      · exact ⟨rfl, rfl, rfl, rfl⟩

/-- Bytes of the handshake are gathered. -/
theorem HandedOver.gather {s : AsyncFeed Z} (h : HandedOver s)
    (hdone : s.transport.conn.proto.handshakeDone = false) (data : Bytes) (keys : Nat → MaskKey) :
    HandedOver
      { transport := { s.transport with conn := (dataReceived s.transport.conn data keys).1 }
        received := s.received ++ data
        fed := s.fed ++ feeds s.transport.conn data } := by
  have hexact := h.exact
  have hfeeds : feeds s.transport.conn data = [] := by
    unfold feeds
    rw [hdone, if_neg (by simp)]
  have hconn : (dataReceived s.transport.conn data keys).1.proto.handshakeDone = false := by
    unfold dataReceived
    rw [hdone]
    exact hdone
  unfold Exact at hexact
  rw [hdone] at hexact
  refine ⟨?_, fun _ => ?_, fun d hd => ?_, fun htrue => ?_⟩
  · unfold Exact
    dsimp only
    rw [hconn, hfeeds, List.append_nil]
    exact hexact
  · dsimp only
    unfold dataReceived
    rw [hdone, ← h.before hdone]
    rfl
  · dsimp only at hd ⊢
    unfold dataReceived at hd
    simp only [hdone, Bool.not_false, if_true, h.before hdone] at hd
    split at hd
    · rename_i hfound
      exact hfound.1
    · exact header_append (h.future d hd) data
  · dsimp only at htrue
    rw [hconn] at htrue
    cases htrue

/-- Bytes behind the handshake are fed. -/
theorem HandedOver.pass {s : AsyncFeed Z} (h : HandedOver s)
    (hdone : s.transport.conn.proto.handshakeDone = true) (data : Bytes) (keys : Nat → MaskKey) :
    HandedOver
      { transport := { s.transport with conn := (dataReceived s.transport.conn data keys).1 }
        received := s.received ++ data
        fed := s.fed ++ feeds s.transport.conn data } := by
  have hexact := h.exact
  obtain ⟨hparser, hheader⟩ := h.after hdone
  have hgrows := dataReceived_done hdone data keys
  have hfeeds : feeds s.transport.conn data = [data] := by
    unfold feeds
    rw [hdone, if_pos ⟨rfl, hparser⟩]
  unfold Exact at hexact
  rw [hdone, if_pos rfl] at hexact
  refine ⟨?_, fun hfalse => ?_, fun _ _ => header_append hheader data,
    fun _ => ⟨?_, header_append hheader data⟩⟩
  · unfold Exact
    dsimp only
    rw [hgrows.handshakeDone, hdone, if_pos rfl, hfeeds, List.flatten_append, hexact,
      leftover_append hheader]
    simp
  · dsimp only at hfalse
    rw [hgrows.handshakeDone, hdone] at hfalse
    cases hfalse
  · rw [dataReceived_feeds, Option.isSome_map]
    exact hparser

/-- `connect` goes on: what is behind the header is fed. -/
theorem HandedOver.finish {s : AsyncFeed Z} (h : HandedOver s)
    (hresponded : responded s.transport = true) (deflater : Option (Deflater Z))
    (keys : Nat → MaskKey) :
    HandedOver
      { transport := (s.transport.finishConnect deflater keys).1
        received := s.received
        fed := s.fed ++ s.feedsOf (.finishConnect deflater keys) } := by
  have hexact := h.exact
  obtain ⟨hheader, hdone⟩ : (findSub headerEnd s.received).isSome = true ∧
      s.transport.conn.proto.handshakeDone = false := by
    unfold responded at hresponded
    split at hresponded
    · rename_i data hfuture
      exact ⟨h.future data hfuture, by simpa using hresponded⟩
    · cases hresponded
  have hbuffer := h.before hdone
  unfold Exact at hexact
  rw [hdone, if_neg (by decide)] at hexact
  -- The handshake is over in either case, with a parser.
  have hover : (s.transport.finishConnect deflater keys).1.conn.proto.handshakeDone = true ∧
      (s.transport.finishConnect deflater keys).1.conn.proto.parser.isSome = true := by
    rw [finishConnect_conn]
    split
    · exact ⟨rfl, rfl⟩
    · refine ⟨(dataReceived_done (c := s.transport.switchToFrames deflater) rfl _ keys).handshakeDone,
        ?_⟩
      rw [dataReceived_feeds, Option.isSome_map]
      rfl
  refine ⟨?_, fun hfalse => ?_, fun _ _ => hheader, fun _ => ⟨hover.2, hheader⟩⟩
  · unfold Exact
    dsimp only
    rw [hover.1, if_pos rfl, List.flatten_append, hexact, List.nil_append]
    simp only [feedsOf, hbuffer]
    split
    · rename_i hempty
      exact (List.isEmpty_iff.mp hempty).symm
    · have hfeeds : feeds (s.transport.switchToFrames deflater) (leftover s.received) =
          [leftover s.received] := if_pos ⟨rfl, rfl⟩
      rw [hfeeds, List.flatten_singleton]
  · dsimp only at hfalse
    rw [hover.1] at hfalse
    cases hfalse

/-- **One step** keeps the invariant. -/
theorem handedOver_step (s : AsyncFeed Z) (i : Input Z) (s' : AsyncFeed Z) (h : HandedOver s)
    (hs : s.step i = some s') : HandedOver s' := by
  obtain ⟨t, ht, rfl⟩ := Option.map_eq_some_iff.mp hs
  have hquiet : ∀ u : AsyncFeed Z, u.transport = t → u.received = s.received ++ [] →
      u.fed = s.fed ++ [] → HandedOver { s with transport := t } → HandedOver u := by
    rintro ⟨_, _, _⟩ rfl rfl rfl hu
    simpa using hu
  cases i with
  | dataReceived data keys =>
    simp only [Transport.step, Option.some.injEq] at ht
    subst ht
    cases hdone : s.transport.conn.proto.handshakeDone with
    | false => exact h.gather hdone data keys
    | true => exact h.pass hdone data keys
  | connectionLost exc =>
    simp only [Transport.step, Option.some.injEq] at ht
    subst ht
    refine hquiet _ rfl rfl rfl (h.of_same rfl rfl (fun data hdata => ?_) rfl)
    simp only [connectionLost] at hdata
    split at hdata
    · cases hdata
    · exact hdata
  | finishConnect deflater keys =>
    simp only [Transport.step] at ht
    split at ht
    · rename_i hresponded
      cases ht
      have hfinish := h.finish hresponded deflater keys
      simpa [arrivesOf] using hfinish
    · cases ht
  | recv | resume | timeout =>
    simp only [Transport.step] at ht
    obtain ⟨⟨u, stop⟩, hrun, rfl⟩ := Option.map_eq_some_iff.mp ht
    obtain ⟨hdone, hbuffer, hfuture, hparser⟩ := recvRun_handshake hrun
    exact hquiet _ rfl rfl rfl
      (h.of_same hdone hbuffer (fun data hdata => hfuture ▸ hdata) hparser)

theorem handedOver_start (Z : Zlib) (config : TransportConfig) (request : Bytes) :
    HandedOver (start Z config request) :=
  ⟨rfl, fun _ => rfl, fun _ h => (by cases h), fun h => (by cases h)⟩

end AsyncFeed

/-- **The asyncio transport** loses no byte at the boundary, in any run. -/
theorem async_boundary (Z : Zlib) (config : TransportConfig) (request : Bytes)
    (run : List (Input Z)) : Always AsyncFeed.step AsyncFeed.Exact (.start Z config request) run :=
  Always.mono (fun _ h => h.exact)
    (always_of_step AsyncFeed.handedOver_step run (AsyncFeed.handedOver_start Z config request))

/-! ## The blocking transport -/

namespace SyncTransport

/-- `connect` has a socket, and `_perform_handshake` has sent its request. -/
def beginHandshake (t : SyncTransport Z) (request : Bytes) : SyncTransport Z :=
  { t with socket := true, written := t.written ++ [request] }

/-- What `recv` gives to `parser.feed`. -/
def feeds (t : SyncTransport Z) : Read → List Bytes
  | .chunk (b :: bs) => if t.socket ∧ t.parser.isSome then [b :: bs] else []
  | _ => []

theorem handleFrame_parser_eq {t u : SyncTransport Z} {key : MaskKey} {f : Frame}
    {fs : List Frame} (h : t.handleFrame key f = some (u, fs)) :
    u.parser = t.parser ∧ u.socket = t.socket ∨ u.parser = none ∧ u.socket = false := by
  have hsend : ∀ (v : SyncTransport Z) (data : Bytes),
      (v.sendAll data).parser = v.parser ∧ (v.sendAll data).socket = v.socket := by
    intro v data
    unfold sendAll
    split <;> exact ⟨rfl, rfl⟩
  unfold handleFrame at h
  split at h
  · cases h
    exact .inr ⟨rfl, rfl⟩
  · split at h
    · cases h
      refine .inl ?_
      unfold handlePingFrame
      split
      · exact hsend t _
      · exact ⟨rfl, rfl⟩
    · split at h
      · cases h
        exact .inl ⟨rfl, rfl⟩
      · split at h
        · obtain ⟨r, -, hr⟩ := Option.map_eq_some_iff.mp h
          cases hr
          exact .inl ⟨rfl, rfl⟩
        · cases h
          exact .inl ⟨rfl, rfl⟩

/-- A Close frame drops the parser with the socket; nothing else changes either. -/
theorem handleFrames_parser_eq : ∀ (fs : List Frame) (t : SyncTransport Z)
    (keys : Nat → MaskKey),
    (t.handleFrames keys fs).1.parser = t.parser ∧
        (t.handleFrames keys fs).1.socket = t.socket ∨
      (t.handleFrames keys fs).1.parser = none ∧ (t.handleFrames keys fs).1.socket = false
  | [], _, _ => .inl ⟨rfl, rfl⟩
  | f :: rest, t, keys => by
    rw [SyncTransport.handleFrames]
    cases hf : t.handleFrame (keys 0) f with
    | none => exact .inl ⟨rfl, rfl⟩
    | some r =>
      have hone := handleFrame_parser_eq hf
      have hrest := handleFrames_parser_eq rest r.1 (fun i => keys (i + 1))
      dsimp only
      rcases hrest with ⟨hp, hs⟩ | hdropped
      · rw [hp, hs]
        exact hone
      · exact .inr hdropped

/-- The parser is fed that, and nothing else; or it is dropped, with the socket. -/
theorem recvChunk_feeds (t : SyncTransport Z) (read : Read) (keys : Nat → MaskKey) :
    (t.recvChunk read keys).1.parser =
        t.parser.map (fun p => (t.feeds read).foldl afterFeed p) ∧
      (t.recvChunk read keys).1.socket = t.socket ∨
    (t.recvChunk read keys).1.parser = none ∧ (t.recvChunk read keys).1.socket = false := by
  have hnone : t.feeds read = [] → t.parser =
      t.parser.map (fun p => (t.feeds read).foldl afterFeed p) := by
    intro h
    rw [h]
    cases t.parser <;> rfl
  by_cases hsocket : t.socket = true
  · unfold recvChunk
    rw [if_neg (by simp [hsocket])]
    cases read with
    | timedOut | failed => exact .inl ⟨hnone rfl, rfl⟩
    | chunk data =>
      cases data with
      | nil => exact .inl ⟨hnone rfl, rfl⟩
      | cons b bs =>
        cases hp : t.parser with
        | none => exact .inl ⟨hp, rfl⟩
        | some parser =>
          have hfeeds : t.feeds (.chunk (b :: bs)) = [b :: bs] := by
            simp only [feeds, hsocket, hp, Option.isSome_some, and_self, if_true]
          rw [hfeeds]
          dsimp only
          cases hfed : (parser.feed (b :: bs)).2 with
          | error e => cases e <;> exact .inl ⟨rfl, rfl⟩
          | ok r =>
            have hloop := handleFrames_parser_eq r.1
              { t with parser := some (parser.feed (b :: bs)).1 } keys
            dsimp only at hloop ⊢
            generalize SyncTransport.handleFrames _ keys r.1 = q at hloop ⊢
            obtain ⟨u, _ | _ | ⟨g, rest⟩⟩ := q <;> exact hloop
  · have hfeeds : t.feeds read = [] := by
      unfold feeds
      split
      · exact if_neg (fun h => hsocket h.1)
      · rfl
    unfold recvChunk
    rw [if_pos (by simp [hsocket])]
    exact .inl ⟨hnone hfeeds, rfl⟩

end SyncTransport

/-- What a read of the handshake comes to: it reads on, or it is over. -/
inductive ResponseRead (Z : Zlib) where
  | more (responseData : Bytes)
  | raised (e : Exc)
  | answered (deflater : Option (Deflater Z))

/-- `_perform_handshake`, from one read of the response to the next or to its end. -/
def readResponse (Z : Zlib) (acceptKey : String → String) (config : HandshakeConfig)
    (h : Handshake) (responseData : Bytes) : Read → ResponseRead Z
  | .timedOut => .raised (.timeoutError "Read operation timed out" "recv")
  | .failed msg => .raised (.connectionError ("Receive failed: " ++ msg))
  | .chunk [] => .raised (.handshakeError "Connection closed during handshake" none)
  | .chunk data =>
    let responseData := responseData ++ data
    if (findSub headerEnd responseData).isSome then
      match h.parseResponse acceptKey responseData with
      | .error msg => .raised (.handshakeError msg none)
      | .ok result =>
        match negotiate Z config.compression result with
        | .error e => .raised e
        | .ok deflater => .answered deflater
    else .more responseData

/-- What a read brought. -/
def Read.data : Read → Bytes
  | .chunk data => data
  | _ => []

/-- An answer is whole, header and all. -/
theorem readResponse_answered {acceptKey : String → String} {config : HandshakeConfig}
    {h : Handshake} {responseData : Bytes} {read : Read} {deflater : Option (Deflater Z)}
    (hread : readResponse Z acceptKey config h responseData read = .answered deflater) :
    (findSub headerEnd (responseData ++ read.data)).isSome = true := by
  unfold readResponse at hread
  split at hread
  · cases hread
  · cases hread
  · cases hread
  · dsimp only at hread
    split at hread
    · assumption
    · cases hread

theorem readResponse_more {acceptKey : String → String} {config : HandshakeConfig}
    {h : Handshake} {responseData responseData' : Bytes} {read : Read}
    (hread : readResponse Z acceptKey config h responseData read = .more responseData') :
    responseData' = responseData ++ read.data := by
  unfold readResponse at hread
  split at hread
  · cases hread
  · cases hread
  · cases hread
  · dsimp only at hread
    split at hread
    · split at hread
      · cases hread
      · split at hread <;> cases hread
    · cases hread
      rfl

/-- What a handshake sends, and what its answer is checked against. -/
structure Opening where
  acceptKey : String → String
  config : HandshakeConfig
  handshake : Handshake

/-- What the thread that connects, and then receives, does next. -/
inductive SyncFeedInput where
  | response (read : Read)
  | recv
  | read (read : Read) (keys : Nat → MaskKey)

/-- A transport with what its handshake has read (until it is over), whether the handshake
succeeded, whether a `recv` reads, what was read from the socket, and what the parser was fed. -/
structure SyncFeed (Z : Zlib) where
  transport : SyncTransport Z
  responseData : Option Bytes
  answered : Bool
  reading : Bool
  received : Bytes
  fed : List Bytes

namespace SyncFeed

/-- The handshake has begun. -/
def start (Z : Zlib) (config : TransportConfig) (request : Bytes) : SyncFeed Z :=
  { transport := (SyncTransport.new Z config).beginHandshake request, responseData := some [],
    answered := false, reading := false, received := [], fed := [] }

def step (o : Opening) (s : SyncFeed Z) : SyncFeedInput → Option (SyncFeed Z)
  | .response read =>
    match s.responseData with
    | none => none
    | some responseData =>
      let s := { s with received := s.received ++ read.data }
      match readResponse Z o.acceptKey o.config o.handshake responseData read with
      | .more responseData => some { s with responseData := some responseData }
      | .raised _ =>
        some { s with responseData := none, transport := s.transport.closeSocket }
      | .answered deflater =>
        some { s with
          responseData := none, answered := true
          transport := s.transport.finishConnect deflater }
  | .recv =>
    if s.responseData.isSome || s.reading then none
    else
      let r := s.transport.recv
      some { s with transport := r.1, reading := r.2 = .waiting }
  | .read read keys =>
    if s.reading then
      let r := s.transport.recvChunk read keys
      some { s with
        transport := r.1
        reading := r.2 = .waiting
        received := if s.transport.socket then s.received ++ read.data else s.received
        fed := s.fed ++ s.transport.feeds read }
    else none

/-- Once connected, the parser has been fed what was read behind the header. -/
def Exact (s : SyncFeed Z) : Prop :=
  s.answered = true → s.fed.flatten = leftover s.received

instance (s : SyncFeed Z) : Decidable s.Exact := inferInstanceAs (Decidable (_ → _))

/-- Where a read completes a valid response, it brings nothing behind the header. -/
def EndsWithHeader (o : Opening) (s : SyncFeed Z) : SyncFeedInput → Prop
  | .response read =>
    match s.responseData with
    | none => True
    | some responseData =>
      match readResponse Z o.acceptKey o.config o.handshake responseData read with
      | .answered _ => leftover (responseData ++ read.data) = []
      | _ => True
  | _ => True

instance (o : Opening) (s : SyncFeed Z) (i : SyncFeedInput) : Decidable (EndsWithHeader o s i) := by
  unfold EndsWithHeader
  split
  · split
    · infer_instance
    · split <;> infer_instance
  · infer_instance

/-- The invariant of runs: what the handshake reads it keeps, and a transport that has a socket
behind it has a parser. -/
structure Reading (s : SyncFeed Z) : Prop where
  response : ∀ responseData, s.responseData = some responseData →
    s.received = responseData ∧ s.answered = false
  before : s.answered = false →
    s.fed = [] ∧ s.reading = false ∧ s.transport.connected = false
  header : s.answered = true → (findSub headerEnd s.received).isSome = true
  parser : s.responseData = none → s.transport.socket = true → s.transport.parser.isSome = true

variable {o : Opening} {s s' : SyncFeed Z}

theorem recv_parser_eq (t : SyncTransport Z) :
    t.recv.1.socket = t.socket ∧ t.recv.1.parser = t.parser := by
  unfold SyncTransport.recv
  split
  · exact ⟨rfl, rfl⟩
  · split <;> exact ⟨rfl, rfl⟩

/-- What a `recv` is fed is what it reads. -/
theorem feeds_flatten (t : SyncTransport Z) (read : Read)
    (hparser : t.socket = true → t.parser.isSome = true) :
    (t.feeds read).flatten = if t.socket then read.data else [] := by
  unfold SyncTransport.feeds
  split
  · split
    · rename_i hfed
      rw [if_pos hfed.1, List.flatten_singleton]
      rfl
    · rename_i hfed
      rw [if_neg (fun hsocket => hfed ⟨hsocket, hparser hsocket⟩)]
      rfl
  · rename_i hread
    have hdata : read.data = [] := by
      cases read with
      | chunk data =>
        cases data with
        | nil => rfl
        | cons b bs => exact (hread b bs rfl).elim
      | timedOut | failed => rfl
    rw [hdata, ite_self]
    rfl

/-- A read of the handshake. -/
theorem Reading.response_step {read : Read} (h : Reading s)
    (hs : s.step o (.response read) = some s') : Reading s' := by
  cases hrd : s.responseData with
  | none => simp [step, hrd] at hs
  | some responseData =>
    obtain ⟨hreceived, hanswered⟩ := h.response responseData hrd
    have hbefore := h.before hanswered
    simp only [step, hrd] at hs
    cases hread : readResponse Z o.acceptKey o.config o.handshake responseData read with
    | more responseData' =>
      rw [hread] at hs
      cases hs
      refine ⟨fun rd hsome => ?_, fun _ => hbefore, fun htrue => ?_, fun hnone => ?_⟩
      · obtain rfl := Option.some.inj hsome
        dsimp only
        rw [readResponse_more hread, hreceived]
        exact ⟨rfl, hanswered⟩
      · rw [hanswered] at htrue
        cases htrue
      · cases hnone
    | raised e =>
      rw [hread] at hs
      cases hs
      refine ⟨fun rd hsome => (by cases hsome), fun _ => hbefore, fun htrue => ?_,
        fun _ hsocket => (by cases hsocket)⟩
      rw [hanswered] at htrue
      cases htrue
    | answered deflater =>
      rw [hread] at hs
      cases hs
      refine ⟨fun rd hsome => (by cases hsome), fun hfalse => (by cases hfalse), fun _ => ?_,
        fun _ _ => rfl⟩
      dsimp only
      rw [hreceived]
      exact readResponse_answered hread

/-- A call of `recv`; before the handshake is over it raises. -/
theorem Reading.recv_step (h : Reading s) (hs : s.step o .recv = some s') : Reading s' := by
  simp only [step] at hs
  split at hs
  · cases hs
  · cases hs
    obtain ⟨hsocket, hparser⟩ := recv_parser_eq s.transport
    refine ⟨fun rd hsome => h.response rd hsome, fun hfalse => ?_, h.header,
      fun hnone hopen => ?_⟩
    · obtain ⟨hfed, -, hconnected⟩ := h.before hfalse
      have hrefused : s.transport.recv =
          (s.transport, .raised (.connectionError "Transport is not connected")) := by
        unfold SyncTransport.recv
        rw [if_pos (by simp [hconnected])]
      refine ⟨hfed, ?_, ?_⟩
      · dsimp only
        rw [hrefused]
        rfl
      · dsimp only
        rw [hrefused]
        exact hconnected
    · dsimp only at hopen ⊢
      rw [hparser]
      exact h.parser hnone (hsocket ▸ hopen)

/-- A `recv` reads only behind the handshake. -/
theorem Reading.answered_of_reading (h : Reading s) (hreading : s.reading = true) :
    s.answered = true := by
  cases ha : s.answered with
  | true => rfl
  | false =>
    rw [(h.before ha).2.1] at hreading
    cases hreading

/-- A read of `recv`. -/
theorem Reading.read_step {read : Read} {keys : Nat → MaskKey} (h : Reading s)
    (hs : s.step o (.read read keys) = some s') : Reading s' := by
  simp only [step] at hs
  split at hs
  · rename_i hreading
    cases hs
    have hanswered := h.answered_of_reading hreading
    refine ⟨fun rd hsome => ?_, fun hfalse => ?_, fun _ => ?_, fun hnone hopen => ?_⟩
    · have hfalse := (h.response rd hsome).2
      rw [hanswered] at hfalse
      cases hfalse
    · rw [hanswered] at hfalse
      cases hfalse
    · dsimp only
      split
      · exact AsyncFeed.header_append (h.header hanswered) read.data
      · exact h.header hanswered
    · dsimp only at hopen ⊢
      rcases s.transport.recvChunk_feeds read keys with ⟨hparser, hsocket⟩ | ⟨-, hclosed⟩
      · rw [hparser, Option.isSome_map]
        exact h.parser hnone (hsocket ▸ hopen)
      · rw [hclosed] at hopen
        cases hopen
  · cases hs

/-- **One step** keeps the invariant. -/
theorem reading_step (i : SyncFeedInput) (h : Reading s) (hs : s.step o i = some s') :
    Reading s' := by
  cases i with
  | response read => exact h.response_step hs
  | recv => exact h.recv_step hs
  | read read keys => exact h.read_step hs

/-- **One step** keeps the parser fed exactly where it ends with the header. -/
theorem exact_step_iff (i : SyncFeedInput) (h : Reading s) (hexact : s.Exact)
    (hs : s.step o i = some s') : s'.Exact ↔ EndsWithHeader o s i := by
  cases i with
  | response read =>
    cases hrd : s.responseData with
    | none => simp [step, hrd] at hs
    | some responseData =>
      obtain ⟨hreceived, hanswered⟩ := h.response responseData hrd
      have hfalse : ∀ u : SyncFeed Z, u.answered = s.answered → u.Exact := by
        intro u hu htrue
        rw [hu, hanswered] at htrue
        cases htrue
      simp only [step, hrd] at hs
      simp only [EndsWithHeader, hrd]
      cases hread : readResponse Z o.acceptKey o.config o.handshake responseData read with
      | more | raised =>
        rw [hread] at hs
        cases hs
        exact iff_of_true (hfalse _ rfl) trivial
      | answered deflater =>
        rw [hread] at hs
        cases hs
        have hfed := (h.before hanswered).1
        simp only [Exact, forall_const, hfed, List.flatten_nil, hreceived]
        exact eq_comm
  | recv =>
    simp only [step] at hs
    split at hs
    · cases hs
    · cases hs
      exact iff_of_true hexact trivial
  | read read keys =>
    simp only [step] at hs
    split at hs
    · rename_i hreading
      cases hs
      refine iff_of_true (fun hanswered => ?_) trivial
      have hparser : s.transport.socket = true → s.transport.parser.isSome = true := by
        cases hrd : s.responseData with
        | none => exact h.parser hrd
        | some rd =>
          have hfalse := (h.response rd hrd).2
          rw [show s.answered = true from hanswered] at hfalse
          cases hfalse
      have hheader := h.header hanswered
      dsimp only
      rw [List.flatten_append, hexact hanswered, feeds_flatten _ _ hparser]
      split
      · exact (leftover_append hheader read.data).symm
      · exact List.append_nil _
    · cases hs

theorem reading_start (Z : Zlib) (config : TransportConfig) (request : Bytes) :
    Reading (start Z config request) :=
  ⟨fun _ h => ⟨Option.some.inj h, rfl⟩, fun _ => ⟨rfl, rfl, rfl⟩, fun h => (by cases h),
    fun h => (by cases h)⟩

end SyncFeed

/-- **The blocking transport** loses no byte at the boundary exactly where the read that
completes a valid response ends with its header. -/
theorem sync_boundary_iff (Z : Zlib) (o : Opening) (config : TransportConfig) (request : Bytes)
    (run : List SyncFeedInput) :
    Always (SyncFeed.step o) SyncFeed.Exact (.start Z config request) run ↔
      Meets (SyncFeed.step o) (SyncFeed.EndsWithHeader o) (.start Z config request) run :=
  always_iff_meets_of_inv (fun _ i _ h hs => SyncFeed.reading_step i h hs)
    (fun _ i _ h hexact hs => SyncFeed.exact_step_iff i h hexact hs) run
    (SyncFeed.reading_start Z config request) (fun h => (by cases h))

/-- **The boundary, on both transports.** -/
theorem boundary_iff (Z : Zlib) (o : Opening) (config : TransportConfig) (request : Bytes) :
    (∀ run : List (Input Z),
      Always AsyncFeed.step AsyncFeed.Exact (.start Z config request) run) ∧
    ∀ run : List SyncFeedInput,
      Always (SyncFeed.step o) SyncFeed.Exact (.start Z config request) run ↔
        Meets (SyncFeed.step o) (SyncFeed.EndsWithHeader o) (.start Z config request) run :=
  ⟨async_boundary Z config request, sync_boundary_iff Z o config request⟩

/-- A server that answers every key with the same text. -/
def plainOpening : Opening :=
  { acceptKey := fun _ => "k"
    config := { compression := false, origin := none, subprotocols := [], extraHeaders := [] }
    handshake := { key := "", host := "h", path := "/", origin := none, subprotocols := [],
                   extensions := [], extraHeaders := [] } }

def plainResponse : Bytes :=
  encodeUtf8 ("HTTP/1.1 101 S\r\nUpgrade:websocket\r\nConnection:upgrade\r\n" ++
    "Sec-WebSocket-Accept:k\r\n\r\n")

/-- A Text frame in the read that completes the response is lost. -/
theorem boundary_frame_lost :
    ¬ Always (SyncFeed.step plainOpening) SyncFeed.Exact
      (.start plainZlib ⟨.little, 1024, 4096, false⟩ [])
      [.response (.chunk (plainResponse ++ [0x81, 0x01, 0x41]))] := by
  decide +kernel

end JetSocket.Transport
