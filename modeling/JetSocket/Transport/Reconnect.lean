import JetSocket.Transport.Backpressure
import JetSocket.Transport.Connect

/- One `AsyncTransport` object over several connections (`transport/_async.py`).

   `connect` asks for `_connected` only. It makes a new protocol and a new parser; `_closing`,
   `_close_code`, `_close_reason` and, unless the server takes permessage-deflate, `_deflater`
   stay as the last connection left them. `_close_transport` drops the deflater, and nothing
   unsets `_closing`.

   `connect` suspends twice, and is a step up to each: for the lookup and the sockets
   (`dialling`), where `self` still has the protocol of the last connection, and for the response
   (`shaking`), where it has the new one. Any other call may run in between, and any callback of
   an earlier protocol; what comes to the new one is `Network.response`. One call of `connect`
   is under way at a time. The lookup runs in a thread, so its answer comes to the event loop
   behind the tasks that were woken when `connect` was called (`Awake`).

   A call that is suspended waits for an event of the protocol it began on, and has the frames of
   that protocol. When it goes on behind the next `connect`, all else it uses is what `self` has
   by then. `earlier` are the connections that were left, with such calls. A protocol has no
   callback behind its `connection_lost`.

   Correspondence (Python ↔ Lean):
     `connect`, up to the lookup             ↔ `Object.move` at `connect`
     `connect`, up to the response           ↔ `Object.move` at `dialled`, `Sender.begin`
     `connect`, behind the response          ↔ `Object.move` at `answered`, `Sender.answered`
     `_deflater`, its two halves             ↔ `deflater`, `inflater`
     a call left, and what it goes on with   ↔ `Earlier`, `Sender.wear`

   What is proved:
     1. `own_step` — while `_closing` is unset there is no close code and no reason.
     2. `sound_step` — while `_closing` is unset and there is no connection, no call that was
        left can do anything any more: it was woken by the loss and has run, or it sleeps for
        good. -/
namespace JetSocket.Transport
open JetSocket.Core Transition AsyncTransport

variable {Z : ZlibModule}

/-- The compressing half. -/
def Deflater.compressHalf (Z : ZlibModule) (d : Deflater Z.toZlib) : CompressHalf Z :=
  CompressHalf.new Z d.clientNoContextTakeover d.clientMaxWindowBits

/-- What `connect` takes from outside, but for the network. -/
structure Surroundings where
  urlparse : UrlParse
  acceptKey : String → String
  config : HandshakeConfig

/-- A call of `connect`, with the key it draws and what it meets. -/
structure ConnectCall where
  key : String
  uri : String
  net : Network

/-- The lookup and the sockets. -/
def ConnectCall.dial (call : ConnectCall) (u : WebSocketURI) : Except Exc Unit :=
  (resolveDns u.host call.net.lookup).bind (tryAddresses u call.net.dial none)

/-- `connect` up to the handshake: the URI, once a socket is open. -/
def ConnectCall.reach (env : Surroundings) (call : ConnectCall) : Except Exc WebSocketURI :=
  match parseUri env.urlparse call.uri with
  | .error e => .error e
  | .ok u => (call.dial u).map (fun _ => u)

/-- What the properties of a transport and its socket show; `is_closing` is `_closing` itself, and
is left out. -/
structure View where
  connected : Bool
  closeCode : Option Nat
  closeReason : String
  written : List Bytes
  closed : Bool
  deriving DecidableEq, Repr

/-- What a call that ends, or suspends, in a step comes to. -/
inductive CallOutcome where
  | quiet
  | connect (e : ConnectEnd)
  | recv (stop : RecvStop)
  | send (stop : SendStop)
  | ping (raised : Option Exc)
  | close (waits : Bool)
  deriving DecidableEq

/-- Of a call that was left only a frame it returns is shown: what it raises is about its own
connection. -/
def CallOutcome.left : CallOutcome → CallOutcome
  | .recv (.returned f) => .recv (.returned f)
  | _ => .quiet

/-- The tasks that were woken when `connect` was called and have not run since. -/
structure Awake where
  readers : List Nat
  writers : List Nat
  deriving DecidableEq, Repr

def Awake.over (a : Awake) : Bool := a.readers.isEmpty && a.writers.isEmpty

/-- Where a call of `connect` is suspended. -/
inductive Pending (Z : ZlibModule) where
  | dialling (call : ConnectCall) (u : WebSocketURI) (awake : Awake)
  | shaking (call : ConnectCall) (u : WebSocketURI) (inflater : Option (Deflater Z.toZlib))

namespace Sender

/-- `AsyncTransport.__init__`. -/
def new (Z : ZlibModule) (config : TransportConfig) (compressionThreshold : Int) : Sender Z :=
  { transport := AsyncTransport.new Z.toZlib config, compressionThreshold, deflater := none,
    suspended := [], closer := none, compressed := 0, wrote := [] }

/-- The decompressing half of `_deflater`, which is the protocol's. -/
def inflater (t : Sender Z) : Option (Deflater Z.toZlib) :=
  if t.deflater.isSome then t.transport.conn.proto.deflater else none

/-! ## connect -/

/-- The tasks that are woken. -/
def awake (t : Sender Z) : Awake :=
  { readers := t.transport.conn.proto.frameReady.woken
    writers := t.transport.conn.proto.canWrite.woken }

/-- `connect` has a socket, and the request is written. -/
def begin (t : Sender Z) (request : Bytes) : Sender Z :=
  { t with
    transport := t.transport.beginHandshake request
    suspended := [], closer := none, compressed := 0, wrote := [] }

/-- `_perform_handshake` raises: `_close_transport` drops `_deflater`, the one of an earlier
connection too. -/
def refuse (t : Sender Z) (response : Response) : Sender Z :=
  { t with transport := (t.transport.answered response).closeTransport, deflater := none }

/-- `connect`, behind a valid response: the protocol gets `_deflater`, the negotiated one or the
one that was there. A call that was left may have dropped the protocol. -/
def switch (t : Sender Z) (negotiated inflater : Option (Deflater Z.toZlib)) (net : Network) :
    Sender Z × ConnectEnd :=
  let deflater := (negotiated.map (Deflater.compressHalf Z)).or t.deflater
  let inflater := negotiated.or (if t.deflater.isSome then inflater else none)
  let v := t.transport.answered net.response
  if t.transport.protocol then
    let r := v.finishConnect inflater net.keys
    ({ t with transport := r.1, deflater },
      match r.2 with
      | none => .connected
      | some e => .aborted e)
  else
    ({ t with
        transport := { v with
          parser := some v.config.parser
          conn := { v.conn with proto := { v.conn.proto with deflater := inflater } } }
        deflater },
      .raised (.attributeError "'NoneType' object has no attribute 'parser'"))

/-- `connect`, behind its wait for the response. -/
def answered (env : Surroundings) (call : ConnectCall) (u : WebSocketURI)
    (inflater : Option (Deflater Z.toZlib)) (t : Sender Z) : Sender Z × ConnectEnd :=
  match performHandshake Z.toZlib env.acceptKey env.config (handshake env.config call.key u)
      call.net.response with
  | .error e => (t.refuse call.net.response, .raised e)
  | .ok negotiated => t.switch negotiated inflater call.net

/-! ## What an object does and shows -/

/-- What the call behind a step comes to. -/
def outcome (t : Sender Z) : Action Z → CallOutcome
  | .receive i =>
    match recvRun t.transport i with
    | some r => .recv r.2
    | none => .quiet
  | .send task data binary key => .send (t.send task data binary key).2
  | .sendFrame task frame key => .send (t.sendFrame task frame key).2
  | .resumeSend =>
    match t.resumption .resumeSend with
    | some r => .send r.2
    | none => .quiet
  | .ping payload key =>
    match t.transport.ping payload key with
    | .ok _ => .ping none
    | .error e => .ping (some e)
  | .close task code reason key => .close (t.transport.close task code reason key).2
  | .closeResume task => .close (t.transport.closeResume task).2
  | .closeTimeout _ => .close false
  | .finishConnect _ _ | .pauseWriting | .resumeWriting => .quiet

def view (t : Sender Z) : View :=
  { connected := t.transport.connected, closeCode := t.transport.closeCode,
    closeReason := t.transport.closeReason, written := t.transport.conn.sock.written,
    closed := t.transport.conn.sock.closing }

/-- From `t` to `u`: without a protocol there is no `_close_transport` that drops `_deflater`. -/
def kept (t u : Sender Z) : Sender Z :=
  { u with deflater := if t.transport.protocol then u.deflater else t.deflater }

/-- One step on a connection, with what it shows. -/
def act (t : Sender Z) : Action Z → Option (Sender Z × CallOutcome × View)
  | .finishConnect _ _ => none
  | a => (t.step a).map (fun u => (t.kept u, t.outcome a, u.view))

end Sender

/-- A call that is suspended goes on, or waits no longer. -/
def Action.goesOn : Action Z → Bool
  | .receive (.resume _ _) | .receive (.timeout _) | .resumeSend | .closeResume _
  | .closeTimeout _ => true
  | _ => false

/-- The callbacks of a protocol. -/
def Conn.callback (c : Conn Z.toZlib) : Action Z → Option (Conn Z.toZlib)
  | .receive (.dataReceived data keys) => some (dataReceived c data keys).1
  | .receive (.connectionLost exc) => some (connectionLost c exc)
  | .pauseWriting => some c.pauseWriting
  | .resumeWriting => some c.resumeWriting
  | _ => none

/-! ## Earlier connections -/

/-- An earlier connection, with the calls that are suspended on it. -/
structure Earlier (Z : ZlibModule) where
  conn : Conn Z.toZlib
  suspended : List Suspended
  closer : Option Nat

namespace Sender

/-- What `connect` leaves behind. -/
def leave (t : Sender Z) : Earlier Z :=
  { conn := t.transport.conn, suspended := t.suspended, closer := t.closer }

/-- The transport as a call that is left on `e` has it: the protocol is that of `e`, and all else
is of `self`, the asyncio transport too. -/
def wear (t : Sender Z) (e : Earlier Z) : Sender Z :=
  { t with
    transport := { t.transport with conn := { t.transport.conn with proto := e.conn.proto } }
    suspended := e.suspended, closer := e.closer }

/-- What happens on an earlier connection: a callback of its protocol, or a call that is left goes
on, or waits no longer. -/
def onEarlier (t : Sender Z) (e : Earlier Z) (a : Action Z) :
    Option (Sender Z × Earlier Z × CallOutcome) :=
  match e.conn.callback a with
  | some conn =>
    if e.conn.proto.connectionLost then none else some (t, { e with conn }, .quiet)
  | none =>
    -- what it writes goes to the socket of the last connection
    if a.goesOn then
      ((t.wear e).step a).map (fun u =>
        (t.kept (u.wear t.leave),
          { u.leave with conn := { e.conn with proto := u.transport.conn.proto } },
          ((t.wear e).outcome a).left))
    else none

end Sender

/-- An object, the earlier connections, and the call of `connect` under way. -/
structure Object (Z : ZlibModule) where
  sender : Sender Z
  earlier : List (Earlier Z)
  pending : Option (Pending Z)

/-- What can happen next to an object: `connect` is called, has a socket, or its response; or
what happens on its connection or on an earlier one. -/
inductive ObjectInput (Z : ZlibModule) where
  | connect (call : ConnectCall)
  | dialled
  | answered
  | act (a : Action Z)
  | earlier (k : Nat) (a : Action Z)

/-- Those that still have not run. -/
def Pending.still (t : Sender Z) : Pending Z → Pending Z
  | .dialling call u awake =>
    .dialling call u
      { readers := awake.readers.filter (fun task => task ∈ t.awake.readers)
        writers := awake.writers.filter (fun task => task ∈ t.awake.writers) }
  | p => p

def Pending.call : Pending Z → ConnectCall
  | .dialling call _ _ | .shaking call _ _ => call

/-- `connect` waits for its response. -/
def Pending.shakes : Pending Z → Bool
  | .shaking .. => true
  | .dialling .. => false

namespace Object

def new (Z : ZlibModule) (config : TransportConfig) (compressionThreshold : Int) : Object Z :=
  { sender := Sender.new Z config compressionThreshold, earlier := [], pending := none }

/-- The call of `connect` under way. -/
def calling (o : Object Z) : Option ConnectCall := o.pending.map Pending.call

/-- A callback that cannot come: behind `connection_lost`, or beside the response. -/
def Barred (o : Object Z) (a : Action Z) : Prop :=
  (o.sender.transport.conn.callback a).isSome = true ∧
    (o.sender.transport.conn.proto.connectionLost = true ∨ o.pending.any Pending.shakes = true)

instance (o : Object Z) (a : Action Z) : Decidable (o.Barred a) :=
  inferInstanceAs (Decidable (_ ∧ (_ ∨ _)))

/-- One step of an object, with what it shows. -/
def move (env : Surroundings) (o : Object Z) :
    ObjectInput Z → Option (Object Z × CallOutcome × View)
  | .connect call =>
    if o.pending.isSome then none
    else if o.sender.transport.connected then
      some (o, .connect (.raised (.connectionError "Transport is already connected")),
        o.sender.view)
    else
      match parseUri env.urlparse call.uri with
      | .error e => some (o, .connect (.raised e), o.sender.view)
      | .ok u =>
        some ({ o with pending := some (.dialling call u o.sender.awake) }, .quiet, o.sender.view)
  | .dialled =>
    match o.pending with
    | some (.dialling call u awake) =>
      if awake.over then
        match call.dial u with
        | .error e => some ({ o with pending := none }, .connect (.raised e), o.sender.view)
        | .ok () =>
          let t := o.sender.begin (handshake env.config call.key u).buildRequest
          some ({ sender := t, earlier := o.sender.leave :: o.earlier,
                  pending := some (.shaking call u o.sender.inflater) }, .quiet, t.view)
      else none
    | _ => none
  | .answered =>
    match o.pending with
    | some (.shaking call u inflater) =>
      let r := o.sender.answered env call u inflater
      some ({ o with sender := r.1, pending := none }, .connect r.2, r.1.view)
    | _ => none
  | .act a =>
    if o.Barred a then none
    else (o.sender.act a).map (fun r =>
      ({ o with sender := r.1, pending := o.pending.map (Pending.still r.1) }, r.2))
  | .earlier k a =>
    -- where nothing can happen, nothing does
    match o.earlier[k]?.bind (fun e => o.sender.onEarlier e a) with
    | some (t, e, outcome) =>
      some ({ o with sender := t, earlier := o.earlier.set k e }, outcome, t.view)
    | none => some (o, .quiet, o.sender.view)

/-- The state it leads to. -/
def next (env : Surroundings) (o : Object Z) (i : ObjectInput Z) : Option (Object Z) :=
  (o.move env i).map Prod.fst

end Object

/-! ## What stays as it was -/

/-- From `v` to `v'` the configuration is kept, and `_closing` with the code and the reason,
unless `_closing` is set. -/
structure Keeps {Z : Zlib} (v v' : AsyncTransport Z) : Prop where
  config : v'.config = v.config
  closing : v'.closing = false →
    v.closing = false ∧ v'.closeCode = v.closeCode ∧ v'.closeReason = v.closeReason

section Keeps
variable {Z : Zlib} {v v' : AsyncTransport Z}

theorem Keeps.same (hconfig : v'.config = v.config) (hclosing : v'.closing = v.closing)
    (hcode : v'.closeCode = v.closeCode) (hreason : v'.closeReason = v.closeReason) : Keeps v v' :=
  ⟨hconfig, fun h => ⟨hclosing.symm.trans h, hcode, hreason⟩⟩

/-- `_closing` is set. -/
theorem Keeps.of_closing (hconfig : v'.config = v.config) (hset : v'.closing = true) :
    Keeps v v' := by
  refine ⟨hconfig, fun h => ?_⟩
  rw [hset] at h
  cases h

theorem recvLoop_keeps (v : AsyncTransport Z) (task : Nat) (key : MaskKey) (fs : List Frame) :
    Keeps v (v.recvLoop task key fs).1 := by
  rw [recvLoop_eq]
  split
  · exact .same rfl rfl rfl rfl
  · split
    · refine .of_closing ?_ ?_
      · unfold recvClose closeTransport
        dsimp only
        split
        · rfl
        · split <;> rfl
      · unfold recvClose closeTransport
        dsimp only
        split
        · assumption
        · split <;> rfl
    · exact .same rfl rfl rfl rfl

theorem recvRun_keeps {i : Input Z} {stop : RecvStop} (h : recvRun v i = some (v', stop)) :
    Keeps v v' := by
  cases recvRun_cases h with
  | refused | lost | timedOut => exact .same rfl rfl rfl rfl
  | looped ready task key =>
    have hloop := recvLoop_keeps (v.withReady ready) task key v.conn.proto.frames
    exact ⟨hloop.config, hloop.closing⟩

theorem finishConnect_keeps (v : AsyncTransport Z) (deflater : Option (Deflater Z))
    (keys : Nat → MaskKey) : Keeps v (v.finishConnect deflater keys).1 := by
  have hfinished := finishConnect_finished v deflater keys
  exact .same hfinished.config hfinished.closing hfinished.closeCode hfinished.closeReason

theorem receive_keeps {i : Input Z} (h : Transport.step v i = some v') : Keeps v v' := by
  cases i with
  | dataReceived data keys =>
    cases h
    exact .same rfl rfl rfl rfl
  | connectionLost exc =>
    cases h
    exact .same rfl rfl rfl rfl
  | finishConnect deflater keys =>
    simp only [Transport.step] at h
    split at h
    · cases h
      exact finishConnect_keeps v deflater keys
    · cases h
  | recv | resume | timeout =>
    simp only [Transport.step] at h
    obtain ⟨⟨u, stop⟩, hrun, rfl⟩ := Option.map_eq_some_iff.mp h
    exact recvRun_keeps hrun

theorem close_keeps (v : AsyncTransport Z) (task code : Nat) (reason : String) (key : MaskKey) :
    Keeps v (v.close task code reason key).1 := by
  unfold close
  split
  · exact .same rfl rfl rfl rfl
  · dsimp only
    split
    · split
      · split
        · exact .of_closing rfl rfl
        · exact .of_closing rfl rfl
      · exact .of_closing rfl rfl
    · exact .of_closing rfl rfl

theorem closeResume_keeps (v : AsyncTransport Z) (task : Nat) :
    Keeps v (v.closeResume task).1 := by
  unfold closeResume
  dsimp only
  split <;> exact .same rfl rfl rfl rfl

theorem answered_keeps (v : AsyncTransport Z) (response : Response) :
    Keeps v (v.answered response) := by
  unfold answered
  split <;> exact .same rfl rfl rfl rfl

theorem Keeps.trans {w : AsyncTransport Z} (h : Keeps v v') (h' : Keeps v' w) : Keeps v w := by
  refine ⟨h'.config.trans h.config, fun hw => ?_⟩
  obtain ⟨hv, hcode, hreason⟩ := h'.closing hw
  obtain ⟨hu, hcode', hreason'⟩ := h.closing hv
  exact ⟨hu, hcode.trans hcode', hreason.trans hreason'⟩

end Keeps

namespace Sender

variable {t t' : Sender Z}

theorem transmit_threshold (t : Sender Z) (task : Nat) (key : MaskKey) (compressible : Bool)
    (frame : Frame) : (t.transmit task key compressible frame).1.compressionThreshold =
      t.compressionThreshold := by
  have hpack : (t.pack compressible frame.rsv1 frame.payload).1.compressionThreshold =
      t.compressionThreshold := by
    unfold pack
    split
    · rfl
    · split <;> rfl
  unfold transmit
  split
  · dsimp only
    split <;> exact hpack
  · rfl

theorem step_threshold {a : Action Z} (h : step t a = some t') :
    t'.compressionThreshold = t.compressionThreshold := by
  cases a with
  | receive i =>
    simp only [step] at h
    split at h
    · obtain ⟨v, -, rfl⟩ := Option.map_eq_some_iff.mp h
      rfl
    · cases h
  | finishConnect params keys =>
    simp only [step, finishConnect] at h
    split at h
    · obtain ⟨v, -, rfl⟩ := Option.map_eq_some_iff.mp h
      rfl
    · split at h
      · cases h
      · obtain ⟨v, -, rfl⟩ := Option.map_eq_some_iff.mp h
        rfl
  | send | sendFrame =>
    simp only [step] at h
    split at h
    · cases h
      exact transmit_threshold ..
    · cases h
  | resumeSend =>
    simp only [step] at h
    split at h
    · cases h
      unfold resumeSend
      dsimp only
      split <;> rfl
    · cases h
  | pauseWriting | resumeWriting =>
    cases h
    rfl
  | ping | close | closeResume | closeTimeout =>
    simp only [step] at h
    split at h <;> cases h <;> rfl

/-- **A step on a connection.** -/
theorem step_keeps {a : Action Z} (h : step t a = some t') :
    Keeps t.transport t'.transport := by
  cases hcall : a.call with
  | some c =>
    cases step_call hcall h with
    | raises => exact .same rfl rfl rfl rfl
    | waits _ _ hout | writes _ _ hout =>
      refine .same ?_ ?_ ?_ ?_ <;> rw [← hout.transport] <;> rfl
  | none =>
    by_cases hresume : a = .resumeSend
    · subst hresume
      simp only [step] at h
      split at h
      · cases h
        unfold resumeSend
        dsimp only
        split <;> exact .same rfl rfl rfl rfl
      · cases h
    · have hadvanced := (step_other hcall hresume h).advanced
      generalize t'.transport = v at hadvanced
      cases hadvanced with
      | received _ hv => exact receive_keeps hv
      | connected hv => exact receive_keeps hv
      | paused | resumed | refused => exact .same rfl rfl rfl rfl
      | pinged hping =>
        unfold AsyncTransport.ping at hping
        split at hping
        · cases hping
        · split at hping
          · cases hping
            exact .same rfl rfl rfl rfl
          · cases hping
      | closed task code reason key => exact close_keeps t.transport task code reason key
      | closeWoken task => exact closeResume_keeps t.transport task
      | closeTimedOut task => exact .same rfl rfl rfl rfl

/-! ## The code and the reason -/

/-- While `_closing` is unset there is no close code and no reason. -/
structure Own (config : TransportConfig) (compressionThreshold : Int) (t : Sender Z) : Prop where
  config : t.transport.config = config
  compressionThreshold : t.compressionThreshold = compressionThreshold
  closing : t.transport.closing = false →
    t.transport.closeCode = none ∧ t.transport.closeReason = ""

/-- From `t` to `u` the settings stay, and what `Keeps` says. -/
structure Follows (t u : Sender Z) : Prop where
  transport : Keeps t.transport u.transport
  compressionThreshold : u.compressionThreshold = t.compressionThreshold

theorem Follows.closing {u : Sender Z} (h : Follows t u) (hunset : u.transport.closing = false) :
    t.transport.closing = false := (h.transport.closing hunset).1

variable {env : Surroundings} {call : ConnectCall} {config : TransportConfig}
  {compressionThreshold : Int}

theorem Own.follows (h : t.Own config compressionThreshold) (hf : Follows t t') :
    t'.Own config compressionThreshold := by
  refine ⟨hf.transport.config.trans h.config,
    hf.compressionThreshold.trans h.compressionThreshold, fun hunset => ?_⟩
  obtain ⟨hold, hcode, hreason⟩ := hf.transport.closing hunset
  obtain ⟨hnone, hempty⟩ := h.closing hold
  exact ⟨hcode.trans hnone, hreason.trans hempty⟩

theorem begin_follows (t : Sender Z) (request : Bytes) : Follows t (t.begin request) :=
  ⟨.same rfl rfl rfl rfl, rfl⟩

theorem answered_follows (u : WebSocketURI) (inflater : Option (Deflater Z.toZlib))
    (t : Sender Z) : Follows t (t.answered env call u inflater).1 := by
  have hanswered := answered_keeps t.transport call.net.response
  unfold Sender.answered
  split
  · exact ⟨hanswered.trans (.same rfl rfl rfl rfl), rfl⟩
  · unfold switch
    dsimp only
    split
    · exact ⟨hanswered.trans (finishConnect_keeps _ _ _), rfl⟩
    · exact ⟨hanswered.trans (.same rfl rfl rfl rfl), rfl⟩

theorem act_step {a : Action Z} {r : Sender Z × CallOutcome × View} (h : t.act a = some r) :
    ∃ u, step t a = some u ∧ r.1 = t.kept u := by
  unfold act at h
  split at h
  · cases h
  · obtain ⟨u, hu, rfl⟩ := Option.map_eq_some_iff.mp h
    exact ⟨u, hu, rfl⟩

theorem act_follows {a : Action Z} {r : Sender Z × CallOutcome × View} (h : t.act a = some r) :
    Follows t r.1 := by
  obtain ⟨u, hu, hr⟩ := act_step h
  have hkeeps := step_keeps hu
  have hthreshold := step_threshold hu
  rw [hr]
  exact ⟨hkeeps, hthreshold⟩

/-- What a call that is left does to the object. -/
theorem onEarlier_follows {e : Earlier Z} {a : Action Z}
    {r : Sender Z × Earlier Z × CallOutcome} (hr : t.onEarlier e a = some r) :
    Follows t r.1 := by
  unfold Sender.onEarlier at hr
  split at hr
  · split at hr
    · cases hr
    · cases hr
      exact ⟨.same rfl rfl rfl rfl, rfl⟩
  · split at hr
    · obtain ⟨u, hu, rfl⟩ := Option.map_eq_some_iff.mp hr
      have hkeeps : Keeps (t.wear e).transport u.transport := step_keeps hu
      have hthreshold : u.compressionThreshold = (t.wear e).compressionThreshold :=
        step_threshold hu
      exact ⟨⟨hkeeps.config, hkeeps.closing⟩, hthreshold⟩
    · cases hr

end Sender

namespace Object
variable {env : Surroundings} {o o' : Object Z}

/-- What an input leads to. -/
inductive Moved (env : Surroundings) (o : Object Z) : ObjectInput Z → Object Z → Prop where
  | refused (call : ConnectCall) : Moved env o (.connect call) o
  | called {call : ConnectCall} {u : WebSocketURI} (hpending : o.pending = none)
      (hconnected : o.sender.transport.connected = false)
      (hu : parseUri env.urlparse call.uri = .ok u) :
      Moved env o (.connect call) { o with pending := some (.dialling call u o.sender.awake) }
  | unreached {call : ConnectCall} {u : WebSocketURI} {awake : Awake}
      (hpending : o.pending = some (.dialling call u awake)) :
      Moved env o .dialled { o with pending := none }
  | dialled {call : ConnectCall} {u : WebSocketURI} {awake : Awake}
      (hpending : o.pending = some (.dialling call u awake)) (hover : awake.over = true)
      (hdial : call.dial u = .ok ()) :
      Moved env o .dialled
        { sender := o.sender.begin (handshake env.config call.key u).buildRequest
          earlier := o.sender.leave :: o.earlier
          pending := some (.shaking call u o.sender.inflater) }
  | answered {call : ConnectCall} {u : WebSocketURI} {inflater : Option (Deflater Z.toZlib)}
      (hpending : o.pending = some (.shaking call u inflater)) :
      Moved env o .answered
        { o with sender := (o.sender.answered env call u inflater).1, pending := none }
  | acted {a : Action Z} {r : Sender Z × CallOutcome × View} (hbarred : ¬ o.Barred a)
      (hr : o.sender.act a = some r) :
      Moved env o (.act a)
        { o with sender := r.1, pending := o.pending.map (Pending.still r.1) }
  | onEarlier {k : Nat} {a : Action Z} {e : Earlier Z} {r : Sender Z × Earlier Z × CallOutcome}
      (he : o.earlier[k]? = some e) (hr : o.sender.onEarlier e a = some r) :
      Moved env o (.earlier k a) { o with sender := r.1, earlier := o.earlier.set k r.2.1 }
  | nothing (k : Nat) (a : Action Z) : Moved env o (.earlier k a) o

theorem moved_of_next {i : ObjectInput Z} (h : o.next env i = some o') : Moved env o i o' := by
  obtain ⟨r, hr, rfl⟩ := Option.map_eq_some_iff.mp h
  cases i with
  | connect call =>
    simp only [move] at hr
    split at hr
    · cases hr
    · rename_i hpending
      split at hr
      · cases hr
        exact .refused call
      · rename_i hconnected
        split at hr
        · cases hr
          exact .refused call
        · rename_i u hu
          cases hr
          exact .called (by simpa using hpending) (eq_false_of_ne_true hconnected) hu
  | dialled =>
    simp only [move] at hr
    split at hr
    · rename_i call u awake hpending
      split at hr
      · rename_i hover
        split at hr
        · cases hr
          exact .unreached hpending
        · rename_i hdial
          cases hr
          exact .dialled hpending hover hdial
      · cases hr
    · cases hr
  | answered =>
    simp only [move] at hr
    split at hr
    · rename_i call u inflater hpending
      cases hr
      exact .answered hpending
    · cases hr
  | act a =>
    simp only [move] at hr
    split at hr
    · cases hr
    · rename_i hbarred
      obtain ⟨r', hr', rfl⟩ := Option.map_eq_some_iff.mp hr
      exact .acted hbarred hr'
  | earlier k a =>
    simp only [move] at hr
    split at hr
    · rename_i t e outcome hfound
      obtain ⟨e', he, hearlier⟩ := Option.bind_eq_some_iff.mp hfound
      cases hr
      exact .onEarlier he hearlier
    · cases hr
      exact .nothing k a

/-- **One step** of an object. -/
theorem moved_follows {i : ObjectInput Z} (h : Moved env o i o') :
    Sender.Follows o.sender o'.sender := by
  cases h with
  | refused | called | unreached | nothing => exact ⟨.same rfl rfl rfl rfl, rfl⟩
  | dialled => exact Sender.begin_follows _ _
  | answered => exact Sender.answered_follows ..
  | acted _ hr => exact Sender.act_follows hr
  | onEarlier _ hr => exact Sender.onEarlier_follows hr

end Object

/-! ## Calls that were left -/

/-- Nobody is in a call on the connection. -/
structure Conn.Vacant {Z : Zlib} (c : Conn Z) : Prop where
  parked : c.proto.frameReady.parked = []
  woken : c.proto.frameReady.woken = []
  writers : c.proto.canWrite.parked = []
  wokenWriters : c.proto.canWrite.woken = []

/-- The connection is lost with nothing to hand out, or nobody is in a call on it. -/
def Conn.Spent {Z : Zlib} (c : Conn Z) : Prop :=
  c.proto.connectionLost = true ∧ c.proto.frames = [] ∨ c.Vacant

section Spent
variable {c c' : Conn Z.toZlib}

theorem set_of_vacant {ready : Event} (hparked : ready.parked = []) (hwoken : ready.woken = []) :
    ready.set.parked = [] ∧ ready.set.woken = [] := by
  simp [hparked, hwoken]

/-- A callback wakes nobody where nobody waits. -/
theorem Conn.Vacant.callback (h : c.Vacant) {a : Action Z} (ha : c.callback a = some c') :
    c'.Vacant := by
  unfold Conn.callback at ha
  split at ha
  · rename_i data keys
    cases ha
    have hready : (dataReceived c data keys).1.proto.frameReady.parked = [] ∧
        (dataReceived c data keys).1.proto.frameReady.woken = [] := by
      rcases (dataReceived_grows c data keys).2 with hsame | hset
      · rw [hsame]
        exact ⟨h.parked, h.woken⟩
      · rw [hset]
        exact set_of_vacant h.parked h.woken
    have hcanWrite := dataReceived_canWrite c data keys
    exact ⟨hready.1, hready.2, (congrArg Event.parked hcanWrite).trans h.writers,
      (congrArg Event.woken hcanWrite).trans h.wokenWriters⟩
  · cases ha
    have hready := set_of_vacant h.parked h.woken
    exact ⟨hready.1, hready.2, h.writers, h.wokenWriters⟩
  · cases ha
    exact ⟨h.parked, h.woken, h.writers, h.wokenWriters⟩
  · cases ha
    have hwriters := set_of_vacant h.writers h.wokenWriters
    exact ⟨h.parked, h.woken, hwriters.1, hwriters.2⟩
  · cases ha

end Spent

namespace Sender
variable {t t' : Sender Z}

/-- A callback moves the connection on, and nothing else. -/
theorem step_callback {c : Conn Z.toZlib} {a : Action Z}
    (ha : t.transport.conn.callback a = some c) (h : step t a = some t') :
    t'.transport = { t.transport with conn := c } ∧ t'.closer = t.closer := by
  unfold Conn.callback at ha
  split at ha
  · cases ha
    cases h
    exact ⟨rfl, rfl⟩
  · cases ha
    cases h
    exact ⟨rfl, rfl⟩
  · cases ha
    cases h
    exact ⟨rfl, rfl⟩
  · cases ha
    cases h
    exact ⟨rfl, rfl⟩
  · cases ha

/-- **Without a connection** a call that begins does nothing. -/
theorem kept_disconnected {a : Action Z} {u : Sender Z} (hfinish : ∀ params keys,
      a ≠ .finishConnect params keys)
    (hconnected : t.transport.connected = false) (hcallback : t.transport.conn.callback a = none)
    (hgoes : a.goesOn = false) (hu : step t a = some u) : t.kept u = t := by
  have hkept : t.kept (t.adopt t.transport) = t := by
    unfold kept adopt
    cases hp : t.transport.protocol <;> rfl
  cases a with
  | receive i =>
    cases i with
    | dataReceived | connectionLost => cases hcallback
    | resume | timeout => cases hgoes
    | finishConnect => cases hu
    | recv task key =>
      simp only [step] at hu
      split at hu
      · rename_i hfree
        have hrecv : Transport.step t.transport (.recv task key) = some t.transport := by
          simp only [Transport.step, recvRun, if_neg hfree.1, AsyncTransport.recv, hconnected,
            Bool.not_false, Bool.true_or, if_true, Option.map_some]
        rw [hrecv] at hu
        cases hu
        exact hkept
      · cases hu
  | finishConnect params keys => exact absurd rfl (hfinish params keys)
  | send task data binary key =>
    simp only [step, send, transmit, hconnected] at hu
    split at hu
    · cases hu
      unfold kept
      split <;> rfl
    · cases hu
  | sendFrame task frame key =>
    simp only [step, sendFrame, transmit, hconnected] at hu
    split at hu
    · cases hu
      unfold kept
      split <;> rfl
    · cases hu
  | resumeSend | closeResume | closeTimeout => cases hgoes
  | pauseWriting | resumeWriting => cases hcallback
  | ping payload key =>
    have herror : ∃ e, t.transport.ping payload key = .error e := by
      unfold AsyncTransport.ping
      split
      · exact ⟨_, rfl⟩
      · simp [hconnected]
    obtain ⟨e, he⟩ := herror
    simp only [step, he] at hu
    cases hu
    unfold kept
    split <;> rfl
  | close task code reason key =>
    have hclose : t.transport.close task code reason key = (t.transport, false) := by
      unfold AsyncTransport.close
      simp [hconnected]
    simp only [step, hclose] at hu
    split at hu
    · cases hu
      exact hkept
    · cases hu

/-- A step with `_closing` unset behind it: no `close` waits; without a connection the last one is
spent; and where there was none, nobody is woken. -/
structure Calmed (t t' : Sender Z) : Prop where
  closer : t'.closer = none
  spent : t'.transport.connected = false → t'.transport.conn.Spent
  woken : t.transport.connected = false → t'.transport.connected = false ∧
    (∀ task ∈ t'.awake.readers, task ∈ t.awake.readers) ∧
    ∀ task ∈ t'.awake.writers, task ∈ t.awake.writers

/-- While `_closing` is unset, no `close` waits, and without a connection the last one is spent. -/
structure Calm (t : Sender Z) : Prop where
  closer : t.transport.closing = false → t.closer = none
  spent : t.transport.closing = false → t.transport.connected = false → t.transport.conn.Spent

theorem recvClose_closing {Z : Zlib} (v : AsyncTransport Z) (key : MaskKey) (f : Frame) :
    (v.recvClose key f).closing = true := by
  unfold recvClose closeTransport
  dsimp only
  split
  · assumption
  · split <;> rfl

/-- The loop of `recv` keeps the connection, unless there is a Close frame. -/
theorem recvLoop_connected {Z : Zlib} (v : AsyncTransport Z) (task : Nat) (key : MaskKey)
    (fs : List Frame) (hunset : (v.recvLoop task key fs).1.closing = false) :
    (v.recvLoop task key fs).1.connected = v.connected := by
  rw [recvLoop_eq] at hunset ⊢
  split at hunset
  · rfl
  · split at hunset
    · exact absurd ((recvClose_closing ..).symm.trans hunset) (by decide)
    · rename_i hother
      rw [if_neg hother]
      rfl

/-- A `close` that waits has set `_closing`, and one on a connection sets it. -/
theorem close_closing {Z : Zlib} {v : AsyncTransport Z} {task code : Nat} {reason : String}
    {key : MaskKey} (h : (v.close task code reason key).1.closing = false) :
    v.connected = false ∧ v.close task code reason key = (v, false) := by
  unfold close at h ⊢
  split at h
  · rename_i hreturns
    rw [if_pos hreturns]
    have hunset : v.closing = false := h
    exact ⟨by simpa [hunset] using hreturns, rfl⟩
  · dsimp only at h
    split at h
    · split at h
      · split at h <;> cases h
      · cases h
    · cases h

/-- `send` and `send_frame` leave the connection and `close` alone. -/
theorem transmit_connected (t : Sender Z) (task : Nat) (key : MaskKey) (compressible : Bool)
    (frame : Frame) :
    (t.transmit task key compressible frame).1.transport.connected = t.transport.connected ∧
      (t.transmit task key compressible frame).1.closer = t.closer := by
  have hpack : (t.pack compressible frame.rsv1 frame.payload).1.transport = t.transport ∧
      (t.pack compressible frame.rsv1 frame.payload).1.closer = t.closer := by
    unfold pack
    split
    · exact ⟨rfl, rfl⟩
    · split <;> exact ⟨rfl, rfl⟩
  unfold transmit
  split
  · dsimp only
    have hconnected : (t.pack compressible frame.rsv1 frame.payload).1.transport.connected =
        t.transport.connected := congrArg AsyncTransport.connected hpack.1
    split <;> exact ⟨hconnected, hpack.2⟩
  · exact ⟨rfl, rfl⟩

/-- **A call on a connection** leaves it there, unless it closes it. -/
theorem step_connected {a : Action Z} (hcallback : t.transport.conn.callback a = none)
    (hgoes : a.goesOn = false) (hfinish : ∀ params keys, a ≠ .finishConnect params keys)
    (hconnected : t.transport.connected = true) (h : step t a = some t')
    (hunset : t'.transport.closing = false) :
    t'.transport.connected = true ∧ t'.closer = t.closer := by
  cases a with
  | receive i =>
    cases i with
    | dataReceived | connectionLost => cases hcallback
    | resume | timeout => cases hgoes
    | finishConnect => cases h
    | recv task key =>
      simp only [step, Transport.step, recvRun] at h
      split at h
      · rename_i hfree
        rw [if_neg hfree.1] at h
        cases h
        refine ⟨?_, rfl⟩
        unfold AsyncTransport.recv at hunset ⊢
        dsimp only [Option.map_some, adopt] at hunset ⊢
        split at hunset
        · rename_i hnot
          rw [if_pos hnot]
          exact hconnected
        · rename_i hthere
          rw [if_neg hthere]
          exact (recvLoop_connected _ _ _ _ hunset).trans hconnected
      · cases h
  | finishConnect params keys => exact absurd rfl (hfinish params keys)
  | send | sendFrame =>
    simp only [step] at h
    split at h
    · cases h
      have hsame := transmit_connected t
      exact ⟨(hsame _ _ _ _).1.trans hconnected, (hsame _ _ _ _).2⟩
    · cases h
  | resumeSend | closeResume | closeTimeout => cases hgoes
  | pauseWriting | resumeWriting => cases hcallback
  | ping payload key =>
    simp only [step] at h
    split at h
    · rename_i v hv
      cases h
      refine ⟨?_, rfl⟩
      unfold AsyncTransport.ping at hv
      split at hv
      · cases hv
      · split at hv
        · cases hv
          exact hconnected
        · cases hv
    · cases h
      exact ⟨hconnected, rfl⟩
  | close task code reason key =>
    simp only [step] at h
    split at h
    · cases h
      exact absurd (hconnected.symm.trans (close_closing hunset).1) (by decide)
    · cases h

theorem mem_of_mem_erase {tasks : List Nat} {task : Nat} :
    ∀ other ∈ tasks.erase task, other ∈ tasks := fun _ h => List.mem_of_mem_erase h

/-- **A call that goes on**, with no `close` waiting. -/
theorem step_goesOn {a : Action Z} (hgoes : a.goesOn = true) (hcloser : t.closer = none)
    (hspent : t.transport.connected = false → t.transport.conn.Spent) (h : step t a = some t')
    (hunset : t'.transport.closing = false) : Calmed t t' := by
  cases a with
  | receive i =>
    cases i with
    | dataReceived | connectionLost | recv | finishConnect => cases hgoes
    | timeout task =>
      simp only [step, Transport.step, recvRun] at h
      split at h
      · split at h
        · cases h
          refine ⟨hcloser, fun hconnected => ?_, fun hconnected =>
            ⟨hconnected, mem_of_mem_erase, fun _ => id⟩⟩
          rcases hspent hconnected with hlost | hvacant
          · exact .inl hlost
          · refine .inr ⟨?_, ?_, hvacant.writers, hvacant.wokenWriters⟩
            · exact congrArg (List.erase · task) hvacant.parked
            · exact congrArg (List.erase · task) hvacant.woken
        · cases h
      · cases h
    | resume task key =>
      simp only [step, Transport.step, recvRun] at h
      split at h
      · split at h
        · rename_i hwoken
          cases h
          by_cases hlost : t.transport.conn.proto.connectionLost = true ∧
              t.transport.conn.proto.frames = []
          · have hresume : t.transport.recvResume task key =
                ({ t.transport.withReady (t.transport.conn.proto.frameReady.resume task) with
                    connected := false },
                  .raised (.connectionError "Connection closed by remote")) := by
              unfold recvResume
              dsimp only
              rw [if_pos (by simpa using hlost)]
              rfl
            rw [hresume]
            exact ⟨hcloser, fun _ => .inl hlost, fun _ => ⟨rfl, mem_of_mem_erase, fun _ => id⟩⟩
          · -- it reads the queue, so there is a connection, and it stays
            have hthere : t.transport.connected = true := by
              by_contra hgone
              rcases hspent (eq_false_of_ne_true hgone) with hl | hvacant
              · exact hlost hl
              · rw [hvacant.woken] at hwoken
                cases hwoken
            have hresume : t.transport.recvResume task key =
                (t.transport.withReady (t.transport.conn.proto.frameReady.resume task)).recvLoop
                  task key t.transport.conn.proto.frames := by
              unfold recvResume
              dsimp only
              rw [if_neg (by simpa using hlost)]
              rfl
            rw [hresume] at hunset ⊢
            have hstays := (recvLoop_connected _ _ _ _ hunset).trans hthere
            refine ⟨hcloser, fun hgone => ?_, fun hgone => ?_⟩
            · exact absurd (hstays.symm.trans hgone) (by decide)
            · exact absurd (hthere.symm.trans hgone) (by decide)
        · cases h
      · cases h
  | finishConnect | send | sendFrame | ping | close | pauseWriting | resumeWriting => cases hgoes
  | resumeSend =>
    simp only [step] at h
    split at h
    · rename_i first woken out rest hwoken hsuspended
      cases h
      have hsame : (resumeSend { t with suspended := rest } out).1.closer = t.closer ∧
          (resumeSend { t with suspended := rest } out).1.transport.connected =
            t.transport.connected ∧
          (resumeSend { t with suspended := rest } out).1.transport.conn.proto =
            { t.transport.conn.proto with
              canWrite := t.transport.conn.proto.canWrite.resume out.task } := by
        unfold resumeSend
        dsimp only
        split <;> exact ⟨rfl, rfl, rfl⟩
      obtain ⟨hc, hconnected, hproto⟩ := hsame
      refine ⟨hc.trans hcloser, fun hgone => ?_, fun hgone => ⟨hconnected.trans hgone, ?_, ?_⟩⟩
      · rcases hspent (hconnected.symm.trans hgone) with hlost | hvacant
        · exact .inl (by rw [hproto]; exact hlost)
        · rw [hvacant.wokenWriters] at hwoken
          cases hwoken
      · unfold awake
        rw [hproto]
        exact fun _ => id
      · unfold awake
        rw [hproto]
        exact mem_of_mem_erase
    · cases h
  | closeResume | closeTimeout =>
    simp only [step, hcloser] at h
    split at h
    · rename_i hwaits
      cases hwaits.1
    · cases h

end Sender

namespace Sender
variable {t t' : Sender Z}

/-- **One step on a connection**, no callback behind `connection_lost`. -/
theorem Calm.act (h : t.Calm) {a : Action Z} {r : Sender Z × CallOutcome × View}
    (hbarred : (t.transport.conn.callback a).isSome = true →
      t.transport.conn.proto.connectionLost = false)
    (hr : t.act a = some r) (hunset : r.1.transport.closing = false) : Calmed t r.1 := by
  have hold := (act_follows hr).closing hunset
  have hcloser := h.closer hold
  have hspent := h.spent hold
  obtain ⟨u, hu, hkept⟩ := act_step hr
  have hfinish : ∀ params keys, a ≠ .finishConnect params keys := by
    rintro params keys rfl
    cases hr
  rw [hkept] at hunset ⊢
  have hmoves : Calmed t u → Calmed t (t.kept u) := fun hc => ⟨hc.closer, hc.spent, hc.woken⟩
  cases hcallback : t.transport.conn.callback a with
  | some c =>
    obtain ⟨htransport, hsame⟩ := step_callback hcallback hu
    have hthere := hbarred (by rw [hcallback]; rfl)
    have hvacant : t.transport.connected = false → c.Vacant := by
      intro hgone
      rcases hspent hgone with hlost | hvacant
      · exact absurd (hthere.symm.trans hlost.1) (by decide)
      · exact hvacant.callback hcallback
    refine hmoves ⟨hsame.trans hcloser, ?_, fun hgone => ?_⟩
    · rw [htransport]
      exact fun hgone => .inr (hvacant hgone)
    · unfold awake
      rw [htransport, (hvacant hgone).woken, (hvacant hgone).wokenWriters]
      exact ⟨hgone, by simp, by simp⟩
  | none =>
    cases hgoes : a.goesOn with
    | true => exact hmoves (step_goesOn hgoes hcloser hspent hu hunset)
    | false =>
      cases hconnected : t.transport.connected with
      | false =>
        rw [kept_disconnected hfinish hconnected hcallback hgoes hu]
        exact ⟨hcloser, hspent, fun hgone => ⟨hgone, fun _ => id, fun _ => id⟩⟩
      | true =>
        obtain ⟨hthere, hsame⟩ := step_connected hcallback hgoes hfinish hconnected hu hunset
        refine hmoves ⟨hsame.trans hcloser, fun hgone => ?_, fun hgone => ?_⟩
        · exact absurd (hthere.symm.trans hgone) (by decide)
        · exact absurd (hconnected.symm.trans hgone) (by decide)

/-- **No call that goes on** makes a connection. -/
theorem goesOn_gone {a : Action Z} (hgoes : a.goesOn = true)
    (hgone : t.transport.connected = false) (h : step t a = some t') :
    t'.transport.connected = false := by
  cases a with
  | receive i =>
    cases i with
    | dataReceived | connectionLost | recv | finishConnect => cases hgoes
    | timeout task =>
      simp only [step, Transport.step, recvRun] at h
      split at h
      · split at h
        · cases h
          exact hgone
        · cases h
      · cases h
    | resume task key =>
      have hloop : ∀ (v : AsyncTransport Z.toZlib) (fs : List Frame), v.connected = false →
          (v.recvLoop task key fs).1.connected = false := by
        intro v fs hv
        rw [recvLoop_eq]
        split
        · exact hv
        · split
          · rfl
          · exact hv
      simp only [step, Transport.step, recvRun] at h
      split at h
      · split at h
        · cases h
          unfold recvResume adopt
          dsimp only
          split
          · rfl
          · exact hloop _ _ hgone
        · cases h
      · cases h
  | finishConnect | send | sendFrame | ping | close | pauseWriting | resumeWriting => cases hgoes
  | resumeSend =>
    simp only [step] at h
    split at h
    · cases h
      unfold resumeSend
      dsimp only
      split <;> exact hgone
    · cases h
  | closeResume task =>
    simp only [step] at h
    split at h
    · cases h
      unfold closeResume adopt
      dsimp only
      split
      · rfl
      · exact hgone
    · cases h
  | closeTimeout task =>
    simp only [step] at h
    split at h
    · cases h
      rfl
    · cases h

theorem act_gone {a : Action Z} {r : Sender Z × CallOutcome × View}
    (hgone : t.transport.connected = false) (hr : t.act a = some r) :
    r.1.transport.connected = false := by
  obtain ⟨u, hu, hkept⟩ := act_step hr
  have hfinish : ∀ params keys, a ≠ .finishConnect params keys := by
    rintro params keys rfl
    cases hr
  rw [hkept]
  cases hcallback : t.transport.conn.callback a with
  | some c =>
    show u.transport.connected = false
    rw [(step_callback hcallback hu).1]
    exact hgone
  | none =>
    cases hgoes : a.goesOn with
    | true =>
      have hstill := goesOn_gone hgoes hgone hu
      exact hstill
    | false =>
      rw [kept_disconnected hfinish hgone hcallback hgoes hu]
      exact hgone

end Sender

namespace Earlier
variable {t : Sender Z} {e : Earlier Z}

/-- No call left on the connection will do anything but wait too long. -/
structure Silent (e : Earlier Z) : Prop where
  closer : e.closer = none
  woken : e.conn.proto.frameReady.woken = []
  wokenWriters : e.conn.proto.canWrite.woken = []
  asleep : e.conn.proto.connectionLost = true ∨
    e.conn.proto.frameReady.parked = [] ∧ e.conn.proto.canWrite.parked = []

theorem silent_of_vacant {e : Earlier Z} (hcloser : e.closer = none) (h : e.conn.Vacant) :
    e.Silent := ⟨hcloser, h.woken, h.wokenWriters, .inr ⟨h.parked, h.writers⟩⟩

/-- **What `connect` leaves**, once all that was woken has run. -/
theorem silent_leave (h : t.Calm) (hunset : t.transport.closing = false)
    (hgone : t.transport.connected = false) (hreaders : t.awake.readers = [])
    (hwriters : t.awake.writers = []) : t.leave.Silent := by
  refine ⟨h.closer hunset, hreaders, hwriters, ?_⟩
  rcases h.spent hunset hgone with hlost | hvacant
  · exact .inl hlost.1
  · exact .inr ⟨hvacant.parked, hvacant.writers⟩

/-- Waiting too long is nothing to the object. -/
theorem kept_timeout (t : Sender Z) (e : Earlier Z) (task : Nat) :
    t.kept (((t.wear e).adopt ((t.wear e).transport.recvTimeout task).1).wear t.leave) = t := by
  obtain ⟨⟨config, connected, closing, conn, protocol, asyncioTransport, parser, closeCode,
    closeReason⟩, threshold, deflater, suspended, closer, compressed, wrote⟩ := t
  cases protocol <;> rfl

/-- **A silent connection** shows nothing and does nothing to the object. -/
theorem Silent.onEarlier (h : e.Silent) {a : Action Z} {r : Sender Z × Earlier Z × CallOutcome}
    (hr : t.onEarlier e a = some r) : r.1 = t ∧ r.2.1.Silent ∧ r.2.2 = .quiet := by
  unfold Sender.onEarlier at hr
  split at hr
  · rename_i conn hcallback
    split at hr
    · cases hr
    · rename_i hthere
      cases hr
      refine ⟨rfl, silent_of_vacant h.closer ?_, rfl⟩
      rcases h.asleep with hlost | ⟨hparked, hwriters⟩
      · exact absurd hlost hthere
      · exact Conn.Vacant.callback ⟨hparked, h.woken, hwriters, h.wokenWriters⟩ hcallback
  · split at hr
    · rename_i hgoes
      obtain ⟨u, hu, rfl⟩ := Option.map_eq_some_iff.mp hr
      cases a with
      | receive i =>
        cases i with
        | dataReceived | connectionLost | recv | finishConnect => cases hgoes
        | resume task key =>
          simp only [Sender.step, Transport.step, recvRun, Sender.wear, h.woken] at hu
          split at hu <;> simp at hu
        | timeout task =>
          simp only [Sender.step, Transport.step, recvRun] at hu
          split at hu
          · split at hu
            · rename_i hready
              cases hu
              refine ⟨?_, ⟨h.closer, ?_, h.wokenWriters, ?_⟩, ?_⟩
              · exact kept_timeout t e task
              · exact congrArg (List.erase · task) h.woken
              · rcases h.asleep with hlost | ⟨hparked, hwriters⟩
                · exact .inl hlost
                · exact .inr ⟨congrArg (List.erase · task) hparked, hwriters⟩
              · simp only [Sender.outcome, recvRun, if_pos hready]
                rfl
            · cases hu
          · cases hu
      | finishConnect | send | sendFrame | ping | close | pauseWriting | resumeWriting =>
        cases hgoes
      | resumeSend =>
        simp only [Sender.step, Sender.wear, h.wokenWriters] at hu
        cases hu
      | closeResume | closeTimeout =>
        simp only [Sender.step, Sender.wear, h.closer] at hu
        split at hu
        · rename_i hwaits
          cases hwaits.1
        · cases hu
    · cases hr

end Earlier

/-! ## The object -/

/-- The connection as `connect` begins it. -/
def beganConn (Z : Zlib) (request : Bytes) : Conn Z :=
  { proto := { WSProtocol.new Z with handshakeFuture := .pending }
    sock := { closing := false, written := [request] } }

/-- Nothing has happened to the object since its `connect` had a socket, unless `_closing` is
set. -/
structure Sender.Began (t : Sender Z) (request : Bytes) : Prop where
  proto : t.transport.conn.proto = (beganConn Z.toZlib request).proto
  suspended : t.suspended = []
  closer : t.closer = none
  untouched : t.transport.closing = false →
    t.transport.conn.sock = (beganConn Z.toZlib request).sock ∧ t.transport.protocol = true ∧
      t.transport.asyncioTransport = true ∧ t.compressed = 0 ∧ t.wrote = []

/-- A call of `connect` is where it can be: there is no connection, what it has done has gone
well, and who is woken was when it was called. -/
def Pending.Stands (env : Surroundings) (t : Sender Z) : Pending Z → Prop
  | .dialling call u awake => parseUri env.urlparse call.uri = .ok u ∧
      (t.transport.closing = false → (∀ task ∈ t.awake.readers, task ∈ awake.readers) ∧
        ∀ task ∈ t.awake.writers, task ∈ awake.writers)
  | .shaking call u _ => call.reach env = .ok u ∧
      t.Began (handshake env.config call.key u).buildRequest

namespace Sender
variable {t : Sender Z} {request : Bytes} {env : Surroundings} {call : ConnectCall}

theorem begin_began (t : Sender Z) (request : Bytes) : (t.begin request).Began request :=
  ⟨rfl, rfl, rfl, fun _ => ⟨rfl, rfl, rfl, rfl, rfl⟩⟩

theorem Began.vacant (h : t.Began request) : t.transport.conn.Vacant := by
  refine ⟨?_, ?_, ?_, ?_⟩ <;> rw [h.proto] <;> rfl

/-- The response comes to nobody but `connect`. -/
theorem answered_vacant (h : t.Began request) (response : Response) :
    (t.transport.answered response).conn.Vacant := by
  have hvacant := h.vacant
  unfold AsyncTransport.answered
  split
  · exact ⟨hvacant.parked, hvacant.woken, hvacant.writers, hvacant.wokenWriters⟩
  · exact hvacant

theorem finishConnect_vacant {Z : Zlib} {v : AsyncTransport Z} (h : v.conn.Vacant)
    (deflater : Option (Deflater Z)) (keys : Nat → MaskKey) :
    (v.finishConnect deflater keys).1.conn.Vacant := by
  have hcanWrite := (finishConnect_finished v deflater keys).canWrite
  have hidle : Idle (v.finishConnect deflater keys).1 :=
    idle_of_set ⟨h.parked, h.woken⟩ (finishConnect_grows v deflater keys).2
  exact ⟨hidle.1, hidle.2, (congrArg Event.parked hcanWrite).trans h.writers,
    (congrArg Event.woken hcanWrite).trans h.wokenWriters⟩

/-- **Behind the response** nobody is in a call on the connection. -/
theorem answered_spent (h : t.Began request) (u : WebSocketURI)
    (inflater : Option (Deflater Z.toZlib)) :
    (t.answered env call u inflater).1.closer = none ∧
      (t.answered env call u inflater).1.transport.conn.Vacant := by
  have hvacant := answered_vacant h call.net.response
  unfold Sender.answered
  split
  · refine ⟨h.closer, ?_⟩
    have hproto := closeTransport_proto (t.transport.answered call.net.response)
    unfold refuse
    refine ⟨?_, ?_, ?_, ?_⟩ <;> rw [hproto]
    · exact hvacant.parked
    · exact hvacant.woken
    · exact hvacant.writers
    · exact hvacant.wokenWriters
  · unfold switch
    dsimp only
    split
    · exact ⟨h.closer, finishConnect_vacant hvacant _ _⟩
    · exact ⟨h.closer, hvacant.parked, hvacant.woken, hvacant.writers, hvacant.wokenWriters⟩

/-- **While `connect` waits for its response** no other call does anything. -/
theorem Began.act (h : t.Began request) (hgone : t.transport.connected = false) {a : Action Z}
    (hcallback : t.transport.conn.callback a = none) {r : Sender Z × CallOutcome × View}
    (hr : t.act a = some r) : r.1 = t := by
  obtain ⟨u, hu, hkept⟩ := act_step hr
  have hfinish : ∀ params keys, a ≠ .finishConnect params keys := by
    rintro params keys rfl
    cases hr
  have hvacant := h.vacant
  cases hgoes : a.goesOn with
  | false =>
    rw [hkept]
    exact kept_disconnected hfinish hgone hcallback hgoes hu
  | true =>
    cases a with
    | receive i =>
      cases i with
      | dataReceived | connectionLost | recv | finishConnect => cases hgoes
      | resume task key =>
        simp only [step, Transport.step, recvRun, hvacant.woken] at hu
        split at hu <;> simp at hu
      | timeout task =>
        simp only [step, Transport.step, recvRun, InRecv, hvacant.woken, hvacant.parked] at hu
        split at hu <;> simp at hu
    | finishConnect | send | sendFrame | ping | close | pauseWriting | resumeWriting =>
      cases hgoes
    | resumeSend =>
      simp only [step, hvacant.wokenWriters] at hu
      cases hu
    | closeResume | closeTimeout =>
      simp only [step, h.closer] at hu
      split at hu
      · rename_i hwaits
        cases hwaits.1
      · cases hu

/-- What a call that is left leaves alone. -/
theorem onEarlier_same {e : Earlier Z} {a : Action Z} {r : Sender Z × Earlier Z × CallOutcome}
    (hr : t.onEarlier e a = some r) :
    (t.transport.connected = false → r.1.transport.connected = false) ∧
      r.1.transport.conn.proto = t.transport.conn.proto ∧ r.1.suspended = t.suspended ∧
      r.1.closer = t.closer := by
  unfold Sender.onEarlier at hr
  split at hr
  · split at hr
    · cases hr
    · cases hr
      exact ⟨id, rfl, rfl, rfl⟩
  · split at hr
    · rename_i hgoes
      obtain ⟨u, hu, rfl⟩ := Option.map_eq_some_iff.mp hr
      refine ⟨fun hgone => ?_, rfl, rfl, rfl⟩
      have hworn : (t.wear e).transport.connected = false := hgone
      have hstill := goesOn_gone hgoes hworn hu
      exact hstill
    · cases hr

end Sender

namespace Object
variable {env : Surroundings} {config : TransportConfig} {compressionThreshold : Int}
  {o o' : Object Z}

/-- The invariant of runs. -/
structure Sound (env : Surroundings) (config : TransportConfig) (compressionThreshold : Int)
    (o : Object Z) : Prop where
  own : o.sender.Own config compressionThreshold
  calm : o.sender.Calm
  silent : o.sender.transport.closing = false → ∀ e ∈ o.earlier, e.Silent
  pending : ∀ p ∈ o.pending, o.sender.transport.connected = false ∧ p.Stands env o.sender

theorem sound_new : (Object.new Z config compressionThreshold).Sound env config
    compressionThreshold where
  own := ⟨rfl, rfl, fun _ => ⟨rfl, rfl⟩⟩
  calm := ⟨fun _ => rfl, fun _ _ => .inr ⟨rfl, rfl, rfl, rfl⟩⟩
  silent := by simp [Object.new]
  pending := by simp [Object.new]

/-- **One step** keeps the invariant. -/
theorem sound_step {i : ObjectInput Z} (h : o.Sound env config compressionThreshold)
    (hm : Moved env o i o') : o'.Sound env config compressionThreshold := by
  have hfollows := moved_follows hm
  have hown := h.own.follows hfollows
  cases hm with
  | refused | nothing => exact h
  | called hpending hconnected hu =>
    refine ⟨hown, h.calm, h.silent, ?_⟩
    rintro p ⟨⟩
    exact ⟨hconnected, hu, fun _ => ⟨fun _ => id, fun _ => id⟩⟩
  | unreached => exact ⟨hown, h.calm, h.silent, by simp⟩
  | @dialled call u awake hpending hover hdial =>
    obtain ⟨hgone, hu, hawake⟩ := h.pending _ hpending
    have hbegan := Sender.begin_began o.sender (handshake env.config call.key u).buildRequest
    refine ⟨hown, ⟨fun _ => rfl, fun _ _ => .inr hbegan.vacant⟩, fun hunset => ?_, ?_⟩
    · -- all that was woken has run
      obtain ⟨hreaders, hwriters⟩ := hawake hunset
      obtain ⟨hnoReader, hnoWriter⟩ := Bool.and_eq_true_iff.mp hover
      rw [List.isEmpty_iff.mp hnoReader] at hreaders
      rw [List.isEmpty_iff.mp hnoWriter] at hwriters
      intro e he
      rcases List.mem_cons.mp he with rfl | he
      · exact Earlier.silent_leave h.calm hunset hgone
          (List.eq_nil_iff_forall_not_mem.mpr (fun task ht => by simpa using hreaders task ht))
          (List.eq_nil_iff_forall_not_mem.mpr (fun task ht => by simpa using hwriters task ht))
      · exact h.silent hunset e he
    · rintro p ⟨⟩
      refine ⟨hgone, ?_, hbegan⟩
      unfold ConnectCall.reach
      rw [hu]
      dsimp only
      rw [hdial]
      rfl
  | @answered call u inflater hpending =>
    obtain ⟨-, -, hbegan⟩ := h.pending _ hpending
    obtain ⟨hcloser, hvacant⟩ := Sender.answered_spent hbegan u inflater
    refine ⟨hown, ⟨fun _ => hcloser, fun _ _ => .inr hvacant⟩, fun hunset => ?_, by simp⟩
    exact h.silent (hfollows.closing hunset)
  | @acted a r hbarred hr =>
    have hcalmed : r.1.transport.closing = false → Sender.Calmed o.sender r.1 := by
      refine h.calm.act (fun hcallback => ?_) hr
      by_contra hlost
      exact hbarred ⟨hcallback, .inl (eq_true_of_ne_false hlost)⟩
    refine ⟨hown, ⟨fun hunset => (hcalmed hunset).closer, fun hunset => (hcalmed hunset).spent⟩,
      fun hunset => h.silent (hfollows.closing hunset), ?_⟩
    intro p' hp'
    obtain ⟨p, hp, rfl⟩ := Option.mem_map.mp hp'
    obtain ⟨hgone, hstands⟩ := h.pending p hp
    refine ⟨Sender.act_gone hgone hr, ?_⟩
    cases p with
    | dialling call u awake =>
      obtain ⟨hu, hawake⟩ := hstands
      refine ⟨hu, fun hunset => ?_⟩
      obtain ⟨-, hreaders, hwriters⟩ := (hcalmed hunset).woken hgone
      obtain ⟨hreaders', hwriters'⟩ := hawake (hfollows.closing hunset)
      constructor
      · intro task htask
        exact List.mem_filter.mpr ⟨hreaders' task (hreaders task htask), by simpa using htask⟩
      · intro task htask
        exact List.mem_filter.mpr ⟨hwriters' task (hwriters task htask), by simpa using htask⟩
    | shaking call u inflater =>
      obtain ⟨hreach, hbegan⟩ := hstands
      have hcallback : o.sender.transport.conn.callback a = none := by
        by_contra hsome
        refine hbarred ⟨Option.isSome_iff_ne_none.mpr hsome, .inr ?_⟩
        rw [Option.mem_def.mp hp]
        rfl
      dsimp only [Pending.still, Pending.Stands]
      rw [hbegan.act hgone hcallback hr]
      exact ⟨hreach, hbegan⟩
  | @onEarlier k a e r he hr =>
    -- while `_closing` is unset the connection is silent
    have hsilent : r.1.transport.closing = false → r.1 = o.sender ∧ r.2.1.Silent := by
      intro hunset
      have he' := h.silent (hfollows.closing hunset) e (List.mem_of_getElem? he)
      obtain ⟨hsame, hstill, -⟩ := he'.onEarlier hr
      exact ⟨hsame, hstill⟩
    obtain ⟨hgone, hproto, hsuspended, hcloser⟩ := Sender.onEarlier_same hr
    refine ⟨hown, ⟨fun hunset => ?_, fun hunset => ?_⟩, fun hunset => ?_, ?_⟩
    · rw [hcloser]
      exact h.calm.closer (hfollows.closing hunset)
    · rw [(hsilent hunset).1]
      exact h.calm.spent (hfollows.closing hunset)
    · intro e' he'
      rcases List.mem_or_eq_of_mem_set he' with hold | rfl
      · exact h.silent (hfollows.closing hunset) e' hold
      · exact (hsilent hunset).2
    · intro p hp
      obtain ⟨hgone', hstands⟩ := h.pending p hp
      refine ⟨hgone hgone', ?_⟩
      cases p with
      | dialling call u awake =>
        refine ⟨hstands.1, fun hunset => ?_⟩
        dsimp only
        rw [(hsilent hunset).1]
        exact hstands.2 (hfollows.closing hunset)
      | shaking call u inflater =>
        obtain ⟨hreach, hbegan⟩ := hstands
        refine ⟨hreach, hproto.trans hbegan.proto, hsuspended.trans hbegan.suspended,
          hcloser.trans hbegan.closer, fun hunset => ?_⟩
        dsimp only
        rw [(hsilent hunset).1]
        exact hbegan.untouched (hfollows.closing hunset)

end Object

end JetSocket.Transport
