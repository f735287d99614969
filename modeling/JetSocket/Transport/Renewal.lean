import JetSocket.Transport.Reconnect

/- When an `AsyncTransport` that is used again is as good as new.

   What is proved:
     1. `switch_eq` — with `_closing` unset, and no deflater left over or a new one, the object
        is the same as a new one once it is connected.
     2. `same_matches` — what happens on an earlier connection whose calls are silent does not
        show: two objects that differ in such connections only are alike.
     3. `alike_new_iff` — and else it can be told apart: by `close`, which returns at once, or by
        `send`, which compresses. -/
namespace JetSocket.Transport
open JetSocket.Core Transition AsyncTransport

variable {Z : ZlibModule}

/-! ## Once connected -/

/-- What is left over is not taken. -/
theorem or_eq_of_isSome {α : Type} {x y : Option α} (h : y.isSome = true → x.isSome = true) :
    x.or y = x := by
  cases x with
  | some a => rfl
  | none =>
    cases y with
    | none => rfl
    | some b => cases h rfl

/-- A result that may be `none`, once it is known. -/
theorem exists_ok_some_iff {ε α β : Type} {r : Except ε α} {f : α → Except ε (Option β)} {u : α}
    {x : Option β} (hu : r = .ok u) (hx : f u = .ok x) :
    (∃ u d, r = .ok u ∧ f u = .ok (some d)) ↔ x.isSome = true := by
  subst hu
  constructor
  · rintro ⟨u', d, hu', hd⟩
    cases hu'
    rw [hx] at hd
    cases hd
    rfl
  · intro hsome
    obtain ⟨d, rfl⟩ := Option.isSome_iff_exists.mp hsome
    exact ⟨u, d, rfl, hx⟩

namespace Sender
variable {t : Sender Z} {env : Surroundings} {call : ConnectCall} {config : TransportConfig}
  {compressionThreshold : Int}

/-- The server takes permessage-deflate. -/
def Negotiates (env : Surroundings) (Z : Zlib) (call : ConnectCall) : Prop :=
  ∃ u d, call.reach env = .ok u ∧
    performHandshake Z env.acceptKey env.config (handshake env.config call.key u)
      call.net.response = .ok (some d)

/-- A call that connects found the protocol still there. -/
theorem answered_connected {u : WebSocketURI} {inflater : Option (Deflater Z.toZlib)}
    (h : (t.answered env call u inflater).2 = .connected) :
    t.transport.protocol = true ∧ ∃ negotiated,
      performHandshake Z.toZlib env.acceptKey env.config (handshake env.config call.key u)
        call.net.response = .ok negotiated ∧
      (t.switch negotiated inflater call.net).2 = .connected := by
  unfold Sender.answered at h
  split at h
  · cases h
  · rename_i negotiated hp
    cases hprotocol : t.transport.protocol with
    | true => exact ⟨rfl, negotiated, hp, h⟩
    | false =>
      unfold switch at h
      simp [hprotocol] at h

theorem answered_ok {u : WebSocketURI} {inflater negotiated : Option (Deflater Z.toZlib)}
    (hp : performHandshake Z.toZlib env.acceptKey env.config (handshake env.config call.key u)
      call.net.response = .ok negotiated) (s : Sender Z) :
    s.answered env call u inflater = s.switch negotiated inflater call.net := by
  unfold Sender.answered
  rw [hp]

/-- **As good as new**: with `_closing` unset, and no deflater left over or a new one, nothing of
the earlier connections is left. -/
theorem switch_eq {request : Bytes} (h : t.Own config compressionThreshold)
    (hbegan : t.Began request) (hclosing : t.transport.closing = false)
    (hconnected : t.transport.connected = false) {negotiated : Option (Deflater Z.toZlib)}
    (hdeflater : t.deflater.isSome = true → negotiated.isSome = true)
    (inflater : Option (Deflater Z.toZlib)) (net : Network) :
    t.switch negotiated inflater net =
      ((Sender.new Z config compressionThreshold).begin request).switch negotiated none net := by
  obtain ⟨hconfig, hthreshold, hown⟩ := h
  obtain ⟨hcode, hreason⟩ := hown hclosing
  obtain ⟨hproto, hsuspended, hcloser, huntouched⟩ := hbegan
  obtain ⟨hsock, hprotocol, hasyncio, hcompressed, hwrote⟩ := huntouched hclosing
  have hinflater : negotiated.or (if t.deflater.isSome then inflater else none) = negotiated := by
    refine or_eq_of_isSome (fun hsome => hdeflater ?_)
    split at hsome
    · assumption
    · cases hsome
  have hhalf : (negotiated.map (Deflater.compressHalf Z)).or t.deflater =
      negotiated.map (Deflater.compressHalf Z) :=
    or_eq_of_isSome (fun hsome => by rw [Option.isSome_map]; exact hdeflater hsome)
  obtain ⟨⟨config', connected, closing, ⟨proto, sock⟩, protocol, asyncioTransport, parser,
    closeCode, closeReason⟩, threshold, deflater, suspended, closer, compressed, wrote⟩ := t
  dsimp only at hconfig hthreshold hclosing hconnected hcode hreason hinflater hhalf
  dsimp only at hproto hsuspended hcloser hsock hprotocol hasyncio hcompressed hwrote
  subst hconfig hthreshold hclosing hconnected hcode hreason
  subst hproto hsuspended hcloser hsock hprotocol hasyncio hcompressed hwrote
  unfold switch
  rw [hinflater, hhalf]
  cases net.response <;> simp [AsyncTransport.answered, begin, beganConn, beginHandshake,
    AsyncTransport.finishConnect, switchToFrames, Sender.new, AsyncTransport.new]

/-- Nothing has happened since the connection was made. -/
structure Fresh (t : Sender Z) : Prop where
  parser : t.transport.parser.isSome = true
  protocol : t.transport.protocol = true
  canWrite : t.transport.conn.proto.canWrite.flag = true
  vacant : t.transport.conn.Vacant
  suspended : t.suspended = []

theorem switch_fresh {request : Bytes} (h : t.Began request) (hprotocol : t.transport.protocol = true)
    (negotiated inflater : Option (Deflater Z.toZlib)) (net : Network) :
    (t.switch negotiated inflater net).1.Fresh := by
  have hvacant := answered_vacant h net.response
  have hsame : (t.transport.answered net.response).protocol = true ∧
      (t.transport.answered net.response).conn.proto.canWrite.flag = true := by
    unfold AsyncTransport.answered
    split
    · exact ⟨hprotocol, by rw [h.proto]; rfl⟩
    · exact ⟨hprotocol, by rw [h.proto]; rfl⟩
  unfold switch
  dsimp only
  rw [if_pos hprotocol]
  have hfinished := finishConnect_finished (t.transport.answered net.response)
    (negotiated.or (if t.deflater.isSome then inflater else none)) net.keys
  exact ⟨Option.isSome_of_mem hfinished.parser, hfinished.protocol.trans hsame.1,
    (congrArg Event.flag hfinished.canWrite).trans hsame.2, finishConnect_vacant hvacant _ _,
    h.suspended⟩

/-- What stays behind the response. -/
theorem switch_same (t : Sender Z) (negotiated inflater : Option (Deflater Z.toZlib))
    (net : Network) :
    (t.switch negotiated inflater net).1.transport.closing = t.transport.closing ∧
      (t.switch negotiated inflater net).1.transport.asyncioTransport =
        t.transport.asyncioTransport ∧
      (t.switch negotiated inflater net).1.deflater =
        (negotiated.map (Deflater.compressHalf Z)).or t.deflater := by
  have hanswered : (t.transport.answered net.response).closing = t.transport.closing ∧
      (t.transport.answered net.response).asyncioTransport = t.transport.asyncioTransport := by
    unfold AsyncTransport.answered
    split <;> exact ⟨rfl, rfl⟩
  unfold switch
  dsimp only
  split
  · have hfinished := finishConnect_finished (t.transport.answered net.response)
      (negotiated.or (if t.deflater.isSome then inflater else none)) net.keys
    exact ⟨hfinished.closing.trans hanswered.1, hfinished.asyncioTransport.trans hanswered.2, rfl⟩
  · exact ⟨hanswered.1, hanswered.2, rfl⟩

theorem finishConnect_connected {Z : Zlib} {v : AsyncTransport Z} {deflater : Option (Deflater Z)}
    {keys : Nat → MaskKey} (h : (v.finishConnect deflater keys).2 = none) :
    (v.finishConnect deflater keys).1.connected = true := by
  unfold AsyncTransport.finishConnect at h ⊢
  dsimp only at h ⊢
  generalize (if (leftover v.conn.proto.handshakeBuffer).isEmpty then
    (v.switchToFrames deflater, none)
    else dataReceived (v.switchToFrames deflater) (leftover v.conn.proto.handshakeBuffer) keys) = r
    at h ⊢
  obtain ⟨c, _ | e⟩ := r
  · rfl
  · cases h

theorem switch_connected {negotiated inflater : Option (Deflater Z.toZlib)} {net : Network}
    (h : (t.switch negotiated inflater net).2 = .connected) :
    (t.switch negotiated inflater net).1.transport.connected = true := by
  unfold switch at h ⊢
  dsimp only at h ⊢
  cases hprotocol : t.transport.protocol with
  | false => simp [hprotocol] at h
  | true =>
    rw [hprotocol, if_pos rfl] at h
    rw [if_pos rfl]
    cases hend : ((t.transport.answered net.response).finishConnect
        (negotiated.or (if t.deflater.isSome then inflater else none)) net.keys).2 with
    | none => exact finishConnect_connected hend
    | some e => simp [hend] at h

/-! ## Told apart -/

section ToldApart
variable {s u : Sender Z}

theorem Fresh.free (h : t.Fresh) (task : Nat) : t.Free task := by
  refine ⟨?_, by simp [h.suspended]⟩
  rintro (hmem | hmem)
  · simp [h.vacant.parked] at hmem
  · simp [h.vacant.woken] at hmem

/-- A call of `close`. -/
def closes (Z : ZlibModule) : Action Z := .close 0 1000 "" ⟨0, 0, 0, 0⟩

/-- With `_closing` set, `close` returns at once. -/
theorem act_closes_set (h : s.Fresh) (hclosing : s.transport.closing = true) :
    (s.act (closes Z)).map Prod.snd = some (.close false, s.view) := by
  have hclose : s.transport.close 0 1000 "" ⟨0, 0, 0, 0⟩ = (s.transport, false) := by
    unfold AsyncTransport.close
    simp [hclosing]
  simp only [closes, act, step, if_pos (h.free 0), outcome, hclose, adopt, h.protocol]
  rfl

/-- With `_closing` unset, it waits, unless there is no connection. -/
theorem act_closes_unset (h : u.Fresh) (hasyncio : u.transport.asyncioTransport = true)
    (hclosing : u.transport.closing = false) {v : View}
    (hclose : (u.act (closes Z)).map Prod.snd = some (.close false, v)) :
    v.connected = false := by
  simp only [closes, act, step, if_pos (h.free 0), outcome, Option.map_some,
    Option.some.injEq, Prod.mk.injEq, CallOutcome.close.injEq] at hclose
  obtain ⟨hreturns, rfl⟩ := hclose
  cases hc : u.transport.connected with
  | false =>
    unfold AsyncTransport.close
    simp [hc, view, adopt]
  | true =>
    obtain ⟨parser, hp⟩ := Option.isSome_iff_exists.mp h.parser
    unfold AsyncTransport.close at hreturns
    simp [hc, hclosing, hp, hasyncio, h.protocol] at hreturns

/-- **The closing flag** shows. -/
theorem closing_of_alike (hs : s.Fresh) (hu : u.Fresh)
    (hasyncio : u.transport.asyncioTransport = true) (hconnected : s.transport.connected = true)
    (hunset : u.transport.closing = false)
    (h : (s.act (closes Z)).map Prod.snd = (u.act (closes Z)).map Prod.snd) :
    s.transport.closing = false := by
  by_contra hset
  have hclosing : s.transport.closing = true := eq_true_of_ne_false hset
  have hout := h.symm.trans (act_closes_set hs hclosing)
  have hgone : s.view.connected = false := act_closes_unset hu hasyncio hunset hout
  exact Bool.false_ne_true (hgone.symm.trans hconnected)

/-- RSV1 of what is sent. -/
theorem pack_rsv1 (t : Sender Z) (payload : Bytes) :
    (t.pack true false payload).2.2.1 = true ↔ t.Compresses true payload := by
  unfold pack Compresses
  cases hd : t.deflater with
  | none => simp
  | some deflater =>
    by_cases hdue : t.compressionThreshold ≤ payload.length <;> simp [hdue]

/-- What a call of `send` writes has RSV1 set exactly when it is compressed. -/
theorem send_written (h : t.Fresh) (hasyncio : t.transport.asyncioTransport = true)
    (hconnected : t.transport.connected = true) (data : Bytes) (key : MaskKey) :
    (t.send 0 (.bytes data) none key).2 = .returned ∧
      ∃ frameData, (t.send 0 (.bytes data) none key).1.transport.conn.sock.written =
          t.transport.conn.sock.written ++ [frameData] ∧
        (((frameData.getD 0 0 &&& 0x40) != 0) = true ↔ t.Compresses true data) := by
  obtain ⟨parser, hp⟩ := Option.isSome_iff_exists.mp h.parser
  have hopen : ¬ t.Blocked := fun hb => by simpa [h.canWrite] using hb.2
  have hout := pack_prepared t 0 key true (Data.frame (.bytes data) none) parser
  unfold send transmit
  simp only [hconnected, hp, hasyncio, if_neg hopen]
  refine ⟨trivial, _, congrArg (· ++ [_]) (congrArg (·.conn.sock.written) hout.transport), ?_⟩
  have hbits := (firstHeaderByte_bits .binary true (t.pack true false data).2.2.1).2.1
  rw [← pack_rsv1]
  exact Eq.to_iff (congrArg (· = true) hbits)

/-- A call of `send` with as many bytes as are compressed. -/
def sendsLong (Z : ZlibModule) (compressionThreshold : Int) : Action Z :=
  .send 0 (.bytes (List.replicate compressionThreshold.toNat 0)) none ⟨0, 0, 0, 0⟩

/-- **A deflater** shows. -/
theorem deflater_of_alike (hs : s.Fresh) (hu : u.Fresh)
    (hasyncio : s.transport.asyncioTransport = true)
    (hasyncio' : u.transport.asyncioTransport = true) (hconnected : s.transport.connected = true)
    (h : (s.act (sendsLong Z s.compressionThreshold)).map Prod.snd =
      (u.act (sendsLong Z s.compressionThreshold)).map Prod.snd)
    (hdeflater : s.deflater.isSome = true) : u.deflater.isSome = true := by
  simp only [sendsLong, act, step, if_pos (hs.free 0), if_pos (hu.free 0), outcome,
    Option.map_some, Option.some.injEq, Prod.mk.injEq, CallOutcome.send.injEq] at h
  obtain ⟨hstop, hview⟩ := h
  obtain ⟨hreturned, frameData, hwritten, hrsv1⟩ := send_written hs hasyncio hconnected
    (List.replicate s.compressionThreshold.toNat 0) ⟨0, 0, 0, 0⟩
  cases hconnected' : u.transport.connected with
  | false =>
    rw [hreturned] at hstop
    unfold send transmit at hstop
    simp [hconnected'] at hstop
  | true =>
    obtain ⟨-, frameData', hwritten', hrsv1'⟩ := send_written hu hasyncio' hconnected'
      (List.replicate s.compressionThreshold.toNat 0) ⟨0, 0, 0, 0⟩
    have hsame : frameData = frameData' := by
      have hlist : _ ++ [frameData] = _ ++ [frameData'] :=
        hwritten.symm.trans ((congrArg View.written hview).trans hwritten')
      exact (List.append_singleton_inj.mp hlist).2
    have hlong : s.Compresses true (List.replicate s.compressionThreshold.toNat 0) := by
      refine ⟨hdeflater, rfl, ?_⟩
      rw [List.length_replicate]
      exact Int.self_le_toNat _
    rw [hsame] at hrsv1
    exact (hrsv1'.mp (hrsv1.mpr hlong)).1

end ToldApart
end Sender

/-! ## Silent connections -/

namespace Object
variable {env : Surroundings} {t : Sender Z} {shared es ds : List (Earlier Z)}
  {p : Option (Pending Z)}

/-- Two objects that differ in earlier connections whose calls are silent. -/
structure Same (o n : Object Z) : Prop where
  sender : o.sender = n.sender
  pending : o.pending = n.pending
  earlier : ∃ shared ds es, o.earlier = shared ++ ds ∧ n.earlier = shared ++ es ∧
    (∀ e ∈ ds, e.Silent) ∧ ∀ e ∈ es, e.Silent

/-- Only what happens on an earlier connection looks at them. -/
theorem move_append (es : List (Earlier Z)) {i : ObjectInput Z} (hi : ∀ k a, i ≠ .earlier k a) :
    move env ⟨t, es, p⟩ i = (move env ⟨t, [], p⟩ i).map (fun r =>
      ({ r.1 with earlier := r.1.earlier ++ es }, r.2)) := by
  cases i with
  | connect call =>
    simp only [move]
    split
    · rfl
    · split
      · rfl
      · split <;> rfl
  | dialled =>
    simp only [move]
    split
    · split
      · split <;> rfl
      · rfl
    · rfl
  | answered =>
    simp only [move]
    split <;> rfl
  | act a =>
    have hsame : Barred ⟨t, es, p⟩ a ↔ Barred ⟨t, [], p⟩ a := Iff.rfl
    simp only [move]
    by_cases hbarred : Barred ⟨t, [], p⟩ a
    · rw [if_pos (hsame.mpr hbarred), if_pos hbarred]
      rfl
    · rw [if_neg (fun h => hbarred (hsame.mp h)), if_neg hbarred, Option.map_map]
      rfl
  | earlier k a => exact absurd rfl (hi k a)

/-- On a silent connection nothing happens that shows. -/
theorem move_silent (env : Surroundings) (t : Sender Z) (p : Option (Pending Z))
    (hds : ∀ e ∈ ds, e.Silent) {k : Nat} (hk : shared.length ≤ k) (a : Action Z) :
    ∃ ds', move env ⟨t, shared ++ ds, p⟩ (.earlier k a) =
        some (⟨t, shared ++ ds', p⟩, .quiet, t.view) ∧ ∀ e ∈ ds', e.Silent := by
  simp only [move, List.getElem?_append_right hk]
  cases he : ds[k - shared.length]? with
  | none => exact ⟨ds, rfl, hds⟩
  | some e =>
    have hsilent := hds e (List.mem_of_getElem? he)
    cases hr : t.onEarlier e a with
    | none => exact ⟨ds, by simp [hr], hds⟩
    | some r =>
      obtain ⟨hsame, hstill, hquiet⟩ := hsilent.onEarlier hr
      refine ⟨ds.set (k - shared.length) r.2.1, ?_, ?_⟩
      · simp only [Option.bind_some, hr, List.set_append_right _ _ hk, hsame, hquiet]
      · intro e' he'
        rcases List.mem_or_eq_of_mem_set he' with hold | rfl
        · exact hds e' hold
        · exact hstill

/-- **Nothing shows** of silent connections, whatever happens next. -/
theorem same_matches : Matches (move env) (Same (Z := Z)) := by
  rintro ⟨t, eo, p⟩ ⟨t', en, p'⟩ i ⟨hsender, hpending, shared, ds, es, ho, hn, hds, hes⟩
  dsimp only at hsender hpending ho hn
  subst hsender hpending ho hn
  by_cases hi : ∀ k a, i ≠ .earlier k a
  · rw [move_append (shared ++ ds) hi, move_append (shared ++ es) hi]
    cases move env ⟨t, [], p⟩ i with
    | none => exact .inl ⟨rfl, rfl⟩
    | some r =>
      refine .inr ⟨_, _, r.2, rfl, rfl, rfl, rfl, r.1.earlier ++ shared, ds, es, ?_, ?_, hds, hes⟩
      · exact (List.append_assoc ..).symm
      · exact (List.append_assoc ..).symm
  · obtain ⟨k, a, rfl⟩ : ∃ k a, i = .earlier k a := by
      by_contra hnone
      exact hi (fun k a h => hnone ⟨k, a, h⟩)
    by_cases hk : k < shared.length
    · simp only [move, List.getElem?_append_left hk, List.set_append_left _ _ hk]
      cases (shared[k]?).bind (fun e => t.onEarlier e a) with
      | none => exact .inr ⟨_, _, _, rfl, rfl, rfl, rfl, shared, ds, es, rfl, rfl, hds, hes⟩
      | some r =>
        exact .inr ⟨_, _, _, rfl, rfl, rfl, rfl, shared.set k r.2.1, ds, es, rfl, rfl, hds, hes⟩
    · obtain ⟨ds', ho, hds'⟩ := move_silent env t p hds (not_lt.mp hk) a
      obtain ⟨es', hn, hes'⟩ := move_silent env t p hes (not_lt.mp hk) a
      exact .inr ⟨_, _, _, ho, hn, rfl, rfl, shared, ds', es', rfl, rfl, hds', hes'⟩

/-- Objects with no `connect` under way show what their transports show. -/
theorem act_of_alike {s u : Sender Z} (h : Alike (move env) ⟨s, es, none⟩ ⟨u, ds, none⟩)
    {a : Action Z} (hcallback : ∀ c : Conn Z.toZlib, c.callback a = none) :
    (s.act a).map Prod.snd = (u.act a).map Prod.snd := by
  have hshows : ∀ (t : Sender Z) (es : List (Earlier Z)),
      (move env ⟨t, es, none⟩ (.act a)).map Prod.snd = (t.act a).map Prod.snd := by
    intro t es
    simp [move, Barred, hcallback, Option.map_map, Function.comp_def]
  rw [← hshows s es, ← hshows u ds]
  exact h.output (.act a)

/-- A new object connects. -/
theorem exec_new {call : ConnectCall} {u : WebSocketURI} (hreach : call.reach env = .ok u)
    (config : TransportConfig) (compressionThreshold : Int) :
    exec (next env) (Object.new Z config compressionThreshold)
        [.connect call, .dialled, .answered] =
      some { sender := (((Sender.new Z config compressionThreshold).begin
               (handshake env.config call.key u).buildRequest).answered env call u none).1
             earlier := [(Sender.new Z config compressionThreshold).leave]
             pending := none } := by
  unfold ConnectCall.reach at hreach
  split at hreach
  · cases hreach
  · rename_i u' hu
    cases hdial : call.dial u' with
    | error e => simp [hdial, Except.map] at hreach
    | ok x =>
      simp only [hdial, Except.map, Except.ok.injEq] at hreach
      subst hreach
      simp [exec, next, move, Object.new, Sender.new, AsyncTransport.new, hu, hdial, Sender.awake,
        WSProtocol.new, Event.new, Event.set, Awake.over, Sender.inflater]

/-- **When a transport that is used again is as good as new.** -/
theorem alike_new_iff {config : TransportConfig} {compressionThreshold : Int} {o o' : Object Z}
    {call : ConnectCall} {v : View} (h : o.Sound env config compressionThreshold)
    (hcalling : o.calling = some call)
    (hs : o.move env .answered = some (o', .connect .connected, v)) :
    ∃ n, exec (next env) (Object.new Z config compressionThreshold)
        [.connect call, .dialled, .answered] = some n ∧
      (Alike (move env) o' n ↔ o.sender.transport.closing = false ∧
        (o.sender.deflater.isSome = true → Sender.Negotiates env Z.toZlib call)) := by
  obtain ⟨u, inflater, hpending⟩ : ∃ u inflater, o.pending = some (.shaking call u inflater) := by
    simp only [move] at hs
    split at hs
    · rename_i call' u inflater hpending
      unfold calling at hcalling
      rw [hpending] at hcalling
      obtain rfl := Option.some.inj hcalling
      exact ⟨u, inflater, hpending⟩
    · cases hs
  obtain ⟨hgone, hreach, hbegan⟩ := h.pending _ hpending
  have hnew := Sender.begin_began (Sender.new Z config compressionThreshold)
    (handshake env.config call.key u).buildRequest
  refine ⟨_, exec_new hreach config compressionThreshold, ?_⟩
  simp only [move, hpending, Option.some.injEq, Prod.mk.injEq, CallOutcome.connect.injEq] at hs
  obtain ⟨rfl, hend, -⟩ := hs
  obtain ⟨hprotocol, negotiated, hp, hswitch⟩ := Sender.answered_connected hend
  have hnegotiates : Sender.Negotiates env Z.toZlib call ↔ negotiated.isSome = true :=
    exists_ok_some_iff hreach hp
  rw [Sender.answered_ok hp, Sender.answered_ok hp, hnegotiates]
  obtain ⟨hclosing, hasyncio, hdeflater⟩ :=
    Sender.switch_same o.sender negotiated inflater call.net
  obtain ⟨hclosing', hasyncio', hdeflater'⟩ :=
    Sender.switch_same ((Sender.new Z config compressionThreshold).begin
      (handshake env.config call.key u).buildRequest) negotiated none call.net
  constructor
  · intro halike
    have hfresh := Sender.switch_fresh hbegan hprotocol negotiated inflater call.net
    have hfresh' := Sender.switch_fresh hnew rfl negotiated none call.net
    have hconnected := Sender.switch_connected hswitch
    have hunset : o.sender.transport.closing = false := by
      rw [← hclosing]
      exact Sender.closing_of_alike hfresh hfresh' hasyncio' hconnected hclosing'
        (act_of_alike halike (fun _ => rfl))
    refine ⟨hunset, fun hleft => ?_⟩
    have hthere := (hbegan.untouched hunset).2.2.1
    have hsome := Sender.deflater_of_alike hfresh hfresh' (hasyncio.trans hthere) hasyncio'
      hconnected (act_of_alike halike (fun _ => rfl)) (by simp [hdeflater, hleft])
    rw [hdeflater'] at hsome
    simpa [Sender.begin, Sender.new] using hsome
  · rintro ⟨hunset, hleft⟩
    have hsame := Sender.switch_eq h.own hbegan hunset hgone hleft inflater call.net
    apply alike_of_matches same_matches
    refine ⟨congrArg Prod.fst hsame, rfl, [], o.earlier, _, rfl, rfl, h.silent hunset, ?_⟩
    intro e he
    rw [List.mem_singleton.mp he]
    exact Earlier.silent_of_vacant rfl ⟨rfl, rfl, rfl, rfl⟩

end Object

end JetSocket.Transport
