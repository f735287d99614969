import JetSocket.Transport.Sending
import JetSocket.Transport.Delivery

/- What is written behind a Close frame.

   A Close frame is written by `close` and, as an echo, by `recv`; both set `_closing` and
   do nothing where it is set. `send` and `send_frame` look at `_connected` only, which stays
   set through the close handshake, and a call that waited for `_can_write` looks at nothing;
   `send_frame` also takes a Close frame.

   What is proved:
     1. `Advanced.emits` — outside the calls of `send` and `send_frame`, one step writes Ping and
        Pong frames, or the one Close frame, or drops the transport.
     2. `nothing_follows_iff` — in a run in which no Close frame is given to `send_frame`,
        nothing but Ping and Pong frames follows a Close frame exactly when every data frame
        is written with `_closing` unset. -/
namespace JetSocket.Transport
open JetSocket.Core Transition AsyncTransport

/-! ## Frames on the wire -/

def IsClose (data : Bytes) : Prop := wireOpcode data = Opcode.close.value

/-- A TEXT, BINARY or CONTINUATION frame. -/
def IsData (data : Bytes) : Prop :=
  wireOpcode data = Opcode.text.value ∨ wireOpcode data = Opcode.binary.value ∨
    wireOpcode data = Opcode.continuation.value

instance (data : Bytes) : Decidable (IsClose data) := inferInstanceAs (Decidable (_ = _))

instance (data : Bytes) : Decidable (IsData data) := inferInstanceAs (Decidable (_ ∨ _ ∨ _))

/-- Behind a Close frame there is no other one and no data frame. -/
def NothingFollows (frames : List Bytes) : Prop :=
  frames.Pairwise (fun a b => IsClose a → ¬ IsClose b ∧ ¬ IsData b)

instance (frames : List Bytes) : Decidable (NothingFollows frames) :=
  inferInstanceAs (Decidable (List.Pairwise _ _))

/-- There is at most one Close frame. -/
theorem NothingFollows.once {frames : List Bytes} (h : NothingFollows frames) :
    (frames.filter (fun w => IsClose w)).length ≤ 1 := by
  induction frames with
  | nil => exact Nat.zero_le 1
  | cons w frames ih =>
    obtain ⟨hbehind, hrest⟩ := List.pairwise_cons.mp h
    rw [List.filter_cons]
    by_cases hw : IsClose w
    · have hnone : frames.filter (fun w => IsClose w) = [] := by
        rw [List.filter_eq_nil_iff]
        intro f hf
        simpa using (hbehind f hf hw).1
      rw [if_pos (decide_eq_true hw), hnone]
      exact le_rfl
    · rw [if_neg (by simpa using hw)]
      exact ih hrest

/-- One more frame. -/
theorem nothingFollows_append_iff {frames : List Bytes} {w : Bytes} (h : NothingFollows frames) :
    NothingFollows (frames ++ [w]) ↔ (∃ f ∈ frames, IsClose f) → ¬ IsClose w ∧ ¬ IsData w := by
  unfold NothingFollows at h ⊢
  rw [List.pairwise_append]
  constructor
  · rintro ⟨-, -, hlast⟩ ⟨f, hf, hclose⟩
    exact hlast f hf w (List.mem_singleton.mpr rfl) hclose
  · intro hlast
    refine ⟨h, List.pairwise_singleton _ _, fun f hf b hb hclose => ?_⟩
    obtain rfl := List.mem_singleton.mp hb
    exact hlast ⟨f, hf, hclose⟩

/-- Ping and Pong frames may follow. -/
theorem NothingFollows.append {frames ws : List Bytes} (h : NothingFollows frames)
    (hws : ∀ w ∈ ws, ¬ IsClose w ∧ ¬ IsData w) : NothingFollows (frames ++ ws) := by
  refine List.pairwise_append.mpr ⟨h, ?_, fun _ _ w hw _ => hws w hw⟩
  exact List.Pairwise.imp_of_mem (fun _ hw _ _ => hws _ hw)
    (List.pairwise_of_forall (R := fun _ _ => True) (fun _ _ => trivial))

theorem isClose_of_opcode {data : Bytes} {opcode : Opcode} (h : wireOpcode data = opcode.value) :
    IsClose data ↔ opcode = .close := by
  unfold IsClose
  rw [h]
  cases opcode <;> simp [Opcode.value]

theorem isData_of_opcode {data : Bytes} {opcode : Opcode} (h : wireOpcode data = opcode.value) :
    IsData data ↔ opcode.isControl = false := by
  unfold IsData
  rw [h]
  cases opcode <;> decide

/-- A Ping or Pong frame. -/
theorem control_of_opcode {data : Bytes} {opcode : Opcode} (h : wireOpcode data = opcode.value)
    (hcontrol : opcode.isControl = true) (hclose : opcode ≠ .close) :
    ¬ IsClose data ∧ ¬ IsData data := by
  rw [isClose_of_opcode h, isData_of_opcode h, hcontrol]
  exact ⟨hclose, Bool.false_ne_true ∘ Eq.symm⟩

/-! ## What one step writes -/

section Writes
variable {Z : Zlib}

/-- Nothing is written but PONGs. -/
def Pongs (c c' : Conn Z) : Prop :=
  ∃ ws, c'.sock.written = c.sock.written ++ ws ∧ ∀ w ∈ ws, wireOpcode w = Opcode.pong.value

theorem Pongs.of_eq {c c' : Conn Z} (h : c'.sock.written = c.sock.written) : Pongs c c' :=
  ⟨[], by rw [h, List.append_nil], fun _ hw => absurd hw List.not_mem_nil⟩

theorem Pongs.trans {a b c : Conn Z} (h : Pongs a b) (h' : Pongs b c) : Pongs a c := by
  obtain ⟨ws, hw, hpong⟩ := h
  obtain ⟨ws', hw', hpong'⟩ := h'
  refine ⟨ws ++ ws', ?_, fun w hmem => ?_⟩
  · rw [hw', hw, List.append_assoc]
  · exact (List.mem_append.mp hmem).elim (hpong w) (hpong' w)

theorem Pongs.handled {c c' : Conn Z} {key : MaskKey} {f : Frame} (h : Handled c key f c') :
    Pongs c c' := by
  cases h with
  | answered =>
    refine ⟨[_], rfl, fun w hw => ?_⟩
    rw [List.mem_singleton.mp hw]
    exact wireOpcode_encodeFrame ..
  | ignored | queued | inflated => exact .of_eq rfl

theorem dataReceived_pongs (c : Conn Z) (data : Bytes) (keys : Nat → MaskKey) :
    Pongs c (dataReceived c data keys).1 :=
  dataReceived_keeps (R := Pongs) (fun h _ => .of_eq h) .trans .handled c data keys

/-- What a step outside `send` and `send_frame` does: it writes Ping and Pong frames; or a
Close frame, where `_closing` was unset and is now set; or it drops the transport. -/
inductive Emitted (v v' : AsyncTransport Z) : Prop where
  | controls {ws : List Bytes} (written : v'.conn.sock.written = v.conn.sock.written ++ ws)
      (control : ∀ w ∈ ws, ¬ IsClose w ∧ ¬ IsData w) (closing : v'.closing = v.closing)
      (transport : v'.asyncioTransport = v.asyncioTransport)
  | closes {w : Bytes} (written : v'.conn.sock.written = v.conn.sock.written ++ [w])
      (close : IsClose w) (unset : v.closing = false) (closing : v'.closing = true)
  | drops (written : v'.conn.sock.written = v.conn.sock.written)
      (closing : v.closing = true → v'.closing = true) (transport : v'.asyncioTransport = false)

variable {v v' : AsyncTransport Z}

/-- Nothing is written. -/
theorem Emitted.quiet (written : v'.conn.sock.written = v.conn.sock.written)
    (closing : v'.closing = v.closing) (transport : v'.asyncioTransport = v.asyncioTransport) :
    Emitted v v' :=
  .controls (written.trans (List.append_nil _).symm) (fun _ h => by cases h) closing transport

theorem Emitted.control {w : Bytes}
    (written : v'.conn.sock.written = v.conn.sock.written ++ [w])
    (control : ¬ IsClose w ∧ ¬ IsData w) (closing : v'.closing = v.closing)
    (transport : v'.asyncioTransport = v.asyncioTransport) : Emitted v v' := by
  refine .controls written (fun w' hw => ?_) closing transport
  rwa [List.mem_singleton.mp hw]

theorem Emitted.pongs {ws : List Bytes}
    (written : v'.conn.sock.written = v.conn.sock.written ++ ws)
    (pongs : ∀ w ∈ ws, wireOpcode w = Opcode.pong.value) (closing : v'.closing = v.closing)
    (transport : v'.asyncioTransport = v.asyncioTransport) : Emitted v v' :=
  .controls written (fun w hw => control_of_opcode (pongs w hw) rfl (by decide)) closing transport

/-- Only the socket and two flags are looked at. -/
theorem Emitted.from {u : AsyncTransport Z} (h : Emitted u v') (hconn : u.conn.sock = v.conn.sock)
    (hclosing : u.closing = v.closing) (htransport : u.asyncioTransport = v.asyncioTransport) :
    Emitted v v' := by
  cases h with
  | controls written control closing transport =>
    rw [hconn] at written
    exact .controls written control (closing.trans hclosing) (transport.trans htransport)
  | closes written close unset closing =>
    rw [hconn] at written
    exact .closes written close (hclosing.symm.trans unset) closing
  | drops written closing transport =>
    rw [hconn] at written
    exact .drops written (fun h => closing (hclosing.trans h)) transport

theorem recvClose_emits (v : AsyncTransport Z) (key : MaskKey) (f : Frame) :
    Emitted v (v.recvClose key f) := by
  unfold recvClose
  cases hc : v.closing with
  | true => exact .drops (closeTransport_written _) (fun _ => rfl) rfl
  | false =>
    -- the echo needs the parser and the transport
    cases hp : v.parser with
    | none => exact .drops (closeTransport_written _) (fun _ => rfl) rfl
    | some parser =>
      cases ha : v.asyncioTransport with
      | false => exact .drops (closeTransport_written _) (fun _ => rfl) rfl
      | true => exact .closes (closeTransport_written _) (wireOpcode_encodeFrame ..) hc rfl

theorem recvLoop_emits (v : AsyncTransport Z) (task : Nat) (key : MaskKey) (fs : List Frame) :
    Emitted v (v.recvLoop task key fs).1 := by
  rw [recvLoop_eq]
  split
  · exact .quiet rfl rfl rfl
  · split
    · exact (recvClose_emits (v.setFrames _) key _).from rfl rfl rfl
    · exact .quiet rfl rfl rfl

theorem recvRun_emits {i : Input Z} {stop : RecvStop} (h : recvRun v i = some (v', stop)) :
    Emitted v v' := by
  cases recvRun_cases h with
  | refused => exact .quiet rfl rfl rfl
  | looped ready task key =>
    exact (recvLoop_emits (v.withReady ready) task key v.conn.proto.frames).from rfl rfl rfl
  | lost ready => exact .quiet rfl rfl rfl
  | timedOut ready => exact .quiet rfl rfl rfl

theorem finishConnect_emits (v : AsyncTransport Z) (deflater : Option (Deflater Z))
    (keys : Nat → MaskKey) : Emitted v (v.finishConnect deflater keys).1 := by
  have hfinished := finishConnect_finished v deflater keys
  have hconn := finishConnect_conn v deflater keys
  split at hconn
  · exact .quiet (by rw [hconn]; rfl) hfinished.closing hfinished.asyncioTransport
  · obtain ⟨ws, hw, hpong⟩ := dataReceived_pongs (v.switchToFrames deflater)
      (leftover v.conn.proto.handshakeBuffer) keys
    exact .pongs (by rw [hconn]; exact hw) hpong hfinished.closing hfinished.asyncioTransport

/-- The receive side and the end of `connect`. -/
theorem receive_emits {i : Input Z} (h : Transport.step v i = some v') : Emitted v v' := by
  cases i with
  | dataReceived data keys =>
    cases h
    obtain ⟨ws, hw, hpong⟩ := dataReceived_pongs v.conn data keys
    exact .pongs hw hpong rfl rfl
  | connectionLost exc =>
    cases h
    exact .quiet rfl rfl rfl
  | finishConnect deflater keys =>
    simp only [Transport.step] at h
    split at h
    · cases h
      exact finishConnect_emits v deflater keys
    · cases h
  | recv | resume | timeout =>
    simp only [Transport.step] at h
    obtain ⟨r, hr, rfl⟩ := Option.map_eq_some_iff.mp h
    exact recvRun_emits hr

theorem ping_emits {payload : Bytes} {key : MaskKey} (h : v.ping payload key = .ok v') :
    Emitted v v' := by
  unfold ping at h
  split at h
  · cases h
  · split at h
    · cases h
      have hping : Opcode.ping ≠ .close := by decide
      exact .control rfl (control_of_opcode (wireOpcode_encodeFrame ..) rfl hping) rfl rfl
    · cases h

theorem close_emits (v : AsyncTransport Z) (task code : Nat) (reason : String) (key : MaskKey) :
    Emitted v (v.close task code reason key).1 := by
  unfold close
  split
  · exact .quiet rfl rfl rfl
  · rename_i hopen
    have hunset : v.closing = false := by
      cases hc : v.closing with
      | false => rfl
      | true => simp [hc] at hopen
    cases hp : v.parser with
    | none => exact .drops (closeTransport_written _) (fun _ => rfl) rfl
    | some parser =>
      cases ha : v.asyncioTransport with
      | false => exact .drops (closeTransport_written _) (fun _ => rfl) rfl
      | true =>
        dsimp only
        split
        · split
          · exact .closes rfl (wireOpcode_encodeFrame ..) hunset rfl
          · exact .closes (closeTransport_written _) (wireOpcode_encodeFrame ..) hunset rfl
        · -- the code does not fit in two bytes: nothing is written
          exact .drops (closeTransport_written _) (fun _ => rfl) rfl

theorem closeResume_emits (v : AsyncTransport Z) (task : Nat) :
    Emitted v (v.closeResume task).1 := by
  unfold closeResume
  dsimp only
  split
  · exact .drops (closeTransport_written _) id rfl
  · exact .quiet rfl rfl rfl

theorem closeTimeout_emits (v : AsyncTransport Z) (task : Nat) : Emitted v (v.closeTimeout task) :=
  .drops (closeTransport_written _) id rfl

/-! ## The closing flag -/

/-- The frames written behind the handshake request. -/
def framesWritten (v : AsyncTransport Z) : List Bytes := v.conn.sock.written.tail

/-- `_closing` against the Close frames written: unset, there is none; set, there is one, unless
the transport is gone. -/
structure Tracked (v : AsyncTransport Z) : Prop where
  request : v.conn.sock.written ≠ []
  opened : v.closing = false → ∀ w ∈ framesWritten v, ¬ IsClose w
  closed : v.closing = true → v.asyncioTransport = true → ∃ w ∈ framesWritten v, IsClose w

theorem framesWritten_append {ws : List Bytes} (hv : v.conn.sock.written ≠ [])
    (written : v'.conn.sock.written = v.conn.sock.written ++ ws) :
    framesWritten v' = framesWritten v ++ ws := by
  unfold framesWritten
  rw [written, List.tail_append_of_ne_nil hv]

/-- One more frame that is no Close frame. -/
theorem Tracked.append (h : Tracked v) (ws : List Bytes) (hws : ∀ w ∈ ws, ¬ IsClose w)
    (written : v'.conn.sock.written = v.conn.sock.written ++ ws)
    (closing : v'.closing = v.closing) (transport : v'.asyncioTransport = v.asyncioTransport) :
    Tracked v' := by
  have hframes := framesWritten_append h.request written
  refine ⟨?_, fun hunset w hw => ?_, fun hset ha => ?_⟩
  · rw [written]
    exact List.append_ne_nil_of_left_ne_nil h.request ws
  · rw [hframes] at hw
    exact (List.mem_append.mp hw).elim (h.opened (closing.symm.trans hunset) w) (hws w)
  · obtain ⟨w, hw, hclose⟩ := h.closed (closing.symm.trans hset) (transport.symm.trans ha)
    exact ⟨w, by rw [hframes]; exact List.mem_append_left ws hw, hclose⟩

/-- **Outside the calls** the flag is kept right, and nothing follows a Close frame. -/
theorem Emitted.tracked (h : Emitted v v') (ht : Tracked v) :
    Tracked v' ∧ (NothingFollows (framesWritten v) → NothingFollows (framesWritten v')) := by
  cases h with
  | controls written control closing transport =>
    rw [framesWritten_append ht.request written]
    exact ⟨ht.append _ (fun w hw => (control w hw).1) written closing transport,
      fun hn => hn.append control⟩
  | @closes w written close unset closing =>
    have hframes := framesWritten_append ht.request written
    have hnone := ht.opened unset
    refine ⟨⟨?_, fun h => ?_, fun _ _ => ⟨w, ?_, close⟩⟩, fun hn => ?_⟩
    · rw [written]
      exact List.append_ne_nil_of_left_ne_nil ht.request _
    · rw [closing] at h
      cases h
    · rw [hframes]
      exact List.mem_append_right _ (List.mem_singleton.mpr rfl)
    · rw [hframes, nothingFollows_append_iff hn]
      rintro ⟨f, hf, hclose⟩
      exact absurd hclose (hnone f hf)
  | drops written closing transport =>
    have hframes : framesWritten v' = framesWritten v := congrArg List.tail written
    refine ⟨⟨by rw [written]; exact ht.request, fun hunset => ?_, fun _ ha => ?_⟩, fun hn => ?_⟩
    · have hopen : v.closing = false := by
        cases hc : v.closing with
        | false => rfl
        | true => exact (closing hc).symm.trans hunset
      rw [hframes]
      exact ht.opened hopen
    · rw [transport] at ha
      cases ha
    · rwa [hframes]

/-- **A call writes** a frame that is no Close frame: nothing follows a Close frame exactly when
it is no data frame, or `_closing` is unset. -/
theorem Tracked.write_iff (h : Tracked v) (ha : v.asyncioTransport = true) {w : Bytes}
    (hw : ¬ IsClose w) (hn : NothingFollows (framesWritten v)) :
    NothingFollows (framesWritten v ++ [w]) ↔ (IsData w → v.closing = false) := by
  rw [nothingFollows_append_iff hn]
  constructor
  · intro hlast hdata
    by_contra hset
    exact (hlast (h.closed (eq_true_of_ne_false hset) ha)).2 hdata
  · rintro hopen ⟨f, hf, hclose⟩
    exact ⟨hw, fun hdata => h.opened (hopen hdata) f hf hclose⟩

end Writes

variable {Z : ZlibModule}

/-- A waiting call goes on. -/
def Action.resumes : Action Z → Bool
  | .resumeSend => true
  | _ => false

namespace Sender

/-- A call, or one that goes on, writes a data frame only with `_closing` unset. -/
def WritesOpen (t : Sender Z) (i : Action Z) : Prop :=
  (∀ c ∈ i.call, t.Ready → ¬ t.Blocked → c.2.opcode.isControl = false →
      t.transport.closing = false) ∧
    (i.resumes = true → ∀ out ∈ t.suspended.head?, t.transport.asyncioTransport = true →
      IsData out.frameData → t.transport.closing = false)

instance (t : Sender Z) (i : Action Z) : Decidable (t.WritesOpen i) :=
  inferInstanceAs (Decidable ((∀ c ∈ i.call, _) ∧ (_ → ∀ out ∈ t.suspended.head?, _)))

/-- No Close frame is given to `send_frame`. -/
def SendsNoClose (i : Action Z) : Prop := ∀ c ∈ i.call, c.2.opcode ≠ .close

instance (i : Action Z) : Decidable (SendsNoClose i) :=
  inferInstanceAs (Decidable (∀ c ∈ i.call, _))

/-- **Outside the calls** of `send` and `send_frame`. -/
theorem Advanced.emits {t : Sender Z} {i : Action Z} {v : AsyncTransport Z.toZlib}
    (h : Advanced t i v) : Emitted t.transport v := by
  cases h with
  | received _ hv => exact receive_emits hv
  | connected hv => exact receive_emits hv
  | paused | resumed => exact .quiet rfl rfl rfl
  | pinged hping => exact ping_emits hping
  | refused => exact .quiet rfl rfl rfl
  | closed task code reason key => exact close_emits t.transport task code reason key
  | closeWoken task => exact closeResume_emits t.transport task
  | closeTimedOut task => exact closeTimeout_emits t.transport task

/-- The flag is right, and no Close frame waits. -/
structure Watched (t : Sender Z) : Prop where
  tracked : Tracked t.transport
  waiting : ∀ out ∈ t.suspended, ¬ IsClose out.frameData

variable {t t' : Sender Z}

/-- **A call** of `send` or `send_frame`. -/
theorem Transmitted.watched {compressible : Bool} {frame : Frame}
    (h : Transmitted t compressible frame t') (ht : t.Watched) (hframe : frame.opcode ≠ .close) :
    t'.Watched ∧ (NothingFollows (framesWritten t.transport) →
      (NothingFollows (framesWritten t'.transport) ↔
        (t.Ready → ¬ t.Blocked → frame.opcode.isControl = false →
          t.transport.closing = false))) := by
  cases h with
  | raises hready => exact ⟨ht, fun hn => iff_of_true hn (fun h => absurd h hready)⟩
  | @waits u out hready hblocked hout =>
    have hsame : (u.wait out).transport.conn.sock = t.transport.conn.sock := by
      unfold wait
      rw [hout.transport]
    have hframes : framesWritten (u.wait out).transport = framesWritten t.transport := by
      unfold framesWritten
      rw [hsame]
    refine ⟨⟨?_, fun o ho => ?_⟩, fun hn => ?_⟩
    · refine ht.tracked.append [] (fun _ h => by cases h) ?_ ?_ ?_
      · rw [hsame, List.append_nil]
      · rw [← hout.transport]
        rfl
      · rw [← hout.transport]
        rfl
    · obtain hold | hnew := List.mem_append.mp ho
      · exact ht.waiting o (hout.suspended ▸ hold)
      · rw [List.mem_singleton.mp hnew, isClose_of_opcode hout.opcode]
        exact hframe
    · rw [hframes]
      exact iff_of_true hn (fun _ h => absurd hblocked h)
  | @writes u out hready hblocked hout =>
    have hclose : ¬ IsClose out.frameData := by rwa [isClose_of_opcode hout.opcode]
    have hwritten : (u.write out).transport.conn.sock.written =
        t.transport.conn.sock.written ++ [out.frameData] := by
      rw [← hout.transport]
      rfl
    refine ⟨⟨?_, fun o ho => ht.waiting o (hout.suspended ▸ ho)⟩, fun hn => ?_⟩
    · refine ht.tracked.append _ (fun w hw => ?_) hwritten ?_ ?_
      · rwa [List.mem_singleton.mp hw]
      · rw [← hout.transport]
        rfl
      · rw [← hout.transport]
        rfl
    · rw [framesWritten_append ht.tracked.request hwritten,
        ht.tracked.write_iff hready.2.2 hclose hn, isData_of_opcode hout.opcode]
      exact ⟨fun h _ _ => h, fun h => h hready hblocked⟩

/-- **A call that waited** goes on. -/
theorem step_resumeSend_watched (h : step t .resumeSend = some t') (ht : t.Watched) :
    t'.Watched ∧ (NothingFollows (framesWritten t.transport) →
      (NothingFollows (framesWritten t'.transport) ↔
        ∀ out ∈ t.suspended.head?, t.transport.asyncioTransport = true →
          IsData out.frameData → t.transport.closing = false)) := by
  obtain ⟨out, hout⟩ := step_resumeSend h
  have hclose : ¬ IsClose out.frameData :=
    ht.waiting out (by rw [hout.suspended]; exact List.mem_cons_self)
  have hwaiting : ∀ o ∈ t'.suspended, ¬ IsClose o.frameData := fun o ho =>
    ht.waiting o (by rw [hout.suspended]; exact List.mem_cons_of_mem out ho)
  rw [hout.suspended]
  cases ha : t.transport.asyncioTransport with
  | true =>
    have hwritten := (hout.writes ha).1
    refine ⟨⟨?_, hwaiting⟩, fun hn => ?_⟩
    · refine ht.tracked.append _ (fun w hw => ?_) hwritten hout.closing hout.transport
      rwa [List.mem_singleton.mp hw]
    · rw [framesWritten_append ht.tracked.request hwritten, ht.tracked.write_iff ha hclose hn]
      simp
  | false =>
    have hwritten := (hout.raises ha).1
    refine ⟨⟨?_, hwaiting⟩, fun hn => iff_of_true ?_ (fun _ _ h => by cases h)⟩
    · exact ht.tracked.append [] (fun _ h => by cases h) (hwritten.trans (List.append_nil _).symm)
        hout.closing hout.transport
    · rwa [framesWritten, hwritten]

/-- **One step** that gives no Close frame to `send_frame`. -/
theorem step_watched {i : Action Z} (ht : t.Watched) (hclose : SendsNoClose i)
    (h : step t i = some t') :
    t'.Watched ∧ (NothingFollows (framesWritten t.transport) →
      (NothingFollows (framesWritten t'.transport) ↔ t.WritesOpen i)) := by
  cases hcall : i.call with
  | some c =>
    obtain ⟨hwatched, hfollows⟩ := (step_call hcall h).watched ht (hclose c hcall)
    have hno : i.resumes = false := by
      cases i with
      | send | sendFrame => rfl
      | _ => cases hcall
    refine ⟨hwatched, fun hn => (hfollows hn).trans ?_⟩
    unfold WritesOpen
    rw [hcall, hno]
    constructor
    · intro hopen
      refine ⟨fun c' hc' => ?_, fun h => by cases h⟩
      cases hc'
      exact hopen
    · rintro ⟨hopen, -⟩
      exact hopen c rfl
  | none =>
    unfold WritesOpen
    rw [hcall]
    have hnone : ∀ c ∈ (none : Option (Bool × Frame)), t.Ready → ¬ t.Blocked →
        c.2.opcode.isControl = false → t.transport.closing = false := fun c hc => by cases hc
    cases hresumes : i.resumes with
    | true =>
      obtain rfl : i = .resumeSend := by
        cases i with
        | resumeSend => rfl
        | _ => cases hresumes
      obtain ⟨hwatched, hfollows⟩ := step_resumeSend_watched h ht
      exact ⟨hwatched, fun hn => (hfollows hn).trans ⟨fun hopen => ⟨hnone, fun _ => hopen⟩,
        fun hopen => hopen.2 rfl⟩⟩
    | false =>
      have hresume : i ≠ .resumeSend := by
        rintro rfl
        cases hresumes
      have hother := step_other hcall hresume h
      obtain ⟨htracked, hfollows⟩ := hother.advanced.emits.tracked ht.tracked
      refine ⟨⟨htracked, ?_⟩, fun hn => iff_of_true (hfollows hn) ⟨hnone, fun h => by cases h⟩⟩
      rw [hother.suspended]
      exact ht.waiting

theorem watched_start (config : TransportConfig) (compressionThreshold : Int) (request : Bytes) :
    (Sender.start Z config compressionThreshold request).Watched where
  tracked := ⟨List.cons_ne_nil _ _, fun _ _ hw => (List.not_mem_nil hw).elim, fun h => by cases h⟩
  waiting _ hout := (List.not_mem_nil hout).elim

/-- **Nothing follows a Close frame** in a run in which none is given to `send_frame`, exactly
when every data frame is written with `_closing` unset. -/
theorem nothing_follows_iff (Z : ZlibModule) (config : TransportConfig)
    (compressionThreshold : Int) (request : Bytes) (run : List (Action Z))
    (hclose : ∀ i ∈ run, SendsNoClose i) :
    Always step (fun t => NothingFollows (framesWritten t.transport))
        (Sender.start Z config compressionThreshold request) run ↔
      Meets step WritesOpen (Sender.start Z config compressionThreshold request) run :=
  always_iff_meets_along (I := Watched) (D := fun _ i => SendsNoClose i)
    (fun _ _ _ ht hc h => (step_watched ht hc h).1)
    (fun _ _ _ ht hn hc h => (step_watched ht hc h).2 hn)
    (Meets.of_forall (fun i hi _ => hclose i hi) _)
    (watched_start config compressionThreshold request) List.Pairwise.nil

/-- A connection without compression. -/
def connecting : List (Action smallZlib) :=
  [.receive (.dataReceived headerEnd (fun _ => ⟨0, 0, 0, 0⟩)),
    .finishConnect none (fun _ => ⟨0, 0, 0, 0⟩)]

/-- A call of `send` with the text "Hello". -/
def greets (task : Nat) : Action smallZlib := .send task (.str "Hello") none ⟨0, 0, 0, 0⟩

/-- A message, a close, and the peer's Close frame. -/
theorem nothing_follows_answered :
    Always step (fun t => NothingFollows (framesWritten t.transport))
      (Sender.start smallZlib ⟨.little, 1024, 4096, false⟩ 128 [])
      (connecting ++ [greets 1, .close 2 1000 "" ⟨0, 0, 0, 0⟩,
        .receive (.dataReceived [0x88, 0x00] (fun _ => ⟨0, 0, 0, 0⟩)), .closeResume 2]) :=
  (nothing_follows_iff smallZlib ⟨.little, 1024, 4096, false⟩ 128 [] _ (by decide)).mpr (by decide)

/-- A call of `send` while `close` waits for the peer; one that waited for `_can_write` before
`close` and goes on behind it; and a Close frame given to `send_frame`. -/
theorem close_followed :
    ¬ Always step (fun t => NothingFollows (framesWritten t.transport))
        (Sender.start smallZlib ⟨.little, 1024, 4096, false⟩ 128 [])
        (connecting ++ [.close 1 1000 "" ⟨0, 0, 0, 0⟩, greets 2]) ∧
      ¬ Always step (fun t => NothingFollows (framesWritten t.transport))
        (Sender.start smallZlib ⟨.little, 1024, 4096, false⟩ 128 [])
        (connecting ++ [.pauseWriting, greets 2, .close 1 1000 "" ⟨0, 0, 0, 0⟩, .resumeWriting,
          .resumeSend]) ∧
      ¬ Always step (fun t => NothingFollows (framesWritten t.transport))
        (Sender.start smallZlib ⟨.little, 1024, 4096, false⟩ 128 [])
        (connecting ++ [.sendFrame 2 { opcode := .close, payload := [] } ⟨0, 0, 0, 0⟩,
          .close 1 1000 "" ⟨0, 0, 0, 0⟩]) := by
  decide

end Sender
end JetSocket.Transport
