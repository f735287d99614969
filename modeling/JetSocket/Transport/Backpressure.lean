import JetSocket.Transport.CloseLast

/- The calls held back by `_can_write`.

   `pause_writing` clears the event and only `resume_writing` sets it. A connection ends in
   three ways: `connection_lost`, which sets `_frame_ready` and not `_can_write`; a Close
   frame in `recv`; and `close`. The last two run `_close_transport`, which drops the asyncio
   transport that a call resumed later writes to.

   Correspondence (Python ↔ Lean):
     the calls in `_can_write.wait()`             ↔ `heldBack`
     a call that goes on, what it returns or raises ↔ `resumption`

   What is proved:
     1. `step_gate` — what one step does to the calls held back, to `_connection_lost` and to
        the asyncio transport.
     2. `none_stranded_iff` — in a run no call is held back on a lost connection or a closed
        transport, and every call that goes on behind the closing raises ConnectionError,
        exactly when no call is held back as the connection ends, none comes to wait on a
        lost one, and none goes on without the asyncio transport. -/
namespace JetSocket.Transport
open JetSocket.Core Transition AsyncTransport

namespace AsyncTransport
variable {Z : Zlib}

/-- The frame `recv` takes next, behind the Pong frames, is a Close frame. -/
def CloseNext (t : AsyncTransport Z) : Prop :=
  ∃ f ∈ (t.conn.proto.frames.dropWhile Skipped).head?, f.opcode.value = 0x8

instance (t : AsyncTransport Z) : Decidable t.CloseNext :=
  inferInstanceAs (Decidable (∃ f ∈ (t.conn.proto.frames.dropWhile Skipped).head?, _))

/-- The calls of `send` and `send_frame` that wait for `_can_write`. -/
def heldBack (t : AsyncTransport Z) : List Nat := t.conn.proto.canWrite.parked

/-- From `t` to `t'` the calls held back and `_connection_lost` are left alone, and
`_close_transport` has run exactly when `closes` holds. -/
structure Ended (t t' : AsyncTransport Z) (closes : Prop) : Prop where
  heldBack : t'.heldBack = t.heldBack
  connectionLost : t'.conn.proto.connectionLost = t.conn.proto.connectionLost
  closed : closes → t'.asyncioTransport = false
  kept : ¬ closes → t'.asyncioTransport = t.asyncioTransport

theorem Ended.same {t t' : AsyncTransport Z} {closes : Prop} (hno : ¬ closes)
    (hheld : t'.heldBack = t.heldBack)
    (hlost : t'.conn.proto.connectionLost = t.conn.proto.connectionLost)
    (hsame : t'.asyncioTransport = t.asyncioTransport) : Ended t t' closes :=
  ⟨hheld, hlost, fun h => absurd h hno, fun _ => hsame⟩

/-- `_close_transport` behind changes that leave the gate and the loss flag alone. -/
theorem Ended.closeTransport {t u : AsyncTransport Z} {closes : Prop} (hyes : closes)
    (hheld : u.heldBack = t.heldBack)
    (hlost : u.conn.proto.connectionLost = t.conn.proto.connectionLost) :
    Ended t u.closeTransport closes := by
  refine ⟨?_, ?_, fun _ => rfl, fun h => absurd hyes h⟩
  · rw [AsyncTransport.heldBack, closeTransport_proto]
    exact hheld
  · rw [closeTransport_proto, hlost]

theorem recvLoop_ended (t : AsyncTransport Z) (task : Nat) (key : MaskKey) :
    Ended t (t.recvLoop task key t.conn.proto.frames).1 t.CloseNext := by
  rw [recvLoop_eq]
  cases hd : t.conn.proto.frames.dropWhile Skipped with
  | nil =>
    refine .same ?_ rfl rfl rfl
    rintro ⟨f, hf, -⟩
    rw [hd] at hf
    cases hf
  | cons f rest =>
    dsimp only
    by_cases hop : f.opcode.value = 0x8
    · have hnext : t.CloseNext := ⟨f, by rw [hd]; rfl, hop⟩
      have hproto := recvClose_proto (t.setFrames rest) key f
      rw [if_pos hop]
      refine ⟨by rw [heldBack, hproto]; rfl, by rw [hproto]; rfl, fun _ => ?_,
        fun h => absurd hnext h⟩
      unfold recvClose
      rfl
    · rw [if_neg hop]
      refine .same ?_ rfl rfl rfl
      rintro ⟨g, hg, hclose⟩
      rw [hd] at hg
      cases hg
      exact hop hclose

theorem close_ended (t : AsyncTransport Z) (task code : Nat) (reason : String) (key : MaskKey) :
    Ended t (t.close task code reason key).1
      (t.connected = true ∧ t.closing = false ∧
        ¬ (t.parser.isSome = true ∧ t.asyncioTransport = true ∧ code < 2 ^ 16 ∧
          t.protocol = true)) := by
  unfold close
  split
  · rename_i hdone
    refine .same ?_ rfl rfl rfl
    rintro ⟨hc, hopen, -⟩
    rw [hc, hopen] at hdone
    cases hdone
  · rename_i hopen
    obtain ⟨hc, hunset⟩ : t.connected = true ∧ t.closing = false := by simpa using hopen
    cases hp : t.parser with
    | none => exact .closeTransport ⟨hc, hunset, fun h => by simpa using h.1⟩ rfl rfl
    | some parser =>
      cases ha : t.asyncioTransport with
      | false => exact .closeTransport ⟨hc, hunset, fun h => by simpa using h.2.1⟩ rfl rfl
      | true =>
        dsimp only
        by_cases hcode : code < 2 ^ 16
        · rw [if_pos hcode]
          cases hproto : t.protocol with
          | true =>
            -- the call waits for the peer, and the transport stays till then
            rw [hc]
            refine .same (fun h => h.2.2 ⟨rfl, rfl, hcode, rfl⟩) rfl rfl ?_
            exact ha.symm ▸ rfl
          | false =>
            exact .closeTransport ⟨hc, hunset, fun h => by simpa using h.2.2.2⟩ rfl rfl
        · rw [if_neg hcode]
          exact .closeTransport ⟨hc, hunset, fun h => hcode h.2.2.1⟩ rfl rfl

theorem closeResume_ended (t : AsyncTransport Z) (task : Nat) :
    Ended t (t.closeResume task).1
      ((∃ f ∈ t.conn.proto.frames, f.opcode.value = 0x8) ∨ t.conn.proto.connectionLost = true ∨
        t.connected = false) := by
  have hrest : (!(t.conn.proto.frames.dropWhile (fun f => f.opcode.value != 0x8)).isEmpty) = true ↔
      ∃ f ∈ t.conn.proto.frames, f.opcode.value = 0x8 := by
    simp [List.dropWhile_eq_nil_iff]
  unfold closeResume
  dsimp only
  split
  · rename_i hend
    refine .closeTransport ?_ rfl rfl
    rw [← hrest]
    simpa [or_assoc, setFrames] using hend
  · rename_i hon
    refine .same ?_ rfl rfl rfl
    rw [← hrest]
    simpa [or_assoc, setFrames] using hon

theorem finishConnect_ended (t : AsyncTransport Z) (deflater : Option (Deflater Z))
    (keys : Nat → MaskKey) : Ended t (t.finishConnect deflater keys).1 False := by
  have hfinished := finishConnect_finished t deflater keys
  exact .same id (congrArg Event.parked hfinished.canWrite)
    (finishConnect_grows t deflater keys).1 hfinished.asyncioTransport

/-- The inputs of the receive side that run `_close_transport`. -/
def ReceiveCloses (t : AsyncTransport Z) : Input Z → Prop
  | .recv _ _ => t.connected = true ∧ t.protocol = true ∧ t.CloseNext
  | .resume _ _ => t.CloseNext
  | _ => False

instance (t : AsyncTransport Z) : ∀ i, Decidable (t.ReceiveCloses i)
  | .recv _ _ => inferInstanceAs (Decidable (_ ∧ _ ∧ _))
  | .resume _ _ => inferInstanceAs (Decidable t.CloseNext)
  | .dataReceived _ _ | .connectionLost _ | .finishConnect _ _ | .timeout _ => isFalse id

/-- **The receive side**, the loss aside. -/
theorem receive_ended {t t' : AsyncTransport Z} {i : Input Z} (hi : ∀ exc, i ≠ .connectionLost exc)
    (h : Transport.step t i = some t') : Ended t t' (t.ReceiveCloses i) := by
  cases i with
  | dataReceived data keys =>
    cases h
    exact .same id (congrArg Event.parked (dataReceived_canWrite t.conn data keys))
      (dataReceived_grows t.conn data keys).1 rfl
  | connectionLost exc => exact absurd rfl (hi exc)
  | finishConnect deflater keys =>
    simp only [Transport.step] at h
    split at h
    · cases h
      exact finishConnect_ended t deflater keys
    · cases h
  | recv task key =>
    simp only [Transport.step, recvRun] at h
    split at h
    · cases h
    · cases h
      unfold recv
      split
      · rename_i hnot
        refine .same ?_ rfl rfl rfl
        rintro ⟨hc, hp, -⟩
        rw [hc, hp] at hnot
        cases hnot
      · rename_i hready
        obtain ⟨hc, hp⟩ : t.connected = true ∧ t.protocol = true := by simpa using hready
        have hloop := recvLoop_ended t task key
        exact ⟨hloop.heldBack, hloop.connectionLost, fun h => hloop.closed h.2.2,
          fun h => hloop.kept (fun hnext => h ⟨hc, hp, hnext⟩)⟩
  | resume task key =>
    simp only [Transport.step, recvRun] at h
    split at h
    · cases h
      unfold recvResume
      dsimp only
      split
      · rename_i hlost
        obtain ⟨-, hempty⟩ := Bool.and_eq_true_iff.mp hlost
        refine .same ?_ rfl rfl rfl
        rintro ⟨f, hf, -⟩
        rw [List.isEmpty_iff.mp hempty] at hf
        cases hf
      · have hloop := recvLoop_ended (t.withReady (t.conn.proto.frameReady.resume task)) task key
        exact ⟨hloop.heldBack, hloop.connectionLost, hloop.closed, hloop.kept⟩
    · cases h
  | timeout task =>
    simp only [Transport.step, recvRun] at h
    split at h
    · cases h
      exact .same id rfl rfl rfl
    · cases h

end AsyncTransport

variable {Z : ZlibModule}

/-- `connection_lost` is called. -/
def Action.loses : Action Z → Bool
  | .receive (.connectionLost _) => true
  | _ => false

namespace Sender

/-! ## What a step does to the gate -/

/-- The steps that run `_close_transport`: `recv` at a Close frame, a `close` that sends nothing
or does not wait, and the end of the wait in `close`. -/
def Closes (t : Sender Z) : Action Z → Prop
  | .receive i => t.transport.ReceiveCloses i
  | .close _ code _ _ =>
    t.transport.connected = true ∧ t.transport.closing = false ∧
      ¬ (t.transport.parser.isSome = true ∧ t.transport.asyncioTransport = true ∧
        code < 2 ^ 16 ∧ t.transport.protocol = true)
  | .closeResume _ =>
    (∃ f ∈ t.transport.conn.proto.frames, f.opcode.value = 0x8) ∨
      t.transport.conn.proto.connectionLost = true ∨ t.transport.connected = false
  | .closeTimeout _ => True
  | _ => False

instance (t : Sender Z) : ∀ i, Decidable (t.Closes i)
  | .receive i => inferInstanceAs (Decidable (t.transport.ReceiveCloses i))
  | .close _ _ _ _ => inferInstanceAs (Decidable (_ ∧ _ ∧ ¬ (_ ∧ _ ∧ _ ∧ _)))
  | .closeResume _ =>
    inferInstanceAs (Decidable ((∃ f ∈ t.transport.conn.proto.frames, _) ∨ _ ∨ _))
  | .closeTimeout _ => isTrue trivial
  | .finishConnect _ _ | .send _ _ _ _ | .sendFrame _ _ _ | .resumeSend | .pauseWriting
  | .resumeWriting | .ping _ _ => isFalse id

/-- A call of `send` or `send_frame` that `_can_write` holds back. -/
def ComesToWait (t : Sender Z) (i : Action Z) : Prop :=
  i.call.isSome = true ∧ t.Ready ∧ t.Blocked

instance (t : Sender Z) (i : Action Z) : Decidable (t.ComesToWait i) :=
  inferInstanceAs (Decidable (_ ∧ _ ∧ _))

/-- From `t` to `t'`: who is held back, whether the connection is lost, whether the transport
is closed. -/
structure Gate (t t' : Sender Z) (i : Action Z) : Prop where
  waits : t.ComesToWait i → t'.transport.heldBack ≠ []
  opens : i = .resumeWriting → t'.transport.heldBack = []
  stays : ¬ t.ComesToWait i → i ≠ .resumeWriting → t'.transport.heldBack = t.transport.heldBack
  lost : t'.transport.conn.proto.connectionLost = true ↔
    t.transport.conn.proto.connectionLost = true ∨ i.loses = true
  closed : t'.transport.asyncioTransport = false ↔
    t.transport.asyncioTransport = false ∨ t.Closes i

variable {t t' : Sender Z} {i : Action Z}

/-- A step that is no call, seen from the transport. -/
theorem Gate.of_ended (hcall : i.call = none) (hresume : i ≠ .resumeWriting)
    (hloses : i.loses = false) (h : Ended t.transport t'.transport (t.Closes i)) :
    Gate t t' i where
  waits hwaits := by
    rw [ComesToWait, hcall] at hwaits
    cases hwaits.1
  opens heq := absurd heq hresume
  stays _ _ := h.heldBack
  lost := by rw [h.connectionLost, hloses]; simp
  closed := by
    by_cases hc : t.Closes i
    · exact iff_of_true (h.closed hc) (Or.inr hc)
    · rw [h.kept hc]
      exact ⟨Or.inl, fun hor => hor.resolve_right hc⟩

/-- **A call**: it raises, writes, or is held back. -/
theorem Transmitted.gate {compressible : Bool} {frame : Frame}
    (hcall : i.call = some (compressible, frame)) (h : Transmitted t compressible frame t') :
    Gate t t' i := by
  have hsome : i.call.isSome = true := by rw [hcall]; rfl
  have hno : i.loses = false ∧ ¬ t.Closes i ∧ i ≠ .resumeWriting := by
    cases i with
    | send | sendFrame => exact ⟨rfl, id, nofun⟩
    | _ => cases hcall
  have passed : ¬ t.ComesToWait i →
      t'.transport.conn.proto = t.transport.conn.proto →
      t'.transport.asyncioTransport = t.transport.asyncioTransport → Gate t t' i := by
    intro hpass hproto ha
    refine ⟨fun hw => absurd hw hpass, fun heq => absurd heq hno.2.2, fun _ _ => ?_, ?_, ?_⟩
    · exact congrArg (fun p => p.canWrite.parked) hproto
    · rw [hproto, hno.1]
      simp
    · rw [ha]
      exact ⟨Or.inl, fun hor => hor.resolve_right hno.2.1⟩
  cases h with
  | raises hready => exact passed (fun hw => hready hw.2.1) rfl rfl
  | @waits u out hready hblocked hout =>
    -- the only step by which a call comes to be held back
    have hwaits : t.ComesToWait i := ⟨hsome, hready, hblocked⟩
    have hcanWrite : (u.wait out).transport.conn.proto.canWrite =
        t.transport.conn.proto.canWrite.wait out.task := by
      unfold wait
      rw [hout.transport]
    have hlost : (u.wait out).transport.conn.proto.connectionLost =
        t.transport.conn.proto.connectionLost := by
      unfold wait
      rw [hout.transport]
    have ha : (u.wait out).transport.asyncioTransport = t.transport.asyncioTransport := by
      unfold wait
      rw [hout.transport]
    refine ⟨fun _ => ?_, fun heq => absurd heq hno.2.2, fun hn => absurd hwaits hn, ?_, ?_⟩
    · unfold heldBack
      rw [hcanWrite, Event.wait, dif_pos hblocked.2]
      exact List.append_ne_nil_of_right_ne_nil _ (List.cons_ne_nil _ _)
    · rw [hlost, hno.1]
      simp
    · rw [ha]
      exact ⟨Or.inl, fun hor => hor.resolve_right hno.2.1⟩
  | @writes u out hready hblocked hout =>
    refine passed (fun hw => hblocked hw.2.2) ?_ ?_
    · rw [← hout.transport]
      rfl
    · rw [← hout.transport]
      rfl

/-- A call that goes on. -/
theorem step_resumeSend_gate (h : step t .resumeSend = some t') : Gate t t' .resumeSend := by
  refine .of_ended rfl nofun rfl ?_
  simp only [step] at h
  split at h
  · cases h
    unfold resumeSend
    dsimp only
    split <;> exact ⟨rfl, rfl, False.elim, fun _ => rfl⟩
  · cases h

/-- Anything else. -/
theorem Other.gate (hresume : i ≠ .resumeSend) (hcall : i.call = none) (h : Other t t' i) :
    Gate t t' i := by
  have hadvanced := h.advanced
  cases i with
  | send | sendFrame => cases hcall
  | resumeSend => exact absurd rfl hresume
  | receive i =>
    cases i with
    | connectionLost exc =>
      obtain hv : some { t.transport with conn := connectionLost t.transport.conn exc } =
          some t'.transport := by
        cases hadvanced with
        | received _ hv => exact hv
      have ht : t'.transport = { t.transport with conn := connectionLost t.transport.conn exc } :=
        (Option.some.inj hv).symm
      refine ⟨fun hw => ?_, nofun, fun _ _ => ?_, ?_, ?_⟩
      · cases hw.1
      · rw [ht]
        rfl
      · rw [ht]
        exact iff_of_true rfl (Or.inr rfl)
      · rw [ht]
        exact ⟨Or.inl, fun hor => hor.resolve_right id⟩
    | dataReceived | finishConnect | recv | resume | timeout =>
      cases hadvanced with
      | received _ hv =>
        have hended := receive_ended (fun exc h => by cases h) hv
        exact .of_ended rfl nofun rfl hended
  | finishConnect params keys =>
    cases hadvanced with
    | connected hv =>
      have hended := receive_ended (fun exc h => by cases h) hv
      exact .of_ended rfl nofun rfl hended
  | pauseWriting =>
    refine .of_ended rfl nofun rfl ?_
    generalize t'.transport = v at hadvanced
    cases hadvanced with
    | paused => exact .same id rfl rfl rfl
  | resumeWriting =>
    generalize hv : t'.transport = v at hadvanced
    cases hadvanced with
    | resumed =>
      refine ⟨fun hw => ?_, fun _ => ?_, fun _ h => absurd rfl h, ?_, ?_⟩
      · cases hw.1
      · rw [hv]
        rfl
      · rw [hv]
        exact ⟨Or.inl, fun hor => hor.resolve_right nofun⟩
      · rw [hv]
        exact ⟨Or.inl, fun hor => hor.resolve_right id⟩
  | ping payload key =>
    refine .of_ended rfl nofun rfl ?_
    generalize t'.transport = v at hadvanced
    cases hadvanced with
    | pinged hping =>
      unfold AsyncTransport.ping at hping
      split at hping
      · cases hping
      · split at hping
        · cases hping
          exact .same id rfl rfl rfl
        · cases hping
    | refused => exact .same id rfl rfl rfl
  | close task code reason key =>
    refine .of_ended rfl nofun rfl ?_
    generalize t'.transport = v at hadvanced
    cases hadvanced with
    | closed => exact close_ended t.transport task code reason key
  | closeResume task =>
    refine .of_ended rfl nofun rfl ?_
    generalize t'.transport = v at hadvanced
    cases hadvanced with
    | closeWoken => exact closeResume_ended t.transport task
  | closeTimeout task =>
    refine .of_ended rfl nofun rfl ?_
    generalize t'.transport = v at hadvanced
    cases hadvanced with
    | closeTimedOut => exact .closeTransport trivial rfl rfl

/-- **One step**, whatever it is. -/
theorem step_gate (h : step t i = some t') : Gate t t' i := by
  cases hcall : i.call with
  | some c => exact (step_call hcall h).gate hcall
  | none =>
    by_cases hresume : i = .resumeSend
    · subst hresume
      exact step_resumeSend_gate h
    · exact (step_other hcall hresume h).gate hresume hcall

/-! ## Nobody is left waiting -/

/-- Nobody is held back on a lost connection or a closed transport. -/
def NoneStranded (t : Sender Z) : Prop :=
  t.transport.conn.proto.connectionLost = true ∨ t.transport.asyncioTransport = false →
    t.transport.heldBack = []

instance (t : Sender Z) : Decidable t.NoneStranded := inferInstanceAs (Decidable (_ ∨ _ → _))

/-- Nobody is held back as the connection is lost or the transport closed, and nobody comes to
wait on a lost connection. -/
def EndsFree (t : Sender Z) (i : Action Z) : Prop :=
  (i.loses = true ∨ t.Closes i → t.transport.heldBack = []) ∧
    (t.ComesToWait i → t.transport.conn.proto.connectionLost = false)

instance (t : Sender Z) (i : Action Z) : Decidable (t.EndsFree i) :=
  inferInstanceAs (Decidable ((_ ∨ _ → _) ∧ (_ → _)))

/-- A call ends no connection. -/
theorem ComesToWait.ends_nothing (h : t.ComesToWait i) : i.loses = false ∧ ¬ t.Closes i := by
  cases i with
  | send | sendFrame => exact ⟨rfl, id⟩
  | _ => cases h.1

theorem step_noneStranded (ht : t.NoneStranded) (h : step t i = some t') :
    t'.NoneStranded ↔ t.EndsFree i := by
  have hgate := step_gate h
  unfold NoneStranded EndsFree at *
  rw [hgate.lost, hgate.closed]
  by_cases hwaits : t.ComesToWait i
  · obtain ⟨hloses, hcloses⟩ := hwaits.ends_nothing
    have hheld := hgate.waits hwaits
    have hopen : t.transport.asyncioTransport = true := hwaits.2.1.2.2
    simp [hloses, hcloses, hheld, hopen, hwaits]
  · by_cases hopens : i = .resumeWriting
    · subst hopens
      refine iff_of_true (fun _ => hgate.opens rfl) ⟨?_, fun h => absurd h hwaits⟩
      rintro (h | h) <;> cases h
    · rw [hgate.stays hwaits hopens]
      constructor
      · intro hfree
        refine ⟨fun hor => hfree ?_, fun h => absurd h hwaits⟩
        exact hor.imp Or.inr Or.inr
      · rintro ⟨hfree, -⟩ ((hlost | hloses) | hclosed | hcloses)
        · exact ht (Or.inl hlost)
        · exact hfree (Or.inl hloses)
        · exact ht (Or.inr hclosed)
        · exact hfree (Or.inr hcloses)

/-! ## Going on behind the closing -/

/-- The first call that waits, gone on: the state behind it, and what it returns or raises. -/
def resumption (t : Sender Z) : Action Z → Option (Sender Z × SendStop)
  | .resumeSend =>
    match t.transport.conn.proto.canWrite.woken, t.suspended with
    | _ :: _, out :: rest => some ({ t with suspended := rest }.resumeSend out)
    | _, _ => none
  | _ => none

theorem step_resumeSend_eq (t : Sender Z) :
    step t .resumeSend = (t.resumption .resumeSend).map Prod.fst := by
  simp only [step, resumption]
  cases t.transport.conn.proto.canWrite.woken with
  | nil => rfl
  | cons task woken =>
    cases t.suspended with
    | nil => rfl
    | cons out rest => rfl

/-- A call that goes on without the asyncio transport raises ConnectionError and writes
nothing. -/
def RaisesClosed (t : Sender Z) (i : Action Z) : Prop :=
  ∀ r ∈ t.resumption i, t.transport.asyncioTransport = false →
    (∃ msg, r.2 = .raised (.connectionError msg)) ∧
      r.1.transport.conn.sock.written = t.transport.conn.sock.written

/-- What it does raise: nothing looks at the attribute before the write. -/
theorem resumption_closed {r : Sender Z × SendStop} (hr : t.resumption i = some r)
    (ha : t.transport.asyncioTransport = false) :
    r.2 = .raised (.attributeError "'NoneType' object has no attribute 'write'") := by
  cases i with
  | resumeSend =>
    simp only [resumption] at hr
    split at hr
    · cases hr
      simp [resumeSend, ha]
    · cases hr
  | _ => cases hr

theorem step_raisesClosed (h : step t i = some t') :
    t.RaisesClosed i ↔ (i.resumes = true → t.transport.asyncioTransport = true) := by
  cases i with
  | resumeSend =>
    rw [step_resumeSend_eq] at h
    obtain ⟨r, hr, -⟩ := Option.map_eq_some_iff.mp h
    constructor
    · intro hraises _
      by_contra hgone
      have ha : t.transport.asyncioTransport = false := eq_false_of_ne_true hgone
      obtain ⟨⟨msg, hmsg⟩, -⟩ := hraises r hr ha
      rw [resumption_closed hr ha] at hmsg
      cases hmsg
    · intro hthere r' _ ha
      rw [hthere rfl] at ha
      cases ha
  | _ =>
    refine iff_of_true (fun r hr => ?_) (fun h => ?_)
    · cases hr
    · cases h

/-! ## Whole runs -/

/-- The condition: nobody is held back as the connection ends or behind its loss, and no call
goes on without the asyncio transport. -/
def Unhindered (t : Sender Z) (i : Action Z) : Prop :=
  t.EndsFree i ∧ (i.resumes = true → t.transport.asyncioTransport = true)

instance (t : Sender Z) (i : Action Z) : Decidable (t.Unhindered i) :=
  inferInstanceAs (Decidable (_ ∧ (_ → _)))

theorem noneStranded_start (config : TransportConfig) (compressionThreshold : Int)
    (request : Bytes) : (Sender.start Z config compressionThreshold request).NoneStranded := by
  intro _
  rfl

/-- **No sender is stranded**, and every one that goes on behind the closing raises
ConnectionError, exactly in the runs that are unhindered. -/
theorem none_stranded_iff (Z : ZlibModule) (config : TransportConfig) (compressionThreshold : Int)
    (request : Bytes) (run : List (Action Z)) :
    Always step NoneStranded (Sender.start Z config compressionThreshold request) run ∧
        Meets step RaisesClosed (Sender.start Z config compressionThreshold request) run ↔
      Meets step Unhindered (Sender.start Z config compressionThreshold request) run := by
  have hfree : Always step NoneStranded (Sender.start Z config compressionThreshold request) run ↔
      Meets step EndsFree (Sender.start Z config compressionThreshold request) run :=
    always_iff_meets (fun _ _ _ ht h => step_noneStranded ht h) run
      (noneStranded_start config compressionThreshold request)
  rw [hfree, meets_congr (fun _ _ _ h => step_raisesClosed h) run]
  exact meets_and_iff.symm

/-- A call waits and is written before the close. -/
example :
    Meets step Unhindered (Sender.start smallZlib ⟨.little, 1024, 4096, false⟩ 128 [])
      (connecting ++ [.pauseWriting, greets 1, .resumeWriting, .resumeSend,
        .close 2 1000 "" ⟨0, 0, 0, 0⟩, .closeTimeout 2]) := by
  decide

/-- A call waits for ever on a lost connection; one waits for ever on a closed transport; and one
that is woken goes on behind `close`, without the asyncio transport. -/
theorem sender_stranded :
    ¬ Always step NoneStranded (Sender.start smallZlib ⟨.little, 1024, 4096, false⟩ 128 [])
        (connecting ++ [.pauseWriting, greets 1, .receive (.connectionLost none)]) ∧
      ¬ Always step NoneStranded (Sender.start smallZlib ⟨.little, 1024, 4096, false⟩ 128 [])
        (connecting ++ [.pauseWriting, greets 1, .close 2 1000 "" ⟨0, 0, 0, 0⟩,
          .closeTimeout 2]) ∧
      ¬ Meets step RaisesClosed (Sender.start smallZlib ⟨.little, 1024, 4096, false⟩ 128 [])
        (connecting ++ [.pauseWriting, greets 1, .close 2 1000 "" ⟨0, 0, 0, 0⟩, .resumeWriting,
          .closeTimeout 2, .resumeSend]) := by
  refine ⟨by decide, by decide, fun h => ?_⟩
  rw [meets_congr (fun _ _ _ h => step_raisesClosed h)] at h
  revert h
  decide

end Sender
end JetSocket.Transport
