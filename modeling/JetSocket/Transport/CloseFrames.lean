import JetSocket.Core.CloseFrame
import JetSocket.Transport.Feed
import JetSocket.Transport.SyncTransport

/- The Close frames that both transports write: those of `close`, and the echoes of a peer's.

   An echo is built from the code and the reason that the peer's frame shows, not from its
   payload. A frame without a code shows none and is echoed with 1005, as one with the code 0 is;
   a reason that is not UTF-8 is decoded with replacement, and may be encoded to more bytes than
   the peer sent.

   What is proved:
     1. `close_wrote`, `recvClose_wrote` and their siblings — which frame is written, if any.
     2. `close_frames_valid_iff` — a written Close frame is read back as what it stands for
        exactly when its reason leaves room for the code and, for an echo, the peer's frame had a
        code other than 0. -/
namespace JetSocket.Transport
open JetSocket.Core AsyncTransport

variable {Z : Zlib}

/-- The reason leaves room for the code, within what a parser with `max_frame_size` takes. -/
def ReasonFits (maxFrameSize : Nat) (reason : String) : Prop :=
  2 + (encodeUtf8 reason).length ≤ min 125 maxFrameSize

instance (maxFrameSize : Nat) (reason : String) : Decidable (ReasonFits maxFrameSize reason) :=
  inferInstanceAs (Decidable (_ ≤ _))

/-- The code that is echoed. -/
def echoCode (frame : Frame) : Nat :=
  match frame.closeCode with
  | none | some 0 => noStatus
  | some c => c

theorem echoCode_lt (frame : Frame) : echoCode frame < 2 ^ 16 := by
  unfold echoCode
  split
  · decide
  · decide
  · rename_i c h
    exact closeCode_lt frame h

/-- The code comes back exactly when there is one, and it is not 0. -/
theorem echoCode_iff (frame : Frame) :
    frame.closeCode = some (echoCode frame) ↔ ∃ c, frame.closeCode = some c ∧ c ≠ 0 := by
  unfold echoCode
  split
  · rename_i h
    simp [h]
  · rename_i h
    simp [h, noStatus]
  · rename_i c hne h
    refine ⟨fun _ => ⟨c, h, ?_⟩, fun _ => h⟩
    rintro rfl
    exact hne rfl

/-! ## What is written -/

/-- What an asyncio transport was given to write from `t` to `t'`. -/
def AsyncTransport.wrote (t t' : AsyncTransport Z) : List Bytes :=
  t'.conn.sock.written.drop t.conn.sock.written.length

/-- What the socket was given to write from `t` to `t'`. -/
def SyncTransport.wrote (t t' : SyncTransport Z) : List Bytes :=
  t'.written.drop t.written.length

theorem drop_append_self {α : Type*} (xs ys : List α) : (xs ++ ys).drop xs.length = ys :=
  List.drop_left

theorem closeTransport_sock (t : AsyncTransport Z) :
    t.closeTransport.conn.sock.written = t.conn.sock.written := by
  unfold AsyncTransport.closeTransport
  dsimp only
  split <;> rfl

/-- `close` writes at most its own frame. -/
theorem close_wrote (t : AsyncTransport Z) (task code : Nat) (reason : String) (key : MaskKey)
    (data : Bytes) (h : data ∈ t.wrote (t.close task code reason key).1) :
    ∃ parser, t.parser = some parser ∧ data = parser.encodeClose code reason (some key) := by
  have hnone : ∀ u : AsyncTransport Z, u.conn.sock.written = t.conn.sock.written →
      data ∈ t.wrote u → False := by
    intro u hu hdata
    rw [AsyncTransport.wrote, hu, List.drop_length] at hdata
    cases hdata
  have hone : ∀ (parser : FrameParser) (u : AsyncTransport Z), t.parser = some parser →
      u.conn.sock.written =
        t.conn.sock.written ++ [parser.encodeClose code reason (some key)] →
      data ∈ t.wrote u →
      ∃ parser, t.parser = some parser ∧ data = parser.encodeClose code reason (some key) := by
    intro parser u hp hu hdata
    rw [AsyncTransport.wrote, hu, drop_append_self] at hdata
    exact ⟨parser, hp, List.mem_singleton.mp hdata⟩
  revert h
  unfold AsyncTransport.close AsyncTransport.closeFinish
  split
  · exact fun h => (hnone _ rfl h).elim
  · dsimp only
    split
    · rename_i parser hp _
      split
      · split
        · exact hone parser _ hp rfl
        · exact hone parser _ hp (closeTransport_sock _)
      · exact fun h => (hnone _ (closeTransport_sock _) h).elim
    · exact fun h => (hnone _ (closeTransport_sock _) h).elim

/-- The echo of a Close frame is all that taking it in writes. -/
theorem recvClose_wrote (t : AsyncTransport Z) (key : MaskKey) (frame : Frame) (data : Bytes)
    (h : data ∈ t.wrote (t.recvClose key frame)) :
    ∃ parser, t.parser = some parser ∧
      data = parser.encodeClose (echoCode frame) frame.closeReason (some key) := by
  have hnone : ∀ u : AsyncTransport Z, u.conn.sock.written = t.conn.sock.written →
      data ∈ t.wrote u.closeTransport → False := by
    intro u hu hdata
    rw [AsyncTransport.wrote, closeTransport_sock, hu, List.drop_length] at hdata
    cases hdata
  revert h
  unfold AsyncTransport.recvClose
  dsimp only
  split
  · exact fun h => (hnone _ rfl h).elim
  · split
    · rename_i parser hp _
      intro h
      rw [AsyncTransport.wrote, closeTransport_sock] at h
      refine ⟨parser, hp, ?_⟩
      have hdata : data ∈ [parser.encodeClose (echoCode frame) frame.closeReason (some key)] := by
        rw [← drop_append_self t.conn.sock.written [_]]
        exact h
      exact List.mem_singleton.mp hdata
    · exact fun h => (hnone _ rfl h).elim

namespace SyncTransport

/-- `_send_all` gives at most its data to the socket. -/
theorem sendAll_wrote {t u : SyncTransport Z} {frame data : Bytes}
    (h : data ∈ (u.sendAll frame).written.drop t.written.length) (hu : u.written = t.written) :
    data = frame := by
  unfold sendAll at h
  split at h
  · dsimp only at h
    rw [hu, drop_append_self] at h
    exact List.mem_singleton.mp h
  · rw [hu, List.drop_length] at h
    cases h

theorem close_wrote (t : SyncTransport Z) (code : Nat) (reason : String) (key : MaskKey)
    (data : Bytes) (h : data ∈ t.wrote (t.close code reason key)) :
    ∃ parser, t.parser = some parser ∧ data = parser.encodeClose code reason (some key) := by
  have hnone : ∀ u : SyncTransport Z, u.written = t.written → data ∈ t.wrote u → False := by
    intro u hu hdata
    rw [wrote, hu, List.drop_length] at hdata
    cases hdata
  revert h
  unfold close closeSocket
  split
  · exact fun h => (hnone _ rfl h).elim
  · dsimp only
    split
    · rename_i parser hp
      split
      · exact fun h => ⟨parser, hp, sendAll_wrote h rfl⟩
      · exact fun h => (hnone _ rfl h).elim
    · exact fun h => (hnone _ rfl h).elim

theorem handleCloseFrame_wrote (t : SyncTransport Z) (key : MaskKey) (frame : Frame)
    (data : Bytes) (h : data ∈ t.wrote (t.handleCloseFrame key frame)) :
    ∃ parser, t.parser = some parser ∧
      data = parser.encodeClose (echoCode frame) frame.closeReason (some key) := by
  have hnone : ∀ u : SyncTransport Z, u.written = t.written → data ∈ t.wrote u → False := by
    intro u hu hdata
    rw [wrote, hu, List.drop_length] at hdata
    cases hdata
  revert h
  unfold handleCloseFrame closeSocket
  dsimp only
  split
  · exact fun h => (hnone _ rfl h).elim
  · split
    · rename_i parser hp
      exact fun h => ⟨parser, hp, sendAll_wrote h rfl⟩
    · exact fun h => (hnone _ rfl h).elim

end SyncTransport

/-! ## How it is read -/

/-- The peer's Close frame can be echoed: it has a code other than 0, and its reason, as it is
decoded, fits. -/
def Echoable (maxFrameSize : Nat) (frame : Frame) : Prop :=
  ReasonFits maxFrameSize frame.closeReason ∧ ∃ c, frame.closeCode = some c ∧ c ≠ 0

/-- An echo against the frame it echoes. -/
theorem echo_reads_iff (p : FrameParser) (order : Word.ByteOrder) (maxFrameSize : Nat)
    (frame : Frame) (key : MaskKey) :
    ReadsClose order maxFrameSize
        (p.encodeClose (echoCode frame) frame.closeReason (some key)) frame.closeCode
        frame.closeReason ↔
      Echoable maxFrameSize frame := by
  rw [encodeClose_reads_iff p order maxFrameSize (echoCode_lt frame), echoCode_iff]
  simp only [and_true]
  rfl

/-- **Every Close frame that is written**, by either transport, is accepted by a parser with the
code and the reason it was built for, exactly when the reason fits; and an echo with those of the
frame it echoes exactly when that can be echoed. -/
theorem close_frames_valid_iff (Z : Zlib) (order : Word.ByteOrder) (maxFrameSize : Nat) :
    (∀ (t : AsyncTransport Z) (task code : Nat) (reason : String) (key : MaskKey),
      code < 2 ^ 16 → ∀ data ∈ t.wrote (t.close task code reason key).1,
        (ReadsClose order maxFrameSize data (some code) reason ↔
          ReasonFits maxFrameSize reason)) ∧
    (∀ (t : SyncTransport Z) (code : Nat) (reason : String) (key : MaskKey),
      code < 2 ^ 16 → ∀ data ∈ t.wrote (t.close code reason key),
        (ReadsClose order maxFrameSize data (some code) reason ↔
          ReasonFits maxFrameSize reason)) ∧
    (∀ (t : AsyncTransport Z) (key : MaskKey) (frame : Frame),
      ∀ data ∈ t.wrote (t.recvClose key frame),
        (ReadsClose order maxFrameSize data frame.closeCode frame.closeReason ↔
          Echoable maxFrameSize frame)) ∧
    ∀ (t : SyncTransport Z) (key : MaskKey) (frame : Frame),
      ∀ data ∈ t.wrote (t.handleCloseFrame key frame),
        (ReadsClose order maxFrameSize data frame.closeCode frame.closeReason ↔
          Echoable maxFrameSize frame) := by
  have hown : ∀ (p : FrameParser) (code : Nat) (reason : String) (key : MaskKey),
      code < 2 ^ 16 →
      (ReadsClose order maxFrameSize (p.encodeClose code reason (some key)) (some code) reason ↔
        ReasonFits maxFrameSize reason) := by
    intro p code reason key hcode
    rw [encodeClose_reads_iff p order maxFrameSize hcode]
    simp only [and_true]
    rfl
  refine ⟨?_, ?_, ?_, ?_⟩
  · intro t task code reason key hcode data hdata
    obtain ⟨p, -, rfl⟩ := close_wrote t task code reason key data hdata
    exact hown p code reason key hcode
  · intro t code reason key hcode data hdata
    obtain ⟨p, -, rfl⟩ := t.close_wrote code reason key data hdata
    exact hown p code reason key hcode
  · intro t key frame data hdata
    obtain ⟨p, -, rfl⟩ := recvClose_wrote t key frame data hdata
    exact echo_reads_iff p order maxFrameSize frame key
  · intro t key frame data hdata
    obtain ⟨p, -, rfl⟩ := t.handleCloseFrame_wrote key frame data hdata
    exact echo_reads_iff p order maxFrameSize frame key

/-- Connections with nothing written yet. -/
def openConfig : TransportConfig :=
  { order := .little, maxFrameSize := 16777216, maxMessageSize := 67108864, readTimeout := false }

def openAsync (Z : Zlib) : AsyncTransport Z :=
  { AsyncTransport.new Z openConfig with
    connected := true, protocol := true, asyncioTransport := true,
    parser := some openConfig.parser }

def openSync (Z : Zlib) : SyncTransport Z := (SyncTransport.new Z openConfig).finishConnect none

/-- The four of them at work: a code and a short reason are written, and echoed. -/
theorem close_frames_valid_normal :
    (∃ data ∈ (openAsync plainZlib).wrote ((openAsync plainZlib).close 0 1000 "bye" ⟨1, 2, 3, 4⟩).1,
      ReadsClose .little 16777216 data (some 1000) "bye") ∧
    (∃ data ∈ (openSync plainZlib).wrote ((openSync plainZlib).close 1000 "bye" ⟨1, 2, 3, 4⟩),
      ReadsClose .little 16777216 data (some 1000) "bye") ∧
    (∃ data ∈ (openAsync plainZlib).wrote ((openAsync plainZlib).recvClose ⟨1, 2, 3, 4⟩
        { opcode := .close, payload := [0x03, 0xE9] }),
      ReadsClose .little 16777216 data (some 1001) "") ∧
    ∃ data ∈ (openSync plainZlib).wrote ((openSync plainZlib).handleCloseFrame ⟨1, 2, 3, 4⟩
        { opcode := .close, payload := [0x03, 0xE9] }),
      ReadsClose .little 16777216 data (some 1001) "" := by
  have h := close_frames_valid_iff plainZlib .little 16777216
  refine ⟨⟨_, List.mem_singleton.mpr rfl, ?_⟩, ⟨_, List.mem_singleton.mpr rfl, ?_⟩,
    ⟨_, List.mem_singleton.mpr rfl, ?_⟩, ⟨_, List.mem_singleton.mpr rfl, ?_⟩⟩
  · exact (h.1 (openAsync plainZlib) 0 1000 "bye" ⟨1, 2, 3, 4⟩ (by decide) _
      (List.mem_singleton.mpr rfl)).mpr (by decide)
  · exact (h.2.1 (openSync plainZlib) 1000 "bye" ⟨1, 2, 3, 4⟩ (by decide) _
      (List.mem_singleton.mpr rfl)).mpr (by decide)
  · exact (h.2.2.1 (openAsync plainZlib) ⟨1, 2, 3, 4⟩
      { opcode := .close, payload := [0x03, 0xE9] } _ (List.mem_singleton.mpr rfl)).mpr
      ⟨by decide, 1001, by decide, by decide⟩
  · exact (h.2.2.2 (openSync plainZlib) ⟨1, 2, 3, 4⟩
      { opcode := .close, payload := [0x03, 0xE9] } _ (List.mem_singleton.mpr rfl)).mpr
      ⟨by decide, 1001, by decide, by decide⟩

/-- A Close frame without a payload is echoed with the code 1005 that none may carry. -/
theorem empty_close_echoed :
    ∃ data ∈ (openAsync plainZlib).wrote ((openAsync plainZlib).recvClose ⟨1, 2, 3, 4⟩
        { opcode := .close, payload := [] }),
      ReadsClose .little 16777216 data (some 1005) "" ∧
      ¬ ReadsClose .little 16777216 data none "" := by
  have hcode : 1005 < 2 ^ 16 := by decide
  refine ⟨_, List.mem_singleton.mpr rfl, ?_, ?_⟩
  · exact (encodeClose_reads_iff openConfig.parser .little 16777216 hcode "" ⟨1, 2, 3, 4⟩ _ _).mpr
      ⟨by decide, rfl, rfl⟩
  · intro h
    have hnone := ((encodeClose_reads_iff openConfig.parser .little 16777216 hcode ""
      ⟨1, 2, 3, 4⟩ _ _).mp h).2.1
    cases hnone

end JetSocket.Transport
