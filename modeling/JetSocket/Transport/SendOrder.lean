import JetSocket.Transport.Sending

/- The order of compression against the order of the writes.

   `send` compresses before it waits for `_can_write` and writes afterwards. The calls that
   wait keep their order among themselves. But `resume_writing` only wakes them: a call that
   comes before they run finds the event set, and writes at once a frame that was compressed
   after theirs.

   What is proved:
     1. `queue_in_order_iff` — the compressed frames that are written and those that wait
        are, put together, in the order of their compression exactly in the runs in which no
        call overtakes another.
     2. `writes_in_order` — in these runs the writes are in the order of compression. -/
namespace JetSocket.Transport
open JetSocket.Core Transition

variable {Z : ZlibModule}

namespace Sender

/-- The compressed frames are written in the order of the calls of `Deflater.compress`. -/
def InOrder (t : Sender Z) : Prop := t.wrote.Pairwise (· < ·)

instance (t : Sender Z) : Decidable t.InOrder := inferInstanceAs (Decidable (List.Pairwise _ _))

/-- The compressions whose frames wait. -/
def pending (t : Sender Z) : List Nat := t.suspended.filterMap Suspended.number

/-- The compressions whose frames are written or wait, as they will be written if nothing
comes in between. -/
def queue (t : Sender Z) : List Nat := t.wrote ++ t.pending

/-- A call of `send` or `send_frame` that compresses, finds `_can_write` set, and writes while
a call that compressed before it waits to be resumed. -/
def Overtakes (t : Sender Z) (compressible : Bool) (payload : Bytes) : Prop :=
  t.Ready ∧ ¬ t.Blocked ∧ t.Compresses compressible payload ∧ t.pending ≠ []

instance (t : Sender Z) (compressible : Bool) (payload : Bytes) :
    Decidable (t.Overtakes compressible payload) := inferInstanceAs (Decidable (_ ∧ _ ∧ _ ∧ _))

/-- No call overtakes another. -/
def KeepsTurn (t : Sender Z) (i : Action Z) : Prop :=
  ∀ c ∈ i.call, ¬ t.Overtakes c.1 c.2.payload

instance (t : Sender Z) (i : Action Z) : Decidable (t.KeepsTurn i) :=
  inferInstanceAs (Decidable (∀ c ∈ i.call, _))

/-- The numbers given so far. -/
def Numbered (t : Sender Z) : Prop := ∀ n ∈ t.queue, n < t.compressed

theorem queue_wait (t : Sender Z) (out : Suspended) :
    (t.wait out).queue = t.queue ++ out.number.toList := by
  unfold queue pending wait
  dsimp only
  rw [List.filterMap_append, ← List.append_assoc]
  cases hn : out.number <;> simp [hn]

theorem queue_write (t : Sender Z) (out : Suspended) :
    (t.write out).queue = t.wrote ++ out.number.toList ++ t.pending := rfl

variable {t t' u : Sender Z} {compressible : Bool} {frame : Frame} {out : Suspended}

theorem Prepared.pending (h : Prepared t u compressible frame out) : u.pending = t.pending := by
  unfold Sender.pending
  rw [h.suspended]

theorem Prepared.queue (h : Prepared t u compressible frame out) : u.queue = t.queue := by
  unfold Sender.queue
  rw [h.wrote, h.pending]

/-- The number of a frame is the next one. -/
theorem Prepared.number_eq (h : Prepared t u compressible frame out) :
    (∀ n ∈ out.number, n = t.compressed ∧ n < u.compressed) ∧ t.compressed ≤ u.compressed := by
  obtain ⟨-, hn, hc⟩ | ⟨-, hn, hc⟩ := h.number
  · rw [hn, hc]
    refine ⟨fun n hmem => ?_, by omega⟩
    cases hmem
    exact ⟨rfl, by omega⟩
  · rw [hn, hc]
    exact ⟨fun n hmem => absurd hmem (Option.not_mem_none n), le_rfl⟩

theorem Transmitted.numbered (h : Transmitted t compressible frame t') (hnum : t.Numbered) :
    t'.Numbered := by
  cases h with
  | raises => exact hnum
  | waits _ _ hout =>
    obtain ⟨hnext, hle⟩ := hout.number_eq
    intro n hn
    rw [queue_wait, hout.queue] at hn
    obtain hold | hnew := List.mem_append.mp hn
    · exact (hnum n hold).trans_le hle
    · exact (hnext n (Option.mem_toList.mp hnew)).2
  | writes _ _ hout =>
    obtain ⟨hnext, hle⟩ := hout.number_eq
    intro n hn
    rw [queue_write, hout.wrote, hout.pending] at hn
    obtain hold | hpending := List.mem_append.mp hn
    · obtain hwrote | hnew := List.mem_append.mp hold
      · exact (hnum n (List.mem_append_left _ hwrote)).trans_le hle
      · exact (hnext n (Option.mem_toList.mp hnew)).2
    · exact (hnum n (List.mem_append_right _ hpending)).trans_le hle

/-- **A call** keeps the order exactly when it does not overtake another. -/
theorem Transmitted.in_order (h : Transmitted t compressible frame t') (hnum : t.Numbered)
    (horder : t.queue.Pairwise (· < ·)) :
    t'.queue.Pairwise (· < ·) ↔ ¬ t.Overtakes compressible frame.payload := by
  cases h with
  | raises hready => exact iff_of_true horder (fun h => hready h.1)
  | waits _ hblocked hout =>
    refine iff_of_true ?_ (fun h => h.2.1 hblocked)
    rw [queue_wait, hout.queue, List.pairwise_append]
    refine ⟨horder, ?_, fun n hn m hm => ?_⟩
    · obtain ⟨-, hnumber, -⟩ | ⟨-, hnumber, -⟩ := hout.number <;> rw [hnumber] <;> simp
    · have hnext := (hout.number_eq.1 m (Option.mem_toList.mp hm)).1
      have hold := hnum n hn
      omega
  | @writes u out hready hblocked hout =>
    rw [queue_write, hout.wrote, hout.pending]
    obtain ⟨hdue, hnumber, -⟩ | ⟨hdue, hnumber, -⟩ := hout.number
    · rw [hnumber, Option.toList_some]
      constructor
      · rintro h ⟨-, -, -, hpending⟩
        -- whatever waits was compressed before, and comes behind
        obtain ⟨m, rest, hm⟩ := List.exists_cons_of_ne_nil hpending
        rw [List.pairwise_append] at h
        have hbehind := h.2.2 t.compressed (by simp) m (by rw [hm]; exact List.mem_cons_self)
        have hbefore := hnum m (List.mem_append_right _ (by rw [hm]; exact List.mem_cons_self))
        omega
      · intro h
        have hpending : t.pending = [] := by
          by_contra hne
          exact h ⟨hready, hblocked, hdue, hne⟩
        unfold queue at horder
        rw [hpending, List.append_nil] at horder ⊢
        refine List.pairwise_append.mpr ⟨horder, List.pairwise_singleton _ _, fun n hn m hm => ?_⟩
        obtain rfl := List.mem_singleton.mp hm
        exact hnum n (List.mem_append_left _ hn)
    · rw [hnumber, Option.toList_none, List.append_nil]
      exact iff_of_true horder (fun h => hdue h.2.2.1)

/-- What waits first is written first, or never. -/
theorem step_resumeSend_queue (h : step t .resumeSend = some t') :
    t'.queue.Sublist t.queue ∧ t'.compressed = t.compressed := by
  obtain ⟨out, hout⟩ := step_resumeSend h
  have hpending : t.pending = out.number.toList ++ t'.pending := by
    unfold pending
    rw [hout.suspended]
    cases hn : out.number <;> simp [hn]
  refine ⟨?_, hout.compressed⟩
  unfold queue
  rw [hpending]
  cases ha : t.transport.asyncioTransport with
  | true =>
    rw [(hout.writes ha).2, List.append_assoc]
  | false =>
    rw [(hout.raises ha).2]
    exact (List.sublist_append_right out.number.toList t'.pending).append_left t.wrote

/-- **One step**: it numbers on, and keeps the order exactly when no call overtakes another. -/
theorem step_in_order {i : Action Z} (hnum : t.Numbered) (h : step t i = some t') :
    t'.Numbered ∧
      (t.queue.Pairwise (· < ·) → (t'.queue.Pairwise (· < ·) ↔ t.KeepsTurn i)) := by
  cases hcall : i.call with
  | some c =>
    have hsent := step_call hcall h
    refine ⟨hsent.numbered hnum, fun horder => (hsent.in_order hnum horder).trans ?_⟩
    unfold KeepsTurn
    rw [hcall]
    exact ⟨fun h c' hc' => by cases hc'; exact h, fun h => h c rfl⟩
  | none =>
    have hturn : t.KeepsTurn i := by
      unfold KeepsTurn
      rw [hcall]
      exact fun c hc => by cases hc
    by_cases hresume : i = .resumeSend
    · subst hresume
      obtain ⟨hsub, hcount⟩ := step_resumeSend_queue h
      refine ⟨fun n hn => ?_, fun horder => iff_of_true (horder.sublist hsub) hturn⟩
      rw [hcount]
      exact hnum n (hsub.mem hn)
    · obtain ⟨-, hsuspended, hwrote, hcount⟩ := step_other hcall hresume h
      have hqueue : t'.queue = t.queue := by
        unfold queue pending
        rw [hsuspended, hwrote]
      unfold Numbered
      rw [hqueue, hcount]
      exact ⟨hnum, fun horder => iff_of_true horder hturn⟩

/-- **Whole runs**: what is written and what waits stay in the order of compression exactly when
no call overtakes another. -/
theorem queue_in_order_iff (Z : ZlibModule) (config : TransportConfig) (compressionThreshold : Int)
    (request : Bytes) (run : List (Action Z)) :
    Always step (fun t => t.queue.Pairwise (· < ·))
        (Sender.start Z config compressionThreshold request) run ↔
      Meets step KeepsTurn (Sender.start Z config compressionThreshold request) run :=
  always_iff_meets_of_inv (I := Numbered) (fun _ _ _ hnum h => (step_in_order hnum h).1)
    (fun _ _ _ hnum horder h => (step_in_order hnum h).2 horder) run
    (fun n hn => by cases hn) List.Pairwise.nil

/-- **Compression order is wire order** in every run in which no call overtakes another. -/
theorem writes_in_order (Z : ZlibModule) (config : TransportConfig) (compressionThreshold : Int)
    (request : Bytes) (run : List (Action Z))
    (h : Meets step KeepsTurn (Sender.start Z config compressionThreshold request) run) :
    Always step InOrder (Sender.start Z config compressionThreshold request) run :=
  ((queue_in_order_iff Z config compressionThreshold request run).mpr h).mono
    (fun _ horder => (List.pairwise_append.mp horder).1)

/-- A connection with the settings `Deflater` has by default. -/
def opening : List (Action smallZlib) :=
  [.receive (.dataReceived headerEnd (fun _ => ⟨0, 0, 0, 0⟩)),
    .finishConnect (some {}) (fun _ => ⟨0, 0, 0, 0⟩)]

/-- A call of `send` with this payload. -/
def sends (task : Nat) (data : Bytes) : Action smallZlib :=
  .send task (.bytes data) none ⟨0, 0, 0, 0⟩

/-- Two calls wait, and go on before the next. -/
theorem writes_in_order_resumed :
    Always step InOrder (Sender.start smallZlib ⟨.little, 1024, 4096, false⟩ 0 [])
      (opening ++ [.pauseWriting, sends 1 [], sends 2 hello, .resumeWriting, .resumeSend,
        .resumeSend, sends 3 []]) :=
  writes_in_order smallZlib ⟨.little, 1024, 4096, false⟩ 0 [] _ (by decide)

/-- A call that comes between `resume_writing` and the calls it wakes is written first. -/
theorem overtaken :
    ¬ Always step InOrder (Sender.start smallZlib ⟨.little, 1024, 4096, false⟩ 0 [])
      (opening ++ [.pauseWriting, sends 1 hello, .resumeWriting, sends 2 [], .resumeSend]) := by
  decide

end Sender
end JetSocket.Transport
