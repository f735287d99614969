import JetSocket.Buffer.MessageBuffer
import Mathlib.Data.List.DropRight

/- The deduplication window of the message buffer (`buffer.py`) over whole runs: what is seen is
   the end of the list of the ids that passed the check.

   Correspondence (Python ↔ Lean):
     the check of `push`, passed ↔ `rejectsDuplicate`, false
     `_seen_sequences`           ↔ the last `dedup_window` ids of `Passed.sinceCleared`
     `last_sequence_id`          ↔ the last id of `Passed.sinceReset`

   `Passed` is no part of the program: it has the ids that passed since the window was last
   cleared, and since the last `reset`.

   What is proved:
     1. `Windowed.apply` — one operation keeps the window at the end of the list.
     2. `rejected_iff` — a push is rejected where the check finds its id, and only there.
     3. `dedup_window` — both, after every sequence of operations. -/
namespace JetSocket.Buffer

/-- What is taken from the end of the end of a list. -/
theorem rtake_rtake {σ : Type} (l : List σ) {m n : Nat} (h : m ≤ n) :
    (l.rtake n).rtake m = l.rtake m := by
  unfold List.rtake
  rw [List.drop_drop, List.length_drop]
  congr 1
  omega

/-- The end of a list goes along with the list. -/
theorem rtake_concat {σ : Type} (l : List σ) (x : σ) {n : Nat} (h : 0 < n) :
    (l.rtake n ++ [x]).rtake n = (l ++ [x]).rtake n := by
  obtain ⟨m, rfl⟩ := Nat.exists_eq_add_of_lt h
  rw [Nat.zero_add, List.rtake_concat_succ, List.rtake_concat_succ, rtake_rtake l (Nat.le_succ m)]

namespace MessageBuffer
variable {α σ : Type} [DecidableEq σ]

/-- The ids that passed the check. -/
structure Passed (σ : Type) where
  sinceCleared : List σ
  sinceReset : List σ

def Passed.none : Passed σ := ⟨[], []⟩

/-- One more operation. -/
def Passed.note (p : Passed σ) (b : MessageBuffer α σ) : Op α σ → Passed σ
  | .push _ (some s) =>
    if b.rejectsDuplicate (some s) then p else ⟨p.sinceCleared ++ [s], p.sinceReset ++ [s]⟩
  | .clearDedup => { p with sinceCleared := [] }
  | .reset => .none
  | _ => p

/-- The ids that pass the check in a run, behind those that passed before. -/
def passed (p : Passed σ) (b : MessageBuffer α σ) : List (Op α σ) → Passed σ
  | [] => p
  | op :: ops => passed (p.note b op) (b.apply op) ops

/-- The window is the end of the list of ids that passed, and the last id its last one. -/
structure Windowed (p : Passed σ) (b : MessageBuffer α σ) : Prop where
  enabled : b.config.enableDedup = true
  seen : b.seenSequences = p.sinceCleared.rtake b.config.dedupWindow
  last : b.lastSequenceId = p.sinceReset.getLast?

section Window
variable {b : MessageBuffer α σ} {p : Passed σ}

omit [DecidableEq σ] in
theorem windowed_new {config : BufferConfig} (h : config.enableDedup = true) :
    Windowed .none (new (some config) : MessageBuffer α σ) where
  enabled := h
  seen := List.drop_nil.symm
  last := rfl

omit [DecidableEq σ] in
/-- Nothing but the messages changes. -/
theorem Windowed.of_buffer (h : Windowed p b) (ring : RingBuffer α σ) :
    Windowed p { b with buffer := ring } := ⟨h.enabled, h.seen, h.last⟩

/-- The check looks into the window. -/
theorem Windowed.rejectsDuplicate_iff (h : Windowed p b) (s : σ) :
    b.rejectsDuplicate (some s) = true ↔ s ∈ p.sinceCleared.rtake b.config.dedupWindow := by
  have hcheck : b.rejectsDuplicate (some s) = (b.config.enableDedup && b.isDuplicate s) := rfl
  rw [hcheck, h.enabled, Bool.true_and, ← h.seen]
  exact decide_eq_true_iff

/-- **A push** is rejected, changing nothing, exactly where the check finds its id. -/
theorem rejected_iff (he : b.config.enableDedup = true) (m : Option α) (s : σ) :
    b.push m (some s) = (b, .ok false) ↔ b.rejectsDuplicate (some s) = true := by
  refine ⟨fun hpush => ?_, push_duplicate⟩
  -- An id that passed would be seen, whatever the ring buffer makes of the message.
  by_contra hd
  rw [Bool.not_eq_true] at hd
  have hseen : (b.push m (some s)).1.seenSequences = (b.trackSequence s).seenSequences := by
    rw [push_fresh hd]
    show (b.noted (some s)).seenSequences = _
    rw [noted_seenSequences, if_pos he]
  have hmem := b.mem_trackSequence s
  rw [← hseen, hpush] at hmem
  have hduplicate : b.rejectsDuplicate (some s) = true := by
    show (b.config.enableDedup && decide (s ∈ b.seenSequences)) = true
    rw [he, decide_eq_true hmem]
    rfl
  rw [hd] at hduplicate
  cases hduplicate

/-- **A push** whose id passes the check. -/
theorem Windowed.push (h : Windowed p b) (m : Option α) (s : σ)
    (hd : b.rejectsDuplicate (some s) = false) :
    Windowed ⟨p.sinceCleared ++ [s], p.sinceReset ++ [s]⟩ (b.push m (some s)).1 := by
  have hfresh : s ∉ b.seenSequences := by
    rw [h.seen, ← h.rejectsDuplicate_iff, hd]
    decide
  have hconfig := b.push_config m (some s)
  rw [push_fresh hd] at hconfig ⊢
  refine ⟨?_, ?_, ?_⟩
  · rw [hconfig]
    exact h.enabled
  · rw [hconfig]
    show (b.noted (some s)).seenSequences = _
    rw [noted_seenSequences, if_pos h.enabled, seenSequences_track, List.erase_of_not_mem hfresh,
      h.seen]
    exact rtake_concat p.sinceCleared s b.config.dedupWindow_pos
  · show (b.noted (some s)).lastSequenceId = _
    rw [noted_lastSequenceId, List.getLast?_concat]

/-- **One operation.** -/
theorem Windowed.apply (h : Windowed p b) (op : Op α σ) : Windowed (p.note b op) (b.apply op) := by
  cases op with
  | push m s =>
    cases s with
    | none => exact h.of_buffer _
    | some s =>
      show Windowed (if b.rejectsDuplicate (some s) then p else _) (b.push m (some s)).1
      cases hd : b.rejectsDuplicate (some s) with
      | true =>
        rw [push_duplicate hd]
        exact h
      | false => exact h.push m s hd
  -- these leave the ids alone, `clear` too
  | pop | drain | drainWithSequences | clear => exact h.of_buffer _
  | clearDedup => exact ⟨h.enabled, List.drop_nil.symm, h.last⟩
  | reset => exact ⟨h.enabled, List.drop_nil.symm, rfl⟩

theorem Windowed.run (h : Windowed p b) (ops : List (Op α σ)) :
    Windowed (passed p b ops) (b.run ops) := by
  induction ops generalizing p b with
  | nil => exact h
  | cons op ops ih => exact ih (h.apply op)

end Window

/-- **The window is exact.** With deduplication, after every sequence of operations, a push is
rejected exactly where its id is one of the last `dedup_window` that passed since the window was
cleared; these are what is seen, no more than there is room for and none twice; and the last
sequence id is the last that passed since the last `reset`. -/
theorem dedup_window (config : BufferConfig) (he : config.enableDedup = true)
    (ops : List (Op α σ)) :
    let b : MessageBuffer α σ := run (new (some config)) ops
    let p := passed .none (new (some config) : MessageBuffer α σ) ops
    (∀ m s, b.push m (some s) = (b, .ok false) ↔
      s ∈ p.sinceCleared.rtake config.dedupWindow) ∧
    b.seenSequences = p.sinceCleared.rtake config.dedupWindow ∧
    b.seenSequences.length ≤ config.dedupWindow ∧ b.seenSequences.Nodup ∧
    b.lastSequenceId = p.sinceReset.getLast? := by
  intro b p
  have hconfig : b.config = config := run_config _ ops
  have hvalid : Valid b := (valid_new (some config)).run ops
  have hwindow : Windowed p b := (windowed_new he).run ops
  have hlength := hvalid.window
  have hseen := hwindow.seen
  rw [hconfig] at hlength hseen
  refine ⟨fun m s => ?_, hseen, hlength, hvalid.nodup, hwindow.last⟩
  rw [rejected_iff hwindow.enabled, hwindow.rejectsDuplicate_iff, hconfig]

/-- A window of two, and three ids: the first is forgotten. -/
theorem dedup_window_two :
    let config : BufferConfig := { small with dedupWindow := 2, dedupWindow_pos := by decide }
    let ops : List (Op Nat Nat) :=
      [.push (some 10) (some 1), .pop, .push (some 20) (some 2), .push (some 30) (some 3),
        .push (some 20) (some 2)]
    let b := run (new (some config)) ops
    b.push (some 10) (some 2) = (b, .ok false) ↔
      2 ∈ (passed .none (new (some config)) ops).sinceCleared.rtake 2 :=
  (dedup_window { small with dedupWindow := 2, dedupWindow_pos := by decide } (by decide) _).1 _ _

end MessageBuffer
end JetSocket.Buffer
