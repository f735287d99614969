import Mathlib.Data.List.Perm.Basic
import Mathlib.Data.Multiset.AddSub

/- Cooperative tasks over a shared state: a pool is the state and the tasks, and a
   task's move replaces both its own record and the state, and may start tasks. Which
   moves a task has is not said here.

   The rules are those of interference freedom. `Each L` says of every task what it
   relies on in the shared state; `Each.move` keeps it where the moving task and the ones
   it starts re-establish their own part and no other task's part is disturbed.
   `AtMostOne P` says that at most one task has `P`; `AtMostOne.pass` keeps it where
   the moving task at most hands `P` on, `AtMostOne.take` where no other task had it. -/
namespace TaskPool

structure Pool (σ τ : Type*) where
  shared : σ
  tasks : List τ

/-- What one move of a task leaves: the shared state, the task itself, and the tasks it
started. -/
structure Move (σ τ : Type*) where
  shared : σ
  self : τ
  spawned : List τ := []

variable {σ τ : Type*}

namespace Pool

/-- Task `k` moves. -/
def move (p : Pool σ τ) (k : Nat) (m : Move σ τ) : Pool σ τ :=
  { shared := m.shared, tasks := p.tasks.set k m.self ++ m.spawned }

/-- A task from outside makes its first move. -/
def call (p : Pool σ τ) (m : Move σ τ) : Pool σ τ :=
  { shared := m.shared, tasks := p.tasks ++ m.self :: m.spawned }

/-- The shared state changes by itself. -/
def share (p : Pool σ τ) (s : σ) : Pool σ τ := { p with shared := s }

/-- Something about task `k` is noted in its record. -/
def note (p : Pool σ τ) (k : Nat) (f : τ → τ) : Pool σ τ := { p with tasks := p.tasks.modify k f }

/-- `L` of every task. -/
def Each (L : σ → Nat → τ → Prop) (p : Pool σ τ) : Prop :=
  ∀ k t, p.tasks[k]? = some t → L p.shared k t

/-- At most one task has `P`. -/
def AtMostOne (P : τ → Bool) (p : Pool σ τ) : Prop := p.tasks.countP P ≤ 1

variable {L : σ → Nat → τ → Prop} {P : τ → Bool} {p : Pool σ τ} {m : Move σ τ} {k : Nat}

@[simp] theorem shared_move : (p.move k m).shared = m.shared := rfl
@[simp] theorem shared_call : (p.call m).shared = m.shared := rfl
@[simp] theorem shared_share (s : σ) : (p.share s).shared = s := rfl
@[simp] theorem tasks_share (s : σ) : (p.share s).tasks = p.tasks := rfl
@[simp] theorem shared_note (f : τ → τ) : (p.note k f).shared = p.shared := rfl

/-! ## What every task relies on -/

/-- A task of the pool after a move: the one that moved, another one, or a new one. -/
theorem getElem?_move {j : Nat} {t : τ} (hk : k < p.tasks.length)
    (h : (p.move k m).tasks[j]? = some t) :
    (j = k ∧ t = m.self) ∨ (j ≠ k ∧ p.tasks[j]? = some t) ∨
      ∃ i, j = p.tasks.length + i ∧ m.spawned[i]? = some t := by
  simp only [move] at h
  by_cases hj : j < p.tasks.length
  · rw [List.getElem?_append_left (by rwa [List.length_set])] at h
    by_cases hjk : j = k
    · subst hjk
      rw [List.getElem?_set_self hk] at h
      exact .inl ⟨rfl, (Option.some.inj h).symm⟩
    · rw [List.getElem?_set_ne (Ne.symm hjk)] at h
      exact .inr (.inl ⟨hjk, h⟩)
  · rw [List.getElem?_append_right (by rw [List.length_set]; omega), List.length_set] at h
    exact .inr (.inr ⟨j - p.tasks.length, by omega, h⟩)

/-- The task that moved has its new record. -/
theorem getElem?_move_self (hk : k < p.tasks.length) : (p.move k m).tasks[k]? = some m.self := by
  simp only [move]
  rw [List.getElem?_append_left (by rwa [List.length_set]), List.getElem?_set_self hk]

/-- The other tasks have theirs. -/
theorem getElem?_move_ne {j : Nat} {t : τ} (hj : j ≠ k) (h : p.tasks[j]? = some t) :
    (p.move k m).tasks[j]? = some t := by
  have hlt : j < p.tasks.length := (List.getElem?_eq_some_iff.mp h).1
  simp only [move]
  rw [List.getElem?_append_left (by rwa [List.length_set]), List.getElem?_set_ne (Ne.symm hj)]
  exact h

/-- The new tasks come last. -/
theorem getElem?_move_spawned {i : Nat} {t : τ} (h : m.spawned[i]? = some t) :
    (p.move k m).tasks[p.tasks.length + i]? = some t := by
  simp only [move]
  rw [List.getElem?_append_right (by rw [List.length_set]; omega), List.length_set]
  rwa [Nat.add_sub_cancel_left]

/-- A task of the pool after a call: an old one, the caller, or a new one. -/
theorem getElem?_call {j : Nat} {t : τ} (h : (p.call m).tasks[j]? = some t) :
    p.tasks[j]? = some t ∨ (j = p.tasks.length ∧ t = m.self) ∨
      ∃ i, j = p.tasks.length + 1 + i ∧ m.spawned[i]? = some t := by
  simp only [call] at h
  by_cases hj : j < p.tasks.length
  · rw [List.getElem?_append_left hj] at h
    exact .inl h
  · rw [List.getElem?_append_right (by omega)] at h
    rcases Nat.eq_zero_or_pos (j - p.tasks.length) with h0 | h0
    · rw [h0] at h
      exact .inr (.inl ⟨by omega, (Option.some.inj h).symm⟩)
    · obtain ⟨i, hi⟩ : ∃ i, j - p.tasks.length = i + 1 := ⟨j - p.tasks.length - 1, by omega⟩
      rw [hi] at h
      exact .inr (.inr ⟨i, by omega, h⟩)

/-- The tasks other than `k`, whatever `k` does. -/
theorem exists_others {t : τ} (hk : p.tasks[k]? = some t) :
    ∃ others : Multiset τ, (p.tasks : Multiset τ) = t ::ₘ others ∧
      ∀ m : Move σ τ, ((p.move k m).tasks : Multiset τ) = m.self ::ₘ (others + m.spawned) := by
  obtain ⟨hlt, rfl⟩ := List.getElem?_eq_some_iff.mp hk
  refine ⟨(p.tasks.eraseIdx k : List τ), ?_, fun m => ?_⟩
  · exact (Multiset.coe_eq_coe.mpr (List.getElem_cons_eraseIdx_perm hlt)).symm
  · have hset := Multiset.coe_eq_coe.mpr (List.set_perm_cons_eraseIdx hlt m.self)
    unfold Pool.move
    rw [← Multiset.coe_add, hset, ← Multiset.cons_coe, Multiset.cons_add]

theorem Each.move (h : p.Each L) (hk : k < p.tasks.length) (self : L m.shared k m.self)
    (spawned : ∀ i t, m.spawned[i]? = some t → L m.shared (p.tasks.length + i) t)
    (stable : ∀ j t, j ≠ k → p.tasks[j]? = some t → L p.shared j t → L m.shared j t) :
    (p.move k m).Each L := by
  intro j t hj
  rcases getElem?_move hk hj with ⟨rfl, rfl⟩ | ⟨hne, ht⟩ | ⟨i, rfl, ht⟩
  · exact self
  · exact stable j t hne ht (h j t ht)
  · exact spawned i t ht

theorem Each.call (h : p.Each L) (self : L m.shared p.tasks.length m.self)
    (spawned : ∀ i t, m.spawned[i]? = some t → L m.shared (p.tasks.length + 1 + i) t)
    (stable : ∀ j t, p.tasks[j]? = some t → L p.shared j t → L m.shared j t) :
    (p.call m).Each L := by
  intro j t hj
  rcases getElem?_call hj with ht | ⟨rfl, rfl⟩ | ⟨i, rfl, ht⟩
  · exact stable j t ht (h j t ht)
  · exact self
  · exact spawned i t ht

theorem Each.share {s : σ} (h : p.Each L)
    (stable : ∀ j t, p.tasks[j]? = some t → L p.shared j t → L s j t) : (p.share s).Each L :=
  fun j t hj => stable j t hj (h j t hj)

theorem Each.note {f : τ → τ} (h : p.Each L) (hf : ∀ s j t, L s j t → L s j (f t)) :
    (p.note k f).Each L := by
  intro j t hj
  simp only [Pool.note, List.getElem?_modify] at hj
  cases ht : p.tasks[j]? with
  | none => simp [ht] at hj
  | some u =>
    rw [ht] at hj
    obtain rfl := Option.some.inj hj
    split
    · exact hf p.shared j u (h j u ht)
    · exact h j u ht

/-! ## At most one -/

/-- No second task has `P`. -/
theorem AtMostOne.unique (h : p.AtMostOne P) {i j : Nat} {s t : τ} (hi : p.tasks[i]? = some s)
    (hj : p.tasks[j]? = some t) (hs : P s = true) (ht : P t = true) : i = j := by
  unfold AtMostOne at h
  generalize p.tasks = ts at h hi hj
  induction ts generalizing i j with
  | nil => simp at hi
  | cons u ts ih =>
    -- Where the head has `P`, no task behind it does.
    have hlater : ∀ {n : Nat} {v : τ}, ts[n]? = some v → P v = true → P u = true → False := by
      intro n v hn hv hu
      rw [List.countP_cons_of_pos hu] at h
      have hpos : 0 < ts.countP P := List.countP_pos_iff.mpr ⟨v, List.mem_of_getElem? hn, hv⟩
      omega
    match i, j with
    | 0, 0 => rfl
    | 0, j + 1 =>
      simp only [List.getElem?_cons_zero, Option.some.injEq] at hi
      subst hi
      exact (hlater hj ht hs).elim
    | i + 1, 0 =>
      simp only [List.getElem?_cons_zero, Option.some.injEq] at hj
      subst hj
      exact (hlater hi hs ht).elim
    | i + 1, j + 1 =>
      have hle : ts.countP P ≤ 1 := by
        rw [List.countP_cons] at h
        omega
      rw [ih hle hi hj]

theorem countP_set_add {t : τ} (h : p.tasks[k]? = some t) (u : τ) :
    (p.tasks.set k u).countP P + [t].countP P = p.tasks.countP P + [u].countP P := by
  generalize p.tasks = ts at h
  induction ts generalizing k with
  | nil => simp at h
  | cons v ts ih =>
    cases k with
    | zero =>
      simp only [List.getElem?_cons_zero, Option.some.injEq] at h
      subst h
      simp only [List.set_cons_zero, List.countP_cons, List.countP_nil]
      omega
    | succ k =>
      have := ih h
      simp only [List.set_cons_succ, List.countP_cons] at this ⊢
      omega

/-- The moving task keeps `P`, drops it, or hands it to one task it starts. -/
theorem AtMostOne.pass (h : p.AtMostOne P) {t : τ} (hk : p.tasks[k]? = some t)
    (hm : (m.self :: m.spawned).countP P ≤ [t].countP P) : (p.move k m).AtMostOne P := by
  unfold AtMostOne at h ⊢
  have hset := countP_set_add (P := P) hk m.self
  have hcons : (m.self :: m.spawned).countP P = m.spawned.countP P + [m.self].countP P := by
    rw [List.countP_cons, List.countP_cons, List.countP_nil, Nat.zero_add]
  simp only [move, List.countP_append]
  omega

theorem countP_set_of_others {t : τ} (hk : p.tasks[k]? = some t)
    (hothers : ∀ j t, j ≠ k → p.tasks[j]? = some t → P t = false) (u : τ) :
    (p.tasks.set k u).countP P = [u].countP P := by
  generalize p.tasks = ts at hk hothers
  induction ts generalizing k with
  | nil => simp at hk
  | cons v ts ih =>
    cases k with
    | zero =>
      have htail : ts.countP P = 0 := by
        rw [List.countP_eq_zero]
        intro w hw
        obtain ⟨i, hi⟩ := List.mem_iff_getElem?.mp hw
        simp [hothers (i + 1) w (by omega) hi]
      simp only [List.set_cons_zero, List.countP_cons, List.countP_nil, htail]
    | succ k =>
      have hhead : P v = false := hothers 0 v (by omega) rfl
      have htail := ih hk (fun j w hj hw => hothers (j + 1) w (by omega) hw)
      rw [List.set_cons_succ, List.countP_cons_of_neg (by simp [hhead]), htail]

/-- The moving task takes `P` where no other task has it. -/
theorem AtMostOne.take {t : τ} (hk : p.tasks[k]? = some t)
    (hothers : ∀ j t, j ≠ k → p.tasks[j]? = some t → P t = false)
    (hm : (m.self :: m.spawned).countP P ≤ 1) : (p.move k m).AtMostOne P := by
  have hcons : (m.self :: m.spawned).countP P = m.spawned.countP P + [m.self].countP P := by
    rw [List.countP_cons, List.countP_cons, List.countP_nil, Nat.zero_add]
  unfold AtMostOne
  simp only [move, List.countP_append]
  rw [countP_set_of_others hk hothers]
  omega

/-- A caller without `P` that starts no task with it. -/
theorem AtMostOne.call (h : p.AtMostOne P) (hm : (m.self :: m.spawned).countP P = 0) :
    (p.call m).AtMostOne P := by
  unfold AtMostOne at h ⊢
  simp only [Pool.call, List.countP_append]
  omega

/-- A caller with `P`, where no task had it. -/
theorem AtMostOne.call_take (hnone : ∀ (j : Nat) (t : τ), p.tasks[j]? = some t → P t = false)
    (hm : (m.self :: m.spawned).countP P ≤ 1) : (p.call m).AtMostOne P := by
  have hzero : p.tasks.countP P = 0 := by
    rw [List.countP_eq_zero]
    intro w hw
    obtain ⟨i, hi⟩ := List.mem_iff_getElem?.mp hw
    simp [hnone i w hi]
  unfold AtMostOne
  simp only [Pool.call, List.countP_append]
  omega

theorem AtMostOne.share (h : p.AtMostOne P) (s : σ) : (p.share s).AtMostOne P := h

theorem AtMostOne.note {f : τ → τ} (h : p.AtMostOne P) (hf : ∀ t, P (f t) = P t) :
    (p.note k f).AtMostOne P := by
  unfold AtMostOne at h ⊢
  have hcount : (p.tasks.modify k f).countP P = p.tasks.countP P := by
    generalize p.tasks = ts
    induction ts generalizing k with
    | nil => simp
    | cons v ts ih =>
      cases k with
      | zero => simp [List.modify_cons, List.countP_cons, hf]
      | succ k => simp [List.countP_cons, ih]
  simp only [Pool.note]
  omega

end Pool
end TaskPool
