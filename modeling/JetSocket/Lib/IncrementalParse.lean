import Mathlib.Data.List.Basic

/- Incremental parsing of a stream that arrives in chunks. A `Step` looks at the
   front of a buffer and gives an item with the length it took, nothing yet, or a
   refusal; `drain` takes items until the step gives none, and `feed` appends a
   chunk and drains.

   A step is `PrefixStable` when what it decides about a buffer it also decides
   about every longer one. For such a step the cuts of the stream do not matter:
   `feedAll_flatten` says that feeding any chunks one by one gives the items, the
   consumed length and the rest of the buffer that one drain of the whole stream
   gives, and `feedAll_refused` that it is refused when the whole stream is. -/
namespace Incremental

variable {α β ε : Type}

/-- One look at the front of a buffer. -/
abbrev Step (α β ε : Type) := List α → Except ε (Option (β × Nat))

/-- What is left in the buffer, and the items taken with their total length, or
the refusal that stopped the drain. -/
abbrev Drained (α β ε : Type) := List α × Except ε (List β × Nat)

/-- A decision of the step stands on every longer buffer, and an item takes at
least one element and no more than there are. -/
structure PrefixStable (step : Step α β ε) : Prop where
  nil : step [] = .ok none
  consumed : ∀ {b f n}, step b = .ok (some (f, n)) → 0 < n ∧ n ≤ b.length
  item : ∀ {b r} (c : List α), step b = .ok (some r) → step (b ++ c) = .ok (some r)
  refuse : ∀ {b e} (c : List α), step b = .error e → step (b ++ c) = .error e

/-- Put items taken earlier in front of what a drain gave. -/
def Drained.after (fs : List β) (n : Nat) (t : Drained α β ε) : Drained α β ε :=
  (t.1, t.2.map (fun u => (fs ++ u.1, n + u.2)))

/-- At most `fuel` items. -/
def drainFuel (step : Step α β ε) : Nat → List α → Drained α β ε
  | 0, b => (b, .ok ([], 0))
  | fuel + 1, b =>
    match step b with
    | .error e => (b, .error e)
    | .ok none => (b, .ok ([], 0))
    | .ok (some (f, n)) => (drainFuel step fuel (b.drop n)).after [f] n

/-- Take items until the step gives none. Every item takes an element, so the
buffer's length bounds their number. -/
def drain (step : Step α β ε) (b : List α) : Drained α β ε := drainFuel step (b.length + 1) b

/-- Append a chunk to the buffer and drain. -/
def feed (step : Step α β ε) (b data : List α) : Drained α β ε := drain step (b ++ data)

/-- Feed the chunks one by one, up to the first refusal. -/
def feedAll (step : Step α β ε) : List α → List (List α) → Drained α β ε
  | b, [] => (b, .ok ([], 0))
  | b, c :: cs =>
    match feed step b c with
    | (r, .error e) => (r, .error e)
    | (r, .ok (fs, n)) => (feedAll step r cs).after fs n

@[simp] theorem Drained.after_nil (t : Drained α β ε) : t.after [] 0 = t := by
  obtain ⟨r, o⟩ := t
  cases o <;> simp [Drained.after, Except.map]

@[simp] theorem Drained.after_ok (fs gs : List β) (m n : Nat) (r : List α) :
    Drained.after (ε := ε) fs m (r, .ok (gs, n)) = (r, .ok (fs ++ gs, m + n)) := rfl

@[simp] theorem Drained.after_error (fs : List β) (m : Nat) (r : List α) (e : ε) :
    Drained.after fs m (r, .error e) = (r, .error e) := rfl

theorem Drained.after_after (fs gs : List β) (m n : Nat) (t : Drained α β ε) :
    (t.after gs n).after fs m = t.after (fs ++ gs) (m + n) := by
  obtain ⟨r, o⟩ := t
  cases o with
  | error e => rfl
  | ok u =>
    obtain ⟨is, k⟩ := u
    simp only [Drained.after_ok, List.append_assoc, Nat.add_assoc]

/-- An outcome after earlier items is ok exactly when it was ok before them. -/
theorem Drained.after_eq_ok {fs gs : List β} {m k : Nat} {t : Drained α β ε} {r : List α}
    (h : t.after fs m = (r, .ok (gs, k))) :
    ∃ gs' k', t = (r, .ok (gs', k')) ∧ gs = fs ++ gs' ∧ k = m + k' := by
  obtain ⟨r', o⟩ := t
  cases o with
  | error e => simp at h
  | ok u =>
    obtain ⟨gs', k'⟩ := u
    simp only [Drained.after_ok, Prod.mk.injEq, Except.ok.injEq] at h
    obtain ⟨rfl, rfl, rfl⟩ := h
    exact ⟨gs', k', rfl, rfl, rfl⟩

section Stable
variable {step : Step α β ε} (hs : PrefixStable step)
include hs

/-- Fuel above the buffer's length is all the same. -/
theorem drainFuel_enough : ∀ (fuel : Nat) (b : List α), b.length < fuel →
    drainFuel step fuel b = drain step b := by
  have agree : ∀ (k l : Nat) (b : List α), b.length < k → b.length < l →
      drainFuel step k b = drainFuel step l b := by
    intro k
    induction k with
    | zero => intro l b h _; omega
    | succ k ih =>
      intro l b hk hl
      cases l with
      | zero => omega
      | succ l =>
        simp only [drainFuel]
        cases hb : step b with
        | error e => rfl
        | ok o =>
          cases o with
          | none => rfl
          | some r =>
            obtain ⟨f, n⟩ := r
            have hn := hs.consumed hb
            have hlen : (b.drop n).length = b.length - n := List.length_drop
            simp only [ih l (b.drop n) (by omega) (by omega)]
  intro fuel b h
  exact agree fuel (b.length + 1) b h (Nat.lt_succ_self _)

omit hs in
theorem drain_none {b : List α} (h : step b = .ok none) : drain step b = (b, .ok ([], 0)) := by
  simp only [drain, drainFuel, h]

omit hs in
theorem drain_error {b : List α} {e : ε} (h : step b = .error e) :
    drain step b = (b, .error e) := by
  simp only [drain, drainFuel, h]

theorem drain_item {b : List α} {f : β} {n : Nat} (h : step b = .ok (some (f, n))) :
    drain step b = (drain step (b.drop n)).after [f] n := by
  have hn := hs.consumed h
  have hlen : (b.drop n).length = b.length - n := List.length_drop
  rw [drain, drainFuel, h]
  simp only [drainFuel_enough hs b.length (b.drop n) (by omega)]

/-- One item in front of a tail. -/
theorem drain_cons {b : List α} {f : β} (c : List α) (h : step b = .ok (some (f, b.length))) :
    drain step (b ++ c) = (drain step c).after [f] b.length := by
  rw [drain_item hs (hs.item c h), List.drop_left]

/-- Blocks that are one item each, in front of a tail. -/
theorem drain_blocks : ∀ (blocks : List (List α × β)) (c : List α),
    (∀ x ∈ blocks, step x.1 = .ok (some (x.2, x.1.length))) →
    drain step ((blocks.map Prod.fst).flatten ++ c) =
      (drain step c).after (blocks.map Prod.snd) (blocks.map Prod.fst).flatten.length
  | [], c, _ => by simp
  | x :: rest, c, h => by
    have hx := h x List.mem_cons_self
    have ih := drain_blocks rest c (fun y hy => h y (List.mem_cons_of_mem x hy))
    simp only [List.map_cons, List.flatten_cons, List.append_assoc, List.length_append]
    rw [drain_cons hs _ hx, ih, Drained.after_after, List.singleton_append]

theorem drain_induct (P : List α → Prop) (hnone : ∀ b, step b = .ok none → P b)
    (herr : ∀ b e, step b = .error e → P b)
    (hitem : ∀ b f n, step b = .ok (some (f, n)) → P (b.drop n) → P b) : ∀ b, P b := by
  intro b
  induction hl : b.length using Nat.strongRecOn generalizing b with
  | ind k ih =>
    cases hb : step b with
    | error e => exact herr b e hb
    | ok o =>
      cases o with
      | none => exact hnone b hb
      | some r =>
        obtain ⟨f, n⟩ := r
        have hn := hs.consumed hb
        exact hitem b f n hb (ih (b.drop n).length (by rw [List.length_drop]; omega) _ rfl)

/-- Induction on a drain that ends without an error. -/
theorem drain_ok_induct {P : List α → List α → List β → Nat → Prop}
    (hnone : ∀ b, step b = .ok none → P b b [] 0)
    (hitem : ∀ {b r f k gs m}, step b = .ok (some (f, k)) → P (b.drop k) r gs m →
      P b r (f :: gs) (k + m)) :
    ∀ (b r : List α) (fs : List β) (n : Nat), drain step b = (r, .ok (fs, n)) → P b r fs n := by
  intro b
  induction b using drain_induct hs with
  | hnone b hb =>
    intro r fs n h
    rw [drain_none hb] at h
    simp only [Prod.mk.injEq, Except.ok.injEq] at h
    obtain ⟨rfl, rfl, rfl⟩ := h
    exact hnone b hb
  | herr b e hb =>
    intro r fs n h
    rw [drain_error hb] at h
    simp at h
  | hitem b f k hb ih =>
    intro r fs n h
    rw [drain_item hs hb] at h
    obtain ⟨gs, m, ht, rfl, rfl⟩ := Drained.after_eq_ok h
    exact hitem hb (ih r gs m ht)

/-- What a drain leaves is the part of the buffer after what it consumed, and the
step finds no item there. -/
theorem drain_rest : ∀ (b r : List α) (fs : List β) (n : Nat),
    drain step b = (r, .ok (fs, n)) → n ≤ b.length ∧ r = b.drop n ∧ step r = .ok none := by
  apply drain_ok_induct hs (P := fun b r _ n => n ≤ b.length ∧ r = b.drop n ∧ step r = .ok none)
  · exact fun b hb => ⟨Nat.zero_le _, rfl, hb⟩
  · intro b r f k gs m hb ih
    obtain ⟨hm, hr, hnone⟩ := ih
    have hk := hs.consumed hb
    rw [List.length_drop] at hm
    refine ⟨by omega, ?_, hnone⟩
    rw [hr, List.drop_drop]

/-- What a refused drain leaves is refused again. -/
theorem drain_refused_rest {e : ε} : ∀ b r : List α, drain step b = (r, .error e) →
    step r = .error e := by
  intro b
  induction b using drain_induct hs with
  | hnone b hb =>
    intro r h
    rw [drain_none hb] at h
    simp at h
  | herr b e' hb =>
    intro r h
    rw [drain_error hb] at h
    simp only [Prod.mk.injEq, Except.error.injEq] at h
    rw [← h.1, hb, h.2]
  | hitem b f n hb ih =>
    intro r h
    rw [drain_item hs hb] at h
    rcases hd : drain step (b.drop n) with ⟨r', e' | ⟨fs, m⟩⟩
    · rw [hd, Drained.after_error] at h
      simp only [Prod.mk.injEq, Except.error.injEq] at h
      exact ih r (by rw [hd, h.1, h.2])
    · rw [hd, Drained.after_ok] at h
      simp at h

/-- **A refusal stands**: behind what is refused, every chunk is refused for the same reason. -/
theorem feed_refused_again {e : ε} {b : List α} (h : step b = .error e) (c : List α) :
    feed step b c = (b ++ c, .error e) := drain_error (hs.refuse c h)

/-- What the step ensures of an item holds of every item of a drain. -/
theorem drain_items {P : β → Prop} (hP : ∀ b f n, step b = .ok (some (f, n)) → P f) :
    ∀ (b r : List α) (fs : List β) (n : Nat), drain step b = (r, .ok (fs, n)) → ∀ f ∈ fs, P f := by
  apply drain_ok_induct hs (P := fun _ _ fs _ => ∀ f ∈ fs, P f)
  · exact fun _ _ _ hf => absurd hf List.not_mem_nil
  · intro b r f k gs m hb ih g hg
    rcases List.mem_cons.mp hg with rfl | hg
    · exact hP b g k hb
    · exact ih g hg

/-- A drain without items consumes nothing; with one item, what that item takes. -/
theorem drain_few : ∀ (b r : List α) (fs : List β) (n : Nat), drain step b = (r, .ok (fs, n)) →
    (fs = [] → n = 0) ∧ ∀ f, fs = [f] → step b = .ok (some (f, n)) := by
  apply drain_ok_induct hs
    (P := fun b _ fs n => (fs = [] → n = 0) ∧ ∀ f, fs = [f] → step b = .ok (some (f, n)))
  · exact fun b hb => ⟨fun _ => rfl, fun f hf => by cases hf⟩
  · intro b r f k gs m hb ih
    refine ⟨fun h => (List.cons_ne_nil f gs h).elim, fun g hg => ?_⟩
    obtain ⟨rfl, rfl⟩ := List.cons.inj hg
    rw [ih.1 rfl, Nat.add_zero, hb]

/-- A drain of a longer buffer goes on from where the shorter one stopped. -/
theorem drain_append : ∀ (b c : List α),
    drain step (b ++ c) =
      match drain step b with
      | (r, .ok (fs, n)) => (drain step (r ++ c)).after fs n
      | (r, .error e) => (r ++ c, .error e) := by
  intro b
  induction b using drain_induct hs with
  | hnone b hb => intro c; rw [drain_none hb]; simp
  | herr b e hb => intro c; rw [drain_error hb, drain_error (hs.refuse c hb)]
  | hitem b f n hb ih =>
    intro c
    have hn := hs.consumed hb
    rw [drain_item hs (hs.item c hb), drain_item hs hb, List.drop_append_of_le_length hn.2, ih c]
    rcases drain step (b.drop n) with ⟨r, _ | ⟨fs, m⟩⟩
    · rfl
    · simp only [Drained.after_ok, Drained.after_after]

/-- **Chunks do not matter.** When the whole stream drains, so does every chunk of
any cut of it, to the same items, length and rest. -/
theorem feedAll_flatten : ∀ (cs : List (List α)) (b r : List α) (fs : List β) (n : Nat),
    step b = .ok none → drain step (b ++ cs.flatten) = (r, .ok (fs, n)) →
    feedAll step b cs = (r, .ok (fs, n))
  | [], b, r, fs, n, hb, h => by
    rw [List.flatten_nil, List.append_nil, drain_none hb] at h
    exact h
  | c :: cs, b, r, fs, n, hb, h => by
    rw [List.flatten_cons, ← List.append_assoc, drain_append hs (b ++ c)] at h
    simp only [feedAll, feed]
    cases hd : drain step (b ++ c) with
    | mk r₁ o =>
      cases o with
      | error e => simp [hd] at h
      | ok u =>
        obtain ⟨fs₁, n₁⟩ := u
        simp only [hd] at h ⊢
        obtain ⟨fs₂, n₂, ht, rfl, rfl⟩ := Drained.after_eq_ok h
        have hquiet := (drain_rest hs _ _ _ _ hd).2.2
        rw [feedAll_flatten cs r₁ r fs₂ n₂ hquiet ht, Drained.after_ok]

/-- A cut of a refused stream is refused, for the same reason. -/
theorem feedAll_refused : ∀ (cs : List (List α)) (b r : List α) (e : ε),
    step b = .ok none → drain step (b ++ cs.flatten) = (r, .error e) →
    ∃ r', feedAll step b cs = (r', .error e)
  | [], b, r, e, hb, h => by
    rw [List.flatten_nil, List.append_nil, drain_none hb] at h
    simp at h
  | c :: cs, b, r, e, hb, h => by
    rw [List.flatten_cons, ← List.append_assoc, drain_append hs (b ++ c)] at h
    simp only [feedAll, feed]
    cases hd : drain step (b ++ c) with
    | mk r₁ o =>
      cases o with
      | error e₁ =>
        simp only [hd, Prod.mk.injEq, Except.error.injEq] at h
        exact ⟨r₁, by rw [h.2]⟩
      | ok u =>
        obtain ⟨fs₁, n₁⟩ := u
        simp only [hd] at h ⊢
        have hquiet := (drain_rest hs _ _ _ _ hd).2.2
        cases ht : drain step (r₁ ++ cs.flatten) with
        | mk r₂ o₂ =>
          cases o₂ with
          | ok v => obtain ⟨gs, m⟩ := v; simp [ht] at h
          | error e₂ =>
            simp only [ht, Drained.after_error, Prod.mk.injEq, Except.error.injEq] at h
            obtain ⟨r', hr'⟩ := feedAll_refused cs r₁ r₂ e₂ hquiet ht
            exact ⟨r', by rw [hr', Drained.after_error, h.2]⟩

end Stable

/-! ## Blocks

A block is a list of elements that is one item by itself. Where items do not look behind
themselves (`Exact`), a stream is refused exactly when it is blocks with a refusal behind them,
and what is left in the buffer by chunks is the stream without its first blocks, whether or not
they were refused. -/

/-- Blocks, with the items that they are. -/
def Items (step : Step α β ε) (blocks : List (List α × β)) : Prop :=
  ∀ x ∈ blocks, step x.1 = .ok (some (x.2, x.1.length))

/-- The elements of the blocks. -/
def elements (blocks : List (List α × β)) : List α := (blocks.map Prod.fst).flatten

/-- An item is found in its own elements. -/
def Exact (step : Step α β ε) : Prop :=
  ∀ {b f n}, step b = .ok (some (f, n)) → step (b.take n) = .ok (some (f, n))

/-- The buffer after the chunks, whatever the step said of them. -/
def leftover (step : Step α β ε) : List α → List (List α) → List α
  | b, [] => b
  | b, c :: cs => leftover step (feed step b c).1 cs

/-- The items returned before the first refusal. -/
def handed (step : Step α β ε) : List α → List (List α) → List β
  | _, [] => []
  | b, c :: cs =>
    match feed step b c with
    | (_, .error _) => []
    | (r, .ok (fs, _)) => fs ++ handed step r cs

theorem elements_cons (x : List α × β) (blocks : List (List α × β)) :
    elements (x :: blocks) = x.1 ++ elements blocks := rfl

theorem elements_append (blocks blocks' : List (List α × β)) :
    elements (blocks ++ blocks') = elements blocks ++ elements blocks' := by
  unfold elements
  rw [List.map_append, List.flatten_append]

theorem Items.nil (step : Step α β ε) : Items step [] := by
  intro x hx
  cases hx

theorem Items.tail {step : Step α β ε} {x : List α × β} {blocks : List (List α × β)}
    (h : Items step (x :: blocks)) : Items step blocks :=
  fun y hy => h y (List.mem_cons_of_mem x hy)

theorem Items.append {step : Step α β ε} {blocks blocks' : List (List α × β)}
    (h : Items step blocks) (h' : Items step blocks') : Items step (blocks ++ blocks') := by
  intro x hx
  obtain hx | hx := List.mem_append.mp hx
  · exact h x hx
  · exact h' x hx

/-- The blocks that are not whole within the first `n` elements. -/
def behind (n : Nat) : List (List α × β) → List (List α × β)
  | [] => []
  | x :: blocks => if x.1.length ≤ n then behind (n - x.1.length) blocks else x :: blocks

/-- Blocks that are whole count for what they take. -/
theorem behind_whole (now later : List (List α × β)) (n : Nat) :
    behind ((elements now).length + n) (now ++ later) = behind n later := by
  induction now with
  | nil => rw [List.nil_append, elements, List.map_nil, List.flatten_nil, List.length_nil, Nat.zero_add]
  | cons x now ih =>
    rw [elements_cons, List.length_append, List.cons_append, behind, if_pos (by omega),
      show x.1.length + (elements now).length + n - x.1.length = (elements now).length + n by omega]
    exact ih

/-- A last block that is not whole stays. -/
theorem behind_snoc (blocks : List (List α × β)) (x : List α × β) : ∀ {n : Nat},
    n < (elements (blocks ++ [x])).length → behind n (blocks ++ [x]) = behind n blocks ++ [x] := by
  induction blocks with
  | nil =>
    intro n hn
    simp only [List.nil_append, elements, List.map_cons, List.map_nil, List.flatten_cons,
      List.flatten_nil, List.append_nil] at hn
    simp only [List.nil_append, behind, if_neg (Nat.not_le.mpr hn)]
  | cons y blocks ih =>
    intro n hn
    rw [List.cons_append, elements_cons, List.length_append] at hn
    rw [List.cons_append, behind, behind]
    split
    · exact ih (by omega)
    · rfl

section Blocks
variable {step : Step α β ε} (hs : PrefixStable step)
include hs

/-- No block is whole within nothing. -/
theorem behind_zero {blocks : List (List α × β)} (h : Items step blocks) :
    behind 0 blocks = blocks := by
  cases blocks with
  | nil => rfl
  | cons x blocks =>
    have hconsumed := (hs.consumed (h x List.mem_cons_self)).1
    rw [behind, if_neg (by omega)]

/-- A part of a stream has its first block whole, or the step finds nothing in it yet. -/
theorem first_block {x s more rest : List α} {f : β} (hx : step x = .ok (some (f, x.length)))
    (hsplit : s ++ more = x ++ rest) :
    (∃ s', s = x ++ s' ∧ s' ++ more = rest) ∨ s.length < x.length ∧ step s = .ok none := by
  obtain ⟨x', hx', hmore⟩ | ⟨s', hs', hrest⟩ := List.append_eq_append_iff.mp hsplit
  · cases x' with
    | nil =>
      rw [List.append_nil] at hx'
      exact .inl ⟨[], by rw [hx', List.append_nil], hmore⟩
    | cons a x' =>
      have hlt : s.length < x.length := by
        rw [hx', List.length_append, List.length_cons]
        omega
      refine .inr ⟨hlt, ?_⟩
      -- what the step decided about the part, it would decide about the block
      cases hstep : step s with
      | error e =>
        rw [hx', hs.refuse (a :: x') hstep] at hx
        cases hx
      | ok o =>
        cases o with
        | none => rfl
        | some item =>
          have hitem := hs.item (a :: x') hstep
          rw [← hx', hx] at hitem
          cases hitem
          have hconsumed := (hs.consumed hstep).2
          omega
  · exact .inl ⟨s', hs', hrest.symm⟩

/-- **A part of blocks** drains to those that are whole in it. -/
theorem drain_within (blocks : List (List α × β)) : ∀ {s more : List α}, Items step blocks →
    s ++ more = elements blocks → ∃ now tail, blocks = now ++ behind s.length blocks ∧
      s = elements now ++ tail ∧
      drain step s = (tail, .ok (now.map Prod.snd, (elements now).length)) := by
  induction blocks with
  | nil =>
    intro s more _ hsplit
    obtain ⟨rfl, -⟩ := List.append_eq_nil_iff.mp hsplit
    exact ⟨[], [], rfl, rfl, drain_none hs.nil⟩
  | cons x blocks ih =>
    intro s more hblocks hsplit
    have hx := hblocks x List.mem_cons_self
    rw [elements_cons] at hsplit
    rw [behind]
    obtain ⟨s', rfl, hrest⟩ | ⟨hlt, hnone⟩ := first_block hs hx hsplit
    · have hle : x.1.length ≤ (x.1 ++ s').length := by
        rw [List.length_append]
        exact Nat.le_add_right _ _
      obtain ⟨now, tail, hblk, hs', hdrain⟩ := ih hblocks.tail hrest
      refine ⟨x :: now, tail, ?_, ?_, ?_⟩
      · rw [if_pos hle, List.length_append, Nat.add_sub_cancel_left, List.cons_append, ← hblk]
      · rw [elements_cons, List.append_assoc, ← hs']
      · rw [drain_cons hs s' hx, hdrain, Drained.after_ok, elements_cons, List.length_append]
        rfl
    · rw [if_neg (Nat.not_le.mpr hlt)]
      exact ⟨[], s, rfl, rfl, drain_none hnone⟩

/-- What a drain takes off is blocks. -/
theorem drain_split (hx : Exact step) : ∀ b : List α, ∃ blocks : List (List α × β),
    Items step blocks ∧ b = elements blocks ++ (drain step b).1 ∧
      (∀ e, (drain step b).2 = .error e → step (drain step b).1 = .error e) := by
  intro b
  induction b using drain_induct hs with
  | hnone b hb =>
    refine ⟨[], Items.nil step, ?_, ?_⟩
    · rw [drain_none hb]
      rfl
    · intro e he
      rw [drain_none hb] at he
      cases he
  | herr b e hb =>
    refine ⟨[], Items.nil step, ?_, ?_⟩
    · rw [drain_error hb]
      rfl
    · intro e' he
      rw [drain_error hb] at he ⊢
      cases he
      exact hb
  | hitem b f n hb ih =>
    obtain ⟨blocks, hblocks, helements, hrefused⟩ := ih
    have hn := hs.consumed hb
    have hdrain := drain_item hs hb
    have hrest : (drain step b).1 = (drain step (b.drop n)).1 := by rw [hdrain]; rfl
    refine ⟨(b.take n, f) :: blocks, ?_, ?_, ?_⟩
    · intro x hmem
      obtain rfl | hmem := List.mem_cons.mp hmem
      · rw [List.length_take, Nat.min_eq_left hn.2]
        exact hx hb
      · exact hblocks x hmem
    · rw [elements_cons, List.append_assoc, hrest, ← helements, List.take_append_drop]
    · intro e he
      rw [hrest]
      apply hrefused e
      rw [hdrain] at he
      cases ho : (drain step (b.drop n)).2 with
      | error e' =>
        have he' : (drain step (b.drop n)).2.map _ = .error e := he
        rw [ho] at he'
        exact he'
      | ok u =>
        have he' : (drain step (b.drop n)).2.map _ = .error e := he
        rw [ho] at he'
        cases he'

/-- Blocks in front change nothing about a refusal. -/
theorem refused_behind {blocks : List (List α × β)} (h : Items step blocks) (b : List α) (e : ε) :
    (drain step (elements blocks ++ b)).2 = .error e ↔ (drain step b).2 = .error e := by
  unfold elements
  rw [drain_blocks hs blocks b h]
  obtain ⟨r, o⟩ := drain step b
  cases o with
  | error e' => exact Iff.rfl
  | ok u =>
    obtain ⟨fs, n⟩ := u
    constructor <;> intro hf <;> cases hf

/-- **A stream is refused** exactly when a refusal is behind its blocks. -/
theorem refused_iff (hx : Exact step) (b : List α) (e : ε) :
    (drain step b).2 = .error e ↔ ∃ blocks rest, Items step blocks ∧
      b = elements blocks ++ rest ∧ step rest = .error e := by
  constructor
  · intro h
    obtain ⟨blocks, hblocks, helements, hrefused⟩ := drain_split hs hx b
    exact ⟨blocks, _, hblocks, helements, hrefused e h⟩
  · rintro ⟨blocks, rest, hblocks, rfl, hrest⟩
    rw [refused_behind hs hblocks, drain_error hrest]

/-- Chunks leave the stream without its first blocks. -/
theorem leftover_split (hx : Exact step) (b : List α) (cs : List (List α)) :
    ∃ blocks : List (List α × β), Items step blocks ∧
      b ++ cs.flatten = elements blocks ++ leftover step b cs := by
  induction cs generalizing b with
  | nil => exact ⟨[], Items.nil step, List.append_nil b⟩
  | cons c cs ih =>
    obtain ⟨blocks, hblocks, helements, -⟩ := drain_split hs hx (b ++ c)
    obtain ⟨blocks', hblocks', helements'⟩ := ih (feed step b c).1
    refine ⟨blocks ++ blocks', hblocks.append hblocks', ?_⟩
    have hfeed : (drain step (b ++ c)).1 = (feed step b c).1 := rfl
    rw [List.flatten_cons, ← List.append_assoc, helements, hfeed, List.append_assoc, helements',
      elements_append, List.append_assoc]
    rfl

/-- **Whatever came before**, a chunk is refused exactly when the stream so far is. -/
theorem feed_refused_iff (hx : Exact step) (cs : List (List α)) (c : List α) (e : ε) :
    (feed step (leftover step [] cs) c).2 = .error e ↔ ∃ blocks rest, Items step blocks ∧
      cs.flatten ++ c = elements blocks ++ rest ∧ step rest = .error e := by
  obtain ⟨blocks, hblocks, helements⟩ := leftover_split hs hx [] cs
  have hstream : cs.flatten ++ c = elements blocks ++ (leftover step [] cs ++ c) := by
    rw [← List.append_assoc, ← helements, List.nil_append]
  rw [← refused_iff hs hx, hstream, refused_behind hs hblocks]
  rfl

/-! ## The items in front of a refusal -/

omit hs in
theorem handed_ok {b c r : List α} {fs : List β} {n : Nat} (h : feed step b c = (r, .ok (fs, n)))
    (cs : List (List α)) : handed step b (c :: cs) = fs ++ handed step r cs := by
  rw [handed, h]

omit hs in
theorem handed_error {b c r : List α} {e : ε} (h : feed step b c = (r, .error e))
    (cs : List (List α)) : handed step b (c :: cs) = [] := by
  rw [handed, h]

/-- Nothing is handed over where the first thing there is refused. -/
theorem handed_refused {e : ε} (cs : List (List α)) : ∀ b : List α, step b = .ok none →
    step (b ++ cs.flatten) = .error e → handed step b cs = [] := by
  induction cs with
  | nil => exact fun _ _ _ => rfl
  | cons c cs ih =>
    intro b hb he
    rw [List.flatten_cons, ← List.append_assoc] at he
    cases hc : step (b ++ c) with
    | error e' => exact handed_error (drain_error hc) cs
    | ok o =>
      cases o with
      | none =>
        rw [handed_ok (drain_none hc), ih (b ++ c) hc he]
        rfl
      | some item =>
        rw [hs.item cs.flatten hc] at he
        cases he

omit hs in
theorem handed_append (early late : List (List α)) : ∀ {b r : List α} {fs : List β} {n : Nat},
    feedAll step b early = (r, .ok (fs, n)) →
    handed step b (early ++ late) = fs ++ handed step r late := by
  induction early with
  | nil =>
    intro b r fs n h
    cases h
    rfl
  | cons c early ih =>
    intro b r fs n h
    unfold feedAll at h
    cases hc : feed step b c with
    | mk r₁ o =>
      rw [hc] at h
      cases o with
      | error e => cases h
      | ok u =>
        obtain ⟨gs, m⟩ := u
        obtain ⟨fs', n', hrest, rfl, -⟩ := Drained.after_eq_ok h
        rw [List.cons_append, handed_ok hc, ih hrest, List.append_assoc]

omit hs in
/-- What is handed over comes from chunks that were all taken. -/
theorem handed_early (step : Step α β ε) (cs : List (List α)) : ∀ b : List α,
    ∃ early late r n, cs = early ++ late ∧ feedAll step b early = (r, .ok (handed step b cs, n)) := by
  induction cs with
  | nil => exact fun b => ⟨[], [], b, 0, rfl, rfl⟩
  | cons c cs ih =>
    intro b
    cases hc : feed step b c with
    | mk r₁ o =>
      cases o with
      | error e =>
        refine ⟨[], c :: cs, b, 0, rfl, ?_⟩
        rw [handed_error hc]
        rfl
      | ok u =>
        obtain ⟨gs, m⟩ := u
        obtain ⟨early, late, r, n, rfl, hearly⟩ := ih r₁
        refine ⟨c :: early, late, r, m + n, rfl, ?_⟩
        unfold feedAll
        rw [hc]
        simp only [hearly, handed_ok hc]
        rfl

/-- Chunks that were all taken drain as one. -/
theorem drain_of_feedAll {b r : List α} {cs : List (List α)} {fs : List β} {n : Nat}
    (hb : step b = .ok none) (h : feedAll step b cs = (r, .ok (fs, n))) :
    drain step (b ++ cs.flatten) = (r, .ok (fs, n)) := by
  cases hd : drain step (b ++ cs.flatten) with
  | mk r' o =>
    cases o with
    | error e =>
      obtain ⟨r'', hr⟩ := feedAll_refused hs cs b r' e hb hd
      rw [hr] at h
      cases h
    | ok u =>
      obtain ⟨gs, m⟩ := u
      rw [feedAll_flatten hs cs b r' gs m hb hd] at h
      exact h

/-- A part of a stream that drains to as many items as there are blocks has all of these. -/
theorem covers_blocks {rest : List α} (blocks : List (List α × β)) :
    ∀ {s more r : List α} {fs : List β} {n : Nat}, Items step blocks →
      s ++ more = elements blocks ++ rest → drain step s = (r, .ok (fs, n)) →
      fs.length = blocks.length → ∃ tail, s = elements blocks ++ tail := by
  induction blocks with
  | nil => exact fun {s _ _ _ _} _ _ _ _ => ⟨s, rfl⟩
  | cons x blocks ih =>
    intro s more r fs n hblocks hsplit hdrain hlength
    have hx := hblocks x List.mem_cons_self
    rw [elements_cons, List.append_assoc] at hsplit
    obtain ⟨s', rfl, hrest⟩ | ⟨-, hnone⟩ := first_block hs hx hsplit
    · rw [drain_cons hs s' hx] at hdrain
      obtain ⟨gs, m, hdrain', rfl, -⟩ := Drained.after_eq_ok hdrain
      have hlength' : gs.length = blocks.length := by simpa using hlength
      obtain ⟨tail, rfl⟩ := ih hblocks.tail hrest hdrain' hlength'
      exact ⟨tail, by rw [elements_cons, List.append_assoc]⟩
    · rw [drain_none hnone] at hdrain
      cases hdrain
      cases hlength

/-- **The items in front of a refusal** are handed over exactly when some chunk ends behind them
and in front of it. -/
theorem handed_eq_iff {blocks : List (List α × β)} {rest : List α} {e : ε}
    (hblocks : Items step blocks) (hrest : step rest = .error e) {cs : List (List α)}
    (hcs : cs.flatten = elements blocks ++ rest) :
    handed step [] cs = blocks.map Prod.snd ↔ ∃ early late tail, cs = early ++ late ∧
      early.flatten = elements blocks ++ tail ∧ ∀ e, step tail ≠ .error e := by
  constructor
  · intro h
    obtain ⟨early, late, r, n, rfl, hearly⟩ := handed_early step cs []
    have hdrain := drain_of_feedAll hs hs.nil hearly
    rw [List.nil_append] at hdrain
    rw [List.flatten_append] at hcs
    obtain ⟨tail, htail⟩ := covers_blocks hs blocks hblocks hcs hdrain
      (by rw [h, List.length_map])
    refine ⟨early, late, tail, rfl, htail, fun e' he => ?_⟩
    have hrefused := (refused_behind hs hblocks tail e').mpr (by rw [drain_error he])
    rw [← htail, hdrain] at hrefused
    cases hrefused
  · rintro ⟨early, late, tail, rfl, htail, hclear⟩
    have hlate : tail ++ late.flatten = rest := by
      rw [List.flatten_append, htail, List.append_assoc] at hcs
      exact List.append_cancel_left hcs
    have hnone : step tail = .ok none := by
      cases hstep : step tail with
      | error e' => exact absurd hstep (hclear e')
      | ok o =>
        cases o with
        | none => rfl
        | some item =>
          rw [← hlate, hs.item late.flatten hstep] at hrest
          cases hrest
    have hdrain : drain step ([] ++ early.flatten) =
        (tail, .ok (blocks.map Prod.snd, (elements blocks).length)) := by
      rw [List.nil_append, htail]
      unfold elements
      rw [drain_blocks hs blocks tail hblocks, drain_none hnone, Drained.after_ok,
        List.append_nil, Nat.add_zero]
    have hearly := feedAll_flatten hs early [] tail _ _ hs.nil hdrain
    rw [handed_append early late hearly, handed_refused hs late tail hnone (by rw [hlate, hrest]),
      List.append_nil]

end Blocks
end Incremental
