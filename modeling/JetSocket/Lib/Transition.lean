import Mathlib.Data.List.Basic

/- Deterministic labelled transition systems and their finite runs. `step s i` is
   the state after input `i`, or `none` where `i` is not possible. Inputs carry
   every choice the environment makes, so a run is a state and a list of inputs.

   `Always P` holds of a run when `P` holds in every state it reaches, and
   `Meets C` when every step it takes satisfies `C` before it is taken. The two
   rules: `always_of_meets`, an invariant kept by the steps that meet `C` holds
   throughout a run that meets `C`; and `always_iff_meets`, where a step keeps the
   property exactly when it meets `C`, a run keeps it exactly when it meets `C`.

   Where a step has an output too, `Alike s t` holds of states that no inputs tell apart;
   `alike_of_matches` gives it from a relation that every input keeps. -/
namespace Transition

variable {σ ι : Type*}

/-- The state after the inputs, or `none` if one of them was not possible. -/
def exec (step : σ → ι → Option σ) : σ → List ι → Option σ
  | s, [] => some s
  | s, i :: is => (step s i).bind (fun s' => exec step s' is)

/-- `P` in every state reached, the first included. -/
def Always (step : σ → ι → Option σ) (P : σ → Prop) : σ → List ι → Prop
  | s, [] => P s
  | s, i :: is => P s ∧ ∀ s', step s i = some s' → Always step P s' is

/-- `C` of every step taken, before it is taken. -/
def Meets (step : σ → ι → Option σ) (C : σ → ι → Prop) : σ → List ι → Prop
  | _, [] => True
  | s, i :: is => ∀ s', step s i = some s' → C s i ∧ Meets step C s' is

variable {step : σ → ι → Option σ}

/-- Both can be checked along a given run. -/
instance decidableMeets {C : σ → ι → Prop} [∀ s i, Decidable (C s i)] :
    ∀ (s : σ) (is : List ι), Decidable (Meets step C s is)
  | _, [] => isTrue trivial
  | s, i :: is =>
    match h : step s i with
    | none => isTrue (fun s' hs => by rw [h] at hs; cases hs)
    | some s' =>
      have := decidableMeets (C := C) s' is
      decidable_of_iff (C s i ∧ Meets step C s' is)
        ⟨fun hm t ht => Option.some.inj (h.symm.trans ht) ▸ hm, fun hm => hm s' h⟩

instance decidableAlways {P : σ → Prop} [∀ s, Decidable (P s)] :
    ∀ (s : σ) (is : List ι), Decidable (Always step P s is)
  | s, [] => inferInstanceAs (Decidable (P s))
  | s, i :: is =>
    match h : step s i with
    | none =>
      decidable_of_iff (P s) ⟨fun hp => ⟨hp, fun s' hs => by rw [h] at hs; cases hs⟩, And.left⟩
    | some s' =>
      have := decidableAlways (P := P) s' is
      decidable_of_iff (P s ∧ Always step P s' is)
        ⟨fun hp => ⟨hp.1, fun t ht => Option.some.inj (h.symm.trans ht) ▸ hp.2⟩,
          fun hp => ⟨hp.1, hp.2 s' h⟩⟩

/-- A condition on inputs alone. -/
theorem Meets.of_forall {C : σ → ι → Prop} {is : List ι} (h : ∀ i ∈ is, ∀ s, C s i) :
    ∀ s : σ, Meets step C s is := by
  induction is with
  | nil => exact fun _ => trivial
  | cons i is ih =>
    intro s s' _
    exact ⟨h i List.mem_cons_self s, ih (fun j hj => h j (List.mem_cons_of_mem i hj)) s'⟩

/-- A run given step by step. -/
theorem Meets.cons {C : σ → ι → Prop} {s s' : σ} {i : ι} {is : List ι} (hs : step s i = some s')
    (hc : C s i) (h : Meets step C s' is) : Meets step C s (i :: is) := by
  intro t ht
  obtain rfl : s' = t := Option.some.inj (hs.symm.trans ht)
  exact ⟨hc, h⟩

/-- The steps behind the first inputs. -/
theorem Meets.drop {C : σ → ι → Prop} {s s' : σ} {is js : List ι} (h : Meets step C s (is ++ js))
    (he : exec step s is = some s') : Meets step C s' js := by
  induction is generalizing s with
  | nil =>
    cases he
    exact h
  | cons i is ih =>
    obtain ⟨t, ht, he⟩ := Option.bind_eq_some_iff.mp he
    exact ih (h t ht).2 he

theorem Meets.take {C : σ → ι → Prop} {s : σ} {is js : List ι} (h : Meets step C s (is ++ js)) :
    Meets step C s is := by
  induction is generalizing s with
  | nil => trivial
  | cons i is ih => exact fun t ht => ⟨(h t ht).1, ih (h t ht).2⟩

/-- A run that meets two conditions. -/
theorem Meets.and {C D : σ → ι → Prop} {s : σ} {is : List ι} (hc : Meets step C s is)
    (hd : Meets step D s is) : Meets step (fun s i => C s i ∧ D s i) s is := by
  induction is generalizing s with
  | nil => trivial
  | cons i is ih =>
    intro s' hs
    exact ⟨⟨(hc s' hs).1, (hd s' hs).1⟩, ih (hc s' hs).2 (hd s' hs).2⟩

/-- Conditions that say the same of the steps taken. -/
theorem meets_congr {C D : σ → ι → Prop} (h : ∀ s i s', step s i = some s' → (C s i ↔ D s i))
    {s : σ} (is : List ι) : Meets step C s is ↔ Meets step D s is := by
  induction is generalizing s with
  | nil => exact Iff.rfl
  | cons i is ih => exact forall₂_congr (fun s' hs => and_congr (h s i s' hs) ih)

theorem meets_and_iff {C D : σ → ι → Prop} {s : σ} {is : List ι} :
    Meets step (fun s i => C s i ∧ D s i) s is ↔ Meets step C s is ∧ Meets step D s is := by
  constructor
  · intro h
    induction is generalizing s with
    | nil => exact ⟨trivial, trivial⟩
    | cons i is ih =>
      exact ⟨fun s' hs => ⟨(h s' hs).1.1, (ih (h s' hs).2).1⟩,
        fun s' hs => ⟨(h s' hs).1.2, (ih (h s' hs).2).2⟩⟩
  · exact fun h => h.1.and h.2

theorem Always.head {P : σ → Prop} {s : σ} {is : List ι} (h : Always step P s is) : P s := by
  cases is with
  | nil => exact h
  | cons i is => exact h.1

theorem exec_append (s : σ) (is js : List ι) :
    exec step s (is ++ js) = (exec step s is).bind (fun s' => exec step s' js) := by
  induction is generalizing s with
  | nil => rfl
  | cons i is ih =>
    simp only [List.cons_append, exec]
    cases step s i with
    | none => rfl
    | some s' => exact ih s'

/-- What holds always holds at the end. -/
theorem Always.last {P : σ → Prop} {s s' : σ} {is : List ι} (h : Always step P s is)
    (he : exec step s is = some s') : P s' := by
  induction is generalizing s with
  | nil =>
    cases he
    exact h
  | cons i is ih =>
    simp only [exec] at he
    cases hs : step s i with
    | none => simp [hs] at he
    | some t =>
      rw [hs] at he
      exact ih (h.2 t hs) he

theorem Always.mono {P Q : σ → Prop} (hPQ : ∀ s, P s → Q s) {s : σ} {is : List ι}
    (h : Always step P s is) : Always step Q s is := by
  induction is generalizing s with
  | nil => exact hPQ s h
  | cons i is ih => exact ⟨hPQ s h.1, fun t ht => ih (h.2 t ht)⟩

theorem Always.and {P Q : σ → Prop} {s : σ} {is : List ι} (hp : Always step P s is)
    (hq : Always step Q s is) : Always step (fun s => P s ∧ Q s) s is := by
  induction is generalizing s with
  | nil => exact ⟨hp, hq⟩
  | cons i is ih => exact ⟨⟨hp.1, hq.1⟩, fun t ht => ih (hp.2 t ht) (hq.2 t ht)⟩

/-- **Invariant rule.** What the steps that meet `C` preserve holds throughout a run
whose steps all meet `C`. -/
theorem always_of_meets {C : σ → ι → Prop} {I : σ → Prop}
    (hstep : ∀ s i s', I s → C s i → step s i = some s' → I s') {s : σ} {is : List ι}
    (h0 : I s) (hm : Meets step C s is) : Always step I s is := by
  induction is generalizing s with
  | nil => exact h0
  | cons i is ih =>
    refine ⟨h0, fun s' hs => ?_⟩
    obtain ⟨hc, hrest⟩ := hm s' hs
    exact ih (hstep s i s' h0 hc hs) hrest

/-- The invariant rule where every step preserves the invariant. -/
theorem always_of_step {I : σ → Prop} (hstep : ∀ s i s', I s → step s i = some s' → I s')
    {s : σ} (is : List ι) (h0 : I s) : Always step I s is := by
  induction is generalizing s with
  | nil => exact h0
  | cons i is ih => exact ⟨h0, fun s' hs => ih (hstep s i s' h0 hs)⟩

/-- An invariant every step preserves holds at the end of every run. -/
theorem exec_invariant {I : σ → Prop} (hstep : ∀ s i s', I s → step s i = some s' → I s')
    {s s' : σ} {is : List ι} (h0 : I s) (he : exec step s is = some s') : I s' :=
  (always_of_step hstep is h0).last he

/-- **Exactness rule**, beside an invariant and along steps that meet `D`: where such a step
from a state with `P` leads to one with `P` exactly when it meets `C`, a run has `P`
throughout exactly when its steps all meet `C`. -/
theorem always_iff_meets_along {C D : σ → ι → Prop} {I P : σ → Prop}
    (hinv : ∀ s i s', I s → D s i → step s i = some s' → I s')
    (hstep : ∀ s i s', I s → P s → D s i → step s i = some s' → (P s' ↔ C s i)) {s : σ}
    {is : List ι} (hD : Meets step D s is) (hI : I s) (h0 : P s) :
    Always step P s is ↔ Meets step C s is := by
  induction is generalizing s with
  | nil => exact ⟨fun _ => trivial, fun _ => h0⟩
  | cons i is ih =>
    constructor
    · rintro ⟨-, h⟩ s' hs
      obtain ⟨hd, hmore⟩ := hD s' hs
      have hP : P s' := (h s' hs).head
      exact ⟨(hstep s i s' hI h0 hd hs).mp hP, (ih hmore (hinv s i s' hI hd hs) hP).mp (h s' hs)⟩
    · intro h
      refine ⟨h0, fun s' hs => ?_⟩
      obtain ⟨hd, hmore⟩ := hD s' hs
      obtain ⟨hc, hrest⟩ := h s' hs
      exact (ih hmore (hinv s i s' hI hd hs) ((hstep s i s' hI h0 hd hs).mpr hc)).mpr hrest

/-- The exactness rule along every run. -/
theorem always_iff_meets_of_inv {C : σ → ι → Prop} {I P : σ → Prop}
    (hinv : ∀ s i s', I s → step s i = some s' → I s')
    (hstep : ∀ s i s', I s → P s → step s i = some s' → (P s' ↔ C s i)) {s : σ} (is : List ι)
    (hI : I s) (h0 : P s) : Always step P s is ↔ Meets step C s is :=
  always_iff_meets_along (D := fun _ _ => True) (fun s i s' hI _ => hinv s i s' hI)
    (fun s i s' hI hP _ => hstep s i s' hI hP)
    (Meets.of_forall (fun _ _ _ => trivial) s) hI h0

/-- The exactness rule where no invariant is needed. -/
theorem always_iff_meets {C : σ → ι → Prop} {P : σ → Prop}
    (hstep : ∀ s i s', P s → step s i = some s' → (P s' ↔ C s i)) {s : σ} (is : List ι)
    (h0 : P s) : Always step P s is ↔ Meets step C s is :=
  always_iff_meets_of_inv (I := fun _ => True) (fun _ _ _ _ _ => trivial)
    (fun s i s' _ => hstep s i s') is trivial h0

/-- **What is held.** Where a step takes in what arrives and otherwise keeps or drops, all that
is held throughout a run has `Q` exactly when all that arrives has. -/
theorem always_held_iff {β : Type*} {held : σ → List β} {arrives : σ → ι → List β}
    (hin : ∀ s i s', step s i = some s' → ∀ x ∈ arrives s i, x ∈ held s')
    (hfrom : ∀ s i s', step s i = some s' → ∀ x ∈ held s', x ∈ held s ∨ x ∈ arrives s i)
    (Q : β → Prop) {s : σ} (is : List ι) (h0 : ∀ x ∈ held s, Q x) :
    Always step (fun s => ∀ x ∈ held s, Q x) s is ↔
      Meets step (fun s i => ∀ x ∈ arrives s i, Q x) s is := by
  apply always_iff_meets _ is h0
  intro s i s' hs hstep
  constructor
  · exact fun h x hx => h x (hin s i s' hstep x hx)
  · exact fun h x hx => (hfrom s i s' hstep x hx).elim (hs x) (h x)

/-! ## Outputs -/

section Outputs
variable {ω : Type*} {move : σ → ι → Option (σ × ω)}

/-- The outputs along the inputs, up to one that is not possible. -/
def outputs (move : σ → ι → Option (σ × ω)) : σ → List ι → List (Option ω)
  | _, [] => []
  | s, i :: is =>
    match move s i with
    | none => [none]
    | some (s', o) => some o :: outputs move s' is

/-- No inputs tell the states apart. -/
def Alike (move : σ → ι → Option (σ × ω)) (s t : σ) : Prop :=
  ∀ is, outputs move s is = outputs move t is

theorem alike_of_eq {s t : σ} (h : s = t) : Alike move s t := fun _ => by rw [h]

/-- A relation holds between what every input leads to, with the same output, or no input is
possible on one side only. -/
def Matches (move : σ → ι → Option (σ × ω)) (R : σ → σ → Prop) : Prop :=
  ∀ s t i, R s t → (move s i = none ∧ move t i = none) ∨
    ∃ s' t' o, move s i = some (s', o) ∧ move t i = some (t', o) ∧ R s' t'

/-- **Bisimulation**: a relation whose moves match tells nothing apart. -/
theorem alike_of_matches {R : σ → σ → Prop} (hR : Matches move R) {s t : σ} (h : R s t) :
    Alike move s t := by
  intro is
  induction is generalizing s t with
  | nil => rfl
  | cons i is ih =>
    unfold outputs
    rcases hR s t i h with ⟨hs, ht⟩ | ⟨s', t', o, hs, ht, h'⟩
    · rw [hs, ht]
    · rw [hs, ht]
      exact congrArg (List.cons (some o)) (ih h')

/-- The states that one input leads to. -/
theorem Alike.next {s t s' t' : σ} {i : ι} {o o' : ω} (h : Alike move s t)
    (hs : move s i = some (s', o)) (ht : move t i = some (t', o')) : Alike move s' t' := by
  intro is
  have hall := h (i :: is)
  unfold outputs at hall
  rw [hs, ht] at hall
  exact List.tail_eq_of_cons_eq hall

/-- The first output is the same. -/
theorem Alike.output {s t : σ} (h : Alike move s t) (i : ι) :
    (move s i).map Prod.snd = (move t i).map Prod.snd := by
  have hone : ∀ u : σ, outputs move u [i] = [(move u i).map Prod.snd] := by
    intro u
    unfold outputs
    cases move u i with
    | none => rfl
    | some r => rfl
  have hall := h [i]
  rw [hone, hone] at hall
  exact List.head_eq_of_cons_eq hall

end Outputs

end Transition
