import Mathlib.Data.Option.Basic

/- Encoders and decoders with a state, and when the two states go together.

   What is proved:
     1. `Level.step` — where the decoder inverts every history of the encoder, the states
        that one history leads to go together for one more message.
     2. `Keeps.roundTrip` — a relation of the states that every message keeps gives a
        round trip of every list of messages. -/
namespace StatefulCodec

variable {σ τ α β γ : Type*}

/-- The code of a list of messages, and the encoder after it. -/
def encodeRun (enc : σ → α → β × σ) : σ → List α → List β × σ
  | s, [] => ([], s)
  | s, a :: as => ((enc s a).1 :: (encodeRun enc (enc s a).2 as).1, (encodeRun enc (enc s a).2 as).2)

/-- The messages of a list of codes, and the decoder after it. -/
def decodeRun (dec : τ → β → Option (α × τ)) : τ → List β → Option (List α × τ)
  | t, [] => some ([], t)
  | t, b :: bs => (dec t b).bind (fun r => (decodeRun dec r.2 bs).map (fun q => (r.1 :: q.1, q.2)))

variable (enc : σ → α → β × σ) (dec : τ → β → Option (α × τ))

theorem encodeRun_append (as as' : List α) : ∀ s : σ,
    encodeRun enc s (as ++ as') =
      ((encodeRun enc s as).1 ++ (encodeRun enc (encodeRun enc s as).2 as').1,
        (encodeRun enc (encodeRun enc s as).2 as').2) := by
  induction as with
  | nil => exact fun _ => rfl
  | cons a as ih =>
    intro s
    simp only [List.cons_append, encodeRun, ih]

theorem encodeRun_length (as : List α) : ∀ s : σ, (encodeRun enc s as).1.length = as.length := by
  induction as with
  | nil => exact fun _ => rfl
  | cons a as ih =>
    intro s
    simp only [encodeRun, List.length_cons, ih]

theorem decodeRun_append (bs bs' : List β) : ∀ t : τ,
    decodeRun dec t (bs ++ bs') =
      (decodeRun dec t bs).bind
        (fun r => (decodeRun dec r.2 bs').map (fun q => (r.1 ++ q.1, q.2))) := by
  induction bs with
  | nil =>
    intro t
    simp [decodeRun]
  | cons b bs ih =>
    intro t
    simp only [List.cons_append, decodeRun, ih]
    cases dec t b with
    | none => rfl
    | some r =>
      simp only [Option.bind_some]
      cases decodeRun dec r.2 bs with
      | none => rfl
      | some q => simp [Option.map_map, Function.comp_def]

/-! ## Histories -/

/-- From these states, the decoder returns whatever the encoder was given. -/
def Inverse (s : σ) (t : τ) : Prop :=
  ∀ history, (decodeRun dec t (encodeRun enc s history).1).map Prod.fst = some history

/-- States that one history leads to. -/
def Level (s₀ : σ) (t₀ : τ) (s : σ) (t : τ) : Prop :=
  ∃ history, (encodeRun enc s₀ history).2 = s ∧
    decodeRun dec t₀ (encodeRun enc s₀ history).1 = some (history, t)

variable {enc dec}

theorem Level.start (s₀ : σ) (t₀ : τ) : Level enc dec s₀ t₀ s₀ t₀ := ⟨[], rfl, rfl⟩

/-- **One more message.** -/
theorem Level.step {s₀ s : σ} {t₀ t : τ} (hinv : Inverse enc dec s₀ t₀)
    (h : Level enc dec s₀ t₀ s t) (a : α) :
    ∃ t', dec t (enc s a).1 = some (a, t') ∧ Level enc dec s₀ t₀ (enc s a).2 t' := by
  obtain ⟨history, rfl, hdec⟩ := h
  have hmore := hinv (history ++ [a])
  have hcode : (encodeRun enc s₀ (history ++ [a])).1 =
      (encodeRun enc s₀ history).1 ++ [(enc (encodeRun enc s₀ history).2 a).1] := by
    rw [encodeRun_append]
    rfl
  have hstate : (encodeRun enc s₀ (history ++ [a])).2 =
      (enc (encodeRun enc s₀ history).2 a).2 := by
    rw [encodeRun_append]
    rfl
  have hboth := decodeRun_append dec (encodeRun enc s₀ history).1
    [(enc (encodeRun enc s₀ history).2 a).1] t₀
  rw [hdec, Option.bind_some] at hboth
  rw [hcode, hboth] at hmore
  simp only [decodeRun] at hmore hboth
  cases hone : dec t (enc (encodeRun enc s₀ history).2 a).1 with
  | none =>
    rw [hone] at hmore
    cases hmore
  | some r =>
    rw [hone] at hmore hboth
    simp only [Option.bind_some, Option.map_some, Option.some.injEq] at hmore hboth
    obtain rfl : r.1 = a := by simpa using hmore
    exact ⟨r.2, rfl, history ++ [r.1], hstate, by rw [hcode, hboth]⟩

/-! ## Relations that every message keeps -/

/-- In related states the decoder reads one message back, and the states stay related. -/
def Keeps (enc : σ → α → β × σ) (dec : τ → β → Option (α × τ)) (R : σ → τ → Prop) : Prop :=
  ∀ s t, R s t → ∀ a, ∃ t', dec t (enc s a).1 = some (a, t') ∧ R (enc s a).2 t'

/-- **Round trip** of every list of messages. -/
theorem Keeps.roundTrip {R : σ → τ → Prop} (h : Keeps enc dec R) (as : List α) :
    ∀ {s : σ} {t : τ}, R s t →
      ∃ t', decodeRun dec t (encodeRun enc s as).1 = some (as, t') ∧ R (encodeRun enc s as).2 t' := by
  induction as with
  | nil => exact fun {_ t} hR => ⟨t, rfl, hR⟩
  | cons a as ih =>
    intro s t hR
    obtain ⟨t₁, hdec, hR₁⟩ := h s t hR a
    obtain ⟨t₂, hall, hR₂⟩ := ih hR₁
    refine ⟨t₂, ?_, hR₂⟩
    simp only [encodeRun, decodeRun, hdec, Option.bind_some, hall, Option.map_some]

end StatefulCodec
