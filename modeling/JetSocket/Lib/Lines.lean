import Mathlib.Data.List.Basic

/- Lines that end in a mark of two items, the way the lines of a header end in CR LF, with an empty
   line behind the last.

   A line has the second item of the mark nowhere in it. So the mark begins neither in a line nor,
   with its first item, right before the mark of that line (`not_mark`), and two marks stand one
   behind the other only where a line is empty. Whoever looks for the first empty line finds the end
   of the block (`find_blank`), and whoever cuts at the marks gets the lines back
   (`cut_intercalate`). -/
namespace Lines

variable {α : Type*} {a b : α}

/-- The mark does not begin in a line. -/
theorem not_mark (hab : a ≠ b) {p q : List α} (hline : b ∉ p ++ q) (hq : q ≠ []) (rest : List α) :
    ¬ [a, b] <+: q ++ a :: b :: rest := by
  obtain ⟨x, q, rfl⟩ := List.exists_cons_of_ne_nil hq
  rintro ⟨more, hmore⟩
  cases q with
  | nil =>
    simp only [List.cons_append, List.nil_append, List.cons.injEq] at hmore
    exact hab hmore.2.1.symm
  | cons y q =>
    simp only [List.cons_append, List.nil_append, List.cons.injEq] at hmore
    refine hline (List.mem_append_right _ (List.mem_cons_of_mem _ ?_))
    rw [hmore.2.1]
    exact List.mem_cons_self

/-! ## The first empty line -/

variable [DecidableEq α]

/-- Where `sub` begins first. -/
def find (sub : List α) : List α → Option Nat
  | [] => if sub.isEmpty then some 0 else none
  | x :: rest => if sub.isPrefixOf (x :: rest) then some 0 else (find sub rest).map (· + 1)

/-- What `sub` begins nowhere in. -/
theorem find_skip (sub pre rest : List α)
    (h : ∀ p q, pre = p ++ q → q ≠ [] → ¬ sub <+: q ++ rest) :
    find sub (pre ++ rest) = (find sub rest).map (· + pre.length) := by
  induction pre with
  | nil =>
    rw [List.nil_append, List.length_nil]
    exact Option.map_id'.symm
  | cons x pre ih =>
    have hfirst : ¬ sub <+: x :: (pre ++ rest) := h [] (x :: pre) rfl (List.cons_ne_nil _ _)
    have hrest := ih (fun p q hp hq => h (x :: p) q (by rw [hp, List.cons_append]) hq)
    rw [List.cons_append, find, if_neg (fun hp => hfirst (List.isPrefixOf_iff_prefix.mp hp)), hrest,
      Option.map_map]
    congr 1

/-- Nor in a line, with its mark. -/
theorem find_line (hab : a ≠ b) {l : List α} (hl : b ∉ l) {rest : List α}
    (hrest : ¬ [a, b] <+: rest) :
    find [a, b, a, b] (l ++ a :: b :: rest) =
      (find [a, b, a, b] rest).map (· + (l.length + 2)) := by
  have htwo : ∀ s : List α, [a, b, a, b] <+: s → [a, b] <+: s := by
    rintro s ⟨more, rfl⟩
    exact ⟨a :: b :: more, rfl⟩
  have hpre : l ++ a :: b :: rest = (l ++ [a, b]) ++ rest := by
    rw [List.append_assoc]
    rfl
  rw [hpre, find_skip]
  · rw [List.length_append]
    rfl
  · intro p q hp hq hprefix
    rcases List.append_eq_append_iff.mp hp with ⟨l', hp', hmark⟩ | ⟨q', hl', hmark⟩
    · -- what is left of the mark
      cases l' with
      | nil =>
        rw [List.nil_append] at hmark
        subst hmark
        obtain ⟨more, hmore⟩ := hprefix
        exact hrest ⟨more, by simpa using hmore⟩
      | cons x l' =>
        rw [List.cons_append, List.cons.injEq] at hmark
        cases l' with
        | nil =>
          rw [List.nil_append] at hmark
          rw [← hmark.2] at hprefix
          obtain ⟨more, hmore⟩ := hprefix
          simp only [List.cons_append, List.nil_append, List.cons.injEq] at hmore
          exact hab hmore.1
        | cons y l' =>
          have hnil : q = [] := by
            have := congrArg List.length hmark.2
            simp only [List.length_cons, List.length_append, List.length_nil] at this
            exact List.length_eq_zero_iff.mp (by omega)
          exact hq hnil
    · cases q' with
      | nil =>
        rw [List.nil_append] at hmark
        subst hmark
        obtain ⟨more, hmore⟩ := hprefix
        exact hrest ⟨more, by simpa using hmore⟩
      | cons x q' =>
        refine not_mark hab (p := p) (q := x :: q') (hl' ▸ hl) (List.cons_ne_nil _ _) rest ?_
        rw [hmark] at hprefix
        have hsplit : x :: q' ++ [a, b] ++ rest = x :: q' ++ a :: b :: rest := by
          rw [List.append_assoc]
          rfl
        exact hsplit ▸ htwo _ hprefix

/-- **The end of the block**: the first empty line is the one behind the lines. -/
theorem find_blank (hab : a ≠ b) {lines : List (List α)} (hne : lines ≠ [])
    (h : ∀ l ∈ lines, l ≠ [] ∧ b ∉ l) (later : List α) :
    find [a, b, a, b] ([a, b].intercalate lines ++ a :: b :: a :: b :: later) =
      some ([a, b].intercalate lines).length := by
  induction lines with
  | nil => exact (hne rfl).elim
  | cons l lines ih =>
    obtain ⟨-, hl⟩ := h l List.mem_cons_self
    cases lines with
    | nil =>
      have hskip := find_skip [a, b, a, b] l (a :: b :: a :: b :: later)
        (fun p q hp hq hprefix => by
          refine not_mark hab (hp ▸ hl) hq (a :: b :: later) ?_
          obtain ⟨more, hmore⟩ := hprefix
          exact ⟨a :: b :: more, hmore⟩)
      have hfirst : [a, b, a, b] <+: a :: b :: a :: b :: later := ⟨later, rfl⟩
      have hhere : find [a, b, a, b] (a :: b :: a :: b :: later) = some 0 := by
        rw [find, if_pos (List.isPrefixOf_iff_prefix.mpr hfirst)]
      rw [List.intercalate_singleton, hskip, hhere, Option.map_some, Nat.zero_add]
    | cons m lines =>
      obtain ⟨hmne, hm⟩ := h m (List.mem_cons_of_mem _ List.mem_cons_self)
      have hlater := ih (List.cons_ne_nil _ _) (fun x hx => h x (List.mem_cons_of_mem _ hx))
      -- the next line is not empty, so no second mark stands behind the first
      have hrest : ¬ [a, b] <+: [a, b].intercalate (m :: lines) ++ a :: b :: a :: b :: later := by
        cases lines with
        | nil =>
          rw [List.intercalate_singleton]
          exact not_mark hab (p := []) (q := m) hm hmne _
        | cons n lines =>
          rw [List.intercalate_cons_cons, List.append_assoc, List.append_assoc]
          exact not_mark hab (p := []) (q := m) hm hmne _
      have hpre : [a, b].intercalate (l :: m :: lines) ++ a :: b :: a :: b :: later =
          l ++ a :: b :: ([a, b].intercalate (m :: lines) ++ a :: b :: a :: b :: later) := by
        rw [List.intercalate_cons_cons, List.append_assoc, List.append_assoc]
        rfl
      rw [hpre, find_line hab hl hrest, hlater, Option.map_some, List.intercalate_cons_cons]
      congr 1
      simp only [List.length_append, List.length_cons, List.length_nil]
      omega

/-! ## Cutting at the marks -/

/-- The text cut at the marks; `piece` was read before, in reverse. -/
def cutFrom (a b : α) (piece : List α) : List α → List (List α)
  | [] => [piece.reverse]
  | x :: rest =>
    if [a, b].isPrefixOf (x :: rest) then piece.reverse :: cutFrom a b [] (rest.drop 1)
    else cutFrom a b (x :: piece) rest
  termination_by text => text.length

def cut (a b : α) (text : List α) : List (List α) := cutFrom a b [] text

theorem cutFrom_skip (a b : α) (pre rest : List α)
    (h : ∀ p q, pre = p ++ q → q ≠ [] → ¬ [a, b] <+: q ++ rest) (piece : List α) :
    cutFrom a b piece (pre ++ rest) = cutFrom a b (pre.reverse ++ piece) rest := by
  induction pre generalizing piece with
  | nil => rfl
  | cons x pre ih =>
    have hfirst : ¬ [a, b] <+: x :: (pre ++ rest) := h [] (x :: pre) rfl (List.cons_ne_nil _ _)
    have hrest := ih (fun p q hp hq => h (x :: p) q (by rw [hp, List.cons_append]) hq) (x :: piece)
    rw [List.cons_append, cutFrom, if_neg (fun hp => hfirst (List.isPrefixOf_iff_prefix.mp hp)),
      hrest, List.reverse_cons, List.append_assoc]
    rfl

/-- **The lines** are what is between the marks. -/
theorem cut_intercalate (hab : a ≠ b) {lines : List (List α)} (hne : lines ≠ [])
    (h : ∀ l ∈ lines, b ∉ l) : cut a b ([a, b].intercalate lines) = lines := by
  unfold cut
  induction lines with
  | nil => exact (hne rfl).elim
  | cons l lines ih =>
    have hl := h l List.mem_cons_self
    cases lines with
    | nil =>
      have hskip := cutFrom_skip a b l [] (fun p q hp hq hprefix => by
        obtain ⟨more, hmore⟩ := hprefix
        refine hl ?_
        rw [hp, ← List.append_nil q, ← hmore]
        simp) []
      rw [List.append_nil, List.append_nil] at hskip
      rw [List.intercalate_singleton, hskip, cutFrom, List.reverse_reverse]
    | cons m lines =>
      have hskip := cutFrom_skip a b l (a :: b :: [a, b].intercalate (m :: lines))
        (fun p q hp hq => not_mark hab (hp ▸ hl) hq _) []
      have hpre : [a, b].intercalate (l :: m :: lines) =
          l ++ a :: b :: [a, b].intercalate (m :: lines) := by
        rw [List.intercalate_cons_cons, List.append_assoc]
        rfl
      have hmark : [a, b] <+: a :: b :: [a, b].intercalate (m :: lines) := ⟨_, rfl⟩
      rw [hpre, hskip, cutFrom, if_pos (List.isPrefixOf_iff_prefix.mpr hmark), List.append_nil,
        List.reverse_reverse, List.drop_one, List.tail_cons,
        ih (List.cons_ne_nil _ _) (fun x hx => h x (List.mem_cons_of_mem _ hx))]

end Lines
