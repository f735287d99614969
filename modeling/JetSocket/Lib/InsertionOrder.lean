import Mathlib.Data.List.Nodup
import Mathlib.Data.List.Infix

/- Lists without repetition, in the order in which their items were added.

   `push` adds an item at the end, if it is not there; `pushAll` adds the items of a list, the first
   of equal ones. An item is taken out with `List.erase`.

   What is proved: what may be done before the items of a list are added that could be done
   behind them:
     `pushAll_push_iff`      — adding an item.
     `pushAll_erase_iff`     — taking one out.
     `pushAll_of_erase_iff`  — taking one out of the list that is to be added. -/
namespace InsertionOrder

variable {α : Type*} [DecidableEq α]

def push (l : List α) (x : α) : List α := if x ∈ l then l else l ++ [x]

def pushAll (l : List α) (xs : List α) : List α := xs.foldl push l

theorem push_of_mem {l : List α} {x : α} (h : x ∈ l) : push l x = l := if_pos h

theorem push_of_not_mem {l : List α} {x : α} (h : x ∉ l) : push l x = l ++ [x] := if_neg h

@[simp] theorem mem_push {l : List α} {x y : α} : y ∈ push l x ↔ y ∈ l ∨ y = x := by
  unfold push
  split
  · rename_i h
    exact ⟨.inl, fun hy => hy.elim id (fun he => he ▸ h)⟩
  · rw [List.mem_append, List.mem_singleton]

theorem nodup_push {l : List α} (h : l.Nodup) (x : α) : (push l x).Nodup := by
  unfold push
  split
  · exact h
  · rename_i hx
    have hconcat := List.Nodup.concat hx h
    rwa [List.concat_eq_append] at hconcat

@[simp] theorem pushAll_nil (l : List α) : pushAll l [] = l := rfl

@[simp] theorem pushAll_cons (l : List α) (x : α) (xs : List α) :
    pushAll l (x :: xs) = pushAll (push l x) xs := rfl

@[simp] theorem pushAll_append (l xs ys : List α) :
    pushAll l (xs ++ ys) = pushAll (pushAll l xs) ys := List.foldl_append

@[simp] theorem mem_pushAll {l xs : List α} {y : α} : y ∈ pushAll l xs ↔ y ∈ l ∨ y ∈ xs := by
  induction xs generalizing l with
  | nil => simp
  | cons x xs ih => rw [pushAll_cons, ih, mem_push, List.mem_cons, or_assoc]

theorem nodup_pushAll {l : List α} (h : l.Nodup) (xs : List α) : (pushAll l xs).Nodup := by
  induction xs generalizing l with
  | nil => exact h
  | cons x xs ih => exact ih (nodup_push h x)

theorem push_extends (l : List α) (x : α) : l <+: push l x := by
  unfold push
  split
  · exact List.prefix_refl l
  · exact List.prefix_append l [x]

/-- What is added goes behind what was there. -/
theorem pushAll_extends (l xs : List α) : l <+: pushAll l xs := by
  induction xs generalizing l with
  | nil => exact List.prefix_refl l
  | cons x xs ih => exact (push_extends l x).trans (ih (push l x))

omit [DecidableEq α] in
/-- Two different items are not both the next one. -/
theorem not_both_next {l m : List α} {x y : α} (hne : x ≠ y) (hx : l ++ [x] <+: m)
    (hy : l ++ [y] <+: m) : False := by
  have heq : l ++ [x] = l ++ [y] := by
    refine List.IsPrefix.eq_of_length ?_ (by simp)
    exact List.prefix_of_prefix_length_le hx hy (by simp)
  have hsingle := List.append_cancel_left heq
  exact hne (List.cons.inj hsingle).1

/-- **An item** may as well be added before the items of a list where it is there already, or is
the first that the list adds, or where the list adds none. -/
theorem pushAll_push_iff (l xs : List α) (x : α) : pushAll (push l x) xs = push (pushAll l xs) x ↔
    x ∈ l ∨ ∀ y, (xs.filter (· ∉ l)).head? = some y → y = x := by
  by_cases hx : x ∈ l
  · rw [push_of_mem hx, push_of_mem (mem_pushAll.mpr (.inl hx))]
    exact iff_of_true rfl (.inl hx)
  · induction xs with
    | nil => exact iff_of_true rfl (.inr (fun y hy => (by cases hy)))
    | cons z xs ih =>
      by_cases hz : z ∈ l
      · have hfilter : (z :: xs).filter (· ∉ l) = xs.filter (· ∉ l) :=
          List.filter_cons_of_neg (by simpa using hz)
        rw [pushAll_cons, pushAll_cons, push_of_mem hz,
          push_of_mem (mem_push.mpr (.inl hz)), hfilter]
        exact ih
      · have hfilter : ((z :: xs).filter (· ∉ l)).head? = some z := by
          rw [List.filter_cons_of_pos (by simpa using hz)]
          rfl
        rw [hfilter]
        by_cases hzx : z = x
        · subst hzx
          refine iff_of_true ?_ (.inr (fun y hy => (Option.some.inj hy).symm))
          rw [pushAll_cons, pushAll_cons, push_of_mem (mem_push.mpr (.inr rfl)),
            push_of_mem (mem_pushAll.mpr (.inl (mem_push.mpr (.inr rfl))))]
        · refine iff_of_false (fun heq => ?_) ?_
          · have hleft : l ++ [x] <+: pushAll (push l x) (z :: xs) := by
              rw [← push_of_not_mem hx]
              exact pushAll_extends _ _
            have hright : l ++ [z] <+: push (pushAll l (z :: xs)) x := by
              rw [← push_of_not_mem hz]
              exact (pushAll_extends _ _).trans (push_extends _ _)
            rw [heq] at hleft
            exact not_both_next (Ne.symm hzx) hleft hright
          · rintro (hmem | hnext)
            · exact hx hmem
            · exact hzx (hnext z rfl)

theorem push_erase {l : List α} {x z : α} (h : z ≠ x) :
    push (l.erase x) z = (push l z).erase x := by
  by_cases hz : z ∈ l
  · rw [push_of_mem hz, push_of_mem ((List.mem_erase_of_ne h).mpr hz)]
  · rw [push_of_not_mem hz, push_of_not_mem (fun hmem => hz (List.mem_of_mem_erase hmem))]
    by_cases hx : x ∈ l
    · exact (List.erase_append_left _ hx).symm
    · rw [List.erase_append_right _ hx, List.erase_of_not_mem hx]
      have hnot : x ∉ [z] := fun hmem => h (List.mem_singleton.mp hmem).symm
      rw [List.erase_of_not_mem hnot]

theorem not_mem_erased {l xs : List α} (h : l.Nodup) (x : α) : x ∉ (pushAll l xs).erase x :=
  (nodup_pushAll h xs).not_mem_erase

theorem pushAll_erase {x : α} {xs : List α} (hx : x ∉ xs) (l : List α) :
    pushAll (l.erase x) xs = (pushAll l xs).erase x := by
  induction xs generalizing l with
  | nil => rfl
  | cons z xs ih =>
    have hz : z ≠ x := fun he => hx (he ▸ List.mem_cons_self)
    rw [pushAll_cons, pushAll_cons, push_erase hz]
    exact ih (fun hmem => hx (List.mem_cons_of_mem z hmem)) (push l z)

/-- **An item** may as well be taken out before the items of a list are added exactly where it is
not among them. -/
theorem pushAll_erase_iff {l : List α} (h : l.Nodup) (xs : List α) (x : α) :
    pushAll (l.erase x) xs = (pushAll l xs).erase x ↔ x ∉ xs := by
  refine ⟨fun heq hx => ?_, fun hx => pushAll_erase hx l⟩
  have hmem : x ∈ pushAll (l.erase x) xs := mem_pushAll.mpr (.inr hx)
  rw [heq] at hmem
  exact not_mem_erased h x hmem

/-- **An item** of a list may be taken out of it, instead of out of what was made of it, exactly
where it is there no more than once. -/
theorem pushAll_of_erase_iff {l : List α} (h : l.Nodup) {x : α} (hl : x ∉ l) (xs : List α) :
    pushAll l (xs.erase x) = (pushAll l xs).erase x ↔ xs.count x ≤ 1 := by
  constructor
  · intro heq
    refine Nat.le_of_not_lt (fun htwice => ?_)
    have hmem : x ∈ xs.erase x := by
      rw [← List.count_pos_iff, List.count_erase_self]
      omega
    have hleft : x ∈ pushAll l (xs.erase x) := mem_pushAll.mpr (.inr hmem)
    rw [heq] at hleft
    exact not_mem_erased h x hleft
  · intro honce
    clear h
    induction xs generalizing l with
    | nil => exact (List.erase_of_not_mem hl).symm
    | cons z xs ih =>
      by_cases hz : z = x
      · subst hz
        have hnone : z ∉ xs := by
          rw [← List.count_eq_zero]
          rw [List.count_cons_self] at honce
          omega
        rw [List.erase_cons_head, pushAll_cons, push_of_not_mem hl]
        have herase : (l ++ [z]).erase z = l := by
          rw [List.erase_append_right _ hl, List.erase_cons_head, List.append_nil]
        calc pushAll l xs = pushAll ((l ++ [z]).erase z) xs := by rw [herase]
          _ = (pushAll (l ++ [z]) xs).erase z := pushAll_erase hnone (l ++ [z])
      · have hl' : x ∉ push l z := by
          rw [mem_push]
          exact fun hmem => hmem.elim hl (fun he => hz he.symm)
        rw [List.erase_cons_tail (by simpa using hz), pushAll_cons, pushAll_cons]
        rw [List.count_cons_of_ne hz] at honce
        exact ih hl' honce

end InsertionOrder
