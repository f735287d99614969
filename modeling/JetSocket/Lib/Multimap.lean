import Mathlib.Data.List.Basic
import Mathlib.Data.List.Perm.Basic

/- A dictionary of lists, in insertion order (`dict[str, list[T]]`). A key goes with the last of its
   values. -/

abbrev Multimap (κ α : Type*) := List (κ × List α)

namespace Multimap
variable {κ α : Type*} [DecidableEq κ] [DecidableEq α]

omit [DecidableEq κ] [DecidableEq α] in
/-- All values, key by key. -/
def values (m : Multimap κ α) : List α := m.flatMap Prod.snd

/-- The values under a key. -/
def get (m : Multimap κ α) (k : κ) : List α := (m.lookup k).getD []

/-- A value comes last under its key. -/
def push : Multimap κ α → κ → α → Multimap κ α
  | [], k, x => [(k, [x])]
  | (k', xs) :: m, k, x => if k' = k then (k', xs ++ [x]) :: m else (k', xs) :: push m k x

/-- A value goes from under its key, if it is there. -/
def discard : Multimap κ α → κ → α → Multimap κ α
  | [], _, _ => []
  | (k', xs) :: m, k, x =>
    if k' = k then
      if x ∈ xs then
        if (xs.erase x).isEmpty then m else (k', xs.erase x) :: m
      else (k', xs) :: m
    else (k', xs) :: discard m k x

omit [DecidableEq κ] [DecidableEq α] in
theorem values_cons (k : κ) (xs : List α) (m : Multimap κ α) :
    values ((k, xs) :: m) = xs ++ values m := List.flatMap_cons

omit [DecidableEq α] in
theorem get_subset (m : Multimap κ α) (k : κ) : ∀ x ∈ m.get k, x ∈ m.values := by
  induction m with
  | nil => exact fun x hx => absurd hx List.not_mem_nil
  | cons e m ih =>
    obtain ⟨k', xs⟩ := e
    intro x hx
    rw [values_cons]
    unfold get at hx ih
    rw [List.lookup_cons] at hx
    cases hk : k == k' with
    | true =>
      rw [hk] at hx
      exact List.mem_append_left _ hx
    | false =>
      rw [hk] at hx
      exact List.mem_append_right _ (ih x hx)

omit [DecidableEq α] in
theorem values_push (m : Multimap κ α) (k : κ) (x : α) :
    List.Perm (m.push k x).values (x :: m.values) := by
  induction m with
  | nil => exact List.Perm.refl _
  | cons e m ih =>
    obtain ⟨k', xs⟩ := e
    unfold push
    split
    · rw [values_cons, values_cons, List.append_assoc]
      exact List.perm_middle
    · rw [values_cons, values_cons]
      exact (ih.append_left xs).trans List.perm_middle

theorem values_discard (m : Multimap κ α) (k : κ) (x : α) :
    List.Sublist (m.discard k x).values m.values := by
  induction m with
  | nil => exact List.Sublist.refl _
  | cons e m ih =>
    obtain ⟨k', xs⟩ := e
    unfold discard
    split
    · split
      · split
        · rw [values_cons]
          exact List.sublist_append_right xs _
        · rw [values_cons, values_cons]
          exact List.erase_sublist.append_right _
      · exact List.Sublist.refl _
    · rw [values_cons, values_cons]
      exact ih.append_left xs

/-- The other values stay. -/
theorem mem_values_discard {m : Multimap κ α} {x y : α} (k : κ) (hy : y ∈ m.values) (hne : y ≠ x) :
    y ∈ (m.discard k x).values := by
  induction m with
  | nil => exact hy
  | cons e m ih =>
    obtain ⟨k', xs⟩ := e
    rw [values_cons, List.mem_append] at hy
    unfold discard
    split
    · split
      · split
        · rename_i hempty
          refine hy.resolve_left (fun hxs => ?_)
          have hmem := (List.mem_erase_of_ne hne).mpr hxs
          rw [List.isEmpty_iff.mp hempty] at hmem
          exact absurd hmem List.not_mem_nil
        · rw [values_cons, List.mem_append, List.mem_erase_of_ne hne]
          exact hy
      · rw [values_cons, List.mem_append]
        exact hy
    · rw [values_cons, List.mem_append]
      exact hy.imp_right ih

end Multimap
