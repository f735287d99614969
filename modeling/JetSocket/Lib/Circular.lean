import Mathlib.Data.List.Basic

/- A list laid out in circular cells: the elements are behind one another from `head` on,
   and go on at the first cell behind the last.

   `Holds cells head xs` says that the cells hold `xs` so. Writing behind the last element
   appends (`Holds.append`), moving the head drops the first (`Holds.tail`), and what is
   written elsewhere leaves the elements alone (`Holds.set`). -/
namespace Circular

variable {α : Type*} {cells : List α} {head : Nat} {xs : List α} {x : α}

/-- The cell of element `i`. -/
def index (cells : List α) (head i : Nat) : Nat := (head + i) % cells.length

def Holds (cells : List α) (head : Nat) (xs : List α) : Prop :=
  ∀ (i : Nat) (x : α), xs[i]? = some x → cells[index cells head i]? = some x

/-- Two elements less than one round apart are in different cells. -/
theorem index_ne {i j : Nat} (hij : i < j) (hj : j < i + cells.length) :
    index cells head i ≠ index cells head j := by
  unfold index
  intro h
  have hmod : (head + j - (head + i)) % cells.length = 0 :=
    Nat.sub_mod_eq_zero_of_mod_eq h.symm
  have hsub : head + j - (head + i) = j - i := by omega
  rw [hsub, Nat.mod_eq_of_lt (by omega)] at hmod
  omega

/-- Where an element is depends on the number of the cells only. -/
theorem index_of_length {cells' : List α} (h : cells'.length = cells.length) (i : Nat) :
    index cells' head i = index cells head i := by
  unfold index
  rw [h]

theorem index_lt (i : Nat) (h : 0 < cells.length) : index cells head i < cells.length :=
  Nat.mod_lt _ h

/-- The elements seen from the next head. -/
theorem index_succ (i : Nat) :
    index cells ((head + 1) % cells.length) i = index cells head (i + 1) := by
  unfold index
  rw [Nat.mod_add_mod]
  congr 1
  omega

theorem holds_nil : Holds cells head ([] : List α) := by
  intro i x h
  cases h

/-- The first element is at the head. -/
theorem Holds.first (h : Holds cells head (x :: xs)) (hlt : head < cells.length) :
    cells[head]? = some x := by
  have hx := h 0 x rfl
  rwa [show index cells head 0 = head from Nat.mod_eq_of_lt hlt] at hx

theorem Holds.tail (h : Holds cells head (x :: xs)) :
    Holds cells ((head + 1) % cells.length) xs := by
  intro i y hy
  rw [index_succ]
  exact h (i + 1) y hy

/-- A cell that holds no element can be written. -/
theorem Holds.set {j : Nat} (h : Holds cells head xs) (y : α)
    (hj : ∀ i, i < xs.length → index cells head i ≠ j) : Holds (cells.set j y) head xs := by
  intro i x hx
  have hi : i < xs.length := (List.getElem?_eq_some_iff.mp hx).1
  have hindex : index (cells.set j y) head i = index cells head i :=
    index_of_length List.length_set i
  rw [hindex, List.getElem?_set_ne (Ne.symm (hj i hi))]
  exact h i x hx

/-- The cell behind the last element takes the next one. -/
theorem Holds.append (h : Holds cells head xs) (hlt : xs.length < cells.length) (x : α) :
    Holds (cells.set (index cells head xs.length) x) head (xs ++ [x]) := by
  have hfree : ∀ i, i < xs.length → index cells head i ≠ index cells head xs.length := by
    intro i hi
    exact index_ne hi (by omega)
  intro i y hy
  by_cases hi : i < xs.length
  · rw [List.getElem?_append_left hi] at hy
    exact h.set x hfree i y hy
  · rw [List.getElem?_append_right (by omega)] at hy
    obtain ⟨h0, rfl⟩ : i = xs.length ∧ x = y := by
      have hlen : i - xs.length < [x].length := (List.getElem?_eq_some_iff.mp hy).1
      have h0 : i - xs.length = 0 := by simpa using hlen
      rw [h0] at hy
      exact ⟨by omega, Option.some.inj hy⟩
    subst h0
    have hindex : index (cells.set (index cells head xs.length) x) head xs.length =
        index cells head xs.length := index_of_length List.length_set _
    rw [hindex, List.getElem?_set_self (index_lt _ (by omega))]

/-- The head's cell is free once the head has moved. -/
theorem Holds.drop (h : Holds cells head (x :: xs)) (hlt : head < cells.length)
    (hlen : xs.length < cells.length) (y : α) :
    Holds (cells.set head y) ((head + 1) % cells.length) xs := by
  apply h.tail.set
  intro i hi
  rw [index_succ]
  have hne : index cells head 0 ≠ index cells head (i + 1) := index_ne (by omega) (by omega)
  rw [show index cells head 0 = head from Nat.mod_eq_of_lt hlt] at hne
  exact hne.symm

end Circular
