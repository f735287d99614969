import Mathlib.Data.List.DropRight

/- A list without the blanks at its two ends, the way `str.strip` takes them off a text.

   Blanks around a list make no difference (`trim_append`), a list with none at its ends stays
   (`trim_eq_self`), and an item that is no blank divides the work: what stands before it loses its
   first blanks, what stands behind it its last (`trim_append_cons`). -/
namespace Trim

variable {α : Type*} {p : α → Bool}

def trim (p : α → Bool) (l : List α) : List α := (l.dropWhile p).rdropWhile p

theorem rdropWhile_append_of_pos {b : List α} (hb : ∀ x ∈ b, p x = true) (l : List α) :
    (l ++ b).rdropWhile p = l.rdropWhile p := by
  unfold List.rdropWhile
  rw [List.reverse_append, List.dropWhile_append_of_pos]
  intro x hx
  exact hb x (List.mem_reverse.mp hx)

/-- Blanks around a list. -/
theorem trim_append {a b : List α} (ha : ∀ x ∈ a, p x = true) (hb : ∀ x ∈ b, p x = true)
    (l : List α) : trim p (a ++ (l ++ b)) = trim p l := by
  unfold trim
  rw [List.dropWhile_append_of_pos ha, List.dropWhile_append]
  split
  · -- nothing but blanks
    rename_i hl
    have hnil : b.dropWhile p = [] := List.dropWhile_eq_nil_iff.mpr hb
    rw [hnil, List.isEmpty_iff.mp hl]
  · exact rdropWhile_append_of_pos hb _

theorem trim_eq_self {l : List α} (hfirst : ∀ x, l.head? = some x → p x = false)
    (hlast : ∀ x, l.getLast? = some x → p x = false) : trim p l = l := by
  have hleft : l.dropWhile p = l := by
    cases l with
    | nil => rfl
    | cons x l => exact List.dropWhile_cons_of_neg (by simp [hfirst x rfl])
  unfold trim
  rw [hleft, List.rdropWhile_eq_self_iff]
  intro hl
  rw [hlast _ (List.getLast?_eq_some_getLast hl)]
  exact Bool.false_ne_true

theorem mem_of_mem_trim {c : α} {l : List α} (h : c ∈ trim p l) : c ∈ l :=
  (List.dropWhile_sublist p).subset ((List.rdropWhile_prefix p _).subset h)

/-- The first blanks are gone. -/
theorem trim_dropWhile (l : List α) : trim p (l.dropWhile p) = trim p l := by
  unfold trim
  rw [List.dropWhile_idempotent]

/-- The last blanks are gone. -/
theorem trim_rdropWhile (l : List α) : trim p (l.rdropWhile p) = trim p l := by
  have hlast : ∀ x ∈ l.rtakeWhile p, p x = true := fun x hx => List.mem_rtakeWhile_imp hx
  have hends := trim_append (a := []) (fun x hx => absurd hx List.not_mem_nil) hlast
    (l.rdropWhile p)
  rw [List.nil_append, List.rdropWhile_append_rtakeWhile] at hends
  exact hends.symm

/-- An item that is no blank. -/
theorem trim_append_cons {c : α} (hc : p c = false) (a b : List α) :
    trim p (a ++ c :: b) = a.dropWhile p ++ c :: b.rdropWhile p := by
  have hleft : (a ++ c :: b).dropWhile p = a.dropWhile p ++ c :: b := by
    rw [List.dropWhile_append, List.dropWhile_cons_of_neg (by simp [hc])]
    split
    · rename_i ha
      rw [List.isEmpty_iff.mp ha, List.nil_append]
    · rfl
  have hright : (b.reverse ++ c :: (a.dropWhile p).reverse).dropWhile p =
      b.reverse.dropWhile p ++ c :: (a.dropWhile p).reverse := by
    rw [List.dropWhile_append, List.dropWhile_cons_of_neg (by simp [hc])]
    split
    · rename_i hb
      rw [List.isEmpty_iff.mp hb, List.nil_append]
    · rfl
  unfold trim
  rw [hleft]
  unfold List.rdropWhile
  simp [hright]

end Trim
