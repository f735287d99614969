import Mathlib.Data.List.Basic

/- A list cut at an item, the way `str.partition` and `str.rpartition` cut a text at a
   character.

   `partition c l` is what stands before the first `c`, and what stands behind it if there is
   one; `rpartition c l` is what stands before the last `c`, if there is one, and what stands
   behind it. Each has a lemma for the two forms of list it can meet (`partition_append`,
   `partition_of_not_mem`), and one that says that there are no others (`partition_cases`). -/
namespace Partition

variable {α : Type*} [DecidableEq α]

def partition (c : α) : List α → List α × Option (List α)
  | [] => ([], none)
  | x :: l => if x = c then ([], some l) else (x :: (partition c l).1, (partition c l).2)

theorem partition_of_not_mem {c : α} {l : List α} (h : c ∉ l) : partition c l = (l, none) := by
  induction l with
  | nil => rfl
  | cons x l ih =>
    obtain ⟨hx, hl⟩ := not_or.mp (mt List.mem_cons.mpr h)
    rw [partition, if_neg (Ne.symm hx), ih hl]

theorem partition_append {c : α} {l : List α} (h : c ∉ l) (r : List α) :
    partition c (l ++ c :: r) = (l, some r) := by
  induction l with
  | nil => exact if_pos rfl
  | cons x l ih =>
    obtain ⟨hx, hl⟩ := not_or.mp (mt List.mem_cons.mpr h)
    rw [List.cons_append, partition, if_neg (Ne.symm hx), ih hl]

/-- There is no `c`, or a first one. -/
theorem partition_cases (c : α) (l : List α) : c ∉ l ∧ partition c l = (l, none) ∨
    ∃ a r, l = a ++ c :: r ∧ c ∉ a ∧ partition c l = (a, some r) := by
  by_cases h : c ∈ l
  · obtain ⟨a, r, rfl, ha⟩ := List.eq_append_cons_of_mem h
    exact .inr ⟨a, r, rfl, ha, partition_append ha r⟩
  · exact .inl ⟨h, partition_of_not_mem h⟩

theorem mem_partition {c d : α} {l : List α} (h : d ∈ (partition c l).1) : d ∈ l := by
  obtain ⟨-, heq⟩ | ⟨a, r, rfl, -, heq⟩ := partition_cases c l
  · rwa [heq] at h
  · rw [heq] at h
    exact List.mem_append_left _ h

/-- What is behind the first `c` is in the list, too. -/
theorem mem_of_partition {c d : α} {l r : List α} (h : (partition c l).2 = some r) (hd : d ∈ r) :
    d ∈ l := by
  obtain ⟨-, heq⟩ | ⟨a, r', rfl, -, heq⟩ := partition_cases c l
  · rw [heq] at h
    cases h
  · rw [heq] at h
    obtain rfl := Option.some.inj h
    exact List.mem_append_right a (List.mem_cons_of_mem c hd)

theorem partition_first {c : α} {l : List α} : c ∉ (partition c l).1 := by
  obtain ⟨hl, heq⟩ | ⟨a, r, -, ha, heq⟩ := partition_cases c l
  · rwa [heq]
  · rwa [heq]

def rpartition (c : α) (l : List α) : Option (List α) × List α :=
  match partition c l.reverse with
  | (_, none) => (none, l)
  | (r, some a) => (some a.reverse, r.reverse)

theorem rpartition_of_not_mem {c : α} {l : List α} (h : c ∉ l) : rpartition c l = (none, l) := by
  unfold rpartition
  rw [partition_of_not_mem (by rwa [List.mem_reverse])]

theorem rpartition_append {c : α} {r : List α} (h : c ∉ r) (l : List α) :
    rpartition c (l ++ c :: r) = (some l, r) := by
  have hreverse : (l ++ c :: r).reverse = r.reverse ++ c :: l.reverse := by simp
  unfold rpartition
  rw [hreverse, partition_append (by rwa [List.mem_reverse]) l.reverse]
  simp

/-- There is no `c`, or a last one. -/
theorem rpartition_cases (c : α) (l : List α) : c ∉ l ∧ rpartition c l = (none, l) ∨
    ∃ a r, l = a ++ c :: r ∧ c ∉ r ∧ rpartition c l = (some a, r) := by
  by_cases h : c ∈ l
  · obtain ⟨r, a, hl, hr⟩ := List.eq_append_cons_of_mem (List.mem_reverse.mpr h)
    have heq : l = a.reverse ++ c :: r.reverse := by
      rw [← List.reverse_reverse l, hl]
      simp
    have hlast : c ∉ r.reverse := by rwa [List.mem_reverse]
    exact .inr ⟨a.reverse, r.reverse, heq, hlast, by rw [heq, rpartition_append hlast]⟩
  · exact .inl ⟨h, rpartition_of_not_mem h⟩

omit [DecidableEq α] in
/-- What is taken up to the first item with `p`, and what is left. -/
theorem takeWhile_append_dropWhile_of_head {p : α → Bool} {l r : List α} (hl : ∀ x ∈ l, p x = true)
    (hr : ∀ x, r.head? = some x → p x = false) :
    (l ++ r).takeWhile p = l ∧ (l ++ r).dropWhile p = r := by
  rw [List.takeWhile_append_of_pos hl, List.dropWhile_append_of_pos hl]
  cases r with
  | nil => simp
  | cons x r => simp [hr x rfl]

end Partition
