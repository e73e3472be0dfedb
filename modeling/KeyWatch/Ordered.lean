/-
# Ordered -- sorting by a key, runs, and search

Batches work on sorted keys. `ascendingBy` sorts by a text in byte order and keeps elements with
the same text in their order; `lastOfRuns` then keeps, of neighbours with the same key, the last
one. `search?` finds a number in an ascending array by halving the part in which it can stand:
what it finds is there (`search?_sound`), and what is there it finds (`search?_complete`).
-/

namespace KeyWatch.Ordered

set_option autoImplicit false

variable {α κ : Type}

/-- Sort by a text, in byte order; elements with the same text keep their order. -/
def ascendingBy (key : α → String) (items : List α) : List α :=
  items.mergeSort fun first second => decide (key first ≤ key second)

/-- Of neighbours that share a key, keep the last. -/
def lastOfRuns [DecidableEq κ] (key : α → κ) : List α → List α
  | [] => []
  | [item] => [item]
  | first :: second :: rest =>
      if key first = key second then lastOfRuns key (second :: rest)
      else first :: lastOfRuns key (second :: rest)

/-- Place of a number among the places `low` to `high` of an ascending array. -/
def searchBetween (key : α → Nat) (items : Array α) (wanted low high : Nat)
    (inside : high ≤ items.size) : Option (Fin items.size) :=
  if open_ : low < high then
    let middle := (low + high) / 2
    have within : middle < items.size := by omega
    if key items[middle] = wanted then some ⟨middle, within⟩
    else if key items[middle] < wanted then
      searchBetween key items wanted (middle + 1) high inside
    else searchBetween key items wanted low middle (by omega)
  else none
  termination_by high - low

/-- Place of a number in an ascending array. -/
def search? (key : α → Nat) (items : Array α) (wanted : Nat) : Option (Fin items.size) :=
  searchBetween key items wanted 0 items.size (Nat.le_refl _)

/-! ## Laws -/

theorem searchBetween_sound (key : α → Nat) (items : Array α) (wanted low high : Nat)
    (inside : high ≤ items.size) (place : Fin items.size)
    (found : searchBetween key items wanted low high inside = some place) :
    key items[place] = wanted := by
  fun_induction searchBetween key items wanted low high inside with
  | case1 low high inside _ middle within hit =>
    simp only [Option.some.injEq] at found
    subst found
    exact hit
  | case2 low high inside _ middle within _ _ ih => exact ih found
  | case3 low high inside _ middle within _ _ ih => exact ih found
  | case4 => simp at found

theorem search?_sound (key : α → Nat) (items : Array α) (wanted : Nat) (place : Fin items.size)
    (found : search? key items wanted = some place) : key items[place] = wanted :=
  searchBetween_sound key items wanted 0 items.size (Nat.le_refl _) place found

theorem searchBetween_complete (key : α → Nat) (items : Array α) (wanted low high : Nat)
    (inside : high ≤ items.size) (place : Fin items.size)
    (ascending : ∀ first second : Fin items.size, first < second →
      key items[first] < key items[second])
    (low_le : low ≤ place.val) (lt_high : place.val < high) (here : key items[place] = wanted) :
    searchBetween key items wanted low high inside = some place := by
  fun_induction searchBetween key items wanted low high inside with
  | case1 low high inside _ middle within hit =>
    rcases Nat.lt_trichotomy middle place.val with before | same | behind
    · have := ascending ⟨middle, within⟩ place before
      simp only [Fin.getElem_fin] at this here
      omega
    · exact congrArg some (Fin.ext same)
    · have := ascending place ⟨middle, within⟩ behind
      simp only [Fin.getElem_fin] at this here
      omega
  | case2 low high inside _ middle within miss less ih =>
    refine ih ascending ?_ lt_high here
    rcases Nat.lt_trichotomy middle place.val with before | same | behind
    · omega
    · exact absurd (by simpa [Fin.getElem_fin, same] using here) miss
    · have := ascending place ⟨middle, within⟩ behind
      simp only [Fin.getElem_fin] at this here
      omega
  | case3 low high inside _ middle within miss notLess ih =>
    refine ih ascending low_le ?_ here
    rcases Nat.lt_trichotomy middle place.val with before | same | behind
    · have := ascending ⟨middle, within⟩ place before
      simp only [Fin.getElem_fin] at this here
      omega
    · exact absurd (by simpa [Fin.getElem_fin, same] using here) miss
    · omega
  | case4 => omega

/-- **What is there is found,** at its only place. -/
theorem search?_complete (key : α → Nat) (items : Array α) (place : Fin items.size)
    (ascending : ∀ first second : Fin items.size, first < second →
      key items[first] < key items[second]) :
    search? key items (key items[place]) = some place :=
  searchBetween_complete key items _ 0 items.size (Nat.le_refl _) place ascending
    (Nat.zero_le _) place.isLt rfl

end KeyWatch.Ordered
