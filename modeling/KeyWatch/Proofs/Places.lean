/-
# Proofs.Places -- one element of a list in place of another

Workers, scripts and sessions are kept in lists and known by their places. What is picked of such a
list, from each element at most one item, changes by as much as the one element changes that is
replaced (`filterMap_set_perm`), and a sum over the list gets smaller if that element does
(`sum_map_set_lt`).
-/
import Mathlib.Algebra.GroupWithZero.Nat
import Mathlib.Data.List.Perm.Basic
import Mathlib.Data.List.Nodup

namespace KeyWatch

set_option autoImplicit false

section Lists

variable {α β : Type} {items : List α} {index : Nat} {old : α}

theorem getElem?_set_of_found (found : items[index]? = some old) (new : α) :
    (items.set index new)[index]? = some new :=
  List.getElem?_set_self (List.getElem?_eq_some_iff.1 found).1

/-- An image does not show the replacement of an element by one with the same image. -/
theorem map_set_of_eq (found : items[index]? = some old) {image : α → β} {new : α}
    (same : image new = image old) : (items.set index new).map image = items.map image := by
  obtain ⟨inside, rfl⟩ := List.getElem?_eq_some_iff.1 found
  have mapped : index < (items.map image).length := by simpa using inside
  have here : image items[index] = (items.map image)[index] := (List.getElem_map ..).symm
  rw [List.map_set, same, here, List.set_getElem_self]

theorem filterMap_set_of_eq (found : items[index]? = some old) {image : α → Option β} {new : α}
    (same : image new = image old) :
    (items.set index new).filterMap image = items.filterMap image := by
  have images (items : List α) : items.filterMap image = (items.map image).filterMap id := by
    rw [List.filterMap_map, Function.id_comp]
  rw [images, map_set_of_eq found same, images]

/-- What is picked of a list loses what was picked of the old element and gains what is picked of
the new one. -/
theorem filterMap_set_perm (found : items[index]? = some old) (pick : α → Option β) (new : α) :
    ((pick old).toList ++ (items.set index new).filterMap pick).Perm
      ((pick new).toList ++ items.filterMap pick) := by
  have picks (item : α) (rest : List α) :
      (item :: rest).filterMap pick = (pick item).toList ++ rest.filterMap pick := by
    cases picked : pick item <;> simp [picked]
  induction items generalizing index with
  | nil => cases found
  | cons first rest ih =>
    cases index with
    | zero =>
      cases found
      rw [List.set_cons_zero, picks, picks]
      exact List.perm_append_comm_assoc ..
    | succ index =>
      rw [List.set_cons_succ, picks, picks]
      refine (List.perm_append_comm_assoc ..).trans ?_
      exact ((ih found).append_left _).trans (List.perm_append_comm_assoc ..)

/-- A smaller element in place of another makes the sum smaller. -/
theorem sum_map_set_lt (found : items[index]? = some old) {size : α → Nat} {new : α}
    (less : size new < size old) : ((items.set index new).map size).sum < (items.map size).sum := by
  induction items generalizing index with
  | nil => cases found
  | cons first rest ih =>
    cases index with
    | zero =>
      cases found
      rw [List.set_cons_zero, List.map_cons, List.map_cons, List.sum_cons, List.sum_cons]
      exact Nat.add_lt_add_right less _
    | succ index =>
      rw [List.set_cons_succ, List.map_cons, List.map_cons, List.sum_cons, List.sum_cons]
      exact Nat.add_lt_add_left (ih found) _

/-- If nothing is picked twice, nothing is picked from two places. -/
theorem index_eq_of_nodup_filterMap {pick : α → Option β} (nodup : (items.filterMap pick).Nodup)
    {other : Nat} {new : α} {picked : β} (found : items[index]? = some old)
    (there : items[other]? = some new) (pickedOld : pick old = some picked)
    (pickedNew : pick new = some picked) : index = other := by
  obtain ⟨inside, rfl⟩ := List.getElem?_eq_some_iff.1 found
  obtain ⟨within, rfl⟩ := List.getElem?_eq_some_iff.1 there
  have apart := List.pairwise_iff_getElem.1 (List.pairwise_filterMap.1 nodup)
  obtain earlier | same | later := Nat.lt_trichotomy index other
  · exact absurd rfl (apart index other inside within earlier _ pickedOld _ pickedNew)
  · exact same
  · exact absurd rfl (apart other index within inside later _ pickedNew _ pickedOld)

theorem filterMap_sublist_of_imp {fewer more : α → Option β}
    (covers : ∀ item picked, fewer item = some picked → more item = some picked)
    (items : List α) : (items.filterMap fewer).Sublist (items.filterMap more) := by
  induction items with
  | nil => exact .slnil
  | cons first rest ih =>
    cases picked : fewer first with
    | some value =>
      rw [List.filterMap_cons_some picked, List.filterMap_cons_some (covers first value picked)]
      exact ih.cons_cons value
    | none =>
      rw [List.filterMap_cons_none picked]
      cases other : more first with
      | none =>
        rw [List.filterMap_cons_none other]
        exact ih
      | some value =>
        rw [List.filterMap_cons_some other]
        exact ih.cons value

end Lists

end KeyWatch
