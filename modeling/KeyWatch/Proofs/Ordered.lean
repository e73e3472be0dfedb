/-
# Proofs.Ordered -- what sorting a batch keeps and what it drops

`ascendingBy` permutes and keeps the order of elements that share their text, so the last of such
elements in the sorted list is the last of them in the given one. `lastOfRuns` on a sorted list
leaves exactly one element for each text, the last (`getLast?_filter_lastOfRuns`), in strictly
ascending order; hence what is left depends on the texts that occur and on nothing else
(`eq_of_ascending`).
-/
import KeyWatch.Ordered
import KeyWatch.Proofs.ByteOrder
import Mathlib.Data.List.Sort

namespace KeyWatch.Ordered

set_option autoImplicit false

variable {α κ : Type}

/-! ## Sorting -/

theorem ascendingBy_perm (key : α → String) (items : List α) :
    (ascendingBy key items).Perm items :=
  List.mergeSort_perm _ _

@[simp] theorem mem_ascendingBy (key : α → String) (items : List α) (item : α) :
    item ∈ ascendingBy key items ↔ item ∈ items :=
  (ascendingBy_perm key items).mem_iff

section Comparison

variable [LinearOrder κ] [DecidableLE κ] (key : α → κ)

theorem comparison_trans (a b c : α) (ab : decide (key a ≤ key b) = true)
    (bc : decide (key b ≤ key c) = true) : decide (key a ≤ key c) = true := by
  simp only [decide_eq_true_eq] at *
  exact le_trans ab bc

theorem comparison_total (a b : α) :
    (decide (key a ≤ key b) || decide (key b ≤ key a)) = true := by
  simp only [Bool.or_eq_true, decide_eq_true_eq]
  exact le_total _ _

theorem pairwise_mergeSort_key (items : List α) :
    (items.mergeSort fun first second => decide (key first ≤ key second)).Pairwise
      fun first second => key first ≤ key second := by
  have sorted := List.pairwise_mergeSort (comparison_trans key) (comparison_total key) items
  exact sorted.imp fun inOrder => by simpa using inOrder

end Comparison

theorem pairwise_ascendingBy (key : α → String) (items : List α) :
    (ascendingBy key items).Pairwise fun first second => key first ≤ key second :=
  pairwise_mergeSort_key key items

/-- **Sorting keeps the order of what shares a text.** -/
theorem filter_ascendingBy (key : α → String) (items : List α) (wanted : String) :
    (ascendingBy key items).filter (fun item => key item = wanted)
      = items.filter (fun item => key item = wanted) := by
  have inOrder : (items.filter fun item => key item = wanted).Pairwise
      fun first second => decide (key first ≤ key second) = true := by
    refine List.pairwise_of_forall_mem_list ?_
    intro first first_mem second second_mem
    simp only [List.mem_filter, decide_eq_true_eq] at *
    rw [first_mem.2, second_mem.2]
  have kept : (items.filter fun item => key item = wanted).Sublist (ascendingBy key items) :=
    List.sublist_mergeSort (comparison_trans key) (comparison_total key) inOrder
      List.filter_sublist
  have filtered := kept.filter fun item => key item = wanted
  rw [List.filter_filter] at filtered
  simp only [Bool.and_self] at filtered
  refine (filtered.eq_of_length ?_).symm
  exact (((ascendingBy_perm key items).filter _).length_eq).symm

/-! ## One of each run -/

section Runs

variable [DecidableEq κ] (key : α → κ)

theorem lastOfRuns_sublist (items : List α) : (lastOfRuns key items).Sublist items := by
  fun_induction lastOfRuns key items with
  | case1 => exact List.Sublist.refl _
  | case2 => exact List.Sublist.refl _
  | case3 first second rest _ ih => exact ih.cons first
  | case4 first second rest _ ih => exact ih.cons_cons first

theorem mem_map_lastOfRuns (items : List α) (wanted : κ) :
    wanted ∈ (lastOfRuns key items).map key ↔ wanted ∈ items.map key := by
  fun_induction lastOfRuns key items with
  | case1 => rfl
  | case2 => rfl
  | case3 first second rest same ih =>
    rw [ih]
    simp [same]
  | case4 first second rest _ ih =>
    rw [List.map_cons, List.mem_cons, ih]
    simp

/-- **The last of each run is left,** so the last element with a key is the same as before. -/
theorem getLast?_filter_lastOfRuns (items : List α) (wanted : κ) :
    ((lastOfRuns key items).filter fun item => key item = wanted).getLast?
      = (items.filter fun item => key item = wanted).getLast? := by
  fun_induction lastOfRuns key items with
  | case1 => rfl
  | case2 => rfl
  | case3 first second rest same ih =>
    rw [ih]
    by_cases hit : key first = wanted
    · have next : key second = wanted := same ▸ hit
      simp [hit, next, List.getLast?_cons]
    · simp [hit]
  | case4 first second rest _ ih =>
    by_cases hit : key first = wanted
    · rw [List.filter_cons_of_pos (by simpa using hit), List.filter_cons_of_pos (by simpa using hit),
        List.getLast?_cons, List.getLast?_cons, ih]
    · rw [List.filter_cons_of_neg (by simpa using hit), List.filter_cons_of_neg (by simpa using hit),
        ih]

variable [PartialOrder κ]

/-- What is left of a sorted list ascends strictly. -/
theorem pairwise_lastOfRuns (items : List α)
    (ascending : items.Pairwise fun first second => key first ≤ key second) :
    (lastOfRuns key items).Pairwise fun first second => key first < key second := by
  fun_induction lastOfRuns key items with
  | case1 => exact List.Pairwise.nil
  | case2 => exact List.pairwise_singleton _ _
  | case3 first second rest _ ih => exact ih (List.pairwise_cons.1 ascending).2
  | case4 first second rest apart ih =>
    obtain ⟨head, tail⟩ := List.pairwise_cons.1 ascending
    refine List.pairwise_cons.2 ⟨?_, ih tail⟩
    intro item kept
    have next : key first < key second := lt_of_le_of_ne (head second (by simp)) apart
    rcases List.mem_cons.1 ((lastOfRuns_sublist key _).subset kept) with rfl | later
    · exact next
    · exact next.trans_le ((List.pairwise_cons.1 tail).1 item later)

end Runs

/-- In a strictly ascending list an element is the only one with its key. -/
theorem filter_eq_singleton [PartialOrder κ] [DecidableEq κ] (key : α → κ) {items : List α}
    (ascending : items.Pairwise fun first second => key first < key second) {item : α}
    (member : item ∈ items) : items.filter (fun other => key other = key item) = [item] := by
  have sorted := ascending.filter fun other => decide (key other = key item)
  have here : item ∈ items.filter fun other => key other = key item :=
    List.mem_filter.2 ⟨member, by simp⟩
  have alike : ∀ other ∈ items.filter fun other => key other = key item, key other = key item := by
    intro other kept
    simpa using (List.mem_filter.1 kept).2
  cases same : items.filter fun other => decide (key other = key item) with
  | nil =>
    rw [same] at here
    cases here
  | cons first rest =>
    rw [same] at sorted here alike
    cases rest with
    | nil => rw [List.mem_singleton.1 here]
    | cons second rest =>
      have before := (List.pairwise_cons.1 sorted).1 second (by simp)
      rw [alike first (by simp), alike second (by simp)] at before
      exact absurd before (lt_irrefl _)

/-- Two strictly ascending lists of the same elements are one list. -/
theorem eq_of_ascending [PartialOrder κ] {first second : List κ} (ascending : first.Pairwise (· < ·))
    (ascending' : second.Pairwise (· < ·)) (same : ∀ item, item ∈ first ↔ item ∈ second) :
    first = second := by
  have perm : first.Perm second :=
    (List.perm_ext_iff_of_nodup (ascending.imp ne_of_lt) (ascending'.imp ne_of_lt)).2 same
  exact perm.eq_of_pairwise (fun a b _ _ ab ba => absurd ab (lt_asymm ba)) ascending ascending'

/-! ## The order of bytes -/

/-- Texts in ascending order of their bytes. -/
def byBytes (texts : List String) : List String :=
  texts.mergeSort fun first second => decide (Text.utf8 first ≤ Text.utf8 second)

theorem byBytes_eq (texts : List String) : byBytes texts = ascendingBy id texts := by
  unfold byBytes ascendingBy
  congr 1
  funext first second
  rw [decide_eq_decide]
  exact Text.utf8_le_iff first second

theorem mem_byBytes (texts : List String) (text : String) : text ∈ byBytes texts ↔ text ∈ texts :=
  List.mem_mergeSort

/-- Distinct texts in the order of their bytes ascend strictly. -/
theorem pairwise_byBytes {texts : List String} (distinct : texts.Nodup) :
    (byBytes texts).Pairwise (· < ·) := by
  rw [byBytes_eq]
  have apart : (ascendingBy id texts).Nodup := (ascendingBy_perm id texts).nodup_iff.2 distinct
  exact (pairwise_ascendingBy id texts).imp₂ (fun _ _ le ne => lt_of_le_of_ne le ne) apart

end KeyWatch.Ordered
