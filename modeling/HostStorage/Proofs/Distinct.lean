import Mathlib.Data.List.Induction
import Mathlib.Data.List.Nodup

/-!
# Telling everything once

What has been told before is left out. A further element is told at the end, unless it is known
(`eraseDups_concat`), and this is the step in which the order and the absence of repetitions are
kept. So everything is told in the order of its first appearance, and in no other way
(`FirstAppearances.unique`).
-/
namespace HostStorage

section

variable {α : Type} [BEq α] [LawfulBEq α]

theorem eraseDups_concat (xs : List α) (x : α) :
    (xs ++ [x]).eraseDups = if xs.contains x then xs.eraseDups else xs.eraseDups ++ [x] := by
  rw [List.eraseDups_append]
  by_cases again : x ∈ xs
  · simp [again, List.removeAll]
  · simp [again, List.removeAll, List.eraseDups_cons]

theorem nodup_eraseDups (xs : List α) : xs.eraseDups.Nodup := by
  induction xs using List.reverseRecOn with
  | nil => exact List.nodup_nil
  | append_singleton xs x ih =>
    rw [eraseDups_concat]
    split
    next again => exact ih
    next new =>
      have untold : x ∉ xs.eraseDups := by simpa using new
      simpa using ih.concat untold

/-- What has been told once is told the same way again. -/
theorem eraseDups_eraseDups (xs : List α) : xs.eraseDups.eraseDups = xs.eraseDups := by
  induction xs using List.reverseRecOn with
  | nil => rfl
  | append_singleton xs x ih =>
    rw [eraseDups_concat]
    split
    next again => exact ih
    next new =>
      have untold : ¬ xs.eraseDups.contains x = true := by simpa using new
      rw [eraseDups_concat, if_neg untold, ih]

/-- A known element may be repeated anywhere. -/
theorem eraseDups_append_cons {before : List α} {x : α} (known : x ∈ before) (after : List α) :
    (before ++ x :: after).eraseDups = (before ++ after).eraseDups := by
  simp only [List.eraseDups_append, List.removeAll, List.filter_cons, List.elem_eq_mem, known,
    decide_true, Bool.not_true, Bool.false_eq_true, if_false]

end

/-- The same elements, ordered by where each of them first appears, so none of them twice. -/
structure FirstAppearances (xs distinct : List String) : Prop where
  same : ∀ x, x ∈ distinct ↔ x ∈ xs
  inOrder : distinct.Pairwise fun x y => xs.idxOf x < xs.idxOf y

/-- A further element appears last, unless it has appeared before. -/
theorem FirstAppearances.concat {xs distinct : List String} (told : FirstAppearances xs distinct)
    (x : String) :
    FirstAppearances (xs ++ [x]) (if x ∈ xs then distinct else distinct ++ [x]) := by
  have kept : distinct.Pairwise fun y z => (xs ++ [x]).idxOf y < (xs ++ [x]).idxOf z := by
    refine told.inOrder.imp_of_mem fun isFirst isSecond before => ?_
    rw [List.idxOf_append_of_mem ((told.same _).1 isFirst),
      List.idxOf_append_of_mem ((told.same _).1 isSecond)]
    exact before
  split
  next again =>
    refine ⟨fun y => ?_, kept⟩
    rw [told.same, List.mem_append, List.mem_singleton]
    exact ⟨Or.inl, fun known => known.elim id fun same => same ▸ again⟩
  next new =>
    refine ⟨fun y => ?_, List.pairwise_append.2 ⟨kept, List.pairwise_singleton _ x, ?_⟩⟩
    · rw [List.mem_append, List.mem_append, told.same]
    · intro y isDistinct z isLast
      have known := (told.same y).1 isDistinct
      rw [List.mem_singleton.1 isLast, List.idxOf_append_of_mem known,
        List.idxOf_append_of_notMem new]
      have early := List.idxOf_lt_length_of_mem known
      omega

theorem firstAppearances_eraseDups (xs : List String) : FirstAppearances xs xs.eraseDups := by
  induction xs using List.reverseRecOn with
  | nil => exact ⟨fun _ => Iff.rfl, List.Pairwise.nil⟩
  | append_singleton xs x ih =>
    rw [eraseDups_concat]
    simp only [List.contains_iff_mem]
    exact ih.concat x

theorem FirstAppearances.nodup {xs distinct : List String} (told : FirstAppearances xs distinct) :
    distinct.Nodup := by
  refine told.inOrder.imp fun before => ?_
  rintro rfl
  exact absurd before (Nat.lt_irrefl _)

/-- Elements and order leave one way of telling. -/
theorem FirstAppearances.unique {xs first second : List String} (told : FirstAppearances xs first)
    (also : FirstAppearances xs second) : first = second := by
  have alike : first.Perm second := by
    refine (List.perm_ext_iff_of_nodup told.nodup also.nodup).2 fun x => ?_
    rw [told.same, also.same]
  refine alike.eq_of_pairwise (fun x y _ _ before after => ?_) told.inOrder also.inOrder
  omega

end HostStorage
