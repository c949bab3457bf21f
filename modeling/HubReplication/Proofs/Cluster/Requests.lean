/-
**The requests that a log remembers.**

What came of a request is kept under its id, and the ids are kept in the order they came.  The two
go together: a request that is remembered gets a place in both, and the oldest one loses its place
in both when there are too many.

Main definitions:

* `Consensus.InStep` — the outcomes and the order are of the same requests.

Main results:

* `Consensus.InStep.recorded?_remember_eq` — which requests are remembered after a new one;
* `Consensus.InStep.propose` — a proposal keeps the outcomes and the order in step.
-/

import Mathlib.Data.List.Nodup
import HubReplication.Cluster.Consensus

set_option relaxedAutoImplicit false
set_option autoImplicit false

namespace HubReplication

namespace Consensus

/-! ### Forgetting -/

variable {c : Consensus} {id : String}

/-- The requests that came last keep their place. -/
theorem forgetOldest_snd (requests : SortedMap String (Outcome Nat)) (order : List String) :
    (forgetOldest requests order).2 = order.drop (order.length - requestHistory) := by
  induction order generalizing requests with
  | nil => rfl
  | cons oldest order ih =>
      rw [forgetOldest]
      split
      · rename_i hmany
        rw [ih]
        have : (oldest :: order).length - requestHistory =
            order.length - requestHistory + 1 := by
          simp only [List.length_cons] at hmany ⊢
          omega
        rw [this, List.drop_succ_cons]
      · rename_i hfew
        rw [Nat.sub_eq_zero_of_le (by omega), List.drop_zero]

/-- What is forgotten is what loses its place in the order. -/
theorem get?_forgetOldest (requests : SortedMap String (Outcome Nat)) (order : List String)
    (id : String) :
    (forgetOldest requests order).1.get? id =
      if id ∈ order.take (order.length - requestHistory) then none else requests.get? id := by
  induction order generalizing requests with
  | nil => simp [forgetOldest]
  | cons oldest order ih =>
      rw [forgetOldest]
      split
      · rename_i hmany
        have : (oldest :: order).length - requestHistory =
            order.length - requestHistory + 1 := by
          simp only [List.length_cons] at hmany ⊢
          omega
        rw [ih, this, List.take_succ_cons, SortedMap.get?_erase]
        simp only [List.mem_cons]
        split <;> split <;> simp_all
      · rename_i hfew
        rw [Nat.sub_eq_zero_of_le (by omega), List.take_zero, if_neg List.not_mem_nil]

/-! ### Outcomes and their order -/

/-- The outcomes and the order are of the same requests, none of them twice and not too many. -/
structure InStep (c : Consensus) : Prop where
  nodup : c.requestOrder.Nodup
  mem_iff : ∀ id, id ∈ c.requestOrder ↔ (c.requests.get? id).isSome = true
  length_le : c.requestOrder.length ≤ requestHistory

theorem inStep_empty : empty.InStep where
  nodup := List.nodup_nil
  mem_iff := by simp [empty]
  length_le := Nat.zero_le _

theorem InStep.of_eq {c' : Consensus} (h : c.InStep) (hrequests : c'.requests = c.requests)
    (horder : c'.requestOrder = c.requestOrder) : c'.InStep where
  nodup := horder ▸ h.nodup
  mem_iff := by
    rw [hrequests, horder]
    exact h.mem_iff
  length_le := horder ▸ h.length_le

/-- A request without an outcome has no place in the order. -/
theorem InStep.not_mem (h : c.InStep) (hfresh : c.recorded? id = none) : id ∉ c.requestOrder := by
  rw [h.mem_iff, show c.requests.get? id = none from hfresh]
  simp

theorem InStep.nodup_append (h : c.InStep) (hfresh : c.recorded? id = none) :
    (c.requestOrder ++ [id]).Nodup := by
  rw [List.nodup_append]
  refine ⟨h.nodup, List.nodup_singleton id, ?_⟩
  rintro a ha b hb rfl
  rw [List.mem_singleton.1 hb] at ha
  exact h.not_mem hfresh ha

theorem requestOrder_remember (c : Consensus) (id : String) (outcome : Outcome Nat) :
    (c.remember id outcome).requestOrder =
      (c.requestOrder ++ [id]).drop ((c.requestOrder ++ [id]).length - requestHistory) :=
  forgetOldest_snd _ _

/-- After a new request, the outcomes are those of the requests that keep their place. -/
theorem InStep.recorded?_remember_eq (h : c.InStep) (hfresh : c.recorded? id = none)
    (outcome : Outcome Nat) (other : String) :
    (c.remember id outcome).recorded? other =
      if other ∈ (c.remember id outcome).requestOrder then
        if other = id then some outcome else c.recorded? other
      else none := by
  rw [requestOrder_remember]
  generalize hkept : (c.requestOrder ++ [id]).length - requestHistory = forgotten
  have hget : (c.remember id outcome).recorded? other =
      if other ∈ (c.requestOrder ++ [id]).take forgotten then none
      else (c.requests.insert id outcome).get? other := by
    rw [← hkept]
    exact get?_forgetOldest _ _ _
  rw [hget, SortedMap.get?_insert]
  simp only [Std.LawfulEqCmp.compare_eq_iff_eq]
  -- An id has one place, so it does not keep its place and lose it.
  have hapart := List.disjoint_take_drop (h.nodup_append hfresh) (Nat.le_refl forgotten)
  by_cases hkeeps : other ∈ (c.requestOrder ++ [id]).drop forgotten
  · rw [if_neg fun hlost => hapart hlost hkeeps, if_pos hkeeps]
    rfl
  · rw [if_neg hkeeps]
    split
    · rfl
    · rename_i hlost
      have hnone : other ∉ c.requestOrder ++ [id] := by
        rw [← List.take_append_drop forgotten (c.requestOrder ++ [id]), List.mem_append]
        exact not_or.2 ⟨hlost, hkeeps⟩
      simp only [List.mem_append, List.mem_singleton, not_or] at hnone
      rw [if_neg hnone.2]
      simpa [h.mem_iff] using hnone.1

/-- The request that just came keeps its place. -/
theorem mem_requestOrder_remember (c : Consensus) (id : String) (outcome : Outcome Nat) :
    id ∈ (c.remember id outcome).requestOrder := by
  rw [requestOrder_remember, List.drop_append_of_le_length]
  · simp
  · simp only [List.length_append, List.length_singleton, requestHistory]
    omega

theorem InStep.recorded?_remember (h : c.InStep) (hfresh : c.recorded? id = none)
    (outcome : Outcome Nat) : (c.remember id outcome).recorded? id = some outcome := by
  rw [h.recorded?_remember_eq hfresh, if_pos (mem_requestOrder_remember c id outcome), if_pos rfl]

/-- A new request keeps the outcomes and the order in step. -/
theorem InStep.remember (h : c.InStep) (hfresh : c.recorded? id = none) (outcome : Outcome Nat) :
    (c.remember id outcome).InStep where
  nodup := by
    rw [requestOrder_remember]
    exact (h.nodup_append hfresh).sublist (List.drop_sublist _ _)
  mem_iff := by
    intro other
    rw [show (c.remember id outcome).requests.get? other =
      (c.remember id outcome).recorded? other from rfl, h.recorded?_remember_eq hfresh]
    by_cases hkeeps : other ∈ (c.remember id outcome).requestOrder
    · rw [if_pos hkeeps]
      refine iff_of_true hkeeps ?_
      split
      · rfl
      · rename_i hother
        rw [requestOrder_remember] at hkeeps
        have hmem := List.mem_of_mem_drop hkeeps
        simp only [List.mem_append, List.mem_singleton, hother, or_false] at hmem
        exact (h.mem_iff other).1 hmem
    · rw [if_neg hkeeps]
      exact iff_of_false hkeeps (by simp)
  length_le := by
    rw [requestOrder_remember, List.length_drop]
    omega

/-! ### Proposals -/

theorem requests_commit (c : Consensus) (command : ClusterCommand) :
    (c.commit command).2.requests = c.requests ∧
      (c.commit command).2.requestOrder = c.requestOrder := by
  simp only [commit]
  split <;> exact ⟨rfl, rfl⟩

/-- A proposal keeps the outcomes and the order in step, whatever becomes of it. -/
theorem InStep.propose (h : c.InStep) (id : String) (command : ClusterCommand) :
    (c.propose id command).2.InStep := by
  unfold Consensus.propose
  split
  · exact h
  · split
    · exact h.of_eq rfl rfl
    · split
      · exact h
      · rename_i hfresh
        obtain ⟨hrequests, horder⟩ := requests_commit c command
        refine (h.of_eq hrequests horder).remember ?_ _
        simpa only [recorded?, hrequests] using hfresh

end Consensus

end HubReplication
