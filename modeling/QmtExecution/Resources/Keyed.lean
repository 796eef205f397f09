import Mathlib.Data.List.Nodup
import Mathlib.Data.List.Perm.Basic
import Mathlib.Algebra.BigOperators.Group.List.Basic

/-! Tables: lists of rows of which no two have the same key. -/

namespace QmtExecution.Resources

variable {α β κ : Type} {key : α → κ} {rows : List α} {row : α}

def Keyed (key : α → κ) (rows : List α) : Prop := (rows.map key).Nodup

theorem Keyed.nil : Keyed key [] := List.nodup_nil

theorem Keyed.append (keyed : Keyed key rows) (fresh : ∀ other ∈ rows, key other ≠ key row) :
    Keyed key (rows ++ [row]) := by
  rw [Keyed, List.map_append, List.nodup_append]
  refine ⟨keyed, List.nodup_singleton _, ?_⟩
  intro first member second single same
  obtain ⟨other, listed, rfl⟩ := List.mem_map.1 member
  rw [List.map_singleton, List.mem_singleton] at single
  exact fresh other listed (same.trans single)

theorem Keyed.map (keyed : Keyed key rows) {change : α → α}
    (same : ∀ row, key (change row) = key row) : Keyed key (rows.map change) := by
  rw [Keyed, List.map_map, show key ∘ change = key from funext same]
  exact keyed

theorem Keyed.filter (keyed : Keyed key rows) (keep : α → Bool) : Keyed key (rows.filter keep) :=
  keyed.sublist (List.filter_sublist.map key)

theorem Keyed.eq (keyed : Keyed key rows) {other : α} (member : row ∈ rows)
    (listed : other ∈ rows) (same : key row = key other) : row = other :=
  List.inj_on_of_nodup_map keyed member listed same

theorem Keyed.sum_eq {M : Type} [AddCommMonoid M] {others : List β} {key' : β → κ}
    (keyed : Keyed key rows) (keyed' : Keyed key' others)
    (same : ∀ k, k ∈ rows.map key ↔ k ∈ others.map key') (value : κ → M) :
    (rows.map fun row => value (key row)).sum = (others.map fun other => value (key' other)).sum := by
  have equal : (rows.map key).Perm (others.map key') := (List.perm_ext_iff_of_nodup keyed keyed').2 same
  have sums := (equal.map value).sum_eq
  rwa [List.map_map, List.map_map] at sums

end QmtExecution.Resources
