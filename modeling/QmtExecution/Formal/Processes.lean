import QmtExecution.Domain

/-! The resource model of `formal.py`: from which processes hold resources and what each
process asks for, whether a process may take them. The three processes of the source are any
number here, and accounts and symbols are compared only. -/

namespace QmtExecution.Formal

structure FormalProcessSpec (α σ : Type) where
  account : α
  symbol : σ
  side : Side
  requiredCash : ℕ
  deriving DecidableEq

section Decisions

variable {n : ℕ} {α σ : Type} [DecidableEq α] (held : Fin n → Bool)
  (processes : Fin n → FormalProcessSpec α σ)

def claimFree [DecidableEq σ] (index : Fin n) : Bool :=
  (List.finRange n).all fun other =>
    other = index || !held other ||
      !((processes other).account = (processes index).account &&
        (processes other).symbol = (processes index).symbol)

def reserves (account : α) (exclude : Option (Fin n)) (index : Fin n) : Bool :=
  !(some index = exclude) && held index &&
    ((processes index).account = account && (processes index).side = .buy)

def activeReservedCash (account : α) (exclude : Option (Fin n)) : ℕ :=
  ∑ index with reserves held processes account exclude index, (processes index).requiredCash

def canPrepare [DecidableEq σ] (capacity : ℤ) (index : Fin n) : Bool :=
  claimFree held processes index &&
    ((processes index).side ≠ .buy ||
      (processes index).requiredCash ≤
        capacity - activeReservedCash held processes (processes index).account (some index))

/-- Restoring authorizes no new order, so that the cash is not checked again. -/
def canRestore [DecidableEq σ] (index : Fin n) : Bool := claimFree held processes index

variable {held processes}

theorem claimFree_iff [DecidableEq σ] {index : Fin n} :
    claimFree held processes index = true ↔ ∀ other, other ≠ index → held other = true →
      (processes other).account = (processes index).account →
        (processes other).symbol ≠ (processes index).symbol := by
  simp only [claimFree, List.all_eq_true, List.mem_finRange, true_implies, Bool.or_eq_true,
    decide_eq_true_eq, Bool.not_eq_true', Bool.and_eq_false_imp, decide_eq_false_iff_not]
  refine forall_congr' fun other => ?_
  cases held other <;> by_cases same : other = index <;> simp [same]

theorem canPrepare_iff [DecidableEq σ] {capacity : ℤ} {index : Fin n} :
    canPrepare held processes capacity index = true ↔
      claimFree held processes index = true ∧ ((processes index).side = .buy →
        (processes index).requiredCash ≤ capacity -
          activeReservedCash held processes (processes index).account (some index)) := by
  simp only [canPrepare, Bool.and_eq_true, Bool.or_eq_true, decide_eq_true_eq]
  exact and_congr_right fun _ => Decidable.imp_iff_not_or.symm

theorem activeReservedCash_some {account : α} {index : Fin n} (idle : held index = false) :
    activeReservedCash held processes account (some index) =
      activeReservedCash held processes account none := by
  unfold activeReservedCash
  refine congrArg (fun chosen => ∑ other ∈ chosen, (processes other).requiredCash) ?_
  refine Finset.filter_congr fun other _ => ?_
  by_cases same : other = index
  · subst same
    simp [reserves, idle]
  · simp [reserves, same]

theorem activeReservedCash_list (account : α) (exclude : Option (Fin n)) :
    activeReservedCash held processes account exclude =
      (((List.finRange n).filter (reserves held processes account exclude)).map fun index =>
        (processes index).requiredCash).sum := by
  rw [← List.sum_toFinset _ ((List.nodup_finRange n).filter _)]
  exact Finset.sum_congr (by ext index; simp) fun _ _ => rfl

end Decisions

end QmtExecution.Formal
