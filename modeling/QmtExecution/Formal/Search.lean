import Mathlib.Data.Fintype.Card
import Mathlib.Data.List.Nodup
import Mathlib.Logic.Relation
import Mathlib.SetTheory.Cardinal.Finite

/-! Worklist search: the states met are those reachable from the start, and the search ends
where there are finitely many. -/

namespace QmtExecution.Search

variable {α : Type} [DecidableEq α]

def gather (known : List α) : List α → List α
  | [] => []
  | candidate :: candidates =>
      if candidate ∈ known then gather known candidates
      else candidate :: gather (candidate :: known) candidates

/-- Takes states from the front of the queue, and puts their new successors at its end. -/
def explore (next : α → List α) : ℕ → List α → List α → Option (List α)
  | 0, _, _ => none
  | _ + 1, [], reached => some reached
  | fuel + 1, current :: queue, reached =>
      let fresh := gather reached (next current)
      explore next fuel (queue ++ fresh) (reached ++ fresh)

def search (next : α → List α) (start : α) (fuel : ℕ) : Option (List α) :=
  explore next fuel [start] [start]

theorem mem_gather {known candidates : List α} {state : α} :
    state ∈ gather known candidates ↔ state ∈ candidates ∧ state ∉ known := by
  induction candidates generalizing known with
  | nil => simp [gather]
  | cons candidate candidates ih =>
      rw [gather]
      split_ifs with old
      · rw [ih, List.mem_cons]
        constructor
        · exact fun found => ⟨.inr found.1, found.2⟩
        · rintro ⟨rfl | listed, unknown⟩
          · exact absurd old unknown
          · exact ⟨listed, unknown⟩
      · rw [List.mem_cons, ih, List.mem_cons, List.mem_cons]
        by_cases same : state = candidate
        · subst same
          simp [old]
        · simp [same]

theorem gather_nodup (known candidates : List α) : (gather known candidates).Nodup := by
  induction candidates generalizing known with
  | nil => exact List.nodup_nil
  | cons candidate candidates ih =>
      rw [gather]
      split_ifs
      · exact ih known
      · refine List.nodup_cons.2 ⟨fun again => ?_, ih _⟩
        exact (mem_gather.1 again).2 (List.mem_cons_self ..)

theorem nodup_gather {reached candidates : List α} (nodup : reached.Nodup) :
    (reached ++ gather reached candidates).Nodup := by
  refine List.nodup_append.2 ⟨nodup, gather_nodup _ _, fun state old other new same => ?_⟩
  exact (mem_gather.1 new).2 (same ▸ old)

theorem explore_sound {next : α → List α} {fuel : ℕ} {queue reached result : List α} {start : α}
    (found : explore next fuel queue reached = some result) (queued : ∀ s ∈ queue, s ∈ reached)
    (sound : ∀ s ∈ reached, Relation.ReflTransGen (fun s t => t ∈ next s) start s) :
    ∀ s ∈ result, Relation.ReflTransGen (fun s t => t ∈ next s) start s := by
  fun_induction explore with
  | case1 => cases found
  | case2 =>
      cases found
      exact sound
  | case3 fuel current queue reached fresh ih =>
      refine ih found (fun s member => ?_) fun s member => ?_
      · rcases List.mem_append.1 member with old | new
        · exact List.mem_append_left _ (queued s (List.mem_cons_of_mem _ old))
        · exact List.mem_append_right _ new
      · rcases List.mem_append.1 member with old | new
        · exact sound s old
        · exact .tail (sound current (queued current (List.mem_cons_self ..))) (mem_gather.1 new).1

/-- Every state met keeps its successors: they are in what is found when the queue is empty. -/
theorem explore_closed {next : α → List α} {fuel : ℕ} {queue reached result : List α}
    (found : explore next fuel queue reached = some result)
    (closed : ∀ s ∈ reached, s ∈ queue ∨ ∀ t ∈ next s, t ∈ reached) :
    (∀ s ∈ reached, s ∈ result) ∧ ∀ s ∈ result, ∀ t ∈ next s, t ∈ result := by
  fun_induction explore with
  | case1 => cases found
  | case2 =>
      cases found
      exact ⟨fun s member => member, fun s member => (closed s member).resolve_left (by simp)⟩
  | case3 fuel current queue reached fresh ih =>
      obtain ⟨kept, stays⟩ := ih found fun s member => by
        rcases List.mem_append.1 member with old | new
        · rcases closed s old with listed | done
          · rcases List.mem_cons.1 listed with rfl | waiting
            · refine .inr fun t successor => ?_
              by_cases known : t ∈ reached
              · exact List.mem_append_left _ known
              · exact List.mem_append_right _ (mem_gather.2 ⟨successor, known⟩)
            · exact .inl (List.mem_append_left _ waiting)
          · exact .inr fun t successor => List.mem_append_left _ (done t successor)
        · exact .inl (List.mem_append_right _ new)
      exact ⟨fun s member => kept s (List.mem_append_left _ member), stays⟩

/-- The search meets exactly the reachable states. -/
theorem mem_search {next : α → List α} {start : α} {fuel : ℕ} {result : List α}
    (found : search next start fuel = some result) {s : α} :
    s ∈ result ↔ Relation.ReflTransGen (fun s t => t ∈ next s) start s := by
  obtain ⟨kept, closed⟩ := explore_closed found fun s member => .inl member
  constructor
  · exact explore_sound found (fun s member => member)
      (fun s member => List.mem_singleton.1 member ▸ .refl) s
  · intro reachable
    induction reachable with
    | refl => exact kept start (List.mem_singleton_self start)
    | tail _ successor ih => exact closed _ ih _ successor

theorem explore_isSome [Fintype α] (next : α → List α) (fuel : ℕ) (queue reached : List α)
    (nodup : reached.Nodup) (enough : Fintype.card α + queue.length < fuel + reached.length) :
    (explore next fuel queue reached).isSome = true := by
  fun_induction explore with
  | case1 => exact absurd nodup.length_le_card (by omega)
  | case2 => rfl
  | case3 fuel current queue reached fresh ih =>
      refine ih (nodup_gather nodup) ?_
      simp only [List.length_append, List.length_cons] at enough ⊢
      omega

theorem search_isSome [Finite α] (next : α → List α) (start : α) {fuel : ℕ}
    (enough : Nat.card α < fuel) : (search next start fuel).isSome = true := by
  have := Fintype.ofFinite α
  rw [Nat.card_eq_fintype_card] at enough
  exact explore_isSome next fuel [start] [start] (List.nodup_singleton start) (by simpa using enough)

end QmtExecution.Search
