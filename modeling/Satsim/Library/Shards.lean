import Satsim.Library.Greedy

/-!
# Greedy service falls apart into shards

Items and slots belong to shards. When an item is placed by what its own shard shows of the
resource, and a foreign item leaves that unchanged, a pass over everything does on a shard
what a pass over the shard alone does. For a list of slots the shard is a sublist; searching,
charging and sorting commute with taking it.

The two conditions on a placement are those of locality: it reads nothing of the
resource outside its item's shard, and it changes nothing there. No independence of the
shards is assumed beyond them.
-/

namespace Library

universe u v w x

section Slots

variable {α : Type u} (mine : α → Bool)

/-- The place in the shard of a slot of the whole list: how many of the shard stand before
it. -/
def shardSlot (items : List α) (slot : ℕ) : ℕ := (items.take slot).countP mine

/-- The first slot comes first in its shard. -/
@[simp] theorem shardSlot_zero (items : List α) : shardSlot mine items 0 = 0 := by
  simp [shardSlot]

/-- One slot further, the place moves on when the slot passed was the shard's. -/
theorem shardSlot_succ (item : α) (rest : List α) (slot : ℕ) :
    shardSlot mine (item :: rest) (slot + 1) =
      shardSlot mine rest slot + if mine item = true then 1 else 0 := by
  rw [shardSlot, List.take_succ_cons, List.countP_cons, ← shardSlot]

/-- The shard holds a slot of its own at that place. -/
theorem getElem?_shardSlot (items : List α) (slot : ℕ) (bound : slot < items.length)
    (own : mine items[slot] = true) :
    (items.filter mine)[shardSlot mine items slot]? = some items[slot] := by
  induction items generalizing slot with
  | nil => simp at bound
  | cons item rest inductionHypothesis =>
    cases slot with
    | zero =>
      have first : mine item = true := own
      simp [first]
    | succ slot =>
      have later := inductionHypothesis slot (by simpa using bound) own
      rw [shardSlot_succ, List.filter_cons]
      by_cases first : mine item = true <;> simp [first, later]

/-- A change of an own slot is a change of the shard. -/
theorem filter_modify (change : α → α) (items : List α) (slot : ℕ) (bound : slot < items.length)
    (own : mine items[slot] = true) (kept : mine (change items[slot]) = true) :
    (items.modify slot change).filter mine =
      (items.filter mine).modify (shardSlot mine items slot) change := by
  induction items generalizing slot with
  | nil => simp at bound
  | cons item rest inductionHypothesis =>
    cases slot with
    | zero =>
      have before : mine item = true := own
      have after : mine (change item) = true := kept
      simp [before, after]
    | succ slot =>
      have later := inductionHypothesis slot (by simpa using bound) own kept
      rw [List.modify_succ_cons, shardSlot_succ, List.filter_cons, List.filter_cons]
      by_cases first : mine item = true <;> simp [first, later]

/-- A change of a foreign slot is none. The changed slot has to stay foreign. -/
theorem filter_modify_foreign (change : α → α) (items : List α) (slot : ℕ)
    (bound : slot < items.length) (foreign : mine items[slot] = false)
    (kept : mine (change items[slot]) = false) :
    (items.modify slot change).filter mine = items.filter mine := by
  induction items generalizing slot with
  | nil => simp at bound
  | cons item rest inductionHypothesis =>
    cases slot with
    | zero =>
      have before : mine item = false := foreign
      have after : mine (change item) = false := kept
      simp [before, after]
    | succ slot =>
      have later := inductionHypothesis slot (by simpa using bound) foreign kept
      rw [List.modify_succ_cons, List.filter_cons, List.filter_cons, later]

variable (ranks : α → α → Prop) [DecidableRel ranks] [IsTrans α ranks]

/-- Inserting into a sorted list commutes with taking a shard. In an unsorted list the insertion
could stop early. -/
theorem filter_orderedInsert (item : α) (sorted : List α) (ordered : sorted.Pairwise ranks) :
    (sorted.orderedInsert ranks item).filter mine =
      if mine item = true then (sorted.filter mine).orderedInsert ranks item
      else sorted.filter mine := by
  induction sorted with
  | nil => by_cases own : mine item = true <;> simp [own]
  | cons first rest inductionHypothesis =>
    obtain ⟨least, tail⟩ := List.pairwise_cons.mp ordered
    by_cases precedes : ranks item first
    · -- Then the item stands before everything in the shard.
      rw [List.orderedInsert_cons_of_le _ _ precedes]
      by_cases own : mine item = true
      · rw [List.filter_cons_of_pos own, if_pos own]
        cases shard : (first :: rest).filter mine with
        | nil => rfl
        | cons head shardRest =>
          have listed : head ∈ first :: rest :=
            List.mem_of_mem_filter (shard ▸ List.mem_cons_self : head ∈ (first :: rest).filter mine)
          rw [List.orderedInsert_cons_of_le _ _ ((List.mem_cons.mp listed).elim
            (fun same => same ▸ precedes) fun later => trans_of ranks precedes (least head later))]
      · rw [List.filter_cons_of_neg own, if_neg own]
    · rw [List.orderedInsert_of_not_le _ _ precedes, List.filter_cons, List.filter_cons,
        inductionHypothesis tail]
      by_cases own : mine item = true
      · by_cases kept : mine first = true
        · simp [own, kept, precedes]
        · simp [own, kept]
      · simp [own]

/-- So does sorting. A shard served by itself is therefore served in the same order as within
the whole. -/
theorem filter_insertionSort [Std.Total ranks] (items : List α) :
    (items.insertionSort ranks).filter mine = (items.filter mine).insertionSort ranks := by
  induction items with
  | nil => rfl
  | cons item rest inductionHypothesis =>
    rw [List.insertionSort_cons, filter_orderedInsert mine ranks item _
      (List.pairwise_insertionSort ranks rest), inductionHypothesis]
    by_cases own : mine item = true <;> simp [own]

end Slots

namespace Greedy

/-- Searching a shard for a value that foreign items lack finds the same item, at its place in
the shard, with the same bar. -/
theorem scan_shard {α : Type u} {κ : Type x} [LinearOrder κ] (mine : α → Bool)
    (value : α → Option κ) (foreign : ∀ item, mine item = false → value item = none)
    (items : List α) (bar : WithBot κ) :
    scan value (items.filter mine) 0 ⟨none, bar⟩ =
      ⟨(scan value items 0 ⟨none, bar⟩).slot.map (shardSlot mine items),
        (scan value items 0 ⟨none, bar⟩).bar⟩ := by
  -- The search of the shard after some items keeps the place of the incumbent in the shard.
  have later (before rest : List α) (incumbent : Incumbent κ) :
      scan value (rest.filter mine) (before.filter mine).length
          ⟨incumbent.slot.map (shardSlot mine (before ++ rest)), incumbent.bar⟩ =
        ⟨(scan value rest before.length incumbent).slot.map (shardSlot mine (before ++ rest)),
          (scan value rest before.length incumbent).bar⟩ := by
    induction rest generalizing before incumbent with
    | nil => rfl
    | cons item rest inductionHypothesis =>
      have next := inductionHypothesis (before ++ [item])
        (challenge incumbent before.length (value item))
      rw [List.append_assoc, List.singleton_append, List.length_append,
        List.length_singleton] at next
      rw [scan]
      by_cases own : mine item = true
      · rw [List.filter_append, List.filter_cons_of_pos own, List.filter_nil, List.length_append,
          List.length_singleton] at next
        rw [List.filter_cons_of_pos own, scan, ← next]
        congr 1
        have here : shardSlot mine (before ++ item :: rest) before.length =
            (before.filter mine).length := by
          simp [shardSlot, List.countP_eq_length_filter]
        cases value item with
        | none => rfl
        | some offered =>
          simp only [challenge]
          split <;> simp [here]
      · have skipped := foreign item (Bool.eq_false_of_not_eq_true own)
        rw [skipped] at next ⊢
        simpa [own, challenge] using next
  simpa using later [] items ⟨none, bar⟩

/-- The slot it finds is the shard's own, and so is a change of it that stays in the shard. -/
theorem scan_own {α : Type u} {κ : Type x} [LinearOrder κ] (mine : α → Bool)
    (value : α → Option κ) (foreign : ∀ item, mine item = false → value item = none)
    (items : List α) (bar : WithBot κ) (slot : ℕ)
    (found : (scan value items 0 ⟨none, bar⟩).slot = some slot) (change : α → α)
    (kept : ∀ item, mine (change item) = mine item) :
    items[slot]? = (items.filter mine)[shardSlot mine items slot]? ∧
      (items.modify slot change).filter mine =
        (items.filter mine).modify (shardSlot mine items slot) change := by
  obtain ⟨bound, offered, given, _⟩ := scan_slot value items bar slot found
  have own : mine items[slot] = true := by
    by_contra elsewhere
    rw [foreign _ (Bool.eq_false_of_not_eq_true elsewhere)] at given
    simp at given
  exact ⟨by rw [getElem?_shardSlot mine items slot bound own, List.getElem?_eq_getElem bound],
    filter_modify mine change items slot bound own ((kept _).trans own)⟩

variable {σ : Type u} {τ : Type v} {α : Type w} {β : Type x} (refuse : α → Bool)
  (place : σ → α → Option (β × σ)) (part : τ → α → Option (β × τ)) (view : σ → τ)
  (mine : α → Bool)

/-- What a pass does on a shard is a pass over the shard: the same receipts for its items, the
same refusals, and the same view of the resource in the end. -/
theorem run_shard
    (own : ∀ item, mine item = true → ∀ resource, part (view resource) item =
      (place resource item).map (fun (receipt, charged) => (receipt, view charged)))
    (foreign : ∀ item, mine item = false → ∀ resource receipt charged,
      place resource item = some (receipt, charged) → view charged = view resource)
    (items : List α) (resource : σ) :
    run refuse part (items.filter mine) (view resource) =
      (⟨(run refuse place items resource).1.refused.filter mine,
        (run refuse place items resource).1.placed.filter (fun pair => mine pair.1),
        (run refuse place items resource).1.unplaced.filter mine⟩,
        view (run refuse place items resource).2) := by
  induction items generalizing resource with
  | nil => rfl
  | cons item rest inductionHypothesis =>
    by_cases kept : mine item = true
    · by_cases refused : refuse item = true
      · simp [run, kept, refused, inductionHypothesis]
      · cases offered : place resource item with
        | none => simp [run, kept, refused, offered, own item kept, inductionHypothesis]
        | some result => simp [run, kept, refused, offered, own item kept, inductionHypothesis]
    · have dropped : mine item = false := Bool.eq_false_of_not_eq_true kept
      rw [List.filter_cons_of_neg kept, inductionHypothesis resource]
      by_cases refused : refuse item = true
      · simp [run, dropped, refused]
      · cases offered : place resource item with
        | none => simp [run, dropped, refused, offered]
        | some result =>
          have unchanged := foreign item dropped resource result.1 result.2 offered
          have same := inductionHypothesis result.2
          rw [unchanged, inductionHypothesis resource] at same
          simp [run, dropped, refused, offered, same]

end Greedy

end Library
