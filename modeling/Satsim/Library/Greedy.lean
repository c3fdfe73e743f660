import Mathlib

/-!
# Greedy service of a list in order

Items are offered one by one to a placement function over a mutable resource. An
item may be refused before it is offered, placed with a receipt, or left unplaced;
the resource changes only when an item is placed. This is the common shape of
first-fit, best-fit and priority allocators.

Three rules carry most uses. `run_partition` says the three outcomes partition the
items. `run_invariant` lifts what one placement preserves to the whole list.
`run_account` lifts what one placement draws from a quantity of the resource to
the total drawn by all receipts. Two more rules speak of turns: `run_unplaced` and
`run_order` say at which resources items were offered, in terms of `Drains`, the
resources a pass goes through. When every placement is a payment from a list of accounts,
`run_balance` and `run_left` balance the books of the pass: receipts and what is left
together are what there was.

`scan` picks the slot an allocator charges: a left-to-right search that replaces
its incumbent only by a strictly larger value. `drawn_modify` states what charging
one slot of a list of accounts does to the balance held under each key.

The rules do not mention an order. A caller that sorts first serves in sorted order, and
only `run_order` asks for it; the others hold of any sequence of offers.
-/

namespace Library.Greedy

universe u v w x
variable {σ : Type u} {α : Type v} {β : Type w}

/-- Where the items of one pass went, each list in the order of service. Receipts stand beside
the items they were handed out for. -/
structure Outcome (α : Type v) (β : Type w) where
  refused : List α
  placed : List (α × β)
  unplaced : List α
  deriving DecidableEq

/-- Offer each item in order. Refusal reads the item alone; placement reads and updates
the resource and returns a receipt. An item that is not placed leaves the resource as it
found it. -/
def run (refuse : α → Bool) (place : σ → α → Option (β × σ)) :
    List α → σ → Outcome α β × σ
  | [], resource => (⟨[], [], []⟩, resource)
  | item :: rest, resource =>
      if refuse item then
        let (outcome, final) := run refuse place rest resource
        ({ outcome with refused := item :: outcome.refused }, final)
      else
        match place resource item with
        | none =>
            let (outcome, final) := run refuse place rest resource
            ({ outcome with unplaced := item :: outcome.unplaced }, final)
        | some (receipt, charged) =>
            let (outcome, final) := run refuse place rest charged
            ({ outcome with placed := (item, receipt) :: outcome.placed }, final)

variable (refuse : α → Bool) (place : σ → α → Option (β × σ))

/-- Each item is refused, placed or unplaced, with its multiplicity. A pass neither loses an
item nor serves one twice. -/
theorem run_partition (items : List α) (resource : σ) :
    ((run refuse place items resource).1.placed.map Prod.fst ++
      (run refuse place items resource).1.unplaced ++
        (run refuse place items resource).1.refused).Perm items := by
  induction items generalizing resource with
  | nil => simp [run]
  | cons item rest inductionHypothesis =>
    by_cases refused : refuse item = true
    · simp only [run, refused, ↓reduceIte]
      exact List.perm_middle.trans ((inductionHypothesis resource).cons item)
    · cases offered : place resource item with
      | none =>
        simp only [run, refused, offered, Bool.false_eq_true, ↓reduceIte, List.append_assoc,
          List.cons_append]
        refine List.perm_middle.trans (List.Perm.cons item ?_)
        simpa only [List.append_assoc] using inductionHypothesis resource
      | some result =>
        simp only [run, refused, offered, Bool.false_eq_true, ↓reduceIte, List.map_cons,
          List.cons_append]
        exact (inductionHypothesis result.2).cons item

/-- Exactly the items that pass the refusal test go unrefused. Which they are does not depend on
the resource. -/
theorem run_refused (items : List α) (resource : σ) :
    (run refuse place items resource).1.refused = items.filter refuse := by
  induction items generalizing resource with
  | nil => rfl
  | cons item rest inductionHypothesis =>
    by_cases refused : refuse item = true
    · simp only [run, refused, ↓reduceIte, List.filter_cons, inductionHypothesis]
    · cases offered : place resource item <;>
        simp only [run, refused, offered, Bool.false_eq_true, ↓reduceIte, List.filter_cons,
          inductionHypothesis]

/-- The items that are not refused are placed or unplaced. Only for these does the resource
matter. -/
theorem run_offered (items : List α) (resource : σ) :
    ((run refuse place items resource).1.placed.map Prod.fst ++
      (run refuse place items resource).1.unplaced).Perm
        (items.filter (fun item => !refuse item)) := by
  have split := List.perm_append_comm.trans (List.filter_append_perm refuse items)
  have parts := (run_partition refuse place items resource).trans split.symm
  rw [run_refused] at parts
  exact (List.perm_append_right_iff _).mp parts

/-- An invariant of the resource kept by every placement holds at the end, and
what a placement establishes about its receipt holds of every receipt. Items that
are refused are never offered, so a placement may assume its item was not. -/
theorem run_invariant (invariant : σ → Prop) (established : α → β → Prop)
    (kept : ∀ resource item receipt charged, invariant resource → refuse item = false →
      place resource item = some (receipt, charged) →
      invariant charged ∧ established item receipt)
    (items : List α) (resource : σ) (initial : invariant resource) :
    invariant (run refuse place items resource).2 ∧
      ∀ pair ∈ (run refuse place items resource).1.placed, established pair.1 pair.2 := by
  induction items generalizing resource with
  | nil => exact ⟨initial, by simp [run]⟩
  | cons item rest inductionHypothesis =>
    by_cases refused : refuse item = true
    · simpa only [run, refused, ↓reduceIte] using inductionHypothesis resource initial
    · cases offered : place resource item with
      | none =>
        simpa only [run, refused, offered, Bool.false_eq_true, ↓reduceIte] using
          inductionHypothesis resource initial
      | some result =>
        obtain ⟨next, here⟩ := kept resource item result.1 result.2 initial
          (Bool.eq_false_iff.mpr refused) offered
        obtain ⟨final, later⟩ := inductionHypothesis result.2 next
        simp only [run, refused, offered, Bool.false_eq_true, ↓reduceIte]
        refine ⟨final, ?_⟩
        intro pair member
        rcases List.mem_cons.mp member with rfl | member
        · exact here
        · exact later pair member

/-- The placed items come from the list that was served. -/
theorem placed_mem (items : List α) (resource : σ) (pair : α × β)
    (member : pair ∈ (run refuse place items resource).1.placed) : pair.1 ∈ items := by
  apply (run_partition refuse place items resource).subset
  simp only [List.mem_append]
  exact Or.inl (Or.inl (List.mem_map.mpr ⟨pair, member, rfl⟩))

/-- The unplaced items come from the list that was served. -/
theorem unplaced_mem (items : List α) (resource : σ) (item : α)
    (member : item ∈ (run refuse place items resource).1.unplaced) : item ∈ items := by
  apply (run_partition refuse place items resource).subset
  simp only [List.mem_append]
  exact Or.inl (Or.inr member)

section Turns

/-- Serving two lists in turn is serving them one after the other, the second from what the
first has left. -/
theorem run_append (items more : List α) (resource : σ) :
    run refuse place (items ++ more) resource =
      let (first, middle) := run refuse place items resource
      let (second, final) := run refuse place more middle
      (⟨first.refused ++ second.refused, first.placed ++ second.placed,
        first.unplaced ++ second.unplaced⟩, final) := by
  induction items generalizing resource with
  | nil => rfl
  | cons item rest inductionHypothesis =>
    by_cases refused : refuse item = true
    · simp only [List.cons_append, run, refused, ↓reduceIte, inductionHypothesis]
    · cases offered : place resource item <;>
        simp only [List.cons_append, run, refused, offered, Bool.false_eq_true, ↓reduceIte,
          inductionHypothesis]

/-- One resource is what placements of some of the items, none of them refused, leave of
another. The relation forgets which items were placed and in what order. -/
def Drains (items : List α) : σ → σ → Prop :=
  Relation.ReflTransGen fun resource charged =>
    ∃ item ∈ items, refuse item = false ∧ ∃ receipt, place resource item = some (receipt, charged)

variable {refuse place}

/-- A reflexive and transitive relation that every placement respects holds between a resource
and what is left of it. This is how a bound on one placement becomes a bound on a pass. -/
theorem Drains.within {items : List α} {resource left : σ}
    (drained : Drains refuse place items resource left) (relation : σ → σ → Prop)
    (refl : ∀ state, relation state state)
    (trans : ∀ first second third, relation first second → relation second third →
      relation first third)
    (step : ∀ item ∈ items, ∀ state receipt charged, refuse item = false →
      place state item = some (receipt, charged) → relation state charged) :
    relation resource left := by
  induction drained with
  | refl => exact refl resource
  | tail _ last inductionHypothesis =>
    obtain ⟨item, listed, offered, receipt, placed⟩ := last
    exact trans _ _ _ inductionHypothesis (step item listed _ receipt _ offered placed)

/-- Fewer items drain less: what some of the items leave, more of them could have left. -/
theorem Drains.subset {items more : List α} {resource left : σ}
    (drained : Drains refuse place items resource left) (contained : items ⊆ more) :
    Drains refuse place more resource left := by
  refine Relation.ReflTransGen.mono ?_ _ _ drained
  rintro before after ⟨item, listed, served⟩
  exact ⟨item, contained listed, served⟩

variable (refuse place)

/-- A pass drains its resource, by the items it was given. -/
theorem run_drains (items : List α) (resource : σ) :
    Drains refuse place items resource (run refuse place items resource).2 := by
  induction items generalizing resource with
  | nil => exact Relation.ReflTransGen.refl
  | cons item rest inductionHypothesis =>
    have later (state : σ) := (inductionHypothesis state).subset (List.subset_cons_self item rest)
    by_cases refused : refuse item = true
    · simpa only [run, refused, ↓reduceIte] using later resource
    · cases offered : place resource item with
      | none =>
        simpa only [run, refused, offered, Bool.false_eq_true, ↓reduceIte] using later resource
      | some result =>
        simp only [run, refused, offered, Bool.false_eq_true, ↓reduceIte]
        refine Relation.ReflTransGen.head ?_ (later result.2)
        exact ⟨item, List.mem_cons_self, Bool.eq_false_iff.mpr refused, result.1, offered⟩

/-- An unplaced item was turned away by a resource of which more is left at its turn than at the
end. A placement that is harder from less therefore turns the item away at the end too. -/
theorem run_unplaced (items : List α) (resource : σ) (item : α)
    (unplaced : item ∈ (run refuse place items resource).1.unplaced) :
    ∃ early, Drains refuse place items resource early ∧
      Drains refuse place items early (run refuse place items resource).2 ∧
        refuse item = false ∧ place early item = none := by
  induction items generalizing resource with
  | nil => simp [run] at unplaced
  | cons first rest inductionHypothesis =>
    -- The item is turned away later, from what the head leaves, unless it is the head.
    have later (state : σ) (unplaced : item ∈ (run refuse place rest state).1.unplaced) :
        ∃ early, Drains refuse place (first :: rest) state early ∧
          Drains refuse place (first :: rest) early (run refuse place rest state).2 ∧
            refuse item = false ∧ place early item = none := by
      obtain ⟨early, before, after, turned⟩ := inductionHypothesis state unplaced
      exact ⟨early, before.subset (List.subset_cons_self first rest),
        after.subset (List.subset_cons_self first rest), turned⟩
    by_cases refused : refuse first = true
    · simp only [run, refused, ↓reduceIte] at unplaced ⊢
      exact later resource unplaced
    · cases offered : place resource first with
      | none =>
        simp only [run, refused, offered, Bool.false_eq_true, ↓reduceIte] at unplaced ⊢
        rcases List.mem_cons.mp unplaced with rfl | unplaced
        · exact ⟨resource, Relation.ReflTransGen.refl,
            (run_drains refuse place rest resource).subset (List.subset_cons_self item rest),
            Bool.eq_false_iff.mpr refused, offered⟩
        · exact later resource unplaced
      | some result =>
        simp only [run, refused, offered, Bool.false_eq_true, ↓reduceIte] at unplaced ⊢
        obtain ⟨early, before, after, turned⟩ := later result.2 unplaced
        refine ⟨early, Relation.ReflTransGen.head ?_ before, after, turned⟩
        exact ⟨first, List.mem_cons_self, Bool.eq_false_iff.mpr refused, result.1, offered⟩

/-- An item listed once is placed exactly when it is placed at its turn. What comes after it
cannot change that. -/
theorem run_placed_iff (before after : List α) (item : α) (resource : σ)
    (early : item ∉ before) (late : item ∉ after) :
    item ∈ (run refuse place (before ++ item :: after) resource).1.placed.map Prod.fst ↔
      refuse item = false ∧
        (place (run refuse place before resource).2 item).isSome = true := by
  have absent (items : List α) (state : σ) (missing : item ∉ items) :
      item ∉ (run refuse place items state).1.placed.map Prod.fst := by
    intro member
    obtain ⟨pair, placed, rfl⟩ := List.mem_map.mp member
    exact missing (placed_mem refuse place items state pair placed)
  simp only [run_append, List.map_append, List.mem_append, absent before resource early, false_or]
  by_cases refused : refuse item = true
  · simp [run, refused, absent after _ late]
  · cases offered : place (run refuse place before resource).2 item with
    | none => simp [run, refused, offered, absent after _ late]
    | some result => simp [run, refused, offered]

/-- A receipt was handed out at its item's turn, by what the items before it had left. What the
placement guarantees of a receipt thus holds of that resource, not of the initial one. -/
theorem run_placed_turn (items : List α) (resource : σ) (pair : α × β)
    (member : pair ∈ (run refuse place items resource).1.placed) :
    ∃ before after charged, items = before ++ pair.1 :: after ∧ refuse pair.1 = false ∧
      place (run refuse place before resource).2 pair.1 = some (pair.2, charged) := by
  induction items generalizing resource with
  | nil => simp [run] at member
  | cons item rest inductionHypothesis =>
    by_cases refused : refuse item = true
    · simp only [run, refused, ↓reduceIte] at member
      obtain ⟨before, after, charged, rfl, offered, placed⟩ := inductionHypothesis resource member
      exact ⟨item :: before, after, charged, rfl, offered, by simpa [run, refused] using placed⟩
    · cases answer : place resource item with
      | none =>
        simp only [run, refused, answer, Bool.false_eq_true, ↓reduceIte] at member
        obtain ⟨before, after, charged, rfl, offered, placed⟩ := inductionHypothesis resource member
        exact ⟨item :: before, after, charged, rfl, offered,
          by simpa [run, refused, answer] using placed⟩
      | some result =>
        simp only [run, refused, answer, Bool.false_eq_true, ↓reduceIte] at member
        rcases List.mem_cons.mp member with rfl | later
        · exact ⟨[], rest, result.2, rfl, Bool.eq_false_iff.mpr refused, answer⟩
        · obtain ⟨before, after, charged, rfl, offered, placed⟩ :=
            inductionHypothesis result.2 later
          exact ⟨item :: before, after, charged, rfl, offered,
            by simpa [run, refused, answer] using placed⟩

/-- Placements that agree on the items served give one pass. They may differ on items that are
not in the list. -/
theorem run_congr (other : σ → α → Option (β × σ)) (items : List α) (resource : σ)
    (agree : ∀ item ∈ items, ∀ state, place state item = other state item) :
    run refuse place items resource = run refuse other items resource := by
  induction items generalizing resource with
  | nil => rfl
  | cons item rest inductionHypothesis =>
    have later (state : σ) := inductionHypothesis state
      (fun next member => agree next (List.mem_cons_of_mem _ member))
    simp only [run, agree item List.mem_cons_self, later]

/-- When distinct items are served in sorted order, an item and one that ranks after it have
their turns at resources of which the second is what is left of the first. Priority is nothing
else: the earlier item sees no less. -/
theorem run_order (ranks : α → α → Prop) (items : List α) (resource : σ)
    (reflexive : ∀ item, ranks item item) (sorted : items.Pairwise ranks) (distinct : items.Nodup)
    (first second : α) (firstListed : first ∈ items) (secondListed : second ∈ items)
    (precedes : ¬ ranks second first) :
    ∃ early late, Drains refuse place items early late ∧
      (first ∈ (run refuse place items resource).1.placed.map Prod.fst ↔
        refuse first = false ∧ (place early first).isSome = true) ∧
      (second ∈ (run refuse place items resource).1.placed.map Prod.fst ↔
        refuse second = false ∧ (place late second).isSome = true) := by
  have different : second ≠ first := by
    rintro rfl
    exact precedes (reflexive second)
  obtain ⟨before, rest, rfl⟩ := List.append_of_mem firstListed
  have secondLater : second ∈ rest := by
    cases List.mem_append.mp secondListed with
    | inl earlier =>
      exact absurd ((List.pairwise_append.mp sorted).2.2 second earlier first List.mem_cons_self)
        precedes
    | inr here =>
      exact (List.mem_cons.mp here).resolve_left different
  obtain ⟨between, after, rfl⟩ := List.append_of_mem secondLater
  obtain ⟨fresh, once⟩ := List.nodup_middle.mp distinct |> List.nodup_cons.mp
  have shape : before ++ first :: (between ++ second :: after) =
      (before ++ first :: between) ++ second :: after := by simp
  obtain ⟨secondFresh, _⟩ := List.nodup_middle.mp (shape ▸ distinct) |> List.nodup_cons.mp
  simp only [List.mem_append, not_or] at fresh secondFresh
  refine ⟨(run refuse place before resource).2,
    (run refuse place (before ++ first :: between) resource).2, ?_, ?_, ?_⟩
  · rw [run_append]
    refine (run_drains refuse place (first :: between) _).subset ?_
    intro item listed
    rw [shape]
    exact List.mem_append_left _ (List.mem_append_right _ listed)
  · exact run_placed_iff refuse place before _ first resource fresh.1
      (by simpa [List.mem_append] using fresh.2)
  · rw [shape]
    exact run_placed_iff refuse place _ after second resource
      (by simpa [List.mem_append] using secondFresh.1) secondFresh.2

end Turns

section Account

variable {μ : Type x} [AddCommMonoid μ]

/-- When each placement moves its receipt's worth out of a quantity held by the resource,
the receipts together are worth what the resource lost. The quantity may lie in any
additive monoid. -/
theorem run_account (holds : σ → μ) (worth : α → β → μ)
    (moves : ∀ resource item receipt charged, place resource item = some (receipt, charged) →
      worth item receipt + holds charged = holds resource)
    (items : List α) (resource : σ) :
    ((run refuse place items resource).1.placed.map (fun pair => worth pair.1 pair.2)).sum +
      holds (run refuse place items resource).2 = holds resource := by
  induction items generalizing resource with
  | nil => simp [run]
  | cons item rest inductionHypothesis =>
    by_cases refused : refuse item = true
    · simpa only [run, refused, ↓reduceIte] using inductionHypothesis resource
    · cases offered : place resource item with
      | none =>
        simpa only [run, refused, offered, Bool.false_eq_true, ↓reduceIte] using
          inductionHypothesis resource
      | some result =>
        have rest := inductionHypothesis result.2
        have here := moves resource item result.1 result.2 offered
        simp only [run, refused, offered, Bool.false_eq_true, ↓reduceIte, List.map_cons,
          List.sum_cons, add_assoc, rest, here]

end Account

section Scan

variable {κ : Type x} [LinearOrder κ]

/-- The best slot so far and the bar a challenger has to clear. The bar starts below every value
or at a value of the caller's choice. -/
structure Incumbent (κ : Type x) where
  slot : Option ℕ
  bar : WithBot κ

/-- A challenger without a value, or not above the bar, changes nothing. -/
def challenge (incumbent : Incumbent κ) (index : ℕ) (value : Option κ) : Incumbent κ :=
  match value with
  | none => incumbent
  | some value => if incumbent.bar < value then ⟨some index, value⟩ else incumbent

/-- Left-to-right search from a starting incumbent; `index` is the position of the
first item in the whole list. -/
def scan (value : α → Option κ) : List α → ℕ → Incumbent κ → Incumbent κ
  | [], _, incumbent => incumbent
  | item :: rest, index, incumbent =>
      scan value rest (index + 1) (challenge incumbent index (value item))

/-- The bar never falls, no value offered exceeds the final bar, and the final incumbent is
either the starting one or the position of an item whose value is the bar, above the starting
bar. The other facts about a search are read off this one. -/
theorem scan_spec (value : α → Option κ) (items : List α) (index : ℕ)
    (incumbent : Incumbent κ) :
    let final := scan value items index incumbent
    incumbent.bar ≤ final.bar ∧
      (∀ item ∈ items, ∀ offered, value item = some offered → (offered : WithBot κ) ≤ final.bar) ∧
      (final = incumbent ∨ ∃ position offered, ∃ bound : position < items.length,
        value items[position] = some offered ∧ final = ⟨some (index + position), offered⟩ ∧
          incumbent.bar < offered) := by
  induction items generalizing index incumbent with
  | nil => simp [scan]
  | cons item rest inductionHypothesis =>
    obtain ⟨rises, dominates, chosen⟩ :=
      inductionHypothesis (index + 1) (challenge incumbent index (value item))
    -- The head either leaves the incumbent or becomes it; in both cases the bar rises.
    have head : incumbent.bar ≤ (challenge incumbent index (value item)).bar ∧
        ∀ offered, value item = some offered →
          (offered : WithBot κ) ≤ (challenge incumbent index (value item)).bar := by
      cases given : value item with
      | none => simp [challenge]
      | some offered =>
        by_cases above : incumbent.bar < offered
        · simp [challenge, above, above.le]
        · simpa [challenge, above] using not_lt.mp above
    refine ⟨head.1.trans rises, ?_, ?_⟩
    · intro tested member offered given
      rcases List.mem_cons.mp member with rfl | later
      · exact (head.2 offered given).trans rises
      · exact dominates tested later offered given
    · rcases chosen with same | ⟨position, offered, bound, given, result, above⟩
      · cases given : value item with
        | none => exact Or.inl (by simpa [scan, challenge, given] using same)
        | some offered =>
          by_cases above : incumbent.bar < offered
          · refine Or.inr ⟨0, offered, by simp, by simpa using given, ?_, above⟩
            simpa [scan, challenge, given, above] using same
          · exact Or.inl (by simpa [scan, challenge, given, above] using same)
      · refine Or.inr ⟨position + 1, offered, by simpa using bound, by simpa using given, ?_,
          head.1.trans_lt above⟩
        simpa only [scan, Nat.add_assoc, Nat.add_comm 1] using result

/-- Items without a value leave the incumbent, so they may stand anywhere in the list. -/
theorem scan_valueless (value : α → Option κ) (items : List α) (index : ℕ)
    (incumbent : Incumbent κ) (valueless : ∀ item ∈ items, value item = none) :
    scan value items index incumbent = incumbent := by
  induction items generalizing index with
  | nil => rfl
  | cons item rest inductionHypothesis =>
    rw [scan, valueless item List.mem_cons_self, challenge]
    exact inductionHypothesis (index + 1)
      fun other member => valueless other (List.mem_cons_of_mem _ member)

/-- When one item alone has a value, the search is that item's challenge. -/
theorem scan_sole (value : α → Option κ) (before after : List α) (item : α) (index : ℕ)
    (incumbent : Incumbent κ) (earlier : ∀ other ∈ before, value other = none)
    (later : ∀ other ∈ after, value other = none) :
    scan value (before ++ item :: after) index incumbent =
      challenge incumbent (index + before.length) (value item) := by
  induction before generalizing index with
  | nil => exact scan_valueless value after _ _ later
  | cons first rest inductionHypothesis =>
    have tail := inductionHypothesis (index + 1)
      fun other member => earlier other (List.mem_cons_of_mem _ member)
    rw [List.cons_append, scan, earlier first List.mem_cons_self, challenge, tail, List.length_cons,
      Nat.add_assoc, Nat.add_comm 1]

/-- A search that starts and ends without a slot saw no value above its starting bar. Failing to
find is thus informative about every item. -/
theorem scan_none (value : α → Option κ) (items : List α) (start : WithBot κ)
    (missing : (scan value items 0 ⟨none, start⟩).slot = none) :
    ∀ item ∈ items, ∀ offered, value item = some offered → (offered : WithBot κ) ≤ start := by
  obtain ⟨_, dominates, chosen⟩ := scan_spec value items 0 ⟨none, start⟩
  rcases chosen with same | ⟨position, offered, bound, given, result, above⟩
  · simpa only [same] using dominates
  · simp [result] at missing

/-- A search that starts without a slot returns a slot only for an item whose value
clears the starting bar and is the largest offered. -/
theorem scan_slot (value : α → Option κ) (items : List α) (start : WithBot κ) (slot : ℕ)
    (found : (scan value items 0 ⟨none, start⟩).slot = some slot) :
    ∃ bound : slot < items.length, ∃ offered, value items[slot] = some offered ∧
      (scan value items 0 ⟨none, start⟩).bar = offered ∧ start < offered ∧
      ∀ item ∈ items, ∀ other, value item = some other → other ≤ offered := by
  obtain ⟨_, dominates, chosen⟩ := scan_spec value items 0 ⟨none, start⟩
  rcases chosen with same | ⟨position, offered, bound, given, result, above⟩
  · simp [same] at found
  · have located : position = slot := by simpa [result] using found
    subst located
    refine ⟨bound, offered, given, by simp [result], above, ?_⟩
    intro item member other value
    simpa [result] using dominates item member other value

end Scan

section Accounts

variable {κ : Type w} [DecidableEq κ] {μ : Type x} [AddCommMonoid μ]

/-- The balance held under one key by a list of accounts. Accounts that share the key are added
up. -/
def held (key : α → κ) (balance : α → μ) (name : κ) (accounts : List α) : μ :=
  ((accounts.filter (fun account => decide (key account = name))).map balance).sum

/-- No accounts hold nothing. -/
@[simp] theorem held_nil (key : α → κ) (balance : α → μ) (name : κ) :
    held key balance name [] = 0 := rfl

/-- An account counts under its own key, and the others as before. -/
@[simp] theorem held_cons (key : α → κ) (balance : α → μ) (name : κ) (account : α)
    (rest : List α) :
    held key balance name (account :: rest) =
      (if key account = name then balance account else 0) + held key balance name rest := by
  by_cases same : key account = name <;> simp [held, same]

/-- What a key holds, as a sum over all accounts. In this form it is what `run_account`
moves. -/
theorem held_eq_sum (key : α → κ) (balance : α → μ) (name : κ) (accounts : List α) :
    held key balance name accounts =
      (accounts.map fun account => if key account = name then balance account else 0).sum := by
  induction accounts with
  | nil => rfl
  | cons account rest inductionHypothesis =>
    rw [held_cons, List.map_cons, List.sum_cons, inductionHypothesis]

/-- No account, no balance. -/
theorem held_absent (key : α → κ) (balance : α → μ) (name : κ) (accounts : List α)
    (absent : name ∉ accounts.map key) : held key balance name accounts = 0 := by
  induction accounts with
  | nil => rfl
  | cons account rest inductionHypothesis =>
    simp only [List.map_cons, List.mem_cons, not_or] at absent
    have other : ¬ key account = name := fun equal => absent.1 equal.symm
    simp [other, inductionHypothesis absent.2]

/-- When keys are distinct, what is held under an account's key is its balance. Here statements
about keys become statements about accounts. -/
theorem held_unique (key : α → κ) (balance : α → μ) (accounts : List α)
    (distinct : (accounts.map key).Nodup) (account : α) (member : account ∈ accounts) :
    held key balance (key account) accounts = balance account := by
  induction accounts with
  | nil => simp at member
  | cons first rest inductionHypothesis =>
    obtain ⟨fresh, tail⟩ := List.nodup_cons.mp distinct
    rcases List.mem_cons.mp member with rfl | later
    · simp [held_absent key balance _ rest fresh]
    · have other : ¬ key first = key account := fun equal =>
        fresh (List.mem_map.mpr ⟨account, later, equal.symm⟩)
      simp [other, inductionHypothesis tail later]

/-- An amount under the key of one of some distinct accounts is counted at one of them, and only
there. -/
theorem sum_single (key : α → κ) (accounts : List α) (distinct : (accounts.map key).Nodup)
    (name : κ) (present : name ∈ accounts.map key) (amount : μ) :
    (accounts.map (fun account => if name = key account then amount else 0)).sum = amount := by
  induction accounts with
  | nil => simp at present
  | cons account rest inductionHypothesis =>
    obtain ⟨fresh, tail⟩ := List.nodup_cons.mp distinct
    rcases List.mem_cons.mp present with rfl | later
    · have others : ∀ other ∈ rest, ¬ key account = key other := fun other member same =>
        fresh (List.mem_map.mpr ⟨other, member, same.symm⟩)
      simp only [List.map_cons, ↓reduceIte, List.sum_cons, List.map_congr_left
        (fun other member => if_neg (others other member)), List.map_const', List.sum_replicate,
        smul_zero, add_zero]
    · have other : ¬ name = key account := fun same => fresh (same ▸ later)
      simp only [List.map_cons, other, ↓reduceIte, List.sum_cons, inductionHypothesis tail later,
        zero_add]

/-- When every receipt is under the key of one of some distinct accounts, the total is what the
receipts hold under each account's key, summed. A receipt under a foreign key would be in the
total alone. -/
theorem held_total {γ : Type v} (key : α → κ) (accounts : List α)
    (distinct : (accounts.map key).Nodup) (name : γ → κ) (amount : γ → μ) (receipts : List γ)
    (named : ∀ receipt ∈ receipts, name receipt ∈ accounts.map key) :
    (receipts.map amount).sum =
      (accounts.map (fun account => held name amount (key account) receipts)).sum := by
  induction receipts with
  | nil => simp
  | cons receipt rest inductionHypothesis =>
    simp only [List.map_cons, List.sum_cons, held_cons, List.sum_map_add]
    rw [sum_single key accounts distinct _ (named receipt List.mem_cons_self),
      inductionHypothesis fun other member => named other (List.mem_cons_of_mem _ member)]

/-- Charging one account moves the charge out of what its key holds and leaves
every other key as it was. -/
theorem drawn_modify (key : α → κ) (balance : α → μ) (charge : α → α) (amount : μ) (name : κ)
    (accounts : List α) (slot : ℕ) (bound : slot < accounts.length)
    (named : key (charge accounts[slot]) = key accounts[slot])
    (moved : amount + balance (charge accounts[slot]) = balance accounts[slot]) :
    (if key accounts[slot] = name then amount else 0) +
      held key balance name (accounts.modify slot charge) =
        held key balance name accounts := by
  induction accounts generalizing slot with
  | nil => simp at bound
  | cons account rest inductionHypothesis =>
    cases slot with
    | zero =>
      simp only [List.getElem_cons_zero] at named moved ⊢
      by_cases same : key account = name
      · simp [named, same, ← moved, add_assoc]
      · simp [named, same]
    | succ slot =>
      have inside : slot < rest.length := by simpa using bound
      have step := inductionHypothesis slot inside (by simpa using named) (by simpa using moved)
      simp only [List.getElem_cons_succ, List.modify_succ_cons, held_cons]
      rw [add_left_comm, step]

end Accounts

section Lowered

variable {γ : Type v} {κ : Type w} {μ : Type x} [Preorder μ] (label : γ → κ) (balance : γ → μ)

/-- Every account stood among the earlier ones with at least as much. Positions and
multiplicities are not compared, only what is there. -/
def Lowered (before after : List γ) : Prop :=
  ∀ account ∈ after, ∃ old ∈ before, label account = label old ∧ balance account ≤ balance old

variable {label balance refuse place}

/-- Nothing is lowered by doing nothing. -/
theorem Lowered.refl (accounts : List γ) : Lowered label balance accounts accounts :=
  fun account member => ⟨account, member, rfl, le_refl _⟩

/-- Lowering twice is lowering. -/
theorem Lowered.trans {first second third : List γ} (left : Lowered label balance first second)
    (right : Lowered label balance second third) : Lowered label balance first third := by
  intro account member
  obtain ⟨middle, within, sameMiddle, lessMiddle⟩ := right account member
  obtain ⟨old, listed, sameOld, lessOld⟩ := left middle within
  exact ⟨old, listed, sameMiddle.trans sameOld, lessMiddle.trans lessOld⟩

/-- Charging one account lowers the accounts, when the charge keeps labels and raises no
balance. -/
theorem lowered_modify (accounts : List γ) (slot : ℕ) (charge : γ → γ)
    (same : ∀ account, label (charge account) = label account)
    (less : ∀ account, balance (charge account) ≤ balance account) :
    Lowered label balance accounts (accounts.modify slot charge) := by
  intro account member
  obtain ⟨index, bound, rfl⟩ := List.getElem_of_mem member
  have inside : index < accounts.length := by simpa using bound
  refine ⟨accounts[index], List.getElem_mem inside, ?_⟩
  rw [List.getElem_modify]
  split
  · exact ⟨same _, less _⟩
  · exact ⟨rfl, le_refl _⟩

/-- What is left of a resource holds lowered accounts, if every placement lowers them. -/
theorem Drains.lowered {items : List α} {resource left : σ}
    (drained : Drains refuse place items resource left) (accounts : σ → List γ) (label : γ → κ)
    (balance : γ → μ)
    (lowers : ∀ item ∈ items, ∀ state receipt charged,
      place state item = some (receipt, charged) →
        Lowered label balance (accounts state) (accounts charged)) :
    Lowered label balance (accounts resource) (accounts left) :=
  drained.within (fun before after => Lowered label balance (accounts before) (accounts after))
    (fun _ => Lowered.refl _) (fun _ _ _ => Lowered.trans)
    fun item listed state receipt charged _ placed =>
      lowers item listed state receipt charged placed

end Lowered

section Payments

variable {γ : Type v} {κ : Type w} [DecidableEq κ]
variable {μ : Type x} [AddCommGroup μ] [LinearOrder μ] [IsOrderedAddMonoid μ]

/-- One account pays an amount under its own key and keeps at least the floor. Which account
pays is hidden; with repeated keys a receipt does not tell. -/
def Pays (key : γ → κ) (balance : γ → μ) (floor : μ) (before after : List γ) (name : κ)
    (amount : μ) : Prop :=
  ∃ slot, ∃ bound : slot < before.length, ∃ charge : γ → γ,
    after = before.modify slot charge ∧ key (charge before[slot]) = key before[slot] ∧
      key before[slot] = name ∧ amount + balance (charge before[slot]) = balance before[slot] ∧
      floor ≤ balance (charge before[slot])

variable {key : γ → κ} {balance : γ → μ} {floor : μ} {before after : List γ} {name : κ} {amount : μ}

omit [DecidableEq κ] [IsOrderedAddMonoid μ] in
/-- A payment leaves the keys as they stand. -/
theorem Pays.keys (paid : Pays key balance floor before after name amount) :
    after.map key = before.map key := by
  obtain ⟨slot, bound, charge, rfl, named, _⟩ := paid
  apply List.ext_getElem
  · simp
  · intro index left right
    simp only [List.getElem_map, List.getElem_modify]
    split
    · rename_i same
      subst same
      exact named
    · rfl

omit [DecidableEq κ] [IsOrderedAddMonoid μ] in
/-- If no account was below the floor, none is after a payment. -/
theorem Pays.above (paid : Pays key balance floor before after name amount)
    (solvent : ∀ account ∈ before, floor ≤ balance account) :
    ∀ account ∈ after, floor ≤ balance account := by
  obtain ⟨slot, bound, charge, rfl, _, _, _, kept⟩ := paid
  intro account member
  obtain ⟨index, inside, rfl⟩ := List.getElem_of_mem member
  rw [List.getElem_modify]
  split
  · rename_i same
    subst same
    exact kept
  · exact solvent _ (List.getElem_mem _)

omit [IsOrderedAddMonoid μ] in
/-- A payment comes out of what its own key holds and leaves every other key as it was. -/
theorem Pays.held (paid : Pays key balance floor before after name amount) (tested : κ) :
    (if name = tested then amount else 0) + held key balance tested after =
      held key balance tested before := by
  obtain ⟨slot, bound, charge, rfl, named, rfl, moved, _⟩ := paid
  exact drawn_modify key balance charge amount tested before slot bound named moved

section Books

variable (accounts : σ → List γ) (name : β → κ) (amount : β → μ)
variable (pays : ∀ resource item receipt charged, place resource item = some (receipt, charged) →
  Pays key balance floor (accounts resource) (accounts charged) (name receipt) (amount receipt))
include pays

omit [IsOrderedAddMonoid μ] in
/-- The books of a pass of payments balance: under each key, what the receipts name and what
is left together are what was there before. Keys may repeat among the accounts. -/
theorem run_balance (items : List α) (resource : σ) (tested : κ) :
    held name amount tested ((run refuse place items resource).1.placed.map Prod.snd) +
      held key balance tested (accounts (run refuse place items resource).2) =
        held key balance tested (accounts resource) := by
  have books := run_account refuse place (fun state => held key balance tested (accounts state))
    (fun _ receipt => if name receipt = tested then amount receipt else 0)
    (fun state item receipt charged placed => (pays state item receipt charged placed).held tested)
    items resource
  rw [held_eq_sum name, List.map_map]
  exact books

omit [DecidableEq κ] [IsOrderedAddMonoid μ] in
/-- A pass of payments leaves the keys as they stand, position by position. -/
theorem run_keys (items : List α) (resource : σ) :
    (accounts (run refuse place items resource).2).map key = (accounts resource).map key := by
  refine (run_invariant refuse place
    (fun state => (accounts state).map key = (accounts resource).map key) (fun _ _ => True) ?_
    items resource rfl).1
  intro state item receipt charged same _ placed
  exact ⟨(pays state item receipt charged placed).keys.trans same, trivial⟩

omit [DecidableEq κ] [IsOrderedAddMonoid μ] in
/-- If no account was below the floor, none is after a pass of payments. -/
theorem run_above (items : List α) (resource : σ)
    (solvent : ∀ account ∈ accounts resource, floor ≤ balance account) :
    ∀ account ∈ accounts (run refuse place items resource).2, floor ≤ balance account := by
  refine (run_invariant refuse place
    (fun state => ∀ account ∈ accounts state, floor ≤ balance account) (fun _ _ => True) ?_
    items resource solvent).1
  intro state item receipt charged above _ placed
  exact ⟨(pays state item receipt charged placed).above above, trivial⟩

omit [IsOrderedAddMonoid μ] in
/-- With distinct keys the books balance account by account: what is left in an account is its
balance before the pass less the receipts under its key. With repeated keys only `run_balance`
is left. -/
theorem run_left (items : List α) (resource : σ) (distinct : ((accounts resource).map key).Nodup)
    (old : γ) (stood : old ∈ accounts resource) (left : γ)
    (final : left ∈ accounts (run refuse place items resource).2) (same : key left = key old) :
    held name amount (key left) ((run refuse place items resource).1.placed.map Prod.snd) +
      balance left = balance old := by
  have keys := run_keys refuse place accounts name amount pays items resource
  have books := run_balance refuse place accounts name amount pays items resource (key left)
  rwa [held_unique key balance _ (keys ▸ distinct) left final, same,
    held_unique key balance _ distinct old stood, ← same] at books

/-- When every placement is a payment from accounts with distinct keys, the receipts
under one key total at most what its account held above the floor. -/
theorem run_spent (items : List α) (resource : σ)
    (solvent : ∀ account ∈ accounts resource, floor ≤ balance account)
    (distinct : ((accounts resource).map key).Nodup) (account : γ)
    (member : account ∈ accounts resource) :
    held name amount (key account) ((run refuse place items resource).1.placed.map Prod.snd) +
      floor ≤ balance account := by
  have keys := run_keys refuse place accounts name amount pays items resource
  have above := run_above refuse place accounts name amount pays items resource solvent
  have present : key account ∈ (accounts (run refuse place items resource).2).map key := by
    rw [keys]
    exact List.mem_map_of_mem member
  obtain ⟨left, final, same⟩ := List.mem_map.mp present
  have books := run_left refuse place accounts name amount pays items resource distinct account
    member left final same
  rw [← same]
  calc _ ≤ _ := add_le_add_right (above left final) _
    _ = balance account := books

end Books

end Payments

end Library.Greedy
