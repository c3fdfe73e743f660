import Mathlib

/-!
# Finite runs of a partial step machine, and request ledgers

A machine step takes its index and a state and returns the next state with an
observation, or does not return. `run` performs a number of consecutive steps and
collects the observations in order. `run_invariant` is the only induction over
runs: a relation between the number of steps, the observations and the state holds
of every run when it holds initially and each step extends it.

A ledger records, for a population of items, what has arrived and where every item
went: served, dropped, rejected, or held for a later round. A round releases part
of what is held, adds arrivals and puts each of these items in one place. Balanced
ledgers stay balanced, and in a balanced ledger over distinct arrivals each item
sits in exactly one place, once.

A run that does not return is no run: whether it exists is a question of its own,
answered by `run_returns`. All other rules speak of runs that completed.
-/

namespace Library

/-- Two fallible steps succeed in a row exactly when each succeeds. -/
theorem bind_eq_ok.{u, v} {ε : Type u} {α β : Type v} (first : Except ε α)
    (second : α → Except ε β) (result : β) :
    (first >>= second) = .ok result ↔ ∃ value, first = .ok value ∧ second value = .ok result := by
  cases first with
  | error problem => exact iff_of_false (by simp [bind, Except.bind]) (by simp)
  | ok value => simp [bind, Except.bind]

/-- A pure value is the only one it succeeds with. -/
theorem pure_eq_ok.{u, v} {ε : Type u} {α : Type v} (value result : α) :
    (pure value : Except ε α) = .ok result ↔ value = result := by
  simp [pure, Except.pure]

namespace Runs

universe u v
variable {σ : Type u} {ω : Type v} (step : ℕ → σ → Option (σ × ω))

/-- The first `count` steps from a state, with their observations in order. One step that does
not return leaves the run without a result. -/
def run : ℕ → σ → Option (σ × List ω)
  | 0, state => some (state, [])
  | count + 1, state => do
      let (middle, observed) ← run count state
      let (final, observation) ← step count middle
      pure (final, observed ++ [observation])

/-- A run of one step more is a shorter run followed by one returning step. Inductions over runs
go through this equivalence. -/
theorem run_succ (count : ℕ) (state final : σ) (observed : List ω) :
    run step (count + 1) state = some (final, observed) ↔
      ∃ middle before observation, run step count state = some (middle, before) ∧
        step count middle = some (final, observation) ∧ observed = before ++ [observation] := by
  simp only [run, Option.bind_eq_bind, Option.bind_eq_some_iff, Option.pure_def,
    Option.some.injEq, Prod.mk.injEq, Prod.exists]
  constructor
  · rintro ⟨middle, before, completed, next, observation, stepped, rfl, rfl⟩
    exact ⟨middle, before, observation, completed, stepped, rfl⟩
  · rintro ⟨middle, before, observation, completed, stepped, rfl⟩
    exact ⟨middle, before, completed, final, observation, stepped, rfl, rfl⟩

/-- A relation between step count, observations and state that holds initially and is extended
by each returning step holds of every run. It need not hold of states that no run reaches. -/
theorem run_invariant (invariant : ℕ → List ω → σ → Prop) (initial : σ)
    (starts : invariant 0 [] initial)
    (extended : ∀ count observed state next observation, invariant count observed state →
      step count state = some (next, observation) →
      invariant (count + 1) (observed ++ [observation]) next)
    (count : ℕ) (final : σ) (observed : List ω)
    (completed : run step count initial = some (final, observed)) :
    invariant count observed final := by
  induction count generalizing final observed with
  | zero =>
    simp only [run, Option.some.injEq, Prod.mk.injEq] at completed
    obtain ⟨rfl, rfl⟩ := completed
    exact starts
  | succ count inductionHypothesis =>
    obtain ⟨middle, before, observation, earlier, stepped, rfl⟩ :=
      (run_succ _ _ _ _ _).mp completed
    exact extended count before middle final observation
      (inductionHypothesis middle before earlier) stepped

/-- A run of a number of steps has that many observations. -/
theorem run_length (count : ℕ) (initial final : σ) (observed : List ω)
    (completed : run step count initial = some (final, observed)) : observed.length = count :=
  run_invariant step (fun count observed _ => observed.length = count) initial rfl
    (fun _ _ _ _ _ counted _ => by simp [counted]) count final observed completed

/-- An invariant may be extended with the run up to each step in hand. This is of use when a
step's guarantee needs an earlier result about the same run. -/
theorem run_reached (invariant : ℕ → List ω → σ → Prop) (initial : σ)
    (starts : invariant 0 [] initial)
    (extended : ∀ count observed state next observation,
      run step count initial = some (state, observed) → invariant count observed state →
      step count state = some (next, observation) →
      invariant (count + 1) (observed ++ [observation]) next)
    (count : ℕ) (final : σ) (observed : List ω)
    (completed : run step count initial = some (final, observed)) :
    invariant count observed final := by
  refine (run_invariant step (fun count observed state =>
    run step count initial = some (state, observed) ∧ invariant count observed state) initial
    ⟨rfl, starts⟩ ?_ count final observed completed).2
  rintro count observed state next observation ⟨reached, holds⟩ stepped
  exact ⟨(run_succ step _ _ _ _).mpr ⟨state, observed, observation, reached, stepped, rfl⟩,
    extended count observed state next observation reached holds stepped⟩

/-- The first steps of a run are a run, with the first of its observations. What happens later
cannot change them. -/
theorem run_prefix (count : ℕ) (initial final : σ) (observed : List ω)
    (completed : run step count initial = some (final, observed)) (shorter : ℕ)
    (within : shorter ≤ count) :
    ∃ middle, run step shorter initial = some (middle, observed.take shorter) := by
  induction count generalizing final observed with
  | zero =>
    obtain rfl := Nat.le_zero.mp within
    simp only [run, Option.some.injEq, Prod.mk.injEq] at completed
    obtain ⟨rfl, rfl⟩ := completed
    exact ⟨initial, rfl⟩
  | succ count inductionHypothesis =>
    rcases Nat.lt_or_eq_of_le within with earlier | rfl
    · obtain ⟨middle, before, observation, reached, _, rfl⟩ := (run_succ _ _ _ _ _).mp completed
      have counted := run_length step count initial middle before reached
      obtain ⟨first, started⟩ := inductionHypothesis middle before reached (by omega)
      exact ⟨first, by rwa [List.take_append_of_le_length (by omega)]⟩
    · have counted := run_length step _ initial final observed completed
      exact ⟨final, by rwa [List.take_of_length_le (by omega)]⟩

/-- A run returns when an invariant makes every step return and is kept by it. This is the rule
for termination; the others assume it. -/
theorem run_returns (invariant : ℕ → σ → Prop) (initial : σ) (starts : invariant 0 initial)
    (returns : ∀ count state, invariant count state → ∃ next observation,
      step count state = some (next, observation) ∧ invariant (count + 1) next)
    (count : ℕ) : ∃ final observed, run step count initial = some (final, observed) ∧
      invariant count final := by
  induction count with
  | zero => exact ⟨initial, [], rfl, starts⟩
  | succ count inductionHypothesis =>
    obtain ⟨middle, before, completed, holds⟩ := inductionHypothesis
    obtain ⟨next, observation, stepped, kept⟩ := returns count middle holds
    exact ⟨next, before ++ [observation],
      (run_succ step _ _ _ _).mpr ⟨middle, before, observation, completed, stepped, rfl⟩, kept⟩

/-- Two steps run in lockstep when each step of the first is matched by a step of the second
that keeps the states related and makes a like observation. The relation is a simulation, and
the observations of the two runs are compared one by one. -/
theorem run_lockstep.{w, z} {τ : Type w} {υ : Type z} (other : ℕ → τ → Option (τ × υ))
    (related : σ → τ → Prop) (alike : ω → υ → Prop)
    (matched : ∀ count state partner next observation, related state partner →
      step count state = some (next, observation) → ∃ following response,
        other count partner = some (following, response) ∧ related next following ∧
          alike observation response)
    (count : ℕ) (initial final : σ) (observed : List ω)
    (completed : run step count initial = some (final, observed)) (start : τ)
    (begins : related initial start) :
    ∃ reached responses, run other count start = some (reached, responses) ∧
      related final reached ∧ List.Forall₂ alike observed responses := by
  induction count generalizing final observed with
  | zero =>
    obtain ⟨rfl, rfl⟩ := Prod.mk.inj (Option.some.inj completed)
    exact ⟨start, [], rfl, begins, List.Forall₂.nil⟩
  | succ count inductionHypothesis =>
    obtain ⟨middle, before, observation, ran, stepped, rfl⟩ :=
      (run_succ step count initial final observed).mp completed
    obtain ⟨partner, earlier, followed, together, same⟩ := inductionHypothesis middle before ran
    obtain ⟨following, response, answered, kept, like⟩ :=
      matched count middle partner final observation together stepped
    exact ⟨following, earlier ++ [response],
      (run_succ other count start following _).mpr
        ⟨partner, earlier, response, followed, answered, rfl⟩,
      kept, List.rel_append same (List.Forall₂.cons like List.Forall₂.nil)⟩

/-- A run that returns is also a run of any step that returns the same where this one returns. -/
theorem run_extends (more : ℕ → σ → Option (σ × ω))
    (extended : ∀ count state result, step count state = some result →
      more count state = some result)
    (count : ℕ) (initial final : σ) (observed : List ω)
    (completed : run step count initial = some (final, observed)) :
    run more count initial = some (final, observed) := by
  obtain ⟨reached, responses, ran, rfl, same⟩ := run_lockstep step more Eq Eq (by
    rintro count state partner next observation rfl stepped
    exact ⟨next, observation, extended count state _ stepped, rfl, rfl⟩)
    count initial final observed completed initial rfl
  rw [List.forall₂_eq_eq_eq] at same
  rwa [same]

/-- Steps that agree on the first indices run alike over them. They may differ on later
indices. -/
theorem run_congr (other : ℕ → σ → Option (σ × ω)) (count : ℕ)
    (same : ∀ index < count, ∀ state, step index state = other index state) (initial : σ) :
    run step count initial = run other count initial := by
  induction count with
  | zero => rfl
  | succ count inductionHypothesis =>
    have earlier := inductionHypothesis fun index before => same index (by omega)
    simp only [run, earlier, same count (Nat.lt_succ_self count)]

/-- Recording more about each step changes neither the steps nor what was recorded before. The
annotation may read the state the step started from, which the observations need not show. -/
theorem run_annotated.{w} {υ : Type w} (extra : ℕ → σ → ω → υ) (count : ℕ) (initial final : σ)
    (observed : List ω) (completed : run step count initial = some (final, observed)) :
    ∃ extras : List υ, extras.length = observed.length ∧
      run (fun index state => (step index state).map
          (fun (next, observation) => (next, observation, extra index state observation)))
        count initial = some (final, observed.zip extras) := by
  induction count generalizing final observed with
  | zero =>
    simp only [run, Option.some.injEq, Prod.mk.injEq] at completed
    obtain ⟨rfl, rfl⟩ := completed
    exact ⟨[], rfl, rfl⟩
  | succ count inductionHypothesis =>
    obtain ⟨middle, before, observation, earlier, stepped, rfl⟩ :=
      (run_succ _ _ _ _ _).mp completed
    obtain ⟨extras, counted, annotated⟩ := inductionHypothesis middle before earlier
    refine ⟨extras ++ [extra count middle observation], by simp [counted], ?_⟩
    apply (run_succ _ _ _ _ _).mpr
    refine ⟨middle, before.zip extras, (observation, extra count middle observation), annotated,
      by simp [stepped], ?_⟩
    rw [List.zip_append counted.symm]
    rfl

end Runs

/-- An item is among the first when one of the first positions holds it. -/
theorem mem_take_iff_getElem?.{w} {α : Type w} (items : List α) (count : ℕ) (item : α) :
    item ∈ items.take count ↔ ∃ index < count, items[index]? = some item := by
  rw [List.mem_iff_getElem?]
  constructor
  · rintro ⟨index, found⟩
    have inside : index < count := by
      have := (List.getElem?_eq_some_iff.mp found).1
      rw [List.length_take] at this
      omega
    exact ⟨index, inside, by rwa [List.getElem?_take_of_lt inside] at found⟩
  · rintro ⟨index, inside, found⟩
    exact ⟨index, by rwa [List.getElem?_take_of_lt inside]⟩

section Selection

universe u v
variable {α : Type u} {κ : Type v} [DecidableEq κ]

/-- When keys are distinct, filtering by the keys of a part recovers the part. Programs that
split a list by identifiers rely on this. -/
theorem filter_keys (key : α → κ) (all rest chosen : List α) (parts : (rest ++ chosen).Perm all)
    (distinct : (all.map key).Nodup) :
    (all.filter (fun item => decide (key item ∈ chosen.map key))).Perm chosen := by
  have apart : (rest.map key ++ chosen.map key).Nodup := by
    rw [← List.map_append]
    exact (parts.map key).nodup_iff.mpr distinct
  have dropped : rest.filter (fun item => decide (key item ∈ chosen.map key)) = [] := by
    rw [List.filter_eq_nil_iff]
    intro item member selected
    exact (List.disjoint_of_nodup_append apart) (List.mem_map_of_mem member)
      (of_decide_eq_true selected)
  have kept : chosen.filter (fun item => decide (key item ∈ chosen.map key)) = chosen := by
    rw [List.filter_eq_self]
    intro item member
    exact decide_eq_true (List.mem_map_of_mem member)
  have moved := (parts.filter (fun item => decide (key item ∈ chosen.map key))).symm
  rwa [List.filter_append, dropped, kept, List.nil_append] at moved

omit [DecidableEq κ] in
/-- A disjunction selects what its first part selects, and what its second part selects
among the others. -/
theorem filter_or_perm (first second : α → Bool) (items : List α) :
    (items.filter first ++ (items.filter (fun item => !first item)).filter second).Perm
      (items.filter (fun item => first item || second item)) := by
  have split := List.filter_append_perm first
    (items.filter (fun item => first item || second item))
  rw [List.filter_filter, List.filter_filter] at split
  rw [List.filter_filter]
  refine List.Perm.trans (List.Perm.of_eq ?_) split
  congr 1
  · exact List.filter_congr (fun item _ => by cases first item <;> simp)
  · exact List.filter_congr (fun item _ => by cases first item <;> simp)

omit [DecidableEq κ] in
/-- The keys of a part are a part of the keys. -/
theorem subperm_map (key : α → κ) (part all : List α) (included : part.Subperm all) :
    (part.map key).Subperm (all.map key) := by
  obtain ⟨middle, same, inside⟩ := included
  exact ⟨middle.map key, same.map key, inside.map key⟩

/-- A part of distinct items is distinct. -/
theorem subperm_nodup (part all : List α) (included : part.Subperm all) (distinct : all.Nodup) :
    part.Nodup := by
  obtain ⟨middle, same, inside⟩ := included
  exact same.nodup_iff.mp (distinct.sublist inside)

/-- Items among distinct keys are counted by counting each key. -/
theorem length_eq_sum_count (items keys : List κ) (distinct : keys.Nodup)
    (covered : ∀ item ∈ items, item ∈ keys) :
    items.length = (keys.map (fun key => items.count key)).sum := by
  have counted := Multiset.sum_count_eq_card (m := Multiset.ofList items) (s := keys.toFinset)
    (fun item member => List.mem_toFinset.mpr (covered item (Multiset.mem_coe.mp member)))
  rw [List.sum_toFinset _ distinct, Multiset.coe_card] at counted
  simpa only [Multiset.coe_count] using counted.symm

end Selection

universe u
variable {ι : Type u}

/-- What arrived and where it went, as multisets of item identities. A ledger forgets the order
and keeps the multiplicities. -/
structure Ledger (ι : Type u) where
  arrived : Multiset ι
  served : Multiset ι
  dropped : Multiset ι
  rejected : Multiset ι
  held : Multiset ι

namespace Ledger

/-- Everything that arrived is in one of the four places, with its multiplicity. -/
def Balanced (ledger : Ledger ι) : Prop :=
  ledger.arrived = ledger.served + ledger.dropped + ledger.rejected + ledger.held

/-- The ledger in which nothing has happened. -/
def empty : Ledger ι := ⟨0, 0, 0, 0, 0⟩

/-- One round: part of what is held is released, arrivals join it, and each of these items is
served, dropped, rejected or held again. Past outcomes stand. Which part is released is left
open. -/
structure Round (before after : Ledger ι) (arrivals served dropped rejected : Multiset ι) :
    Prop where
  settled : ∃ released kept requeued, before.held = kept + released ∧
    arrivals + released = served + dropped + rejected + requeued ∧ after.held = kept + requeued
  arrived : after.arrived = before.arrived + arrivals
  served : after.served = before.served + served
  dropped : after.dropped = before.dropped + dropped
  rejected : after.rejected = before.rejected + rejected

/-- It is balanced. -/
theorem empty_balanced : (empty : Ledger ι).Balanced := by simp [Balanced, empty]

/-- A round moves items between places and creates or loses none. -/
theorem round_balanced (before after : Ledger ι) (arrivals served dropped rejected : Multiset ι)
    (round : Round before after arrivals served dropped rejected) (balanced : before.Balanced) :
    after.Balanced := by
  obtain ⟨released, kept, requeued, split, placed, rest⟩ := round.settled
  have total : before.arrived + arrivals =
      (before.served + served) + (before.dropped + dropped) + (before.rejected + rejected) +
        (kept + requeued) := by
    calc before.arrived + arrivals
        = before.served + before.dropped + before.rejected + kept + (arrivals + released) := by
          rw [balanced, split]; abel
      _ = _ := by rw [placed]; abel
  simpa only [Balanced, round.arrived, round.served, round.dropped, round.rejected, rest] using
    total

/-- The places of a balanced ledger hold as many items as arrived. -/
theorem card_places (ledger : Ledger ι) (balanced : ledger.Balanced) :
    Multiset.card ledger.served + Multiset.card ledger.dropped + Multiset.card ledger.rejected +
      Multiset.card ledger.held = Multiset.card ledger.arrived := by
  rw [balanced]
  simp

variable [DecidableEq ι]

/-- How often an item occurs in the four places together. -/
def places (ledger : Ledger ι) (item : ι) : ℕ :=
  ledger.served.count item + ledger.dropped.count item + ledger.rejected.count item +
    ledger.held.count item

/-- In a balanced ledger over distinct arrivals, an item that arrived occurs once in one place
and not at all in the others. Without distinctness only the totals agree. -/
theorem places_once (ledger : Ledger ι) (balanced : ledger.Balanced)
    (distinct : ledger.arrived.Nodup) (item : ι) (arrived : item ∈ ledger.arrived) :
    ledger.places item = 1 := by
  have counted : ledger.arrived.count item = ledger.places item := by
    rw [balanced]
    simp [places]
  rw [← counted]
  exact Multiset.count_eq_one_of_mem distinct arrived

end Ledger

end Library
