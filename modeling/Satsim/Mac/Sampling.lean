import Satsim.Mac.Contention

/-!
# Rejection sampling of resource blocks ends

`_sample_rbs` draws until it has enough different blocks, without a bound on the number of
draws. On a stream in which every residue keeps coming up it ends: each round of draws
reaches a block that is not chosen yet, and there are no more rounds than blocks. The fuel
of the model only cuts the loop short; a call that returns returns the same with more.

No bound on the number of draws is given, since there is none. What is shown is that
on every such stream the loop stops somewhere, and that fuel enough to reach this point
exists.
-/

namespace Satsim

open Library

/-- A stream in which every residue of every modulus comes up again and again. A stream of
independent uniform words is such with certainty; the property itself is not one of chance. -/
def Rng.Lively (tape : ℕ → Draw) : Prop :=
  ∀ modulus residue, residue < modulus → ∀ index, ∃ later, index ≤ later ∧
    (tape later).word % modulus = residue

/-- The words that count up are lively: each residue returns after as many words as the
modulus. -/
theorem countingRng_lively : Rng.Lively countingRng.tape := by
  intro modulus residue inside index
  refine ⟨index * modulus + residue, ?_, ?_⟩
  · have positive : 1 ≤ modulus := by omega
    calc index = index * 1 := (Nat.mul_one index).symm
      _ ≤ index * modulus := Nat.mul_le_mul_left index positive
      _ ≤ index * modulus + residue := Nat.le_add_right _ _
  · simp [countingRng, Draw.half, Nat.mod_eq_of_lt inside]

/-- A draw of an integer takes one cell of the tape. -/
@[simp] theorem Rng.randint_snd (rng : Rng) (low high : ℤ) (nonempty : low ≤ high) :
    (rng.randint low high nonempty).2 = rng.advance := rfl

namespace ContentionMacScheduler

variable (config : MacConfig)

section Fuel

variable {fuel more : ℕ} (enough : fuel ≤ more)
include enough

/-- A sampling that returns returns the same with more fuel. The amount of fuel is therefore no
part of a result. -/
theorem sampleLoop_more (k : ℤ) (chosen rbs : List ℤ) (rng final : Rng)
    (returned : sampleLoop config k fuel chosen rng = some (rbs, final)) :
    sampleLoop config k more chosen rng = some (rbs, final) := by
  induction fuel generalizing more chosen rng with
  | zero => simp [sampleLoop] at returned
  | succ fuel inductionHypothesis =>
    obtain ⟨more, rfl⟩ : ∃ less, more = less + 1 := ⟨more - 1, by omega⟩
    rw [sampleLoop] at returned ⊢
    split at returned
    · rename_i short
      rw [if_pos short]
      exact inductionHypothesis (by omega) _ _ returned
    · rename_i full
      rw [if_neg full]
      exact returned

/-- An attempt that returns returns the same with more fuel, draws included. -/
theorem attempt_more (beams : List Beam) (units : Dict String ℚ) (candidate : ScheduleCandidate)
    (rng final : Rng) (tried : Option Attempt)
    (returned : attempt config fuel beams units candidate rng = some (tried, final)) :
    attempt config more beams units candidate rng = some (tried, final) := by
  unfold attempt at returned ⊢
  cases offers : beams.filter (eligible candidate) with
  | nil => simpa only [offers] using returned
  | cons first rest =>
    simp only [offers] at returned ⊢
    split_ifs at returned ⊢ with idle
    · exact returned
    · simp only [Option.bind_eq_bind, Option.bind_eq_some_iff, Prod.exists] at returned ⊢
      obtain ⟨rbs, after, sampled, same⟩ := returned
      exact ⟨rbs, after, sampleLoop_more config enough _ _ _ _ _ sampled, same⟩

/-- A first pass that returns returns the same with more fuel, attempt by attempt. -/
theorem transmit_more (beams : List Beam) (units : Dict String ℚ) (step : ℤ)
    (candidates : List ScheduleCandidate) (rng final : Rng) (pass : Transmissions)
    (returned : transmit config fuel beams units step candidates rng = some (pass, final)) :
    transmit config more beams units step candidates rng = some (pass, final) := by
  induction candidates generalizing rng final pass with
  | nil => exact returned
  | cons candidate rest inductionHypothesis =>
    rcases transmit_cons config fuel beams units step candidate rest rng final pass returned with
      ⟨expired, later, completed, rfl⟩ | ⟨timely, tried, middle, later, attempted, completed, made⟩
    · simp [transmit, expired, inductionHypothesis _ _ _ completed]
    · have attempted := attempt_more config enough _ _ _ _ _ _ attempted
      have completed := inductionHypothesis _ _ _ completed
      obtain ⟨rfl, rfl⟩ | ⟨made, rfl, rfl⟩ := made
      · simp [transmit, timely, attempted, completed]
      · simp [transmit, timely, attempted, completed]

/-- A call that returns returns the same with more fuel. -/
theorem schedule_more (candidates : List ScheduleCandidate) (snapshot : ConstellationSnapshot)
    (step : ℤ) (rng final : Rng) (result : SchedulingResult)
    (returned : schedule config fuel candidates snapshot step rng = some (result, final)) :
    schedule config more candidates snapshot step rng = some (result, final) := by
  obtain ⟨pass, passed, settled⟩ := (schedule_eq_some config _ _ _ _ _ _ _).mp returned
  exact (schedule_eq_some config _ _ _ _ _ _ _).mpr
    ⟨pass, transmit_more config enough _ _ _ _ _ _ _ passed, settled⟩

end Fuel

section Lively

/-- A set of blocks smaller than the grid leaves one of its blocks out. Rejection sampling
always has something to find. -/
theorem exists_missing (chosen : List ℤ) (distinct : chosen.Nodup)
    (few : (chosen.length : ℤ) < config.resourceBlocksPerBeam) :
    ∃ rb, 0 ≤ rb ∧ rb < config.resourceBlocksPerBeam ∧ rb ∉ chosen := by
  by_contra complete
  push Not at complete
  have covered : Finset.Ico 0 config.resourceBlocksPerBeam ⊆ chosen.toFinset := by
    intro rb member
    obtain ⟨above, below⟩ := Finset.mem_Ico.mp member
    exact List.mem_toFinset.mpr (complete rb above below)
  have counted := Finset.card_le_card covered
  rw [Int.card_Ico, List.toFinset_card_of_nodup distinct] at counted
  omega

/-- The draw of a block whose residue the word has. A lively stream has such a word ahead. -/
theorem randint_block (rng : Rng) (rb : ℤ) (above : 0 ≤ rb)
    (reached : (rng.tape rng.used).word % config.resourceBlocksPerBeam.toNat = rb.toNat) :
    (rng.randint 0 (config.resourceBlocksPerBeam - 1) (blocks_range config)).1 = rb := by
  have positive := config.resourceBlocksPerBeam_pos
  have modulus : (config.resourceBlocksPerBeam.toNat : ℤ) = config.resourceBlocksPerBeam :=
    Int.toNat_of_nonneg positive.le
  have residue : ((rng.tape rng.used).word : ℤ) % config.resourceBlocksPerBeam = rb := by
    rw [← modulus, ← Int.natCast_mod, reached, Int.toNat_of_nonneg above]
  simpa [Rng.randint] using residue

/-- Draws go on until one is new: at the latest the draw of the missing block is. What ends
the sampling from every larger set ends it from this one. -/
theorem sampleLoop_grows (k : ℤ) (tape : ℕ → Draw) (chosen : List ℤ)
    (grown : ∀ rb rng, rng.tape = tape → 0 ≤ rb → rb < config.resourceBlocksPerBeam →
      rb ∉ chosen → ∃ fuel rbs final,
        sampleLoop config k fuel (rb :: chosen) rng = some (rbs, final) ∧ final.tape = tape)
    (short : (chosen.length : ℤ) < k) (missing : ℤ) (above : 0 ≤ missing)
    (absent : missing ∉ chosen) (wait : ℕ) (rng : Rng) (same : rng.tape = tape)
    (reached : (tape (rng.used + wait)).word % config.resourceBlocksPerBeam.toNat =
      missing.toNat) :
    ∃ fuel rbs final, sampleLoop config k fuel chosen rng = some (rbs, final) ∧
      final.tape = tape := by
  have drawn := fun rng : Rng => rng.randint_mem 0 _ (blocks_range config)
  induction wait generalizing rng with
  | zero =>
    have block := randint_block config rng missing above (by simpa [same] using reached)
    have below := (drawn rng).2
    rw [block] at below
    obtain ⟨fuel, rbs, final, finished, kept⟩ := grown missing rng.advance same above
      (by omega) absent
    refine ⟨fuel + 1, rbs, final, ?_, kept⟩
    rw [sampleLoop, if_pos short]
    simpa only [block, if_neg absent, Rng.randint_snd] using finished
  | succ wait inductionHypothesis =>
    by_cases repeated :
        (rng.randint 0 (config.resourceBlocksPerBeam - 1) (blocks_range config)).1 ∈ chosen
    · obtain ⟨fuel, rbs, final, finished, kept⟩ := inductionHypothesis rng.advance same
        (by simpa [Rng.advance, Nat.add_assoc, Nat.add_comm 1] using reached)
      refine ⟨fuel + 1, rbs, final, ?_, kept⟩
      rw [sampleLoop, if_pos short]
      simpa only [if_pos repeated, Rng.randint_snd] using finished
    · obtain ⟨fuel, rbs, final, finished, kept⟩ := grown _ rng.advance same (drawn rng).1
        (by have := (drawn rng).2; omega) repeated
      refine ⟨fuel + 1, rbs, final, ?_, kept⟩
      rw [sampleLoop, if_pos short]
      simpa only [if_neg repeated, Rng.randint_snd] using finished

/-- Sampling ends on a lively stream: each new block leaves one fewer to find. The induction is
on the number still lacking. -/
theorem sampleLoop_finishes (k : ℤ) (within : k ≤ config.resourceBlocksPerBeam)
    (tape : ℕ → Draw) (lively : Rng.Lively tape) (lacking : ℕ) (chosen : List ℤ) (rng : Rng)
    (same : rng.tape = tape) (distinct : chosen.Nodup)
    (inside : ∀ rb ∈ chosen, 0 ≤ rb ∧ rb < config.resourceBlocksPerBeam)
    (few : k ≤ chosen.length + lacking) :
    ∃ fuel rbs final, sampleLoop config k fuel chosen rng = some (rbs, final) ∧
      final.tape = tape := by
  by_cases short : (chosen.length : ℤ) < k
  case neg => exact ⟨1, chosen, rng, by simp [sampleLoop, short], same⟩
  induction lacking generalizing chosen rng with
  | zero => omega
  | succ lacking inductionHypothesis =>
    obtain ⟨missing, above, below, absent⟩ := exists_missing config chosen distinct
      (short.trans_le within)
    obtain ⟨later, after, reached⟩ := lively config.resourceBlocksPerBeam.toNat missing.toNat
      (by omega) rng.used
    refine sampleLoop_grows config k tape chosen ?_ short missing above absent
      (later - rng.used) rng same (by rwa [Nat.add_sub_cancel' after])
    intro rb rng same above below fresh
    by_cases done : ((rb :: chosen).length : ℤ) < k
    case neg => exact ⟨1, rb :: chosen, rng, by simp only [sampleLoop, if_neg done], same⟩
    refine inductionHypothesis (rb :: chosen) rng same (List.nodup_cons.mpr ⟨fresh, distinct⟩)
      ?_ ?_ done
    · exact List.forall_mem_cons.mpr ⟨⟨above, below⟩, inside⟩
    · push_cast [List.length_cons] at few ⊢
      omega

/-- An attempt returns with enough fuel and keeps the tape. -/
theorem attempt_finishes (beams : List Beam) (units : Dict String ℚ)
    (candidate : ScheduleCandidate) (rng : Rng) (lively : Rng.Lively rng.tape) :
    ∃ fuel tried final, attempt config fuel beams units candidate rng = some (tried, final) ∧
      final.tape = rng.tape := by
  unfold attempt
  cases offers : beams.filter (eligible candidate) with
  | nil => exact ⟨0, none, rng, rfl, rfl⟩
  | cons first rest =>
    have kept : (pickBeam rng first rest).2.tape = rng.tape := rfl
    dsimp only
    generalize pickBeam rng first rest = picked at kept ⊢
    generalize rbsFor config candidate picked.1 (units.getD picked.1.beamId 0) = wanted
    by_cases idle : wanted.1 ≤ 0
    · exact ⟨0, none, picked.2, by simp [idle], kept⟩
    · obtain ⟨fuel, rbs, final, sampled, same⟩ := sampleLoop_finishes config _
        (min_le_right wanted.1 config.resourceBlocksPerBeam) rng.tape lively wanted.1.toNat []
        picked.2 kept List.nodup_nil (by simp) (by simp)
      exact ⟨fuel, _, final, by simp [idle, sampleRbs, sampled]; rfl, same⟩

/-- A first pass returns with enough fuel and keeps the tape. The fuels of its attempts are
joined by taking the largest. -/
theorem transmit_finishes (beams : List Beam) (units : Dict String ℚ) (step : ℤ)
    (candidates : List ScheduleCandidate) (rng : Rng) (lively : Rng.Lively rng.tape) :
    ∃ fuel pass final,
      transmit config fuel beams units step candidates rng = some (pass, final) ∧
        final.tape = rng.tape := by
  induction candidates generalizing rng with
  | nil => exact ⟨0, {}, rng, rfl, rfl⟩
  | cons candidate rest inductionHypothesis =>
    by_cases expired : candidate.request.isExpired step = true
    · obtain ⟨fuel, pass, final, completed, same⟩ := inductionHypothesis rng lively
      exact ⟨fuel, _, final, by simp [transmit, expired, completed]; rfl, same⟩
    · obtain ⟨early, tried, middle, attempted, kept⟩ := attempt_finishes config beams units
        candidate rng lively
      obtain ⟨late, pass, final, completed, same⟩ := inductionHypothesis middle (kept ▸ lively)
      have attempted := attempt_more config (le_max_left early late) _ _ _ _ _ _ attempted
      have completed := transmit_more config (le_max_right early late) _ _ _ _ _ _ _ completed
      refine ⟨max early late, ?_⟩
      cases tried with
      | none =>
        exact ⟨_, final, by simp [transmit, expired, attempted, completed]; rfl, same.trans kept⟩
      | some made =>
        exact ⟨_, final, by simp [transmit, expired, attempted, completed]; rfl, same.trans kept⟩

/-- A call of the random-access scheduler returns with enough fuel and keeps the tape. -/
theorem schedule_finishes (candidates : List ScheduleCandidate) (snapshot : ConstellationSnapshot)
    (step : ℤ) (rng : Rng) (lively : Rng.Lively rng.tape) :
    ∃ fuel result final,
      schedule config fuel candidates snapshot step rng = some (result, final) ∧
        final.tape = rng.tape := by
  obtain ⟨fuel, pass, final, transmitted, same⟩ := transmit_finishes config snapshot.beams
    (unitsByBeam config snapshot.beams) step (byRequestId candidates) rng lively
  exact ⟨fuel, settle config candidates snapshot pass, final,
    (schedule_eq_some config _ _ _ _ _ _ _).mpr ⟨pass, transmitted, rfl⟩, same⟩

end Lively

end ContentionMacScheduler

end Satsim
