import Mathlib

/-!
# Insertion-ordered dictionaries

A dictionary is a list of entries whose keys are distinct; the distinctness is a
field, so a dictionary with two entries for one key cannot be built. Writing a
present key replaces its value where it stands, and a fresh key goes to the end.

`tally` is the accumulating loop `d[k] = d.get(k, 0) + x`. Its laws say that each
key ends with the sum of what was added under it, and that a sum over the entries
is the sum over the additions, whichever keys are selected.

The correspondence with the dictionaries of the source is by behaviour: reading,
writing, order of entries, comprehension and accumulation. Deletion is never needed and
has no counterpart.
-/

namespace Library

universe u v w

/-- Entries in insertion order, at most one for each key. Equality here compares the order too,
which is finer than equality of dictionaries in the source. -/
structure Dict (κ : Type u) (ν : Type v) where
  entries : List (κ × ν)
  distinct : (entries.map Prod.fst).Nodup
  deriving DecidableEq

namespace Dict

variable {κ : Type u} {ν : Type v} [DecidableEq κ]

/-- The value of the first entry with this key in a list of entries. The list need not have
distinct keys; a dictionary's has. -/
def lookup (key : κ) : List (κ × ν) → Option ν
  | [] => none
  | entry :: rest => if entry.1 = key then some entry.2 else lookup key rest

/-- Replace the value of a present key in place; append a fresh key. Overwriting does not move
an entry to the end. -/
def write (key : κ) (value : ν) : List (κ × ν) → List (κ × ν)
  | [] => [(key, value)]
  | entry :: rest =>
      if entry.1 = key then (key, value) :: rest else entry :: write key value rest

omit [DecidableEq κ] in
/-- The dictionary without entries. -/
def empty : Dict κ ν := ⟨[], List.nodup_nil⟩

/-- Writing adds no key but the written one. -/
theorem mem_write_keys (key tested : κ) (value : ν) (entries : List (κ × ν)) :
    tested ∈ (write key value entries).map Prod.fst ↔
      tested = key ∨ tested ∈ entries.map Prod.fst := by
  induction entries with
  | nil => simp [write]
  | cons entry rest inductionHypothesis =>
    by_cases same : entry.1 = key
    · simp only [write, same, ↓reduceIte, List.map_cons, List.mem_cons]
      tauto
    · simp only [write, same, ↓reduceIte, List.map_cons, List.mem_cons, inductionHypothesis]
      tauto

/-- Writing keeps the keys distinct: a replaced key stays where it stood and an
appended one was absent. -/
theorem write_distinct (key : κ) (value : ν) (entries : List (κ × ν))
    (distinct : (entries.map Prod.fst).Nodup) :
    ((write key value entries).map Prod.fst).Nodup := by
  induction entries with
  | nil => simp [write]
  | cons entry rest inductionHypothesis =>
    obtain ⟨fresh, tail⟩ := List.nodup_cons.mp distinct
    by_cases same : entry.1 = key
    · rw [same] at fresh
      simpa [write, same] using ⟨by simpa using fresh, tail⟩
    · simp only [write, same, ↓reduceIte, List.map_cons, List.nodup_cons]
      refine ⟨?_, inductionHypothesis tail⟩
      rw [mem_write_keys]
      rintro (equal | present)
      · exact same equal
      · exact fresh present

/-- The value stored under a key, if any. -/
def get? (dict : Dict κ ν) (key : κ) : Option ν := lookup key dict.entries

/-- The value stored under a key, or a default, as `dict.get(key, default)`. -/
def getD (dict : Dict κ ν) (key : κ) (default : ν) : ν := (dict.get? key).getD default

/-- Assignment `d[key] = value`. The field of distinct keys is kept by `write_distinct`. -/
def set (dict : Dict κ ν) (key : κ) (value : ν) : Dict κ ν :=
  ⟨write key value dict.entries, write_distinct key value dict.entries dict.distinct⟩

omit [DecidableEq κ] in
/-- The keys, in the order in which they were first written. -/
def keys (dict : Dict κ ν) : List κ := dict.entries.map Prod.fst

omit [DecidableEq κ] in
/-- The values, in the order of their keys. -/
def values (dict : Dict κ ν) : List ν := dict.entries.map Prod.snd

/-- A comprehension: later pairs overwrite earlier ones with the same key. -/
def ofPairs (pairs : List (κ × ν)) : Dict κ ν :=
  pairs.foldl (fun dict pair => dict.set pair.1 pair.2) empty

/-- A key is found exactly when some entry carries it. -/
theorem lookup_isSome (key : κ) (entries : List (κ × ν)) :
    (lookup key entries).isSome ↔ key ∈ entries.map Prod.fst := by
  induction entries with
  | nil => simp [lookup]
  | cons entry rest inductionHypothesis =>
    by_cases same : entry.1 = key
    · simp [lookup, same]
    · have other : ¬ key = entry.1 := fun equal => same equal.symm
      simp only [lookup, same, ↓reduceIte, inductionHypothesis, List.map_cons, List.mem_cons,
        other, false_or]

/-- With distinct keys, a stored entry is the one that is found. Otherwise an earlier entry
could hide it. -/
theorem lookup_of_mem (key : κ) (value : ν) (entries : List (κ × ν))
    (distinct : (entries.map Prod.fst).Nodup) (member : (key, value) ∈ entries) :
    lookup key entries = some value := by
  induction entries with
  | nil => simp at member
  | cons entry rest inductionHypothesis =>
    obtain ⟨fresh, tail⟩ := List.nodup_cons.mp distinct
    cases List.mem_cons.mp member with
    | inl equal =>
      simp [lookup, ← equal]
    | inr later =>
      have other : ¬ entry.1 = key := by
        rintro rfl
        exact fresh (List.mem_map.mpr ⟨_, later, rfl⟩)
      simpa [lookup, other] using inductionHypothesis tail later

/-- Reading after a write: the written key has the new value, every other key
the value it had. -/
theorem lookup_write (key tested : κ) (value : ν) (entries : List (κ × ν)) :
    lookup tested (write key value entries) =
      if tested = key then some value else lookup tested entries := by
  induction entries with
  | nil => simp [write, lookup, eq_comm]
  | cons entry rest inductionHypothesis =>
    by_cases same : entry.1 = key
    · by_cases asked : tested = key
      · simp [write, lookup, same, asked]
      · have other : ¬ key = tested := fun equal => asked equal.symm
        simp [write, lookup, same, asked, other]
    · by_cases asked : tested = key
      · subst asked
        simpa [write, lookup, same] using inductionHypothesis
      · by_cases here : entry.1 = tested
        · simp [write, lookup, here, asked]
        · simpa [write, lookup, same, here, asked] using inductionHypothesis

/-- Reading after an assignment, as for entries. -/
@[simp] theorem get?_set (dict : Dict κ ν) (key tested : κ) (value : ν) :
    (dict.set key value).get? tested = if tested = key then some value else dict.get? tested :=
  lookup_write key tested value dict.entries

/-- The empty dictionary has no value under any key. -/
@[simp] theorem get?_empty (key : κ) : (empty : Dict κ ν).get? key = none := rfl

omit [DecidableEq κ] in
/-- The empty dictionary lists nothing. -/
@[simp] theorem entries_empty : (empty : Dict κ ν).entries = [] := rfl

/-- A value is found exactly under the keys. -/
theorem get?_isSome (dict : Dict κ ν) (key : κ) : (dict.get? key).isSome ↔ key ∈ dict.keys :=
  lookup_isSome key dict.entries

/-- Extending a dictionary by pairs: what a key reads as is the value of one of its pairs, or
what it read as before. -/
theorem get?_foldl_set (pairs : List (κ × ν)) (dict : Dict κ ν) (key : κ) (value : ν)
    (found : (pairs.foldl (fun dict pair => dict.set pair.1 pair.2) dict).get? key = some value) :
    (key, value) ∈ pairs ∨ dict.get? key = some value := by
  induction pairs generalizing dict with
  | nil => exact Or.inr found
  | cons pair rest inductionHypothesis =>
    cases inductionHypothesis (dict.set pair.1 pair.2) found with
    | inl later =>
      exact Or.inl (List.mem_cons_of_mem _ later)
    | inr before =>
      by_cases same : key = pair.1
      · have valued : pair.2 = value := by simpa [same] using before
        exact Or.inl (List.mem_cons.mpr (Or.inl (by rw [same, ← valued])))
      · exact Or.inr (by simpa [same] using before)

/-- A value read from a comprehension was paired with its key. -/
theorem ofPairs_mem (pairs : List (κ × ν)) (key : κ) (value : ν)
    (found : (ofPairs pairs).get? key = some value) : (key, value) ∈ pairs := by
  cases get?_foldl_set pairs empty key value found with
  | inl member =>
    exact member
  | inr impossible =>
    simp at impossible

/-- Extending by pairs adds the keys of the pairs and takes none away. -/
theorem isSome_foldl_set (pairs : List (κ × ν)) (dict : Dict κ ν) (key : κ) :
    ((pairs.foldl (fun dict pair => dict.set pair.1 pair.2) dict).get? key).isSome ↔
      key ∈ pairs.map Prod.fst ∨ (dict.get? key).isSome := by
  induction pairs generalizing dict with
  | nil => simp
  | cons pair rest inductionHypothesis =>
    simp only [List.foldl_cons, inductionHypothesis, get?_set, List.map_cons, List.mem_cons]
    by_cases same : key = pair.1
    · simp [same]
    · simp [same]

/-- The keys of a comprehension are those of its pairs. -/
theorem ofPairs_isSome (pairs : List (κ × ν)) (key : κ) :
    ((ofPairs pairs).get? key).isSome ↔ key ∈ pairs.map Prod.fst := by
  simpa [ofPairs] using isSome_foldl_set pairs empty key

/-- With distinct keys a comprehension stores every pair. A repeated key keeps its last pair
only. -/
theorem ofPairs_of_mem (pairs : List (κ × ν)) (key : κ) (value : ν)
    (distinct : (pairs.map Prod.fst).Nodup) (member : (key, value) ∈ pairs) :
    (ofPairs pairs).get? key = some value := by
  have present : key ∈ pairs.map Prod.fst := List.mem_map.mpr ⟨_, member, rfl⟩
  obtain ⟨stored, found⟩ := Option.isSome_iff_exists.mp ((ofPairs_isSome pairs key).mpr present)
  have first : lookup key pairs = some stored :=
    lookup_of_mem key stored pairs distinct (ofPairs_mem pairs key stored found)
  rw [found, ← first, lookup_of_mem key value pairs distinct member]

/-- A comprehension keeps the last value of a repeated key. This is where a list with repeated
identifiers and a dictionary over them part ways. -/
theorem ofPairs_get? (pairs : List (κ × ν)) (key : κ) :
    (ofPairs pairs).get? key =
      ((pairs.filter fun pair => decide (pair.1 = key)).getLast?).map Prod.snd := by
  induction pairs using List.reverseRecOn with
  | nil => rfl
  | append_singleton earlier pair inductionHypothesis =>
    have stored : ofPairs (earlier ++ [pair]) = (ofPairs earlier).set pair.1 pair.2 := by
      simp [ofPairs]
    rw [stored, get?_set, List.filter_append]
    by_cases same : pair.1 = key
    · simp [same]
    · simp [same, Ne.symm same, inductionHypothesis]

/-- A fresh key goes to the end. -/
theorem write_fresh (key : κ) (value : ν) (entries : List (κ × ν))
    (fresh : key ∉ entries.map Prod.fst) : write key value entries = entries ++ [(key, value)] := by
  induction entries with
  | nil => rfl
  | cons entry rest inductionHypothesis =>
    rw [List.map_cons, List.mem_cons, not_or] at fresh
    rw [write, if_neg (Ne.symm fresh.1), inductionHypothesis fresh.2, List.cons_append]

/-- With distinct keys a comprehension keeps the pairs as they are listed. -/
theorem ofPairs_entries (pairs : List (κ × ν)) (distinct : (pairs.map Prod.fst).Nodup) :
    (ofPairs pairs).entries = pairs := by
  induction pairs using List.reverseRecOn with
  | nil => rfl
  | append_singleton earlier pair inductionHypothesis =>
    rw [List.map_append, List.nodup_append] at distinct
    obtain ⟨before, _, apart⟩ := distinct
    have kept := inductionHypothesis before
    have stored : ofPairs (earlier ++ [pair]) = (ofPairs earlier).set pair.1 pair.2 := by
      simp [ofPairs]
    have fresh : pair.1 ∉ (ofPairs earlier).entries.map Prod.fst := by
      rw [kept]
      exact fun present => apart _ present pair.1 (by simp) rfl
    rw [stored]
    exact (write_fresh _ _ _ fresh).trans (congrArg (· ++ [pair]) kept)

/-- An entry is listed exactly when its value is found, since keys are distinct. -/
theorem mem_entries_iff (dict : Dict κ ν) (key : κ) (value : ν) :
    (key, value) ∈ dict.entries ↔ dict.get? key = some value := by
  constructor
  · exact lookup_of_mem key value dict.entries dict.distinct
  · intro found
    obtain ⟨entry, member, same⟩ := List.mem_map.mp
      ((dict.get?_isSome key).mp (found ▸ rfl : (dict.get? key).isSome))
    have stored := lookup_of_mem entry.1 entry.2 dict.entries dict.distinct member
    rw [same] at stored
    have valued : entry.2 = value := Option.some.inj (stored.symm.trans found)
    rw [← same, ← valued]
    exact member

/-- A comprehension over pairs with distinct keys reads as the listed pair. -/
theorem ofPairs_eq_some (pairs : List (κ × ν)) (distinct : (pairs.map Prod.fst).Nodup) (key : κ)
    (value : ν) : (ofPairs pairs).get? key = some value ↔ (key, value) ∈ pairs :=
  ⟨ofPairs_mem pairs key value, ofPairs_of_mem pairs key value distinct⟩

/-- A comprehension over some entries of a dictionary keeps their keys. An entry that is
filtered out reads as absent. -/
theorem ofPairs_filter_eq_some {υ : Type w} (dict : Dict κ ν) (keep : κ × ν → Bool)
    (image : κ × ν → υ) (key : κ) (value : υ) :
    (ofPairs ((dict.entries.filter keep).map (fun entry => (entry.1, image entry)))).get? key =
        some value ↔
      ∃ old, dict.get? key = some old ∧ keep (key, old) = true ∧ image (key, old) = value := by
  have distinct : (((dict.entries.filter keep).map (fun entry => (entry.1, image entry))).map
      Prod.fst).Nodup := by
    rw [List.map_map]
    exact dict.distinct.sublist (List.filter_sublist.map Prod.fst)
  rw [ofPairs_eq_some _ distinct, List.mem_map]
  constructor
  · rintro ⟨⟨key, old⟩, member, same⟩
    obtain ⟨rfl, rfl⟩ := Prod.mk.inj same
    obtain ⟨stored, kept⟩ := List.mem_filter.mp member
    exact ⟨old, (dict.mem_entries_iff key old).mp stored, kept, rfl⟩
  · rintro ⟨old, stored, kept, rfl⟩
    exact ⟨(key, old), List.mem_filter.mpr ⟨(dict.mem_entries_iff key old).mpr stored, kept⟩, rfl⟩

/-- A comprehension over all entries maps the values under their keys. -/
theorem ofPairs_map_eq_some {υ : Type w} (dict : Dict κ ν) (image : κ × ν → υ) (key : κ)
    (value : υ) :
    (ofPairs (dict.entries.map (fun entry => (entry.1, image entry)))).get? key = some value ↔
      ∃ old, dict.get? key = some old ∧ image (key, old) = value := by
  have every := dict.ofPairs_filter_eq_some (fun _ => true) image key value
  simpa using every

omit [DecidableEq κ] in
/-- Choosing a value for some of the keys keeps the keys distinct. -/
theorem choose_distinct (keys : List κ) (distinct : keys.Nodup) (choose : κ → Option ν) :
    ((keys.filterMap (fun key => (choose key).map (fun value => (key, value)))).map
      Prod.fst).Nodup := by
  induction keys with
  | nil => exact List.nodup_nil
  | cons key rest inductionHypothesis =>
    obtain ⟨fresh, tail⟩ := List.nodup_cons.mp distinct
    cases chosen : choose key with
    | none =>
      simpa [chosen] using inductionHypothesis tail
    | some value =>
      rw [List.filterMap_cons, chosen, Option.map_some, List.map_cons, List.nodup_cons]
      refine ⟨?_, inductionHypothesis tail⟩
      intro repeated
      obtain ⟨pair, listed, same⟩ := List.mem_map.mp repeated
      obtain ⟨other, member, found⟩ := List.mem_filterMap.mp listed
      obtain ⟨_, _, rfl⟩ := Option.map_eq_some_iff.mp found
      have equal : other = key := same
      exact fresh (equal ▸ member)

/-- A comprehension that chooses a value for some of the keys reads as the choice. -/
theorem ofPairs_choose_eq_some (keys : List κ) (distinct : keys.Nodup) (choose : κ → Option ν)
    (key : κ) (value : ν) :
    (ofPairs (keys.filterMap (fun key => (choose key).map (fun value => (key, value))))).get? key =
        some value ↔ key ∈ keys ∧ choose key = some value := by
  rw [ofPairs_eq_some _ (choose_distinct keys distinct choose), List.mem_filterMap]
  constructor
  · rintro ⟨other, member, found⟩
    obtain ⟨chosen, valued, same⟩ := Option.map_eq_some_iff.mp found
    obtain ⟨rfl, rfl⟩ := Prod.mk.inj same
    exact ⟨member, valued⟩
  · rintro ⟨member, valued⟩
    exact ⟨key, member, by rw [valued, Option.map_some]⟩

section Grouping

variable {α : Type w}

/-- A loop that updates the value under each item's key, from a start value for a fresh key,
leaves under a key what its own items make of the value before. Items under other keys do not
interfere, however they are interleaved. -/
theorem getD_foldl_update (keyOf : α → κ) (update : ν → α → ν) (start : ν) (items : List α)
    (dict : Dict κ ν) (key : κ) :
    (items.foldl (fun dict item =>
        dict.set (keyOf item) (update (dict.getD (keyOf item) start) item)) dict).getD key start =
      (items.filter (fun item => decide (keyOf item = key))).foldl update
        (dict.getD key start) := by
  induction items generalizing dict with
  | nil => rfl
  | cons item rest inductionHypothesis =>
    rw [List.foldl_cons, inductionHypothesis]
    by_cases same : keyOf item = key
    · subst same
      simp [getD]
    · have other : ¬ key = keyOf item := fun equal => same equal.symm
      simp [getD, same, other]

/-- Such a loop files a value under the keys of its items. -/
theorem isSome_foldl_update (keyOf : α → κ) (update : ν → α → ν) (start : ν) (items : List α)
    (dict : Dict κ ν) (key : κ) :
    ((items.foldl (fun dict item =>
        dict.set (keyOf item) (update (dict.getD (keyOf item) start) item)) dict).get? key).isSome ↔
      key ∈ items.map keyOf ∨ (dict.get? key).isSome := by
  induction items generalizing dict with
  | nil => simp
  | cons item rest inductionHypothesis =>
    rw [List.foldl_cons, inductionHypothesis, get?_set, List.map_cons, List.mem_cons]
    by_cases same : key = keyOf item
    · simp [same]
    · simp [same]

end Grouping

section Tally

variable {μ : Type w} [AddCommMonoid μ]

/-- Add to the value stored under a key, from zero when the key is fresh. The key then has an
entry, also when the amount is zero. -/
def bump (dict : Dict κ μ) (key : κ) (amount : μ) : Dict κ μ :=
  dict.set key (dict.getD key 0 + amount)

/-- Accumulate every amount under its key, starting from no entries. -/
def tally (amounts : List (κ × μ)) : Dict κ μ :=
  amounts.foldl (fun dict pair => dict.bump pair.1 pair.2) empty

/-- The sum of the amounts listed under one key. -/
def sumUnder (key : κ) (amounts : List (κ × μ)) : μ :=
  ((amounts.filter (fun pair => decide (pair.1 = key))).map Prod.snd).sum

/-- Nothing listed, nothing summed. -/
@[simp] theorem sumUnder_nil (key : κ) : sumUnder key ([] : List (κ × μ)) = 0 := rfl

/-- An amount counts under its own key. -/
@[simp] theorem sumUnder_cons (key : κ) (pair : κ × μ) (rest : List (κ × μ)) :
    sumUnder key (pair :: rest) = (if pair.1 = key then pair.2 else 0) + sumUnder key rest := by
  by_cases same : pair.1 = key <;> simp [sumUnder, same]

/-- Lists of amounts add up under every key. -/
theorem sumUnder_append (key : κ) (left right : List (κ × μ)) :
    sumUnder key (left ++ right) = sumUnder key left + sumUnder key right := by
  simp [sumUnder]

/-- A bump adds to its own key and to no other. -/
theorem getD_bump (dict : Dict κ μ) (key tested : κ) (amount : μ) :
    (dict.bump key amount).getD tested 0 =
      dict.getD tested 0 + if key = tested then amount else 0 := by
  by_cases same : tested = key
  · subst same
    simp [bump, getD]
  · have other : ¬ key = tested := fun equal => same equal.symm
    simp [bump, getD, same, other]

/-- Bumping by each of a list of amounts adds their sum under each key. -/
theorem getD_foldl_bump (amounts : List (κ × μ)) (dict : Dict κ μ) (key : κ) :
    (amounts.foldl (fun dict pair => dict.bump pair.1 pair.2) dict).getD key 0 =
      dict.getD key 0 + sumUnder key amounts := by
  induction amounts generalizing dict with
  | nil => simp
  | cons pair rest inductionHypothesis =>
    rw [List.foldl_cons, inductionHypothesis, getD_bump, sumUnder_cons, add_assoc]

/-- Each key of a tally holds the sum of the amounts listed under it. -/
theorem getD_tally (amounts : List (κ × μ)) (key : κ) :
    (tally amounts).getD key 0 = sumUnder key amounts := by
  rw [tally, getD_foldl_bump]
  simp [getD]

/-- With one entry a key, the sum under a key is the value found there, or zero. -/
theorem sumUnder_lookup (key : κ) (entries : List (κ × μ))
    (distinct : (entries.map Prod.fst).Nodup) :
    sumUnder key entries = (lookup key entries).getD 0 := by
  induction entries with
  | nil => rfl
  | cons entry rest inductionHypothesis =>
    obtain ⟨fresh, tail⟩ := List.nodup_cons.mp distinct
    rw [sumUnder_cons, inductionHypothesis tail]
    by_cases same : entry.1 = key
    · have absent : lookup key rest = none := by
        rw [← Option.not_isSome_iff_eq_none, lookup_isSome]
        exact fun present => fresh (same ▸ present)
      simp [lookup, same, absent]
    · simp [lookup, same]

/-- The entries of a dictionary hold one amount for each key. -/
theorem sumUnder_entries (dict : Dict κ μ) (key : κ) :
    sumUnder key dict.entries = dict.getD key 0 :=
  sumUnder_lookup key dict.entries dict.distinct

/-- Once a dictionary has an entry, accumulating keeps it inhabited. -/
theorem foldl_bump_inhabited (amounts : List (κ × μ)) (dict : Dict κ μ)
    (inhabited : dict.entries ≠ []) :
    (amounts.foldl (fun dict pair => dict.bump pair.1 pair.2) dict).entries ≠ [] := by
  induction amounts generalizing dict with
  | nil => exact inhabited
  | cons pair rest inductionHypothesis =>
    apply inductionHypothesis (dict.bump pair.1 pair.2)
    have stored := (mem_write_keys pair.1 pair.1 (dict.getD pair.1 0 + pair.2)
      dict.entries).mpr (Or.inl rfl)
    exact fun vacant => List.not_mem_nil ((List.map_eq_nil_iff.mpr vacant) ▸ stored)

/-- A tally has no entries exactly when nothing was added. -/
theorem tally_vacant (amounts : List (κ × μ)) : (tally amounts).entries = [] ↔ amounts = [] := by
  cases amounts with
  | nil => exact iff_of_true rfl rfl
  | cons pair rest =>
    have inhabited : ((empty : Dict κ μ).bump pair.1 pair.2).entries ≠ [] := by
      simp [bump, set, write]
    exact iff_of_false (foldl_bump_inhabited rest _ inhabited) (by simp)

/-- A key has an entry once something was added under it. -/
theorem foldl_bump_isSome (amounts : List (κ × μ)) (dict : Dict κ μ) (key : κ) :
    ((amounts.foldl (fun dict pair => dict.bump pair.1 pair.2) dict).get? key).isSome ↔
      key ∈ amounts.map Prod.fst ∨ (dict.get? key).isSome :=
  isSome_foldl_update Prod.fst (fun sum pair => sum + pair.2) 0 amounts dict key

/-- The keys of a tally are those under which something was added. -/
theorem tally_isSome (amounts : List (κ × μ)) (key : κ) :
    ((tally amounts).get? key).isSome ↔ key ∈ amounts.map Prod.fst := by
  rw [tally, foldl_bump_isSome]
  simp

/-- Adding to a key changes a sum over selected entries by the amount, when the key is selected,
and not otherwise. The entry may be new or old. -/
theorem sum_write_selected (selected : κ → Bool) (key : κ) (amount : μ)
    (entries : List (κ × μ)) (distinct : (entries.map Prod.fst).Nodup) :
    (((write key ((lookup key entries).getD 0 + amount) entries).filter
        (fun pair => selected pair.1)).map Prod.snd).sum =
      ((entries.filter (fun pair => selected pair.1)).map Prod.snd).sum +
        if selected key then amount else 0 := by
  induction entries with
  | nil => cases chosen : selected key <;> simp [write, lookup, chosen]
  | cons entry rest inductionHypothesis =>
    obtain ⟨fresh, tail⟩ := List.nodup_cons.mp distinct
    by_cases same : entry.1 = key
    · subst same
      cases chosen : selected entry.1
      · simp [write, chosen]
      · simp only [write, lookup, ↓reduceIte, Option.getD_some, List.filter_cons, chosen,
          List.map_cons, List.sum_cons]
        rw [add_assoc, add_comm amount, ← add_assoc]
    · have step := inductionHypothesis tail
      cases chosen : selected entry.1
      · simpa [write, lookup, same, chosen] using step
      · simp only [write, lookup, same, ↓reduceIte, List.filter_cons, chosen, List.map_cons,
          List.sum_cons, step, add_assoc]

/-- Bumping adds to a sum over selected entries what was listed under selected keys. -/
theorem sum_foldl_bump (selected : κ → Bool) (amounts : List (κ × μ)) (dict : Dict κ μ) :
    (((amounts.foldl (fun dict pair => dict.bump pair.1 pair.2) dict).entries.filter
        (fun pair => selected pair.1)).map Prod.snd).sum =
      ((dict.entries.filter (fun pair => selected pair.1)).map Prod.snd).sum +
        ((amounts.filter (fun pair => selected pair.1)).map Prod.snd).sum := by
  induction amounts generalizing dict with
  | nil => simp
  | cons pair rest inductionHypothesis =>
    have first := sum_write_selected selected pair.1 pair.2 dict.entries dict.distinct
    rw [List.foldl_cons, inductionHypothesis]
    simp only [bump, set, getD, get?]
    rw [first]
    cases chosen : selected pair.1 <;> simp [chosen, add_assoc]

/-- A sum over the selected entries of a tally is the sum of the amounts listed under selected
keys. With every key selected, this is the grand total. -/
theorem sum_tally (selected : κ → Bool) (amounts : List (κ × μ)) :
    (((tally amounts).entries.filter (fun pair => selected pair.1)).map Prod.snd).sum =
      ((amounts.filter (fun pair => selected pair.1)).map Prod.snd).sum := by
  rw [tally, sum_foldl_bump]
  simp

/-- A sum under a key over listed parts is the sum over the parts. -/
theorem sumUnder_flatMap {ω : Type v} (key : κ) (parts : List ω) (amounts : ω → List (κ × μ)) :
    sumUnder key (parts.flatMap amounts) =
      (parts.map (fun part => sumUnder key (amounts part))).sum := by
  induction parts with
  | nil => rfl
  | cons part rest inductionHypothesis =>
    rw [List.flatMap_cons, sumUnder_append, inductionHypothesis, List.map_cons, List.sum_cons]

section Relabel

variable {ι : Type v} [DecidableEq ι] (label : κ → ι) (apart : Function.Injective label)
include apart

/-- Labels that tell keys apart keep the amounts under each key. Labels that do not would merge
bars. -/
theorem sumUnder_relabel (key : κ) (amounts : List (κ × μ)) :
    sumUnder (label key) (amounts.map (fun pair => (label pair.1, pair.2))) =
      sumUnder key amounts := by
  induction amounts with
  | nil => rfl
  | cons pair rest inductionHypothesis =>
    simp only [List.map_cons, sumUnder_cons, inductionHypothesis, apart.eq_iff]

omit [DecidableEq κ] [AddCommMonoid μ] in
/-- A comprehension under such labels lists the entries as they are. -/
theorem relabel_entries (dict : Dict κ μ) :
    (ofPairs (dict.entries.map (fun entry => (label entry.1, entry.2)))).entries =
      dict.entries.map (fun entry => (label entry.1, entry.2)) := by
  apply ofPairs_entries
  have distinct := dict.distinct.map apart
  rwa [List.map_map] at distinct ⊢

/-- Under such labels every value is found where its key's label points. -/
theorem getD_relabel (dict : Dict κ μ) (key : κ) :
    (ofPairs (dict.entries.map (fun entry => (label entry.1, entry.2)))).getD (label key) 0 =
      dict.getD key 0 := by
  rw [← sumUnder_entries, relabel_entries label apart, sumUnder_relabel label apart,
    sumUnder_entries]

omit [DecidableEq κ] [AddCommMonoid μ] in
/-- Such labels leave the values and their order alone. -/
theorem values_relabel (dict : Dict κ μ) :
    (ofPairs (dict.entries.map (fun entry => (label entry.1, entry.2)))).values = dict.values := by
  rw [values, relabel_entries label apart, List.map_map]
  rfl

end Relabel

end Tally

end Dict

end Library
