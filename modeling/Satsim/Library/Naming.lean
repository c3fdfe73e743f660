import Mathlib

/-!
# Names built from numbers

A name made of a stem, a number, a separator and a second number determines both
numbers, when the separator starts with a character that is no digit and does not occur
in it again. The decimal text of a number has digits only, so the first such character
after the stem marks where the first number ends.

Only injectivity is shown. Reading a name back is not needed, since no name is ever
taken apart.
-/

namespace Library

namespace Naming

/-- The decimal text of a number determines it. The statement is about characters, since names
are compared as texts. -/
theorem toString_injective (i j : ℕ) (same : (toString i).toList = (toString j).toList) : i = j :=
  Nat.repr_injective (String.toList_inj.mp same)

/-- A character that is no digit does not occur in the text of a number. -/
theorem mark_absent (mark : Char) (unmarked : mark.isDigit = false) (n : ℕ) :
    mark ∉ (toString n).toList := by
  intro member
  rw [Nat.toString_eq_repr, Nat.toList_repr] at member
  have digit := Nat.isDigit_of_mem_toDigits (by decide) (by decide) member
  simp [unmarked] at digit

/-- A stem and a number, a separator and a number: the name determines both numbers. The stem
may contain anything, for it is the same in both names. -/
theorem pair_injective (stem separator : String) (mark : Char) (unmarked : mark.isDigit = false)
    (tail : List Char) (starts : separator.toList = mark :: tail) (once : mark ∉ tail)
    (i j k l : ℕ) (same : stem ++ toString i ++ separator ++ toString j =
      stem ++ toString k ++ separator ++ toString l) : i = k ∧ j = l := by
  have spelled := congrArg String.toList same
  simp only [String.toList_append, List.append_assoc, starts, List.cons_append] at spelled
  have aligned := List.append_cancel_left spelled
  have absent : mark ∉ tail ++ (toString j).toList := fun member =>
    (List.mem_append.mp member).elim once (mark_absent mark unmarked j)
  obtain ⟨first, _, rest⟩ := (List.append_cons_inj_of_notMem (mark_absent mark unmarked i)
    absent).mp aligned
  exact ⟨toString_injective i k first, toString_injective j l (List.append_cancel_left rest)⟩

end Naming

end Library
