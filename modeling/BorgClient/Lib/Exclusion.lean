import Mathlib

/-!
# Mutual exclusion by a lock that names its owner

A lock is free or names one owner, and some owners are inside their critical section. While
every owner inside is the one the lock names, at most one is inside. The rules below are those
of an exclusive create, of a critical section that ends, and of an unlink.
-/

namespace Exclusion

variable {ι : Type*} {lock : Option ι} {inside inside' : ι → Prop}

/-- Whoever is inside is named by the lock. -/
def Exclusive (lock : Option ι) (inside : ι → Prop) : Prop := ∀ i, inside i → lock = some i

/-- At most one is inside. -/
theorem Exclusive.eq (h : Exclusive lock inside) {i j : ι} (hi : inside i) (hj : inside j) :
    i = j :=
  Option.some.inj ((h i hi).symm.trans (h j hj))

/-- Nobody enters: owners may have left, or died. -/
theorem Exclusive.mono (h : Exclusive lock inside) (hsub : ∀ i, inside' i → inside i) :
    Exclusive lock inside' :=
  fun i hi => h i (hsub i hi)

/-- Creating a lock that did not exist lets its creator in. -/
theorem Exclusive.enter (h : Exclusive none inside) (i : ι)
    (hsub : ∀ j, inside' j → j = i ∨ inside j) : Exclusive (some i) inside' := by
  intro j hj
  rcases hsub j hj with rfl | hold
  · rfl
  · exact absurd (h j hold) (by simp)

/-- Removing the lock of an owner who is not inside afterwards. -/
theorem Exclusive.unlink (h : Exclusive lock inside) (hsub : ∀ i, inside' i → inside i)
    (hout : ∀ i, lock = some i → ¬ inside' i) : Exclusive none inside' :=
  fun i hi => absurd hi (hout i (h i (hsub i hi)))

end Exclusion
