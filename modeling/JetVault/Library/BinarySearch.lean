import Mathlib.Order.Compare
import Mathlib.Order.Fin.Basic

/-!
# Binary search

The loop of `slice::binary_search_by`: a window that is halved at every comparison, until an entry
compares as equal or the window is empty. An entry that is found always compares as equal; that
one is found where there is any, and that the window closes where a missing entry belongs, takes
entries in order.
-/
namespace BinarySearch

variable {n : ℕ} (compared : Fin n → Ordering)

/-- The entries from `left` to `right` are still to be searched, at most `fuel` of them. -/
def loop : (fuel left right : ℕ) → right ≤ n → Except ℕ (Fin n)
  | 0, left, _, _ => .error left
  | fuel + 1, left, right, inside =>
    if window : left < right then
      let mid : Fin n := ⟨left + (right - left) / 2, by omega⟩
      match compared mid with
      | .lt => loop fuel (mid + 1) right inside
      | .gt => loop fuel left mid (Nat.le_of_lt mid.isLt)
      | .eq => .ok mid
    else .error left

/-- The index of an entry that compares as equal, or the index where one belongs. -/
def search : Except ℕ (Fin n) :=
  loop compared n 0 n n.le_refl

/-- Everything up to an entry that is too small is too small, and everything from one that is too
great is too great. -/
structure Ordered : Prop where
  small : ∀ i j, i ≤ j → compared j = .lt → compared i = .lt
  great : ∀ i j, i ≤ j → compared i = .gt → compared j = .gt

/-- What the loop has excluded. -/
structure Excluded (left right : ℕ) : Prop where
  small : ∀ i : Fin n, i < left → compared i = .lt
  great : ∀ i : Fin n, right ≤ i → compared i = .gt

variable {compared}

/-- A found entry compares as equal, in whatever order the entries are. -/
theorem loop_ok {fuel left right : ℕ} {inside : right ≤ n} {i : Fin n}
    (found : loop compared fuel left right inside = .ok i) : compared i = .eq := by
  induction fuel generalizing left right with
  | zero => cases found
  | succ fuel ih =>
    rw [loop] at found
    split at found
    · dsimp only at found
      split at found
      next => exact ih found
      next => exact ih found
      next equal =>
        cases found
        exact equal
    · cases found

theorem Excluded.below (ordered : Ordered compared) {left right : ℕ}
    (excluded : Excluded compared left right) {mid : Fin n} (less : compared mid = .lt) :
    Excluded compared (mid + 1) right := by
  refine ⟨?_, excluded.great⟩
  intro i before
  exact ordered.small i mid (Fin.le_def.mpr (Nat.lt_succ_iff.mp before)) less

theorem Excluded.above (ordered : Ordered compared) {left right : ℕ}
    (excluded : Excluded compared left right) {mid : Fin n} (greater : compared mid = .gt) :
    Excluded compared left mid := by
  refine ⟨excluded.small, ?_⟩
  intro i behind
  exact ordered.great mid i (Fin.le_def.mpr behind) greater

/-- Where nothing is found, nothing was left in the window. -/
theorem loop_error (ordered : Ordered compared) {fuel left right k : ℕ} {inside : right ≤ n}
    (enough : right ≤ left + fuel) (window : left ≤ right)
    (excluded : Excluded compared left right)
    (missing : loop compared fuel left right inside = .error k) :
    k ≤ n ∧ Excluded compared k k := by
  -- Induction on the fuel, which is at least the width of the window: half of it is excluded by
  -- one comparison.
  induction fuel generalizing left right with
  | zero =>
    obtain rfl := Except.error.inj missing
    have closed : right = left := by omega
    rw [closed] at excluded inside
    exact ⟨inside, excluded⟩
  | succ fuel ih =>
    rw [loop] at missing
    split at missing
    next remaining =>
      dsimp only at missing
      split at missing
      next less =>
        apply ih _ _ (excluded.below ordered less) missing
        all_goals dsimp only; omega
      next greater =>
        apply ih _ _ (excluded.above ordered greater) missing
        all_goals dsimp only; omega
      next => cases missing
    next closed =>
      obtain rfl := Except.error.inj missing
      have closed : right = left := by omega
      rw [closed] at excluded inside
      exact ⟨inside, excluded⟩

theorem search_ok {i : Fin n} (found : search compared = .ok i) : compared i = .eq :=
  loop_ok found

/-- Where nothing is found in ordered entries, the index splits them into smaller and greater. -/
theorem search_error (ordered : Ordered compared) {k : ℕ}
    (missing : search compared = .error k) : k ≤ n ∧ Excluded compared k k :=
  loop_error ordered (by omega) (Nat.zero_le n) ⟨fun i before => absurd before i.val.not_lt_zero,
    fun i behind => absurd i.isLt (Nat.not_lt.mpr behind)⟩ missing

/-- In ordered entries of which at most one compares as equal, that one is found. -/
theorem search_eq_ok_iff (ordered : Ordered compared)
    (unique : ∀ i j, compared i = .eq → compared j = .eq → i = j) (i : Fin n) :
    search compared = .ok i ↔ compared i = .eq := by
  constructor
  · exact search_ok
  · intro equal
    cases result : search compared with
    | ok j => rw [unique i j equal (search_ok result)]
    | error k =>
      -- Every index is on one side of the split, and nothing there is equal.
      obtain ⟨_, excluded⟩ := search_error ordered result
      rcases Nat.lt_or_ge i k with before | behind
      · rw [excluded.small i before] at equal
        cases equal
      · rw [excluded.great i behind] at equal
        cases equal

/-! ## Searching by a key -/

section Key

variable {α : Type} [LinearOrder α] {key : Fin n → α} {sought : α}

theorem ordered_of_monotone (sorted : Monotone key) :
    Ordered fun i => compare (key i) sought := by
  constructor
  · intro i j le less
    rw [compare_lt_iff_lt] at less ⊢
    exact lt_of_le_of_lt (sorted le) less
  · intro i j le greater
    rw [compare_gt_iff_gt] at greater ⊢
    exact lt_of_lt_of_le greater (sorted le)

/-- Distinct keys in order are found where they are. -/
theorem search_key_iff (sorted : StrictMono key) (i : Fin n) :
    search (fun i => compare (key i) sought) = .ok i ↔ key i = sought := by
  rw [search_eq_ok_iff (ordered_of_monotone sorted.monotone), compare_eq_iff_eq]
  intro i j equal equal'
  rw [compare_eq_iff_eq] at equal equal'
  exact sorted.injective (equal.trans equal'.symm)

end Key

end BinarySearch
