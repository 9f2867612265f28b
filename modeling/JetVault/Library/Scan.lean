import Mathlib.Order.Lattice
import Mathlib.Data.List.Induction

/-!
# Scanning for the smallest entry

A loop that looks for the smallest entry of a list remembers an index and the value to beat. Here
the value to beat stays that of the first entry, so that the loop ends at the last entry that
improves on the first, and not at the smallest one.
-/
namespace Scan

variable {α : Type} [LinearOrder α]

/-- The index of the last entry below `bound`, or 0. -/
def lastBelow (bound : α) (entries : List α) : ℕ :=
  entries.zipIdx.foldl (fun found entry => if entry.1 < bound then entry.2 else found) 0

/-- An entry at `i` is not above any other. -/
def SmallestAt (entries : List α) (i : ℕ) : Prop :=
  ∃ entry, entries[i]? = some entry ∧ ∀ other ∈ entries, entry ≤ other

/-- Below the first entry. -/
def Improves (entries : List α) (entry : α) : Prop :=
  ∃ first, entries.head? = some first ∧ entry < first

/-- The last entry below the first one, or the first where there is none. -/
structure LastImproving (entries : List α) (i : ℕ) : Prop where
  improves : i = 0 ∨ ∃ entry, entries[i]? = some entry ∧ Improves entries entry
  last : ∀ (j : ℕ) (entry : α), i < j → entries[j]? = some entry → ¬ Improves entries entry

/-- Every entry below the first one is smallest, or is followed by another below the first. -/
def Settles (entries : List α) : Prop :=
  ∀ (i : ℕ) (entry : α), entries[i]? = some entry → Improves entries entry →
    (∀ other ∈ entries, entry ≤ other) ∨
      ∃ (j : ℕ) (later : α), i < j ∧ entries[j]? = some later ∧ Improves entries later

theorem lastBelow_append (bound : α) (entries : List α) (entry : α) :
    lastBelow bound (entries ++ [entry]) =
      if entry < bound then entries.length else lastBelow bound entries := by
  simp [lastBelow, List.zipIdx_append]

/-- What the loop knows after each entry. -/
theorem lastBelow_spec (bound : α) (entries : List α) :
    (lastBelow bound entries = 0 ∨
        ∃ entry, entries[lastBelow bound entries]? = some entry ∧ entry < bound) ∧
      ∀ (j : ℕ) (entry : α), lastBelow bound entries < j → entries[j]? = some entry →
        ¬ entry < bound := by
  induction entries using List.reverseRecOn with
  | nil => simp [lastBelow]
  | append_singleton entries entry ih =>
    rw [lastBelow_append]
    split
    next below =>
      refine ⟨.inr ⟨entry, by simp, below⟩, ?_⟩
      intro j later after found
      have inside := (List.getElem?_eq_some_iff.mp found).1
      rw [List.length_append, List.length_singleton] at inside
      omega
    next above =>
      constructor
      · apply ih.1.imp_right
        rintro ⟨earlier, found, below⟩
        have inside := (List.getElem?_eq_some_iff.mp found).1
        exact ⟨earlier, by rw [List.getElem?_append_left inside, found], below⟩
      · intro j later after found
        rcases Nat.lt_or_ge j entries.length with inside | outside
        · rw [List.getElem?_append_left inside] at found
          exact ih.2 j later after found
        · rw [List.getElem?_append_right outside, List.getElem?_singleton] at found
          split at found
          · cases found
            exact above
          · cases found

variable {entries : List α}

theorem lastBelow_lastImproving {first : α} (head : entries.head? = some first) :
    LastImproving entries (lastBelow first entries) := by
  have improves : ∀ entry, Improves entries entry ↔ entry < first := by
    intro entry
    simp [Improves, head]
  obtain ⟨found, rest⟩ := lastBelow_spec first entries
  constructor
  · simpa only [improves] using found
  · simpa only [improves] using rest

theorem SmallestAt.lt_length {i : ℕ} (smallest : SmallestAt entries i) : i < entries.length := by
  obtain ⟨_, found, _⟩ := smallest
  exact (List.getElem?_eq_some_iff.mp found).1

theorem LastImproving.lt_length {i : ℕ} (last : LastImproving entries i)
    (nonempty : entries ≠ []) : i < entries.length := by
  rcases last.improves with rfl | ⟨_, found, _⟩
  · exact List.length_pos_iff.mpr nonempty
  · exact (List.getElem?_eq_some_iff.mp found).1

theorem LastImproving.unique {i j : ℕ} (left : LastImproving entries i)
    (right : LastImproving entries j) : i = j := by
  have ordered : ∀ {i j : ℕ}, LastImproving entries i → LastImproving entries j → ¬ i < j := by
    intro i j first second less
    rcases second.improves with zero | ⟨entry, found, improves⟩
    · omega
    · exact first.last j entry less found improves
  have up := ordered left right
  have down := ordered right left
  omega

/-- The last entry that improves on the first is smallest exactly when the entries settle. -/
theorem LastImproving.smallestAt_iff {i : ℕ} (last : LastImproving entries i)
    (nonempty : entries ≠ []) : SmallestAt entries i ↔ Settles entries := by
  constructor
  · rintro ⟨smallest, found, least⟩ j entry at_j improves
    rcases Nat.lt_trichotomy i j with after | rfl | before
    · exact absurd improves (last.last j entry after at_j)
    · left
      rw [found] at at_j
      cases at_j
      exact least
    · right
      rcases last.improves with rfl | ⟨later, at_i, improves'⟩
      · omega
      · exact ⟨i, later, before, at_i, improves'⟩
  · intro settles
    rcases last.improves with rfl | ⟨entry, found, improves⟩
    · -- Nothing is below the first entry.
      obtain ⟨first, rest, rfl⟩ := List.exists_cons_of_ne_nil nonempty
      refine ⟨first, rfl, ?_⟩
      intro other member
      obtain ⟨j, found⟩ := List.getElem?_of_mem member
      rcases Nat.eq_zero_or_pos j with rfl | positive
      · cases found
        exact le_rfl
      · have above := last.last j other positive found
        exact not_lt.mp fun below => above ⟨first, rfl, below⟩
    · rcases settles i entry found improves with least | ⟨j, later, after, at_j, improves'⟩
      · exact ⟨entry, found, least⟩
      · exact absurd improves' (last.last j later after at_j)

end Scan
