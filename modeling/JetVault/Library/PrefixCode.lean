import Mathlib.Data.List.Basic

/-!
# Prefix codes

A list of tags none of which starts another. Whatever follows them, two tagged words are equal
only if their tags are.
-/
namespace PrefixCode

variable {α : Type}

def PrefixFree (tags : List (List α)) : Prop :=
  ∀ tag ∈ tags, ∀ tag' ∈ tags, tag <+: tag' → tag = tag'

instance [DecidableEq α] (tags : List (List α)) : Decidable (PrefixFree tags) :=
  inferInstanceAs (Decidable (∀ tag ∈ tags, ∀ tag' ∈ tags, tag <+: tag' → tag = tag'))

theorem PrefixFree.tag_eq {tags : List (List α)} (free : PrefixFree tags)
    {tag tag' rest rest' : List α} (member : tag ∈ tags) (member' : tag' ∈ tags)
    (same : tag ++ rest = tag' ++ rest') : tag = tag' := by
  have front : tag <+: tag' ++ rest' := ⟨rest, same⟩
  rcases List.prefix_or_prefix_of_prefix front (List.prefix_append tag' rest') with le | le
  · exact free tag member tag' member' le
  · exact (free tag' member' tag member le).symm

/-- The rests are equal too. -/
theorem PrefixFree.rest_eq {tags : List (List α)} (free : PrefixFree tags)
    {tag tag' rest rest' : List α} (member : tag ∈ tags) (member' : tag' ∈ tags)
    (same : tag ++ rest = tag' ++ rest') : rest = rest' := by
  rw [free.tag_eq member member' same] at same
  exact List.append_cancel_left same

end PrefixCode
