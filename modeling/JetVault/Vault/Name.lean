import JetVault.Vault.State
import Mathlib.Data.List.DropRight

/-!
# Vault names

A name is stored over twenty spaces, and every later seed is derived from the stored bytes with
the whitespace at both ends taken off.
-/
namespace JetVault

/-- The name copied over twenty spaces; a longer name is a slice index out of range. -/
def padName (vaultName : List UInt8) : Except Failure (Vector UInt8 20) :=
  if fits : vaultName.length ≤ 20 then
    .ok ⟨(vaultName ++ List.replicate (20 - vaultName.length) 0x20).toArray, by simp; omega⟩
  else .error .abort

def isAsciiWhitespace (byte : UInt8) : Bool :=
  byte == 0x20 || byte == 0x09 || byte == 0x0A || byte == 0x0C || byte == 0x0D

/-- `Iterator::position` -/
def position (found : UInt8 → Bool) (bytes : List UInt8) : Option ℕ :=
  bytes.findIdx? found

/-- `Iterator::rposition`: the index, from the front, of the last byte found. -/
def rposition (found : UInt8 → Bool) (bytes : List UInt8) : Option ℕ :=
  (position found bytes.reverse).map fun i => bytes.length - 1 - i

/-- `&bytes[start..=stop]` -/
def slice (bytes : List UInt8) (start stop : ℕ) : Except Failure (List UInt8) :=
  if start ≤ stop + 1 ∧ stop < bytes.length then .ok ((bytes.take (stop + 1)).drop start)
  else .error .abort

/-- Trim ascii whitespace from the start and end of a slice. -/
def strip (bytes : List UInt8) : Except Failure (List UInt8) :=
  match position (fun byte => !isAsciiWhitespace byte) bytes with
  | none => .ok []
  | some start =>
    match rposition (fun byte => !isAsciiWhitespace byte) bytes with
    | none => .error .abort
    | some stop => slice bytes start stop

/-! ## What is stripped -/

/-- No whitespace at either end. -/
def Trimmed (name : List UInt8) : Prop :=
  (∀ byte ∈ name.head?, isAsciiWhitespace byte = false) ∧
    ∀ byte ∈ name.getLast?, isAsciiWhitespace byte = false

instance (name : List UInt8) : Decidable (Trimmed name) :=
  @instDecidableAnd _ _ (Option.decidableForallMem _) (Option.decidableForallMem _)

/-- Whitespace in front of what is found only moves the position. -/
theorem position_append {blank : List UInt8} (white : ∀ byte ∈ blank, isAsciiWhitespace byte)
    {byte : UInt8} (found : isAsciiWhitespace byte = false) (rest : List UInt8) :
    position (fun byte => !isAsciiWhitespace byte) (blank ++ byte :: rest) =
      some blank.length := by
  have none : blank.findIdx? (fun byte => !isAsciiWhitespace byte) = none := by
    simpa [List.findIdx?_eq_none_iff] using white
  simp [position, List.findIdx?_append, none, List.findIdx?_cons, found]

/-- Whitespace around a trimmed name is what `strip` takes off. -/
theorem strip_append {before name after : List UInt8}
    (white : ∀ byte ∈ before, isAsciiWhitespace byte) (trimmed : Trimmed name)
    (white' : ∀ byte ∈ after, isAsciiWhitespace byte) :
    strip (before ++ name ++ after) = .ok name := by
  unfold strip
  rcases List.eq_nil_or_concat name with rfl | ⟨initial, last, ends⟩
  · have none : position (fun byte => !isAsciiWhitespace byte) (before ++ [] ++ after) = none := by
      simpa [position, List.findIdx?_eq_none_iff, or_imp, forall_and] using ⟨white, white'⟩
    rw [none]
  · obtain ⟨start, stop⟩ := trimmed
    have front : position (fun byte => !isAsciiWhitespace byte) (before ++ name ++ after) =
        some before.length := by
      cases name with
      | nil => simp at ends
      | cons first rest =>
        rw [List.append_assoc]
        exact position_append white (start first rfl) _
    -- From the back, the last byte of the name is the first one found.
    have reversed : (before ++ name ++ after).reverse =
        after.reverse ++ last :: (initial.reverse ++ before.reverse) := by
      simp [ends]
    have back : rposition (fun byte => !isAsciiWhitespace byte) (before ++ name ++ after) =
        some (before.length + initial.length) := by
      have found := stop last (by simp [ends])
      rw [rposition, reversed, position_append (by simpa using white') found, Option.map_some,
        List.length_reverse]
      simp [ends]
      omega
    have kept : before.length + initial.length + 1 = (before ++ name).length := by
      simp [ends]
      omega
    simp only [front, back, slice, kept, List.take_left, List.drop_left]
    rw [if_pos (by simp [ends])]

/-- `strip` never aborts: it takes whitespace off both ends, and leaves none there. -/
theorem strip_spec (bytes : List UInt8) :
    ∃ before name after, bytes = before ++ name ++ after ∧
      (∀ byte ∈ before, isAsciiWhitespace byte) ∧ Trimmed name ∧
      (∀ byte ∈ after, isAsciiWhitespace byte) ∧ strip bytes = .ok name := by
  have split : bytes = bytes.takeWhile isAsciiWhitespace ++
      (bytes.dropWhile isAsciiWhitespace).rdropWhile isAsciiWhitespace ++
      (bytes.dropWhile isAsciiWhitespace).rtakeWhile isAsciiWhitespace := by
    rw [List.append_assoc, List.rdropWhile_append_rtakeWhile, List.takeWhile_append_dropWhile]
  have white : ∀ byte ∈ bytes.takeWhile isAsciiWhitespace, isAsciiWhitespace byte :=
    fun byte member => List.mem_takeWhile_imp member
  have white' : ∀ byte ∈ (bytes.dropWhile isAsciiWhitespace).rtakeWhile isAsciiWhitespace,
      isAsciiWhitespace byte :=
    fun byte member => List.mem_rtakeWhile_imp member
  have trimmed : Trimmed ((bytes.dropWhile isAsciiWhitespace).rdropWhile isAsciiWhitespace) := by
    constructor
    · intro byte first
      have rest := congrArg List.head? (List.rdropWhile_append_rtakeWhile
        (p := isAsciiWhitespace) (l := bytes.dropWhile isAsciiWhitespace))
      have stops := List.head?_dropWhile_not isAsciiWhitespace bytes
      rw [List.head?_append, Option.mem_def.mp first, Option.some_or] at rest
      rw [← rest] at stops
      exact stops
    · intro byte last
      obtain ⟨nonempty, rfl⟩ := List.mem_getLast?_eq_getLast last
      simpa using List.rdropWhile_last_not isAsciiWhitespace _ nonempty
  refine ⟨_, _, _, split, white, trimmed, white', ?_⟩
  conv => lhs; rw [split]
  exact strip_append white trimmed white'

/-- A name is what `strip` gives back from its stored copy exactly when it is trimmed. -/
theorem strip_padName_iff {name : List UInt8} {stored : Vector UInt8 20}
    (returned : padName name = .ok stored) : strip stored.toList = .ok name ↔ Trimmed name := by
  have copy : stored.toList = [] ++ name ++ List.replicate (20 - name.length) 0x20 := by
    unfold padName at returned
    split at returned
    next fits =>
      cases returned
      simp [Vector.toList]
    next => cases returned
  constructor
  · intro stripped
    obtain ⟨_, name', _, _, _, trimmed, _, stripped'⟩ := strip_spec stored.toList
    rw [stripped] at stripped'
    cases stripped'
    exact trimmed
  · intro trimmed
    rw [copy]
    apply strip_append (by simp) trimmed
    intro byte blank
    rw [List.eq_of_mem_replicate blank]
    rfl

theorem exists_padName {name : List UInt8} (fits : name.length ≤ 20) :
    ∃ stored, padName name = .ok stored :=
  ⟨_, dif_pos fits⟩

/-- A name comes back from its stored copy exactly when it is trimmed, and trimming takes only
whitespace off any bytes, and all of it. -/
theorem stored_name_read_back :
    (∀ name : List UInt8, name.length ≤ 20 → ∃ stored, padName name = .ok stored ∧
        (strip stored.toList = .ok name ↔ Trimmed name)) ∧
      ∀ bytes : List UInt8, ∃ before name after, strip bytes = .ok name ∧
        bytes = before ++ name ++ after ∧ (∀ byte ∈ before, isAsciiWhitespace byte) ∧
        (∀ byte ∈ after, isAsciiWhitespace byte) ∧ Trimmed name := by
  constructor
  · intro name fits
    obtain ⟨stored, padded⟩ := exists_padName fits
    exact ⟨stored, padded, strip_padName_iff padded⟩
  · intro bytes
    obtain ⟨before, name, after, split, white, trimmed, white', stripped⟩ := strip_spec bytes
    exact ⟨before, name, after, stripped, split, white, white', trimmed⟩

end JetVault
