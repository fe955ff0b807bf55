import OptionClearing.Dispute.Exhibit

/-!
Where two byte strings part. There is one such place for any two different strings, the first
mismatch finds it, and what stands before it is the longest start that the two share.
-/

namespace OptionClearing

namespace Bytes

/-- Up to `position` the two strings are one. There a byte of one stands against another byte, or
one string ends and the other does not. -/
structure PartAt (first second : Bytes) (position : Nat) : Prop where
  common : first.take position = second.take position
  apart : (∃ byte other, first[position]? = some byte ∧ second[position]? = some other ∧
      byte ≠ other) ∨
    (first.length = position ∧ position < second.length) ∨
    (second.length = position ∧ position < first.length)

structure LongestCommonStart (first second start : Bytes) : Prop where
  startsFirst : start <+: first
  startsSecond : start <+: second
  longest : ∀ other, other <+: first → other <+: second → other.length ≤ start.length

section PartAt

variable {first second : Bytes} {position : Nat}

theorem partAt_of_heads {byte other : UInt8} (differ : byte ≠ other) (first second : Bytes) :
    PartAt (byte :: first) (other :: second) 0 :=
  ⟨rfl, .inl ⟨byte, other, rfl, rfl, differ⟩⟩

theorem PartAt.cons (parts : PartAt first second position) (byte : UInt8) :
    PartAt (byte :: first) (byte :: second) (position + 1) where
  common := by rw [List.take_succ_cons, List.take_succ_cons, parts.common]
  apart := by
    simp only [List.getElem?_cons_succ, List.length_cons, Nat.add_right_cancel_iff,
      Nat.add_lt_add_iff_right]
    exact parts.apart

variable (parts : PartAt first second position)

include parts

theorem PartAt.getElem?_ne : first[position]? ≠ second[position]? := by
  rcases parts.apart with ⟨byte, other, here, there, differ⟩ | ⟨ends, runs⟩ | ⟨ends, runs⟩
  · rw [here, there]
    exact mt Option.some.inj differ
  · rw [List.getElem?_eq_none (Nat.le_of_eq ends), List.getElem?_eq_getElem runs]
    exact (Option.some_ne_none _).symm
  · rw [List.getElem?_eq_none (Nat.le_of_eq ends), List.getElem?_eq_getElem runs]
    exact Option.some_ne_none _

theorem PartAt.le_length : position ≤ first.length := by
  rcases parts.apart with ⟨byte, other, here, _⟩ | ⟨ends, _⟩ | ⟨_, runs⟩
  · obtain ⟨within, _⟩ := List.getElem?_eq_some_iff.mp here
    exact Nat.le_of_lt within
  · exact Nat.le_of_eq ends.symm
  · exact Nat.le_of_lt runs

theorem PartAt.take_eq_iff (count : Nat) :
    first.take count = second.take count ↔ count ≤ position := by
  constructor
  · intro common
    apply Nat.le_of_not_lt
    intro beyond
    apply parts.getElem?_ne
    rw [← List.getElem?_take_of_lt beyond, common, List.getElem?_take_of_lt beyond]
  · intro within
    have front := congrArg (List.take count) parts.common
    rw [List.take_take, List.take_take, Nat.min_eq_left within] at front
    exact front

theorem PartAt.ne : first ≠ second := by
  intro same
  apply parts.getElem?_ne
  rw [same]

theorem PartAt.unique {other : Nat} (others : PartAt first second other) : position = other :=
  Nat.le_antisymm ((others.take_eq_iff position).mp parts.common)
    ((parts.take_eq_iff other).mp others.common)

theorem PartAt.longestCommonStart : LongestCommonStart first second (first.take position) where
  startsFirst := List.take_prefix _ _
  startsSecond := by
    rw [parts.common]
    exact List.take_prefix _ _
  longest other startsFirst startsSecond := by
    have shared : first.take other.length = second.take other.length := by
      rw [← List.prefix_iff_eq_take.mp startsFirst, ← List.prefix_iff_eq_take.mp startsSecond]
    rw [List.length_take_of_le parts.le_length]
    exact (parts.take_eq_iff other.length).mp shared

theorem PartAt.length_of_longestCommonStart {start : Bytes}
    (longest : LongestCommonStart first second start) : start.length = position := by
  have found := parts.longestCommonStart
  have front : (first.take position).length = position := List.length_take_of_le parts.le_length
  have below := found.longest start longest.startsFirst longest.startsSecond
  have above := longest.longest _ found.startsFirst found.startsSecond
  omega

end PartAt

end Bytes

open Bytes

section FirstMismatch

variable {expected claimed : Bytes} {position : Nat}

theorem firstMismatch_eq_none_iff (expected claimed : Bytes) :
    firstMismatch expected claimed = none ↔ expected = claimed := by
  induction expected generalizing claimed with
  | nil => cases claimed <;> simp [firstMismatch]
  | cons byte rest ih =>
      cases claimed with
      | nil => simp [firstMismatch]
      | cons other others =>
          by_cases same : byte = other
          · simp [firstMismatch, same, ih]
          · simp [firstMismatch, same]

theorem partAt_of_firstMismatch (found : firstMismatch expected claimed = some position) :
    PartAt expected claimed position := by
  -- Equal heads put the place one byte further on.
  induction expected generalizing claimed position with
  | nil =>
      cases claimed with
      | nil => cases found
      | cons other others =>
          cases found
          exact ⟨rfl, .inr (.inl ⟨rfl, Nat.succ_pos _⟩)⟩
  | cons byte rest ih =>
      cases claimed with
      | nil =>
          cases found
          exact ⟨rfl, .inr (.inr ⟨rfl, Nat.succ_pos _⟩)⟩
      | cons other others =>
          by_cases same : byte = other
          · simp only [firstMismatch, if_pos same, Option.map_eq_some_iff] at found
            obtain ⟨next, later, rfl⟩ := found
            rw [same]
            exact (ih later).cons other
          · simp only [firstMismatch, if_neg same, Option.some.injEq] at found
            rw [← found]
            exact partAt_of_heads same rest others

theorem firstMismatch_eq_some_iff :
    firstMismatch expected claimed = some position ↔ PartAt expected claimed position := by
  constructor
  · exact partAt_of_firstMismatch
  · intro parts
    cases found : firstMismatch expected claimed with
    | none => exact absurd ((firstMismatch_eq_none_iff expected claimed).mp found) parts.ne
    | some first => rw [(partAt_of_firstMismatch found).unique parts]

theorem exists_partAt (differ : expected ≠ claimed) :
    ∃ position, PartAt expected claimed position := by
  cases found : firstMismatch expected claimed with
  | none => exact absurd ((firstMismatch_eq_none_iff expected claimed).mp found) differ
  | some position => exact ⟨position, partAt_of_firstMismatch found⟩

theorem Bytes.partAt_iff_longestCommonStart :
    PartAt expected claimed position ↔ expected ≠ claimed ∧
      ∃ start, LongestCommonStart expected claimed start ∧ start.length = position := by
  constructor
  · intro parts
    exact ⟨parts.ne, _, parts.longestCommonStart, List.length_take_of_le parts.le_length⟩
  · rintro ⟨differ, start, longest, rfl⟩
    obtain ⟨first, parts⟩ := exists_partAt differ
    rw [parts.length_of_longestCommonStart longest]
    exact parts

end FirstMismatch

namespace DisputeReport

variable {expected claimed : Bytes}

theorem compare_verdict_eq_agree_iff (expected claimed : Bytes) :
    (compare expected claimed).verdict = .agree ↔ claimed = expected := by
  rw [eq_comm (a := claimed), ← firstMismatch_eq_none_iff]
  cases mismatch : firstMismatch expected claimed <;> simp [compare, mismatch]

theorem compare_verdict_eq_diverge_iff (expected claimed : Bytes) (position : Nat) :
    (compare expected claimed).verdict = .diverge position ↔
      PartAt expected claimed position := by
  rw [← firstMismatch_eq_some_iff]
  cases mismatch : firstMismatch expected claimed <;> simp [compare, mismatch]

theorem compare_diverges_within (count : Nat)
    (differ : expected.take count ≠ claimed.take count) :
    ∃ position, position < count ∧ (compare expected claimed).verdict = .diverge position := by
  obtain ⟨position, parts⟩ := exists_partAt (mt (congrArg (List.take count)) differ)
  refine ⟨position, ?_, (compare_verdict_eq_diverge_iff _ _ _).mpr parts⟩
  exact Nat.lt_of_not_le (mt (parts.take_eq_iff count).mpr differ)

theorem compare_diverges_beyond (count : Nat)
    (common : expected.take count = claimed.take count) (differ : claimed ≠ expected) :
    ∃ position, count ≤ position ∧ (compare expected claimed).verdict = .diverge position := by
  obtain ⟨position, parts⟩ := exists_partAt differ.symm
  exact ⟨position, (parts.take_eq_iff count).mp common,
    (compare_verdict_eq_diverge_iff _ _ _).mpr parts⟩

end DisputeReport

end OptionClearing
