import OptionClearing.Dispute.Exhibit
import OptionClearing.Proofs.Checksum.Separation
import OptionClearing.Proofs.Dispute.Agreement
import OptionClearing.Proofs.Settlement.Coherence

/-! What a report tells of a claim that parts from the honest output. -/

namespace OptionClearing

open Bytes

namespace Tampering

theorem ne_xor {mask : UInt8} (nonzero : mask ≠ 0) (byte : UInt8) : byte ≠ byte ^^^ mask := by
  intro same
  exact nonzero (xor_left_eq_self_iff.mp same.symm)

variable (bytes : Bytes)

theorem partAt_flip {position : Nat} {mask : UInt8} (within : position < bytes.length)
    (nonzero : mask ≠ 0) : PartAt bytes ((flip position mask).apply bytes) position where
  common := by
    rw [apply, List.modify_eq_take_drop, List.take_left' (List.length_take_of_le within.le)]
  apart := by
    have here : bytes[position]? = some bytes[position] := List.getElem?_eq_getElem within
    have there : ((flip position mask).apply bytes)[position]? = some (bytes[position] ^^^ mask) := by
      rw [apply, List.getElem?_modify_eq, here]
      rfl
    exact .inl ⟨bytes[position], bytes[position] ^^^ mask, here, there, ne_xor nonzero _⟩

theorem partAt_truncate {length : Nat} (shorter : length < bytes.length) :
    PartAt bytes ((truncate length).apply bytes) length where
  common := by rw [apply, List.take_take, Nat.min_self]
  apart := .inr (.inr ⟨List.length_take_of_le shorter.le, shorter⟩)

theorem partAt_append {suffix : Bytes} (added : suffix ≠ []) :
    PartAt bytes ((append suffix).apply bytes) bytes.length where
  common := by rw [apply, List.take_left, List.take_length]
  apart := by
    have longer : bytes.length < (bytes ++ suffix).length := by
      rw [List.length_append]
      exact Nat.lt_add_of_pos_right (List.length_pos_iff.mpr added)
    exact .inr (.inl ⟨rfl, longer⟩)

theorem hash64_flip_ne {position : Nat} {mask : UInt8} (within : position < bytes.length)
    (nonzero : mask ≠ 0) : Fnv.hash64 bytes ≠ Fnv.hash64 ((flip position mask).apply bytes) := by
  have whole : bytes = bytes.take position ++ [bytes[position]] ++ bytes.drop (position + 1) := by
    rw [List.take_append_getElem within, List.take_append_drop]
  have flipped : (flip position mask).apply bytes =
      bytes.take position ++ [bytes[position] ^^^ mask] ++ bytes.drop (position + 1) := by
    rw [apply, List.modify_eq_take_cons_drop within, List.append_assoc]
    rfl
  have differ : [bytes[position]] ≠ [bytes[position] ^^^ mask] := by
    intro same
    exact ne_xor nonzero _ (List.cons.inj same).1
  rw [flipped]
  nth_rewrite 1 [whole]
  -- the states part at the flipped byte, and no later step brings them together
  exact Fnv.separates_absorb64.foldl_ne_of_window _ _ _ _ _ rfl (Nat.le_succ 1) differ

end Tampering

namespace DisputeReport

/-- The report tells the two strings apart, and where. -/
structure Locates (report : DisputeReport) (honest claimed : Bytes) : Prop where
  expectedLength : report.expectedLength = honest.length
  claimedLength : report.claimedLength = claimed.length
  expectedFingerprint : report.expectedFingerprint = Fnv.hash64 honest
  claimedFingerprint : report.claimedFingerprint = Fnv.hash64 claimed
  agree_iff : report.verdict = .agree ↔ honest = claimed
  diverge_iff : ∀ position, report.verdict = .diverge position ↔
    honest ≠ claimed ∧ ∃ start, LongestCommonStart honest claimed start ∧ start.length = position
  parts : ∀ position, report.verdict = .diverge position → PartAt honest claimed position

theorem locates_compare (honest claimed : Bytes) :
    (compare honest claimed).Locates honest claimed where
  expectedLength := rfl
  claimedLength := rfl
  expectedFingerprint := rfl
  claimedFingerprint := rfl
  agree_iff := (compare_verdict_eq_agree_iff honest claimed).trans eq_comm
  diverge_iff position := by
    rw [compare_verdict_eq_diverge_iff, partAt_iff_longestCommonStart]
  parts position := (compare_verdict_eq_diverge_iff honest claimed position).mp

end DisputeReport

namespace Verifier

variable (verifier : Verifier) (family : RunFamily)

theorem verify_eq_compare (input claimed : Bytes) :
    verifier.verify family input claimed = .compare (verifier.honest family input) claimed := by
  cases family <;> rfl

/-- A report finds no fault in the output of an honest run. In any other claim it names the place
where the two part, and a byte flipped in the output shows in the fingerprints as well. -/
theorem report_names_fault (input buffer : Bytes) (room : family.width ≤ buffer.length) :
    let honest := verifier.runOutput input buffer family
    let report (claimed : Bytes) := verifier.verify family input claimed
    (∀ claimed, (report claimed).Locates honest claimed) ∧
    (∀ position mask, position < honest.length → mask ≠ 0 →
      let flipped := report ((Tampering.flip position mask).apply honest)
      flipped.verdict = .diverge position ∧
        flipped.expectedFingerprint ≠ flipped.claimedFingerprint) ∧
    (∀ length, length < honest.length →
      (report ((Tampering.truncate length).apply honest)).verdict = .diverge length) ∧
    (∀ suffix, suffix ≠ [] →
      (report ((Tampering.append suffix).apply honest)).verdict = .diverge honest.length) := by
  intro honest report
  have compared (claimed : Bytes) : report claimed = .compare honest claimed := by
    dsimp only [honest, report]
    rw [verifier.runOutput_eq_honest family input buffer room, verify_eq_compare]
  have named {claimed : Bytes} {position : Nat} (parts : PartAt honest claimed position) :
      (report claimed).verdict = .diverge position := by
    rw [compared]
    exact (DisputeReport.compare_verdict_eq_diverge_iff honest claimed position).mpr parts
  refine ⟨?located, ?flipped, ?truncated, ?appended⟩
  case located =>
    intro claimed
    rw [compared]
    exact DisputeReport.locates_compare honest claimed
  case flipped =>
    intro position mask within nonzero flipped
    refine ⟨named (Tampering.partAt_flip honest within nonzero), ?_⟩
    dsimp only [flipped]
    rw [compared]
    exact Tampering.hash64_flip_ne honest within nonzero
  case truncated =>
    intro length shorter
    exact named (Tampering.partAt_truncate honest shorter)
  case appended =>
    intro suffix added
    exact named (Tampering.partAt_append honest added)

theorem tampered_put_located :
    let input := Record.encode .little SettlementRules.deepPut
    let honest := standard.runOutput input (List.replicate 40 0xff) .settlement
    let nothing := standard.runOutput input (List.replicate 48 0xff) .purchase
    let report (tampering : Tampering) := standard.verify .settlement input (tampering.apply honest)
    (RunFamily.settlement.width ≤ (List.replicate 40 0xff : Bytes).length ∧ honest.length = 32) ∧
    ((report (.flip 8 0xff)).verdict = .diverge 8 ∧
      (report (.flip 8 0xff)).expectedFingerprint ≠ (report (.flip 8 0xff)).claimedFingerprint) ∧
    (report (.truncate 20)).verdict = .diverge 20 ∧
    (report (.append [0])).verdict = .diverge 32 ∧
    (standard.verify .purchase input ((Tampering.append [1]).apply nothing)).verdict =
      .diverge 0 := by
  intro input honest nothing report
  have room : RunFamily.settlement.width ≤ (List.replicate 40 0xff : Bytes).length := by decide
  have size : honest.length = 32 := by decide +kernel
  have empty : nothing.length = 0 := by decide +kernel
  obtain ⟨_, flipped, truncated, appended⟩ :=
    report_names_fault standard .settlement input (List.replicate 40 0xff) room
  obtain ⟨_, _, _, invented⟩ :=
    report_names_fault standard .purchase input (List.replicate 48 0xff) (by decide)
  refine ⟨⟨room, size⟩, flipped 8 0xff (by rw [size]; decide) (by decide),
    truncated 20 (by rw [size]; decide), ?_, ?_⟩
  · rw [← size]
    exact appended [0] (by decide)
  · rw [← empty]
    exact invented [1] (by decide)

end Verifier

end OptionClearing
