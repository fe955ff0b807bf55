import Mathlib.Algebra.GroupWithZero.Nat
import OptionClearing.Proofs.Settlement.Accounting
import OptionClearing.Proofs.Settlement.Sides

/-!
Positions that are split into parts. No branch of the settlement looks at the quantity, and
truncation takes less than a hundredth from each part.
-/

namespace OptionClearing

structure Outcome.SameCourse (first second : Outcome) : Prop where
  moneyness : first.moneyness = second.moneyness
  barrierHit : first.barrierHit = second.barrierHit
  earlyExercised : first.earlyExercised = second.earlyExercised

def Contract.ofQuantity (contract : Contract) (quantity : UInt32) : Contract :=
  { contract with quantity }

namespace OptionKind

variable (kind : OptionKind) (gain loss : Nat)

theorem worth_add_of_isBinary (binary : kind.isBinary = true) (first second : Nat) :
    kind.worth gain loss (first + second) =
      kind.worth gain loss first + kind.worth gain loss second := by
  simp only [kind.worth_of_isBinary _ binary]
  split
  · exact Nat.mul_add 100 first second
  · rfl

theorem worth_add (first second : Nat) :
    kind.worth gain loss first + kind.worth gain loss second ≤
        kind.worth gain loss (first + second) ∧
      kind.worth gain loss (first + second) ≤
        kind.worth gain loss first + kind.worth gain loss second + 1 := by
  by_cases binary : kind.isBinary = true
  · have exact := kind.worth_add_of_isBinary gain loss binary first second
    omega
  · simp only [kind.worth_of_not_isBinary _ binary, Nat.mul_add]
    omega

theorem worth_zero : kind.worth gain loss 0 = 0 := by
  have twice := (kind.worth_add gain loss 0 0).1
  rw [Nat.add_zero] at twice
  omega

theorem worth_sum (parts : List Nat) :
    (parts.map (kind.worth gain loss)).sum ≤ kind.worth gain loss parts.sum ∧
      kind.worth gain loss parts.sum ≤
        (parts.map (kind.worth gain loss)).sum + (parts.length - 1) := by
  induction parts with
  | nil => simp [kind.worth_zero gain loss]
  | cons part rest ih =>
      cases rest with
      | nil => simp
      | cons next others =>
          -- one more cut, between the first part and all others
          have cut := kind.worth_add gain loss part (next :: others).sum
          rw [List.map_cons, List.sum_cons, List.sum_cons, List.length_cons]
          rw [List.length_cons] at ih ⊢
          omega

end OptionKind

namespace SettlementRules

variable (rules : SettlementRules) (contract : Contract)

theorem sameCourse_ofQuantity (first second : UInt32) :
    (rules.settle (contract.ofQuantity first)).SameCourse
      (rules.settle (contract.ofQuantity second)) := by
  refine ⟨?moneyness, ?barrierHit, ?earlyExercised⟩
  case moneyness =>
    by_cases hit : rules.KnocksOut contract
    · rw [rules.settle_of_knocksOut (contract.ofQuantity first) hit,
        rules.settle_of_knocksOut (contract.ofQuantity second) hit]
    · rw [(rules.settled_settle (contract.ofQuantity first) hit).moneyness_eq_band,
        (rules.settled_settle (contract.ofQuantity second) hit).moneyness_eq_band]
      rfl
  case barrierHit =>
    rw [Bool.eq_iff_iff, barrierHit_settle_iff, barrierHit_settle_iff]
    exact Iff.rfl
  case earlyExercised =>
    rw [Bool.eq_iff_iff, earlyExercised_settle_iff, earlyExercised_settle_iff]
    exact Iff.rfl

theorem payout_ofQuantity_of_knocksOut (hit : rules.KnocksOut contract) (quantity : UInt32) :
    (rules.settle (contract.ofQuantity quantity)).payout.toNat = 0 := by
  rw [rules.settle_of_knocksOut (contract.ofQuantity quantity) hit]
  rfl

theorem payout_ofQuantity (standing : ¬ rules.KnocksOut contract) (quantity : UInt32) :
    (rules.settle (contract.ofQuantity quantity)).payout.toNat =
      contract.kind.worth contract.gainSide contract.lossSide quantity.toNat :=
  (rules.settled_settle (contract.ofQuantity quantity) standing).payout_eq_worth

section Pair

variable {first second whole : UInt32} (joined : whole.toNat = first.toNat + second.toNat)
include joined

theorem payout_ofQuantity_add :
    let payout (quantity : UInt32) := (rules.settle (contract.ofQuantity quantity)).payout.toNat
    payout first + payout second ≤ payout whole ∧
      payout whole ≤ payout first + payout second + 1 := by
  intro payout
  by_cases hit : rules.KnocksOut contract
  · simp only [payout, rules.payout_ofQuantity_of_knocksOut contract hit]
    decide
  · simp only [payout, rules.payout_ofQuantity contract hit, joined]
    exact contract.kind.worth_add _ _ _ _

theorem payout_ofQuantity_add_of_isBinary (binary : contract.kind.isBinary = true) :
    (rules.settle (contract.ofQuantity whole)).payout.toNat =
      (rules.settle (contract.ofQuantity first)).payout.toNat +
        (rules.settle (contract.ofQuantity second)).payout.toNat := by
  by_cases hit : rules.KnocksOut contract
  · simp only [rules.payout_ofQuantity_of_knocksOut contract hit]
  · simp only [rules.payout_ofQuantity contract hit, joined]
    exact contract.kind.worth_add_of_isBinary _ _ binary _ _

theorem premiumDue_ofQuantity_add (moderate : rules.premiumBasisPoints.toNat ≤ 500000) :
    let premium (quantity : UInt32) := rules.premiumDue (contract.ofQuantity quantity)
    premium first + premium second ≤ premium whole ∧
      premium whole ≤ premium first + premium second + 1 := by
  intro premium
  have exact (quantity : UInt32) : premium quantity =
      contract.strike.toNat * quantity.toNat * rules.premiumBasisPoints.toNat / 10 ^ 6 :=
    rules.premiumDue_of_moderate (contract.ofQuantity quantity) moderate
  rw [exact first, exact second, exact whole, joined, Nat.mul_add, Nat.add_mul]
  omega

/-- Payout and premium are each off by one at most, and in the same direction. -/
theorem signedPnl_ofQuantity_add (moderate : rules.premiumBasisPoints.toNat ≤ 500000) :
    let pnl (quantity : UInt32) := (rules.settle (contract.ofQuantity quantity)).signedPnl
    (pnl whole - (pnl first + pnl second)).natAbs ≤ 1 := by
  intro pnl
  by_cases idle : rules.KnocksOut contract ∨ rules.EarlyDue contract
  · have nothing (quantity : UInt32) : pnl quantity = 0 :=
      rules.signedPnl_settle_of_idle (contract.ofQuantity quantity) idle
    rw [nothing first, nothing second, nothing whole]
    decide
  · obtain ⟨standing, waits⟩ := not_or.mp idle
    have balance (quantity : UInt32) := rules.payout_eq_of_moderate (contract.ofQuantity quantity)
      moderate (terminal_settle_iff.mpr ⟨standing, waits⟩)
    have payout := rules.payout_ofQuantity_add contract joined
    have premium := rules.premiumDue_ofQuantity_add contract joined moderate
    have partBalance := balance first
    have restBalance := balance second
    have wholeBalance := balance whole
    dsimp only [pnl] at payout premium ⊢
    omega

end Pair

theorem payout_ofQuantity_sum (parts : List UInt32) (whole : UInt32)
    (joined : whole.toNat = (parts.map UInt32.toNat).sum) :
    let payout (quantity : UInt32) := (rules.settle (contract.ofQuantity quantity)).payout.toNat
    (parts.map payout).sum ≤ payout whole ∧
      payout whole ≤ (parts.map payout).sum + (parts.length - 1) := by
  intro payout
  by_cases hit : rules.KnocksOut contract
  · have nothing : payout = fun _ => 0 :=
      funext (rules.payout_ofQuantity_of_knocksOut contract hit)
    have none : (parts.map payout).sum = 0 := by
      rw [nothing, List.map_const', List.sum_replicate_nat, Nat.mul_zero]
    rw [none, nothing]
    exact ⟨Nat.le_refl 0, Nat.zero_le _⟩
  · have worth : payout =
        contract.kind.worth contract.gainSide contract.lossSide ∘ UInt32.toNat :=
      funext (rules.payout_ofQuantity contract hit)
    have sum := contract.kind.worth_sum contract.gainSide contract.lossSide
      (parts.map UInt32.toNat)
    rw [List.map_map, List.length_map, ← joined] at sum
    rw [worth]
    exact sum

/-- Two parts pay what the whole pays or a hundredth less, and binary options lose nothing; any
number of parts lose at most a hundredth a cut. -/
theorem splitting_never_gains :
    (∀ first second whole : UInt32, whole.toNat = first.toNat + second.toNat →
      let part := rules.settle (contract.ofQuantity first)
      let rest := rules.settle (contract.ofQuantity second)
      let joint := rules.settle (contract.ofQuantity whole)
      part.SameCourse joint ∧ rest.SameCourse joint ∧
      (part.payout.toNat + rest.payout.toNat ≤ joint.payout.toNat ∧
        joint.payout.toNat ≤ part.payout.toNat + rest.payout.toNat + 1) ∧
      (contract.kind.isBinary = true →
        joint.payout.toNat = part.payout.toNat + rest.payout.toNat) ∧
      (rules.premiumBasisPoints.toNat ≤ 500000 →
        (joint.signedPnl - (part.signedPnl + rest.signedPnl)).natAbs ≤ 1)) ∧
    (∀ (parts : List UInt32) (whole : UInt32), whole.toNat = (parts.map UInt32.toNat).sum →
      let payout (quantity : UInt32) := (rules.settle (contract.ofQuantity quantity)).payout.toNat
      (parts.map payout).sum ≤ payout whole ∧
        payout whole ≤ (parts.map payout).sum + (parts.length - 1)) := by
  refine ⟨?pair, ?parts⟩
  case pair =>
    intro first second whole joined
    exact ⟨rules.sameCourse_ofQuantity contract first whole,
      rules.sameCourse_ofQuantity contract second whole,
      rules.payout_ofQuantity_add contract joined,
      rules.payout_ofQuantity_add_of_isBinary contract joined,
      rules.signedPnl_ofQuantity_add contract joined⟩
  case parts =>
    intro parts whole joined
    exact rules.payout_ofQuantity_sum contract parts whole joined

def oddCall : Contract := ⟨.call, 10000, 10150, 0, 0, .european, 0, 2500⟩

theorem oddCall_split :
    let call (quantity : UInt32) := standard.settle (oddCall.ofQuantity quantity)
    let binary (quantity : UInt32) :=
      standard.settle (Contract.ofQuantity { oddCall with kind := .binaryCall } quantity)
    ((call 33).payout.toNat = 49 ∧ (call 66).payout.toNat = 99 ∧
      (call 33).SameCourse (call 66) ∧
      (call 66).payout.toNat ≤ (call 33).payout.toNat + (call 33).payout.toNat + 1 ∧
      ((call 66).signedPnl - ((call 33).signedPnl + (call 33).signedPnl)).natAbs ≤ 1) ∧
    (binary 66).payout.toNat = (binary 33).payout.toNat + (binary 33).payout.toNat ∧
    (call 99).payout.toNat ≤ ([33, 33, 33].map fun lot => (call lot).payout.toNat).sum + 2 := by
  intro call binary
  obtain ⟨pair, parts⟩ := splitting_never_gains standard oddCall
  obtain ⟨course, _, payout, _, pnl⟩ := pair 33 33 66 (by decide)
  obtain ⟨binaryPair, _⟩ := splitting_never_gains standard { oddCall with kind := .binaryCall }
  obtain ⟨_, _, _, additive, _⟩ := binaryPair 33 33 66 (by decide)
  refine ⟨⟨by decide, by decide, course, payout.2, pnl (by decide)⟩, additive rfl, ?_⟩
  exact (parts [33, 33, 33] 99 (by decide)).2

end SettlementRules

end OptionClearing
