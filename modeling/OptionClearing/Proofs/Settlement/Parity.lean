import OptionClearing.Proofs.Settlement.Sides

/-!
Calls against puts: a kind and its opposite exchange the price to gain by and the price to lose by.
-/

namespace OptionClearing

namespace OptionKind

def opposite : OptionKind → OptionKind
  | call => put
  | put => call
  | binaryCall => binaryPut
  | binaryPut => binaryCall

section Opposite

variable (kind : OptionKind) (strike spot : Nat)

theorem isBinary_opposite : kind.opposite.isBinary = kind.isBinary := by
  cases kind <;> rfl

theorem gainSide_opposite : kind.opposite.gainSide strike spot = kind.lossSide strike spot := by
  cases kind <;> rfl

theorem lossSide_opposite : kind.opposite.lossSide strike spot = kind.gainSide strike spot := by
  cases kind <;> rfl

theorem gainSide_exchanged : kind.opposite.gainSide spot strike = kind.gainSide strike spot := by
  cases kind <;> rfl

theorem lossSide_exchanged : kind.opposite.lossSide spot strike = kind.lossSide strike spot := by
  cases kind <;> rfl

theorem worth_opposite (gain loss quantity : Nat) :
    kind.opposite.worth gain loss quantity = kind.worth gain loss quantity := by
  rw [worth, worth, isBinary_opposite]

end Opposite

section Payoff

variable (strike spot quantity : Nat)

theorem payoff_call_of_le (below : spot ≤ strike) : call.payoff strike spot quantity = 0 := by
  rw [payoff, Nat.sub_eq_zero_of_le below, Nat.zero_mul]

theorem payoff_put_of_le (above : strike ≤ spot) : put.payoff strike spot quantity = 0 := by
  rw [payoff, Nat.sub_eq_zero_of_le above, Nat.zero_mul]

theorem tdiv_of_le {low high : Nat} (order : low ≤ high) :
    (((high : Int) - low) * quantity).tdiv 100 = ((high - low) * quantity / 100 : Nat) := by
  rw [← Int.ofNat_sub order, ← Int.natCast_mul]
  rfl

theorem payoff_call_sub_put :
    (call.payoff strike spot quantity : Int) - put.payoff strike spot quantity =
      (((spot : Int) - strike) * quantity).tdiv 100 := by
  rcases Nat.le_total strike spot with above | below
  · rw [payoff_put_of_le strike spot quantity above, tdiv_of_le quantity above]
    exact Int.sub_zero _
  · have turned : ((spot : Int) - strike) * quantity = -(((strike : Int) - spot) * quantity) := by
      rw [← Int.neg_mul, Int.neg_sub]
    rw [payoff_call_of_le strike spot quantity below, turned, Int.neg_tdiv,
      tdiv_of_le quantity below]
    exact Int.zero_sub _

theorem payoff_call_or_put :
    call.payoff strike spot quantity = 0 ∨ put.payoff strike spot quantity = 0 := by
  rcases Nat.le_total strike spot with above | below
  · exact .inr (payoff_put_of_le strike spot quantity above)
  · exact .inl (payoff_call_of_le strike spot quantity below)

theorem payoff_binaryCall_add_binaryPut :
    binaryCall.payoff strike spot quantity + binaryPut.payoff strike spot quantity =
      (if spot = strike then 200 else 100) * quantity := by
  rw [payoff, payoff]
  rcases Nat.lt_trichotomy spot strike with below | met | above
  · rw [if_neg (Nat.not_le.mpr below), if_pos (Nat.le_of_lt below), if_neg (Nat.ne_of_lt below)]
    exact Nat.zero_add _
  · rw [if_pos (Nat.le_of_eq met.symm), if_pos (Nat.le_of_eq met), if_pos met]
    omega
  · rw [if_pos (Nat.le_of_lt above), if_neg (Nat.not_le.mpr above), if_neg (Nat.ne_of_gt above)]
    exact Nat.add_zero _

end Payoff

end OptionKind

namespace Contract

def ofKind (contract : Contract) (kind : OptionKind) : Contract := { contract with kind }

def mirrored (contract : Contract) : Contract :=
  { contract with
    kind := contract.kind.opposite
    strike := contract.spot
    spot := contract.strike }

end Contract

namespace SettlementRules

variable (rules : SettlementRules) (contract : Contract)

def Unbarred : Prop := rules.barrierEnabled = false ∨ contract.barrier = 0

section Unbarred

variable {rules contract}

theorem Unbarred.standing (unbarred : rules.Unbarred contract) : ¬ rules.KnocksOut contract := by
  rintro ⟨enabled, barred, _⟩
  rcases unbarred with disabled | free
  · rw [disabled] at enabled
    contradiction
  · rw [free] at barred
    contradiction

theorem Unbarred.settled (unbarred : rules.Unbarred contract) (kind : OptionKind) :
    rules.Settled (contract.ofKind kind) (rules.settle (contract.ofKind kind)) :=
  rules.settled_settle _ (standing unbarred)

theorem Unbarred.inTheMoney_opposite_iff (unbarred : rules.Unbarred contract) (kind : OptionKind) :
    (rules.settle (contract.ofKind kind)).moneyness = .inTheMoney ↔
      (rules.settle (contract.ofKind kind.opposite)).moneyness = .outOfTheMoney := by
  rw [(unbarred.settled kind).inTheMoney_iff, (unbarred.settled kind.opposite).outOfTheMoney_iff]
  have gain := kind.gainSide_opposite contract.strike.toNat contract.spot.toNat
  have loss := kind.lossSide_opposite contract.strike.toNat contract.spot.toNat
  simp only [Contract.gainSide, Contract.lossSide, Contract.ofKind, gain, loss]

theorem Unbarred.settle_mirrored (unbarred : rules.Unbarred contract) :
    (rules.settle contract.mirrored).payout = (rules.settle contract).payout ∧
      (rules.settle contract.mirrored).moneyness = (rules.settle contract).moneyness := by
  have account := rules.settled_settle contract unbarred.standing
  have mirrored := rules.settled_settle contract.mirrored (standing unbarred)
  have gain : contract.mirrored.gainSide = contract.gainSide :=
    contract.kind.gainSide_exchanged contract.strike.toNat contract.spot.toNat
  have loss : contract.mirrored.lossSide = contract.lossSide :=
    contract.kind.lossSide_exchanged contract.strike.toNat contract.spot.toNat
  constructor
  · apply UInt64.toNat_inj.mp
    rw [mirrored.payout_eq_worth, account.payout_eq_worth, gain, loss]
    exact contract.kind.worth_opposite _ _ _
  · rw [mirrored.moneyness_eq_band, account.moneyness_eq_band, gain, loss]

end Unbarred

/-- One of the two is void at every spot price, since their sides of the barrier leave no gap. -/
theorem barrierHit_callLike_or_putLike (enabled : rules.barrierEnabled = true)
    (barred : contract.barrier ≠ 0) (callLike putLike : OptionKind)
    (rising : callLike.isCallLike = true) (falling : putLike.isCallLike = false) :
    let voided (kind : OptionKind) := (rules.settle (contract.ofKind kind)).barrierHit = true
    (voided callLike ∨ voided putLike) ∧
      (voided callLike ∧ voided putLike ↔ contract.spot = contract.barrier) := by
  intro voided
  have nonzero : contract.barrier.toNat ≠ 0 := fun zero => barred (UInt32.toNat_inj.mp zero)
  have above : voided callLike ↔ contract.barrier.toNat ≤ contract.spot.toNat := by
    dsimp only [voided]
    rw [barrierHit_settle_iff, rules.knocksOut_iff_of_callLike (contract.ofKind callLike) rising,
      and_iff_right enabled]
    exact and_iff_right nonzero
  have below : voided putLike ↔ contract.spot.toNat ≤ contract.barrier.toNat := by
    dsimp only [voided]
    rw [barrierHit_settle_iff, rules.knocksOut_iff_of_putLike (contract.ofKind putLike) falling,
      and_iff_right enabled]
    exact and_iff_right nonzero
  rw [above, below, ← UInt32.toNat_inj]
  omega

/-- A call pays more than a put by the difference of the prices, cut off towards zero, and opposite
kinds are settled alike when the prices are exchanged. A barrier voids one of a call-like and a
put-like contract, and both where the spot price stands on it. -/
theorem put_call_parity :
    (rules.Unbarred contract →
      let settled (kind : OptionKind) := rules.settle (contract.ofKind kind)
      (((settled .call).payout.toNat : Int) - (settled .put).payout.toNat =
          (((contract.spot.toNat : Int) - contract.strike.toNat) *
            contract.quantity.toNat).tdiv 100 ∧
        ((settled .call).payout = 0 ∨ (settled .put).payout = 0)) ∧
      (settled .binaryCall).payout.toNat + (settled .binaryPut).payout.toNat =
        (if contract.spot = contract.strike then 200 else 100) * contract.quantity.toNat ∧
      (∀ kind, (settled kind).moneyness = .inTheMoney ↔
        (settled kind.opposite).moneyness = .outOfTheMoney) ∧
      (∀ kind, (rules.settle (contract.ofKind kind).mirrored).payout = (settled kind).payout ∧
        (rules.settle (contract.ofKind kind).mirrored).moneyness = (settled kind).moneyness)) ∧
    (rules.barrierEnabled = true → contract.barrier ≠ 0 → ∀ callLike putLike : OptionKind,
      callLike.isCallLike = true → putLike.isCallLike = false →
      let voided (kind : OptionKind) := (rules.settle (contract.ofKind kind)).barrierHit = true
      (voided callLike ∨ voided putLike) ∧
        (voided callLike ∧ voided putLike ↔ contract.spot = contract.barrier)) := by
  refine ⟨?unbarred, rules.barrierHit_callLike_or_putLike contract⟩
  case unbarred =>
    intro unbarred settled
    have payout (kind : OptionKind) : (settled kind).payout.toNat = kind.payoff
        contract.strike.toNat contract.spot.toNat contract.quantity.toNat :=
      (unbarred.settled kind).payout
    refine ⟨⟨?difference, ?single⟩, ?binary, unbarred.inTheMoney_opposite_iff, ?mirrored⟩
    case difference =>
      rw [payout .call, payout .put]
      exact OptionKind.payoff_call_sub_put _ _ _
    case single =>
      rw [← UInt64.toNat_inj, ← UInt64.toNat_inj, payout .call, payout .put]
      exact OptionKind.payoff_call_or_put _ _ _
    case binary =>
      simp only [payout .binaryCall, payout .binaryPut, ← UInt32.toNat_inj]
      exact OptionKind.payoff_binaryCall_add_binaryPut _ _ _
    case mirrored =>
      intro kind
      exact Unbarred.settle_mirrored (show rules.Unbarred (contract.ofKind kind) from unbarred)

def oddLot : Contract := ⟨.call, 10000, 9850, 33, 0, .european, 0, 2500⟩

theorem oddLot_parity :
    let settled (kind : OptionKind) := standard.settle (oddLot.ofKind kind)
    let voided (barrier : UInt32) (kind : OptionKind) :=
      (standard.settle (Contract.ofKind { oddLot with barrier } kind)).barrierHit = true
    standard.Unbarred oddLot ∧
    ((settled .call).payout.toNat : Int) - (settled .put).payout.toNat = -49 ∧
    (settled .binaryCall).payout.toNat + (settled .binaryPut).payout.toNat = 3300 ∧
    ((settled .put).moneyness = .inTheMoney ∧ (settled .call).moneyness = .outOfTheMoney) ∧
    (standard.settle (oddLot.ofKind .put).mirrored).payout = (settled .put).payout ∧
    (voided 9850 .call ∧ voided 9850 .put) ∧
    (voided 10000 .call ∨ voided 10000 .put) ∧ ¬ (voided 10000 .call ∧ voided 10000 .put) := by
  intro settled voided
  have unbarred : standard.Unbarred oddLot := .inr rfl
  have inside : (settled .put).moneyness = .inTheMoney := by decide
  obtain ⟨⟨difference, _⟩, binary, opposed, mirrored⟩ :=
    (put_call_parity standard oddLot).1 unbarred
  have atSpot := (put_call_parity standard { oddLot with barrier := 9850 }).2 rfl (by decide)
    .call .put rfl rfl
  have atStrike := (put_call_parity standard { oddLot with barrier := 10000 }).2 rfl (by decide)
    .call .put rfl rfl
  refine ⟨unbarred, difference.trans (by decide), binary, ⟨inside, (opposed .put).mp inside⟩,
    (mirrored .put).1, atSpot.2.mpr rfl, atStrike.1, ?_⟩
  exact mt atStrike.2.mp (by decide)

end SettlementRules

end OptionClearing
