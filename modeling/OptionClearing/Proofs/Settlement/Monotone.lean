import OptionClearing.Proofs.Settlement.Accounting
import OptionClearing.Proofs.Settlement.Sides

/-!
Settlement follows the prices: as the spot price rises or the strike falls, a call-like contract
gets better for its holder and a put-like one worse.
-/

namespace OptionClearing

/-- The second outcome pays the holder at least as much, in no lower a band. -/
structure Outcome.NoBetter (first second : Outcome) : Prop where
  payout : first.payout ≤ second.payout
  moneyness : first.moneyness.rank ≤ second.moneyness.rank

namespace Contract

def atSpot (contract : Contract) (spot : UInt32) : Contract := { contract with spot }

def atStrike (contract : Contract) (strike : UInt32) : Contract := { contract with strike }

/-- The same position, with no less to gain by and no more to lose by. -/
structure Improves (worse better : Contract) : Prop where
  kind : better.kind = worse.kind
  quantity : better.quantity = worse.quantity
  gain_le : worse.gainSide ≤ better.gainSide
  loss_le : better.lossSide ≤ worse.lossSide

variable {worse better : Contract}

theorem Improves.payoff_le (improves : worse.Improves better) : worse.payoff ≤ better.payoff := by
  have monotone := worse.kind.worth_mono worse.quantity.toNat improves.gain_le improves.loss_le
  rw [payoff, payoff, OptionKind.payoff_eq_worth, OptionKind.payoff_eq_worth, improves.kind,
    improves.quantity]
  rw [gainSide, gainSide, lossSide, lossSide, improves.kind] at monotone
  exact monotone

theorem improves_of_callLike (callLike : worse.kind.isCallLike = true)
    (kind : better.kind = worse.kind) (quantity : better.quantity = worse.quantity)
    (strike : better.strike ≤ worse.strike) (spot : worse.spot ≤ better.spot) :
    worse.Improves better := by
  have betterCallLike : better.kind.isCallLike = true := kind ▸ callLike
  refine ⟨kind, quantity, ?_, ?_⟩
  · rw [worse.gainSide_of_callLike callLike, better.gainSide_of_callLike betterCallLike]
    exact UInt32.le_iff_toNat_le.mp spot
  · rw [worse.lossSide_of_callLike callLike, better.lossSide_of_callLike betterCallLike]
    exact UInt32.le_iff_toNat_le.mp strike

theorem improves_of_putLike (putLike : worse.kind.isCallLike = false)
    (kind : better.kind = worse.kind) (quantity : better.quantity = worse.quantity)
    (strike : worse.strike ≤ better.strike) (spot : better.spot ≤ worse.spot) :
    worse.Improves better := by
  have betterPutLike : better.kind.isCallLike = false := kind ▸ putLike
  refine ⟨kind, quantity, ?_, ?_⟩
  · rw [worse.gainSide_of_putLike putLike, better.gainSide_of_putLike betterPutLike]
    exact UInt32.le_iff_toNat_le.mp strike
  · rw [worse.lossSide_of_putLike putLike, better.lossSide_of_putLike betterPutLike]
    exact UInt32.le_iff_toNat_le.mp spot

end Contract

namespace SettlementRules

section Pair

variable (rules : SettlementRules) {worse better : Contract}

theorem noBetter_settle (improves : worse.Improves better) (standing : ¬ rules.KnocksOut worse)
    (betterStanding : ¬ rules.KnocksOut better) :
    (rules.settle worse).NoBetter (rules.settle better) := by
  have account := rules.settled_settle worse standing
  have betterAccount := rules.settled_settle better betterStanding
  constructor
  case payout =>
    rw [UInt64.le_iff_toNat_le, account.payout, betterAccount.payout]
    exact improves.payoff_le
  case moneyness =>
    rw [account.moneyness_eq_band, betterAccount.moneyness_eq_band]
    exact Moneyness.rank_band_mono _ improves.gain_le improves.loss_le

theorem signedPnl_settle_le (improves : worse.Improves better)
    (premium : rules.premiumDue better = rules.premiumDue worse)
    (terminal : (rules.settle worse).Terminal) (betterTerminal : (rules.settle better).Terminal) :
    (rules.settle worse).signedPnl ≤ (rules.settle better).signedPnl := by
  obtain ⟨account, waits⟩ := settled_of_terminal terminal
  obtain ⟨betterAccount, betterWaits⟩ := settled_of_terminal betterTerminal
  have payoff := improves.payoff_le
  rw [account.signedPnl_eq waits, betterAccount.signedPnl_eq betterWaits, premium]
  omega

theorem EarlyDue.of_improves (due : rules.EarlyDue worse) (improves : worse.Improves better)
    (exercise : better.exercise = worse.exercise)
    (timeToExpiry : better.timeToExpiry = worse.timeToExpiry) : rules.EarlyDue better := by
  obtain ⟨enabled, put, american, unexpired, deep⟩ := due
  have putAgain : better.kind = .put := improves.kind.trans put
  have putLike : worse.kind.isCallLike = false := by rw [put]; rfl
  have betterPutLike : better.kind.isCallLike = false := by rw [putAgain]; rfl
  have strike := improves.gain_le
  have spot := improves.loss_le
  rw [worse.gainSide_of_putLike putLike, better.gainSide_of_putLike betterPutLike] at strike
  rw [worse.lossSide_of_putLike putLike, better.lossSide_of_putLike betterPutLike] at spot
  refine ⟨enabled, putAgain, exercise.trans american, timeToExpiry ▸ unexpired, ?_⟩
  calc
    rules.earlyExercisePercent.toNat * better.spot.toNat
      ≤ rules.earlyExercisePercent.toNat * worse.spot.toNat := Nat.mul_le_mul_left _ spot
    _ < 100 * worse.strike.toNat := deep
    _ ≤ 100 * better.strike.toNat := Nat.mul_le_mul_left _ strike

end Pair

section Price

variable (rules : SettlementRules) (contract : Contract) {low high : UInt32}

theorem knocksOut_atSpot_of_callLike (callLike : contract.kind.isCallLike = true)
    (order : low ≤ high) (hit : rules.KnocksOut (contract.atSpot low)) :
    rules.KnocksOut (contract.atSpot high) := by
  obtain ⟨enabled, barred, reached⟩ :=
    (rules.knocksOut_iff_of_callLike (contract.atSpot low) callLike).mp hit
  apply (rules.knocksOut_iff_of_callLike (contract.atSpot high) callLike).mpr
  exact ⟨enabled, barred, Nat.le_trans reached (UInt32.le_iff_toNat_le.mp order)⟩

theorem knocksOut_atSpot_of_putLike (putLike : contract.kind.isCallLike = false)
    (order : low ≤ high) (hit : rules.KnocksOut (contract.atSpot high)) :
    rules.KnocksOut (contract.atSpot low) := by
  obtain ⟨enabled, barred, reached⟩ :=
    (rules.knocksOut_iff_of_putLike (contract.atSpot high) putLike).mp hit
  apply (rules.knocksOut_iff_of_putLike (contract.atSpot low) putLike).mpr
  exact ⟨enabled, barred, Nat.le_trans (UInt32.le_iff_toNat_le.mp order) reached⟩

theorem settle_atSpot_of_callLike (callLike : contract.kind.isCallLike = true)
    (order : low ≤ high) :
    let below := rules.settle (contract.atSpot low)
    let above := rules.settle (contract.atSpot high)
    (below.barrierHit = true → above.barrierHit = true) ∧
      (below.barrierHit = false → above.barrierHit = false →
        below.NoBetter above ∧ below.signedPnl ≤ above.signedPnl) := by
  intro below above
  have improves : (contract.atSpot low).Improves (contract.atSpot high) :=
    Contract.improves_of_callLike callLike rfl rfl (UInt32.le_refl _) order
  constructor
  · intro hit
    rw [barrierHit_settle_iff] at hit ⊢
    exact rules.knocksOut_atSpot_of_callLike contract callLike order hit
  · intro standing aboveStanding
    rw [standing_settle_iff] at standing aboveStanding
    have terminal (spot : UInt32) (standing : ¬ rules.KnocksOut (contract.atSpot spot)) :
        (rules.settle (contract.atSpot spot)).Terminal :=
      terminal_settle_iff.mpr ⟨standing, rules.not_earlyDue_of_callLike _ callLike⟩
    exact ⟨rules.noBetter_settle improves standing aboveStanding,
      rules.signedPnl_settle_le improves rfl (terminal low standing) (terminal high aboveStanding)⟩

theorem settle_atSpot_of_putLike (putLike : contract.kind.isCallLike = false)
    (order : low ≤ high) :
    let below := rules.settle (contract.atSpot low)
    let above := rules.settle (contract.atSpot high)
    (above.barrierHit = true → below.barrierHit = true) ∧
      (below.barrierHit = false → above.barrierHit = false →
        above.NoBetter below ∧
        (above.earlyExercised = true → below.earlyExercised = true) ∧
        (below.earlyExercised = false → above.earlyExercised = false →
          above.signedPnl ≤ below.signedPnl)) := by
  intro below above
  have improves : (contract.atSpot high).Improves (contract.atSpot low) :=
    Contract.improves_of_putLike putLike rfl rfl (UInt32.le_refl _) order
  constructor
  · intro hit
    rw [barrierHit_settle_iff] at hit ⊢
    exact rules.knocksOut_atSpot_of_putLike contract putLike order hit
  · intro standing aboveStanding
    have notHit := (rules.standing_settle_iff _).mp standing
    have aboveNotHit := (rules.standing_settle_iff _).mp aboveStanding
    refine ⟨rules.noBetter_settle improves aboveNotHit notHit, ?early, ?pnl⟩
    case early =>
      intro exercised
      rw [earlyExercised_settle_iff] at exercised ⊢
      exact ⟨notHit, exercised.2.of_improves rules improves rfl rfl⟩
    case pnl =>
      intro held aboveHeld
      exact rules.signedPnl_settle_le improves rfl ⟨aboveStanding, aboveHeld⟩ ⟨standing, held⟩

theorem settle_atStrike (order : low ≤ high) :
    let below := rules.settle (contract.atStrike low)
    let above := rules.settle (contract.atStrike high)
    below.barrierHit = above.barrierHit ∧
      (below.barrierHit = false →
        (contract.kind.isCallLike = true → above.NoBetter below) ∧
        (contract.kind.isCallLike = false → below.NoBetter above)) ∧
      (below.earlyExercised = true → above.earlyExercised = true) := by
  intro below above
  -- no barrier is compared with a strike
  have same : rules.KnocksOut (contract.atStrike low) ↔ rules.KnocksOut (contract.atStrike high) :=
    Iff.rfl
  have falls (callLike : contract.kind.isCallLike = true) :
      (contract.atStrike high).Improves (contract.atStrike low) :=
    Contract.improves_of_callLike callLike rfl rfl order (UInt32.le_refl _)
  have rises (putLike : contract.kind.isCallLike = false) :
      (contract.atStrike low).Improves (contract.atStrike high) :=
    Contract.improves_of_putLike putLike rfl rfl order (UInt32.le_refl _)
  refine ⟨?barrier, ?standing, ?early⟩
  case barrier =>
    rw [Bool.eq_iff_iff, barrierHit_settle_iff, barrierHit_settle_iff]
    exact same
  case standing =>
    intro standing
    rw [standing_settle_iff] at standing
    have aboveStanding := mt same.mpr standing
    exact ⟨fun callLike => rules.noBetter_settle (falls callLike) aboveStanding standing,
      fun putLike => rules.noBetter_settle (rises putLike) standing aboveStanding⟩
  case early =>
    intro exercised
    rw [earlyExercised_settle_iff] at exercised ⊢
    obtain ⟨standing, due⟩ := exercised
    have put : contract.kind = .put := due.2.1
    have putLike : contract.kind.isCallLike = false := by rw [put]; rfl
    exact ⟨mt same.mpr standing, due.of_improves rules (rises putLike) rfl rfl⟩

/-- Between two contracts that differ in the spot price alone, and between two that differ in the
strike alone, every part of the settlement moves one way. -/
theorem settle_follows_prices :
    (∀ low high : UInt32, low ≤ high →
      let below := rules.settle (contract.atSpot low)
      let above := rules.settle (contract.atSpot high)
      (contract.kind.isCallLike = true →
        (below.barrierHit = true → above.barrierHit = true) ∧
        (below.barrierHit = false → above.barrierHit = false →
          below.NoBetter above ∧ below.signedPnl ≤ above.signedPnl)) ∧
      (contract.kind.isCallLike = false →
        (above.barrierHit = true → below.barrierHit = true) ∧
        (below.barrierHit = false → above.barrierHit = false →
          above.NoBetter below ∧
          (above.earlyExercised = true → below.earlyExercised = true) ∧
          (below.earlyExercised = false → above.earlyExercised = false →
            above.signedPnl ≤ below.signedPnl)))) ∧
    (∀ low high : UInt32, low ≤ high →
      let below := rules.settle (contract.atStrike low)
      let above := rules.settle (contract.atStrike high)
      below.barrierHit = above.barrierHit ∧
      (below.barrierHit = false →
        (contract.kind.isCallLike = true → above.NoBetter below) ∧
        (contract.kind.isCallLike = false → below.NoBetter above)) ∧
      (below.earlyExercised = true → above.earlyExercised = true)) := by
  refine ⟨?spot, ?strike⟩
  case spot =>
    intro low high order
    exact ⟨fun callLike => rules.settle_atSpot_of_callLike contract callLike order,
      fun putLike => rules.settle_atSpot_of_putLike contract putLike order⟩
  case strike =>
    intro low high order
    exact rules.settle_atStrike contract order

end Price

def barredCall : Contract := ⟨.call, 10000, 10950, 100, 13000, .european, 0, 2500⟩

theorem barredCall_and_deepPut_follow :
    let call (spot : UInt32) := standard.settle (barredCall.atSpot spot)
    let put (spot : UInt32) := standard.settle (deepPut.atSpot spot)
    let held (spot : UInt32) :=
      standard.settle (Contract.atSpot { deepPut with exercise := .european } spot)
    ((call 13000).barrierHit = true ∧ (call 13500).barrierHit = true) ∧
    ((call 9950).NoBetter (call 10950) ∧ (call 9950).signedPnl ≤ (call 10950).signedPnl) ∧
    ((put 10000).earlyExercised = true ∧ (put 9500).earlyExercised = true ∧
      (put 10000).NoBetter (put 9500)) ∧
    (held 10000).signedPnl ≤ (held 9500).signedPnl ∧
    (standard.settle (barredCall.atStrike 10500)).NoBetter
      (standard.settle (barredCall.atStrike 10000)) ∧
    (standard.settle (deepPut.atStrike 12500)).earlyExercised = true := by
  intro call put held
  obtain ⟨callSpot, callStrike⟩ := settle_follows_prices standard barredCall
  obtain ⟨putSpot, putStrike⟩ := settle_follows_prices standard deepPut
  obtain ⟨heldSpot, _⟩ := settle_follows_prices standard { deepPut with exercise := .european }
  have barred : (call 13000).barrierHit = true := by decide
  have exercised : (put 10000).earlyExercised = true := by decide
  have callRises := ((callSpot 9950 10950 (by decide)).1 rfl).2 (by decide) (by decide)
  obtain ⟨putFalls, putEarly, _⟩ :=
    ((putSpot 9500 10000 (by decide)).2 rfl).2 (by decide) (by decide)
  obtain ⟨_, _, heldFalls⟩ := ((heldSpot 9500 10000 (by decide)).2 rfl).2 (by decide) (by decide)
  refine ⟨⟨barred, ?_⟩, callRises, ⟨exercised, putEarly exercised, putFalls⟩, ?_, ?_, ?_⟩
  · exact ((callSpot 13000 13500 (by decide)).1 rfl).1 barred
  · exact heldFalls (by decide) (by decide)
  · exact ((callStrike 10000 10500 (by decide)).2.1 (by decide)).1 rfl
  · exact (putStrike 12000 12500 (by decide)).2.2 (by decide)

end SettlementRules

end OptionClearing
