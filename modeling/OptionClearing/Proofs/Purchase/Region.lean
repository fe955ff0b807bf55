import OptionClearing.Proofs.Purchase.Narrowing

/-! Which requests are accepted, as premium, pool and prices move. -/

namespace OptionClearing

namespace PurchaseRequest

def offered (request : PurchaseRequest) (premium poolBalance : UInt64) : PurchaseRequest :=
  { request with premium, poolBalance }

def repriced (request : PurchaseRequest) (strike spot : UInt64) : PurchaseRequest :=
  { request with strike, spot }

end PurchaseRequest

namespace PutBound

variable (mode : PutBound) {strike lower quantity spot higher : Nat}

theorem owed_of_narrow (priced : spot ≠ 0) (strikeFits : strike < 2 ^ 32)
    (spotFits : spot < 2 ^ 32) :
    narrowed.owed strike quantity spot = strike * (quantity % 2 ^ 32) / spot := by
  rw [owed, Nat.mod_eq_of_lt strikeFits, Nat.mod_eq_of_lt spotFits, if_neg priced]

/-- A truncated quotient falls with its dividend and as its divisor rises; where low halves are
taken, they have to be the prices themselves. -/
theorem owed_le_owed (priced : spot ≠ 0) (falls : lower ≤ strike) (rises : spot ≤ higher)
    (comparable : mode = .fullWidth ∨ strike < 2 ^ 32 ∧ higher < 2 ^ 32) :
    mode.owed lower quantity higher ≤ mode.owed strike quantity spot := by
  cases mode with
  | fullWidth => exact Nat.div_le_div (Nat.mul_le_mul_right quantity falls) rises priced
  | narrowed =>
      obtain ⟨strikeFits, spotFits⟩ := comparable.resolve_left (by simp)
      rw [owed_of_narrow priced strikeFits (by omega),
        owed_of_narrow (by omega) (by omega) spotFits]
      exact Nat.div_le_div (Nat.mul_le_mul_right _ falls) rises priced

end PutBound

namespace PurchaseRules

variable (rules : PurchaseRules) (request : PurchaseRequest)

theorem maxPayout_offered_eq_ok_iff (premium pool bound : UInt64) :
    rules.maxPayout (request.offered premium pool) = .ok bound ↔
      (rules.Sells request ∧ rules.Affordable request premium.toNat ∧
        rules.owed request ≤ pool.toNat) ∧ bound.toNat = rules.owed request := by
  rw [maxPayout_eq_ok_iff, clear_iff]
  exact Iff.rfl

theorem Sells.repriced {rules : PurchaseRules} {request : PurchaseRequest}
    (sells : rules.Sells request) (put : request.kindCode = 1) {strike spot : UInt64}
    (falls : strike ≤ request.strike) (rises : request.spot ≤ spot) :
    rules.Sells (request.repriced strike spot) := by
  rcases sells with ⟨known, priced, fits⟩
  have lower : strike.toNat ≤ request.strike.toNat := UInt64.le_iff_toNat_le.mp falls
  have higher : request.spot.toNat ≤ spot.toNat := UInt64.le_iff_toNat_le.mp rises
  refine ⟨known, ?_, ?_⟩
  · rintro ⟨_, free⟩
    exact priced ⟨put, Nat.eq_zero_of_le_zero (Nat.le_trans higher (Nat.le_of_eq free))⟩
  · rintro ⟨_, full, wide⟩
    apply fits
    refine ⟨put, full, ?_⟩
    calc
      2 ^ 64 * request.spot.toNat ≤ 2 ^ 64 * spot.toNat := Nat.mul_le_mul_left _ higher
      _ ≤ strike.toNat * request.quantity.toNat := wide
      _ ≤ request.strike.toNat * request.quantity.toNat := Nat.mul_le_mul_right _ lower

theorem owed_repriced_le (put : request.kindCode = 1) (priced : request.spot.toNat ≠ 0)
    {strike spot : UInt64} (falls : strike ≤ request.strike) (rises : request.spot ≤ spot)
    (comparable : rules.putBound = .fullWidth ∨
      request.strike.toNat < 2 ^ 32 ∧ spot.toNat < 2 ^ 32) :
    rules.owed (request.repriced strike spot) ≤ rules.owed request := by
  have repricedPut : (request.repriced strike spot).kindCode = 1 := put
  rw [owed, owed, if_pos put, if_pos repricedPut]
  exact rules.putBound.owed_le_owed priced (UInt64.le_iff_toNat_le.mp falls)
    (UInt64.le_iff_toNat_le.mp rises) comparable

end PurchaseRules

namespace Validator

variable (validator : Validator) (request : PurchaseRequest)

/-- The accepted pairs of premium and pool are a rectangle without an upper end, and all records in
it say the same. -/
structure AcceptsFrom (least : UInt64) : Prop where
  accepted_iff : ∀ premium pool,
    (∃ record, validator.validate (request.offered premium pool) = .ok record) ↔
      (1 ≤ premium.toNat ∧ premium.toNat ≤
        request.quantity.toNat / max validator.rules.maxPremiumDivisor.toNat 1) ∧ least ≤ pool
  maxPayout : ∀ premium pool record,
    validator.validate (request.offered premium pool) = .ok record → record.maxPayout = least
  purchaseId : ∀ premium pool record,
    validator.validate (request.offered premium pool) = .ok record →
      record.purchaseId = request.purchaseId

theorem validate_eq_ok_iff (record : PurchaseRecord) :
    validator.validate request = .ok record ↔
      ∃ bound, validator.rules.maxPayout request = .ok bound ∧
        record = ⟨request.purchaseId, validator.hasher (Record.encode validator.order request),
          bound⟩ :=
  validator.record_eq_ok_iff request _ record

theorem acceptsFrom_of_sells (sells : validator.rules.Sells request) {least : UInt64}
    (exactly : least.toNat = validator.rules.owed request) :
    validator.AcceptsFrom request least where
  accepted_iff premium pool := by
    simp only [validate_eq_ok_iff, PurchaseRules.maxPayout_offered_eq_ok_iff,
      UInt64.le_iff_toNat_le, exactly]
    constructor
    · rintro ⟨_, _, ⟨⟨_, affordable, solvent⟩, _⟩, _⟩
      exact ⟨affordable, solvent⟩
    · rintro ⟨affordable, solvent⟩
      exact ⟨_, least, ⟨⟨sells, affordable, solvent⟩, exactly⟩, rfl⟩
  maxPayout premium pool record accepted := by
    obtain ⟨bound, payout, rfl⟩ := (validator.validate_eq_ok_iff _ record).mp accepted
    obtain ⟨_, owed⟩ := (validator.rules.maxPayout_offered_eq_ok_iff request _ _ bound).mp payout
    exact UInt64.toNat_inj.mp (owed.trans exactly.symm)
  purchaseId premium pool record accepted := by
    obtain ⟨bound, _, rfl⟩ := (validator.validate_eq_ok_iff _ record).mp accepted
    rfl

theorem validate_offered_ne_ok (idle : ¬ validator.rules.Sells request) (premium pool : UInt64)
    (record : PurchaseRecord) :
    validator.validate (request.offered premium pool) ≠ .ok record := by
  intro accepted
  obtain ⟨bound, payout, _⟩ := (validator.validate_eq_ok_iff _ record).mp accepted
  obtain ⟨⟨sells, _⟩, _⟩ :=
    (validator.rules.maxPayout_offered_eq_ok_iff request _ _ bound).mp payout
  exact idle sells

theorem validate_repriced (put : request.kindCode = 1) {strike spot : UInt64}
    (falls : strike ≤ request.strike) (rises : request.spot ≤ spot)
    (comparable : validator.rules.putBound = .fullWidth ∨
      request.strike.toNat < 2 ^ 32 ∧ spot.toNat < 2 ^ 32)
    {record : PurchaseRecord} (accepted : validator.validate request = .ok record) :
    ∃ other, validator.validate (request.repriced strike spot) = .ok other ∧
      other.maxPayout ≤ record.maxPayout := by
  obtain ⟨bound, payout, rfl⟩ := (validator.validate_eq_ok_iff request record).mp accepted
  obtain ⟨clear, owed⟩ := (validator.rules.maxPayout_eq_ok_iff request bound).mp payout
  obtain ⟨sells, affordable, solvent⟩ := (validator.rules.clear_iff request).mp clear
  have priced : request.spot.toNat ≠ 0 := fun free => sells.2.1 ⟨put, free⟩
  -- the pool that held what was owed holds what is owed at the cheaper prices
  have cheaper := validator.rules.owed_repriced_le request put priced falls rises comparable
  have stillSells := sells.repriced put falls rises
  have stillClear := (validator.rules.clear_iff (request.repriced strike spot)).mpr
    ⟨stillSells, affordable, Nat.le_trans cheaper solvent⟩
  have exactly := UInt64.toNat_ofNat_of_lt' (validator.rules.owed_lt _ stillSells.2.2)
  have repaid := (validator.rules.maxPayout_eq_ok_iff _ _).mpr ⟨stillClear, exactly⟩
  refine ⟨_, (validator.validate_eq_ok_iff _ _).mpr ⟨_, repaid, rfl⟩, ?_⟩
  rw [UInt64.le_iff_toNat_le, exactly, owed]
  exact cheaper

/-- With all but premium and pool fixed, either nothing is accepted or a rectangle without an upper
end. Cheaper prices keep a put accepted at no greater payout. -/
theorem acceptance_region :
    ((¬ validator.rules.Sells request ∧
        ∀ premium pool record, validator.validate (request.offered premium pool) ≠ .ok record) ∨
      (validator.rules.Sells request ∧
        ∃ least : UInt64, least.toNat = validator.rules.owed request ∧
          validator.AcceptsFrom request least)) ∧
    (request.kindCode = 1 → ∀ strike spot record, strike ≤ request.strike → request.spot ≤ spot →
      validator.rules.putBound = .fullWidth ∨
        request.strike.toNat < 2 ^ 32 ∧ spot.toNat < 2 ^ 32 →
      validator.validate request = .ok record →
        ∃ other, validator.validate (request.repriced strike spot) = .ok other ∧
          other.maxPayout ≤ record.maxPayout) := by
  refine ⟨?rectangle, ?cheaper⟩
  case rectangle =>
    by_cases sells : validator.rules.Sells request
    · have exactly := UInt64.toNat_ofNat_of_lt' (validator.rules.owed_lt request sells.2.2)
      exact .inr ⟨sells, _, exactly, validator.acceptsFrom_of_sells request sells exactly⟩
    · exact .inl ⟨sells, validator.validate_offered_ne_ok request sells⟩
  case cheaper =>
    intro put strike spot record falls rises comparable accepted
    exact validator.validate_repriced request put falls rises comparable accepted

theorem coveredPut_region :
    (∃ least : UInt64, least.toNat = 150 ∧ standard.AcceptsFrom coveredPut least) ∧
    ∃ record, standard.validate coveredPut = .ok record ∧
      coveredPut.kindCode = 1 ∧ 200 ≤ coveredPut.strike ∧ coveredPut.spot ≤ 120 ∧
      (coveredPut.strike.toNat < 2 ^ 32 ∧ (120 : UInt64).toNat < 2 ^ 32) ∧
      ∃ other, standard.validate (coveredPut.repriced 200 120) = .ok other ∧
        other.maxPayout ≤ record.maxPayout := by
  obtain ⟨region, cheaper⟩ := acceptance_region standard coveredPut
  have narrow : coveredPut.strike.toNat < 2 ^ 32 ∧ (120 : UInt64).toNat < 2 ^ 32 := by decide
  have accepted : standard.validate coveredPut = .ok ⟨_, _, 150⟩ :=
    (standard.validate_eq_ok_iff coveredPut _).mpr ⟨150, rfl, rfl⟩
  refine ⟨?_, _, accepted, rfl, by decide, by decide, narrow, ?_⟩
  · exact (region.resolve_left fun ⟨_, refused⟩ => refused 25 150 _ accepted).2
  · exact cheaper rfl 200 120 _ (by decide) (by decide) (.inr narrow) accepted

end Validator

end OptionClearing
