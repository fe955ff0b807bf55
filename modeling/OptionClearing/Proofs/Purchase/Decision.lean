import OptionClearing.Proofs.Amount
import OptionClearing.Purchase

/-!
The decision on a purchase as a table of objections, each stated over unbounded numbers. The first
objection that holds is the answer, and a request without one is accepted at what the pool can owe.
-/

namespace OptionClearing

open Amount

inductive Objection
  | zeroAmount
  | unknownOptionKind
  | premiumTooHigh
  | invalidSpotPrice
  | arithmeticOverflow
  | insufficientPoolBalance
  deriving DecidableEq, Repr

def Objection.inOrder : List Objection :=
  [.zeroAmount, .unknownOptionKind, .premiumTooHigh, .invalidSpotPrice, .arithmeticOverflow,
    .insufficientPoolBalance]

theorem Objection.mem_inOrder (objection : Objection) : objection ∈ Objection.inOrder := by
  cases objection <;> decide

def PutBound.owed (mode : PutBound) (strike quantity spot : Nat) : Nat :=
  match mode with
  | .fullWidth => strike * quantity / spot
  | .narrowed =>
    if spot % 2 ^ 32 = 0 then quantity
    else (strike % 2 ^ 32) * (quantity % 2 ^ 32) / (spot % 2 ^ 32)

namespace PurchaseRules

def premiumDivisor (rules : PurchaseRules) : Nat := max rules.maxPremiumDivisor.toNat 1

def owed (rules : PurchaseRules) (request : PurchaseRequest) : Nat :=
  if request.kindCode = 1 then
    rules.putBound.owed request.strike.toNat request.quantity.toNat request.spot.toNat
  else request.quantity.toNat

def Objects (rules : PurchaseRules) (request : PurchaseRequest) : Objection → Prop
  | .zeroAmount => request.quantity.toNat = 0 ∨ request.premium.toNat = 0
  | .unknownOptionKind => request.kindCode ≠ 0 ∧ request.kindCode ≠ 1
  | .premiumTooHigh => request.quantity.toNat < request.premium.toNat * rules.premiumDivisor
  | .invalidSpotPrice => request.kindCode = 1 ∧ request.spot.toNat = 0
  | .arithmeticOverflow => request.kindCode = 1 ∧ rules.putBound = .fullWidth ∧
    2 ^ 64 * request.spot.toNat ≤ request.strike.toNat * request.quantity.toNat
  | .insufficientPoolBalance => request.poolBalance.toNat < rules.owed request

instance (rules : PurchaseRules) (request : PurchaseRequest) :
    DecidablePred (rules.Objects request)
  | .zeroAmount => inferInstanceAs (Decidable (_ ∨ _))
  | .unknownOptionKind => inferInstanceAs (Decidable (_ ∧ _))
  | .premiumTooHigh => inferInstanceAs (Decidable (_ < _))
  | .invalidSpotPrice => inferInstanceAs (Decidable (_ ∧ _))
  | .arithmeticOverflow => inferInstanceAs (Decidable (_ ∧ _ ∧ _))
  | .insufficientPoolBalance => inferInstanceAs (Decidable (_ < _))

def rejection (rules : PurchaseRules) (request : PurchaseRequest) : Objection → Rejection
  | .zeroAmount => .zeroAmount
  | .unknownOptionKind => .unknownOptionKind request.kindCode
  | .premiumTooHigh => .premiumTooHigh request.premium
    (UInt64.ofNat (request.quantity.toNat / rules.premiumDivisor))
  | .invalidSpotPrice => .invalidSpotPrice
  | .arithmeticOverflow => .arithmeticOverflow
  | .insufficientPoolBalance => .insufficientPoolBalance (UInt64.ofNat (rules.owed request))
    request.poolBalance

/-- The first objection that holds decides; a request that meets none is accepted. -/
def decision (rules : PurchaseRules) (request : PurchaseRequest) (objections : List Objection) :
    Except Rejection UInt64 :=
  match objections.find? fun objection => decide (rules.Objects request objection) with
  | some objection => .error (rules.rejection request objection)
  | none => .ok (UInt64.ofNat (rules.owed request))

theorem toNat_maxPremium (rules : PurchaseRules) (quantity : UInt64) :
    (rules.maxPremium quantity).toNat = quantity.toNat / rules.premiumDivisor := by
  have divisor : (max rules.maxPremiumDivisor 1).toNat = rules.premiumDivisor := by
    change (if rules.maxPremiumDivisor ≤ 1 then 1 else rules.maxPremiumDivisor).toNat =
      max rules.maxPremiumDivisor.toNat 1
    by_cases small : rules.maxPremiumDivisor ≤ 1
    · have order : rules.maxPremiumDivisor.toNat ≤ 1 := UInt64.le_iff_toNat_le.mp small
      rw [if_pos small, Nat.max_eq_right order]
      rfl
    · have order : ¬ rules.maxPremiumDivisor.toNat ≤ 1 := by
        intro low
        exact small (UInt64.le_iff_toNat_le.mpr low)
      rw [if_neg small, Nat.max_eq_left (by omega)]
  rw [maxPremium, UInt64.toNat_div, divisor]

theorem maxPremium_eq (rules : PurchaseRules) (quantity : UInt64) :
    rules.maxPremium quantity = UInt64.ofNat (quantity.toNat / rules.premiumDivisor) := by
  rw [← toNat_maxPremium, UInt64.ofNat_toNat]

theorem maxPremium_lt_iff (rules : PurchaseRules) (quantity premium : UInt64) :
    rules.maxPremium quantity < premium ↔
      quantity.toNat < premium.toNat * rules.premiumDivisor := by
  have positive : 0 < rules.premiumDivisor := Nat.le_max_right _ _
  rw [UInt64.lt_iff_toNat_lt, toNat_maxPremium]
  exact Nat.div_lt_iff_lt_mul positive

end PurchaseRules

namespace PutBound

variable (mode : PutBound) (strike quantity spot : UInt64)

theorem bound_of_zero (free : spot.toNat = 0) :
    mode.bound strike quantity spot = .error .invalidSpotPrice := by
  have zero : spot = 0 := UInt64.toNat_inj.mp free
  simp only [bound, if_pos zero]

theorem bound_of_overflow (full : mode = .fullWidth) (priced : spot.toNat ≠ 0)
    (wide : 2 ^ 64 * spot.toNat ≤ strike.toNat * quantity.toNat) :
    mode.bound strike quantity spot = .error .arithmeticOverflow := by
  have nonzero : spot ≠ 0 := fun zero => priced (congrArg UInt64.toNat zero)
  have exceeds : ¬ strike.toNat * quantity.toNat / spot.toNat < 2 ^ 64 := by
    apply Nat.not_lt.mpr
    exact (Nat.le_div_iff_mul_le (Nat.pos_of_ne_zero priced)).mpr wide
  simp only [bound, if_neg nonzero, full, mulDiv?_of_exceeds nonzero exceeds]

theorem owed_lt (fits : mode = .fullWidth → strike.toNat * quantity.toNat < 2 ^ 64 * spot.toNat) :
    mode.owed strike.toNat quantity.toNat spot.toNat < 2 ^ 64 := by
  cases mode with
  | fullWidth =>
      apply Nat.div_lt_of_lt_mul
      rw [Nat.mul_comm spot.toNat]
      exact fits rfl
  | narrowed =>
      by_cases low : spot.toNat % 2 ^ 32 = 0
      · simp only [owed, if_pos low]
        exact quantity.toNat_lt
      · simp only [owed, if_neg low]
        rw [← toNat_cut, ← toNat_cut]
        exact Nat.lt_of_le_of_lt (Nat.div_le_self _ _) (toNat_cut_mul_lt strike quantity)

/-- Neither width wraps: the low halves are multiplied in a whole word, and a quotient that does not
fit is refused. -/
theorem bound_of_priced (priced : spot.toNat ≠ 0)
    (fits : mode = .fullWidth → strike.toNat * quantity.toNat < 2 ^ 64 * spot.toNat) :
    mode.bound strike quantity spot =
      .ok (UInt64.ofNat (mode.owed strike.toNat quantity.toNat spot.toNat)) := by
  have nonzero : spot ≠ 0 := fun zero => priced (congrArg UInt64.toNat zero)
  have bounded := mode.owed_lt strike quantity spot fits
  cases mode with
  | fullWidth =>
      have quotient : strike.toNat * quantity.toNat / spot.toNat < 2 ^ 64 := bounded
      simp only [bound, if_neg nonzero, mulDiv?_of_fits nonzero quotient, owed,
        UInt64.ofNatLT_eq_ofNat]
  | narrowed =>
      by_cases low : spot.toNat % 2 ^ 32 = 0
      · have none : cut spot = 0 := (cut_eq_zero_iff spot).mpr low
        rw [cut] at none
        simp only [bound, if_neg nonzero, if_pos none, owed, if_pos low, UInt64.ofNat_toNat]
      · have some : cut spot ≠ 0 := mt (cut_eq_zero_iff spot).mp low
        rw [cut] at some
        simp only [bound, if_neg nonzero, if_neg some]
        apply congrArg Except.ok
        apply UInt64.toNat_inj.mp
        change (cut strike * cut quantity / cut spot).toNat = _
        rw [UInt64.toNat_div, toNat_cut_mul, UInt64.toNat_ofNat_of_lt' bounded, owed, if_neg low,
          toNat_cut, toNat_cut, toNat_cut]

end PutBound

namespace PurchaseKind

theorem ofCode?_eq_call_iff (code : UInt8) : ofCode? code = some .call ↔ code = 0 := by
  unfold ofCode?
  split <;> simp_all

theorem ofCode?_eq_put_iff (code : UInt8) : ofCode? code = some .put ↔ code = 1 := by
  unfold ofCode?
  split <;> simp_all

theorem ofCode?_eq_none_iff (code : UInt8) : ofCode? code = none ↔ code ≠ 0 ∧ code ≠ 1 := by
  unfold ofCode?
  split <;> simp_all

end PurchaseKind

namespace PurchaseRules

variable (rules : PurchaseRules) (request : PurchaseRequest)

theorem decision_cons (objection : Objection) (objections : List Objection) :
    rules.decision request (objection :: objections) =
      if rules.Objects request objection then .error (rules.rejection request objection)
      else rules.decision request objections := by
  by_cases holds : rules.Objects request objection
  · simp only [decision, List.find?_cons, holds, decide_true, if_true]
  · simp only [decision, List.find?_cons, holds, decide_false, if_false]

theorem decision_append (earlier later : List Objection) :
    rules.decision request (earlier ++ later) =
      match rules.decision request earlier with
      | .error reason => .error reason
      | .ok _ => rules.decision request later := by
  induction earlier with
  | nil => rfl
  | cons objection objections ih =>
      rw [List.cons_append, decision_cons, decision_cons]
      by_cases holds : rules.Objects request objection
      · rw [if_pos holds, if_pos holds]
      · rw [if_neg holds, if_neg holds, ih]

theorem rejection_injective {first second : Objection}
    (same : rules.rejection request first = rules.rejection request second) : first = second := by
  cases first <;> cases second <;> first | rfl | (simp only [rejection] at same; contradiction)

theorem decision_eq_ok_iff (objections : List Objection) (bound : UInt64) :
    rules.decision request objections = .ok bound ↔
      (∀ objection ∈ objections, ¬ rules.Objects request objection) ∧
        bound = UInt64.ofNat (rules.owed request) := by
  induction objections with
  | nil => simp [decision, eq_comm]
  | cons objection objections ih =>
      rw [decision_cons, List.forall_mem_cons]
      by_cases holds : rules.Objects request objection
      · rw [if_pos holds]
        constructor
        · intro accepted
          contradiction
        · intro accepted
          exact absurd holds accepted.1.1
      · rw [if_neg holds, ih]
        constructor
        · rintro ⟨clear, word⟩
          exact ⟨⟨holds, clear⟩, word⟩
        · rintro ⟨⟨_, clear⟩, word⟩
          exact ⟨clear, word⟩

theorem decision_eq_rejection_iff (objections : List Objection) (objection : Objection) :
    rules.decision request objections = .error (rules.rejection request objection) ↔
      ∃ earlier later, objections = earlier ++ objection :: later ∧
        rules.Objects request objection ∧
        ∀ other ∈ earlier, ¬ rules.Objects request other := by
  have first : rules.decision request objections = .error (rules.rejection request objection) ↔
      objections.find? (fun other => decide (rules.Objects request other)) = some objection := by
    cases found : objections.find? fun other => decide (rules.Objects request other) with
    | none => simp only [decision, found, reduceCtorEq]
    | some decisive =>
        simp only [decision, found, Except.error.injEq, Option.some.injEq]
        constructor
        · exact rules.rejection_injective request
        · exact congrArg (rules.rejection request)
  rw [first, List.find?_eq_some_iff_append]
  simp only [decide_eq_true_eq, Bool.not_eq_true', decide_eq_false_iff_not]
  constructor
  · rintro ⟨holds, earlier, later, split, clear⟩
    exact ⟨earlier, later, split, holds, clear⟩
  · rintro ⟨earlier, later, split, holds, clear⟩
    exact ⟨holds, earlier, later, split, clear⟩

theorem objects_zeroAmount_iff :
    rules.Objects request .zeroAmount ↔ request.quantity = 0 ∨ request.premium = 0 := by
  simp only [Objects, ← UInt64.toNat_inj]
  rfl

theorem owed_lt (fits : ¬ rules.Objects request .arithmeticOverflow) :
    rules.owed request < 2 ^ 64 := by
  by_cases put : request.kindCode = 1
  · rw [owed, if_pos put]
    apply PutBound.owed_lt
    intro full
    exact Nat.lt_of_not_le fun wide => fits ⟨put, full, wide⟩
  · rw [owed, if_neg put]
    exact request.quantity.toNat_lt

theorem pooled_eq_decision (bound : UInt64) (exactly : bound.toNat = rules.owed request) :
    (if request.poolBalance < bound then
        .error (.insufficientPoolBalance bound request.poolBalance)
      else .ok bound) = rules.decision request [.insufficientPoolBalance] := by
  have word : bound = UInt64.ofNat (rules.owed request) := by
    rw [← exactly, UInt64.ofNat_toNat]
  have short : request.poolBalance < bound ↔ rules.Objects request .insufficientPoolBalance := by
    rw [UInt64.lt_iff_toNat_lt, exactly]
    rfl
  rw [decision_cons]
  by_cases lacking : request.poolBalance < bound
  · rw [if_pos lacking, if_pos (short.mp lacking), word]
    rfl
  · rw [if_neg lacking, if_neg (mt short.mpr lacking), word]
    rfl

theorem payoutBound_eq_decision (kind : PurchaseKind)
    (known : PurchaseKind.ofCode? request.kindCode = some kind) :
    rules.payoutBound kind request =
      rules.decision request [.invalidSpotPrice, .arithmeticOverflow] := by
  rw [decision_cons, decision_cons]
  cases kind with
  | call =>
      have code : request.kindCode = 0 := (PurchaseKind.ofCode?_eq_call_iff _).mp known
      have notPut : request.kindCode ≠ 1 := by
        rw [code]
        decide
      -- Both objections are raised against puts only.
      have priced : ¬ rules.Objects request .invalidSpotPrice := by
        intro free
        exact notPut free.1
      have fits : ¬ rules.Objects request .arithmeticOverflow := by
        intro wide
        exact notPut wide.1
      have owed : rules.owed request = request.quantity.toNat := if_neg notPut
      rw [if_neg priced, if_neg fits]
      change Except.ok request.quantity = .ok (UInt64.ofNat (rules.owed request))
      rw [owed, UInt64.ofNat_toNat]
  | put =>
      have code : request.kindCode = 1 := (PurchaseKind.ofCode?_eq_put_iff _).mp known
      by_cases free : rules.Objects request .invalidSpotPrice
      · rw [if_pos free]
        exact rules.putBound.bound_of_zero _ _ _ free.2
      have priced : request.spot.toNat ≠ 0 := by
        intro zero
        exact free ⟨code, zero⟩
      rw [if_neg free]
      by_cases wide : rules.Objects request .arithmeticOverflow
      · rw [if_pos wide]
        exact rules.putBound.bound_of_overflow _ _ _ wide.2.1 priced wide.2.2
      have fits : rules.putBound = .fullWidth →
          request.strike.toNat * request.quantity.toNat < 2 ^ 64 * request.spot.toNat := by
        intro full
        exact Nat.lt_of_not_le fun product => wide ⟨code, full, product⟩
      have owed : rules.owed request = rules.putBound.owed request.strike.toNat
          request.quantity.toNat request.spot.toNat := if_pos code
      rw [if_neg wide]
      change _ = Except.ok (UInt64.ofNat (rules.owed request))
      rw [owed]
      exact rules.putBound.bound_of_priced _ _ _ priced fits

theorem bounded_eq_decision (kind : PurchaseKind)
    (known : PurchaseKind.ofCode? request.kindCode = some kind) :
    (match rules.payoutBound kind request with
      | .error reason => .error reason
      | .ok bound =>
        if request.poolBalance < bound then
          .error (.insufficientPoolBalance bound request.poolBalance)
        else .ok bound) =
      rules.decision request
        ([.invalidSpotPrice, .arithmeticOverflow] ++ [.insufficientPoolBalance]) := by
  rw [decision_append, rules.payoutBound_eq_decision request kind known]
  cases bounded : rules.decision request [.invalidSpotPrice, .arithmeticOverflow] with
  | error reason => rfl
  | ok bound =>
      rcases (rules.decision_eq_ok_iff request _ bound).mp bounded with ⟨clear, word⟩
      -- The overflow objection is behind us, so the number owed fits in the bound's word.
      have small := rules.owed_lt request (clear .arithmeticOverflow (by decide))
      have exactly : bound.toNat = rules.owed request := by
        rw [word]
        exact UInt64.toNat_ofNat_of_lt' small
      exact rules.pooled_eq_decision request bound exactly

theorem maxPayout_eq_decision :
    rules.maxPayout request = rules.decision request Objection.inOrder := by
  rw [Objection.inOrder, maxPayout, decision_cons]
  have amounts := rules.objects_zeroAmount_iff request
  by_cases zero : rules.Objects request .zeroAmount
  · rw [if_pos (amounts.mp zero), if_pos zero]
    rfl
  rw [if_neg (mt amounts.mpr zero), if_neg zero, decision_cons]
  cases known : PurchaseKind.ofCode? request.kindCode with
  | none =>
      have unknown : rules.Objects request .unknownOptionKind :=
        (PurchaseKind.ofCode?_eq_none_iff _).mp known
      rw [if_pos unknown]
      rfl
  | some kind =>
      have recognised : ¬ rules.Objects request .unknownOptionKind := by
        intro unknown
        have none := (PurchaseKind.ofCode?_eq_none_iff _).mpr unknown
        rw [known] at none
        contradiction
      have premium := rules.maxPremium_lt_iff request.quantity request.premium
      rw [if_neg recognised, decision_cons]
      by_cases high : rules.Objects request .premiumTooHigh
      · have above : rules.maxPremium request.quantity < request.premium := premium.mpr high
        rw [if_pos high, rejection, ← maxPremium_eq]
        exact if_pos above
      · have allowed : ¬ rules.maxPremium request.quantity < request.premium := mt premium.mp high
        rw [if_neg high]
        exact (if_neg allowed).trans (rules.bounded_eq_decision request kind known)

theorem maxPayout_eq_ok_iff (bound : UInt64) :
    rules.maxPayout request = .ok bound ↔
      (∀ objection, ¬ rules.Objects request objection) ∧ bound.toNat = rules.owed request := by
  rw [maxPayout_eq_decision, decision_eq_ok_iff]
  constructor
  · rintro ⟨clear, rfl⟩
    have accepted : ∀ objection, ¬ rules.Objects request objection := fun objection =>
      clear objection (Objection.mem_inOrder objection)
    exact ⟨accepted, UInt64.toNat_ofNat_of_lt' (rules.owed_lt request (accepted _))⟩
  · rintro ⟨accepted, exactly⟩
    refine ⟨fun objection _ => accepted objection, ?_⟩
    rw [← exactly, UInt64.ofNat_toNat]

/-- Nothing is wrong with a request but, at most, its premium and its pool. -/
def Sells : Prop :=
  ¬ rules.Objects request .unknownOptionKind ∧ ¬ rules.Objects request .invalidSpotPrice ∧
    ¬ rules.Objects request .arithmeticOverflow

def Affordable (premium : Nat) : Prop :=
  1 ≤ premium ∧ premium ≤ request.quantity.toNat / rules.premiumDivisor

/-- Premium and pool are objected to independently of each other and of all else. A quantity of zero
needs no word of its own, since no premium is allowed for it. -/
theorem clear_iff :
    (∀ objection, ¬ rules.Objects request objection) ↔
      rules.Sells request ∧ rules.Affordable request request.premium.toNat ∧
        rules.owed request ≤ request.poolBalance.toNat := by
  have divisor : 0 < rules.premiumDivisor := Nat.le_max_right _ _
  have capped : request.premium.toNat ≤ request.quantity.toNat / rules.premiumDivisor ↔
      ¬ rules.Objects request .premiumTooHigh :=
    (Nat.le_div_iff_mul_le divisor).trans Nat.not_lt.symm
  constructor
  · intro clear
    have amounts := clear .zeroAmount
    have paid := Nat.pos_of_ne_zero fun free => amounts (.inr free)
    have solvent := Nat.not_lt.mp (clear .insufficientPoolBalance)
    exact ⟨⟨clear _, clear _, clear _⟩, ⟨paid, capped.mpr (clear _)⟩, solvent⟩
  · rintro ⟨⟨known, priced, fits⟩, ⟨paid, cheap⟩, solvent⟩ objection
    cases objection with
    | zeroAmount =>
        rintro (empty | free)
        · rw [empty, Nat.zero_div] at cheap
          omega
        · omega
    | unknownOptionKind => exact known
    | premiumTooHigh => exact capped.mp cheap
    | invalidSpotPrice => exact priced
    | arithmeticOverflow => exact fits
    | insufficientPoolBalance => exact Nat.not_lt.mpr solvent

/-- The table decides every request: the first objection that holds is the reason that is given, and
without one the pool covers what it can owe. No number in the answer wraps. -/
theorem maxPayout_decided :
    rules.maxPayout request = rules.decision request Objection.inOrder ∧
    (∀ objection, rules.maxPayout request = .error (rules.rejection request objection) ↔
      ∃ earlier later, Objection.inOrder = earlier ++ objection :: later ∧
        rules.Objects request objection ∧ ∀ other ∈ earlier, ¬ rules.Objects request other) ∧
    ((∃ bound, rules.maxPayout request = .ok bound) ↔
      ∀ objection, ¬ rules.Objects request objection) ∧
    (∀ bound, rules.maxPayout request = .ok bound →
      bound.toNat = rules.owed request ∧
        request.premium.toNat * rules.premiumDivisor ≤ request.quantity.toNat ∧
        rules.owed request ≤ request.poolBalance.toNat) ∧
    request.quantity.toNat / rules.premiumDivisor < 2 ^ 64 ∧
    (rules.Objects request .arithmeticOverflow ∨ rules.owed request < 2 ^ 64) := by
  have decided := rules.maxPayout_eq_decision request
  refine ⟨decided, ?reasons, ?acceptance, ?solvency, ?cap, ?word⟩
  case reasons =>
    intro objection
    rw [decided]
    exact rules.decision_eq_rejection_iff request Objection.inOrder objection
  case acceptance =>
    constructor
    · rintro ⟨bound, accepted⟩
      exact ((rules.maxPayout_eq_ok_iff request bound).mp accepted).1
    · intro clear
      have exactly := UInt64.toNat_ofNat_of_lt' (rules.owed_lt request (clear _))
      exact ⟨_, (rules.maxPayout_eq_ok_iff request _).mpr ⟨clear, exactly⟩⟩
  case solvency =>
    intro bound accepted
    obtain ⟨clear, exactly⟩ := (rules.maxPayout_eq_ok_iff request bound).mp accepted
    have affordable := Nat.le_of_not_lt (clear .premiumTooHigh)
    have solvent := Nat.le_of_not_lt (clear .insufficientPoolBalance)
    exact ⟨exactly, affordable, solvent⟩
  case cap =>
    exact Nat.lt_of_le_of_lt (Nat.div_le_self _ _) request.quantity.toNat_lt
  case word =>
    by_cases wide : rules.Objects request .arithmeticOverflow
    · exact .inl wide
    · exact .inr (rules.owed_lt request wide)

/-- A put whose strike does not fit in 32 bits, against a pool that covers just what is left of it. -/
def widePut : PurchaseRequest :=
  ⟨.replicate _ 7, .replicate _ 2, 50, 25, 0x10000012c, 0, 1, 100, 150⟩

theorem widePut_decided :
    standard.maxPayout widePut = .ok 150 ∧ standard.owed widePut = 150 ∧
      widePut.premium.toNat * standard.premiumDivisor ≤ widePut.quantity.toNat ∧
      standard.owed widePut ≤ widePut.poolBalance.toNat := by
  have accepted : standard.maxPayout widePut = .ok 150 := rfl
  obtain ⟨_, _, _, solvency, _⟩ := maxPayout_decided standard widePut
  obtain ⟨exactly, affordable, solvent⟩ := solvency 150 accepted
  exact ⟨accepted, exactly.symm, affordable, solvent⟩

end PurchaseRules

end OptionClearing
