/-!
Amounts are 64-bit words of hundredths. Every quotient truncates; a value that does not fit is
either refused or replaced by the largest word.
-/

namespace OptionClearing.Amount

def cents : UInt64 := 100

def basisPoints : UInt64 := 10000

def greatest : UInt64 := 0xffffffffffffffff

def saturate (value : Nat) : UInt64 :=
  if fits : value < UInt64.size then UInt64.ofNatLT value fits else greatest

def addSaturating (a b : UInt64) : UInt64 := saturate (a.toNat + b.toNat)

def subSaturating (a b : UInt64) : UInt64 := if a ≤ b then 0 else a - b

def mulSaturating (a b : UInt64) : UInt64 := saturate (a.toNat * b.toNat)

def mulDiv? (a b d : UInt64) : Option UInt64 :=
  if d = 0 then none
  else
    let quotient := a.toNat * b.toNat / d.toNat
    if fits : quotient < UInt64.size then some (UInt64.ofNatLT quotient fits) else none

def mulDivSaturating (a b d : UInt64) : UInt64 :=
  if d = 0 then 0 else (mulDiv? a b d).getD greatest

/-- What `quantity` gains when `low` is paid for `high`. -/
def scaledGain (high low quantity : UInt64) : UInt64 :=
  mulDivSaturating (subSaturating high low) quantity cents

def lowHalf (value : UInt64) : UInt32 := value.toUInt32

end OptionClearing.Amount
