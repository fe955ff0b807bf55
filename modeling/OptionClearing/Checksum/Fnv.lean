import OptionClearing.Record

/-! Checksums of 32 bytes, and the one that is drawn from the 32-bit FNV-1a hash. -/

namespace OptionClearing

abbrev checksumLength : Nat := 32

abbrev Checksum := Vector UInt8 checksumLength

abbrev Hasher := Bytes → Checksum

namespace Fnv

def prime32 : UInt32 := 0x01000193

def absorb32 (state : UInt32) (byte : UInt8) : UInt32 := (state ^^^ byte.toUInt32) * prime32

def hash32 (bytes : Bytes) : UInt32 := bytes.foldl absorb32 0x811c9dc5

def prime64 : UInt64 := 0x100000001b3

def absorb64 (state : UInt64) (byte : UInt8) : UInt64 := (state ^^^ byte.toUInt64) * prime64

def hash64 (bytes : Bytes) : UInt64 := bytes.foldl absorb64 0xcbf29ce484222325

/-- Writes out the state as a word `rounds` times, and after each word mixes it with the position
of the word's last byte. -/
def stretch (state : UInt32) (position : Nat) : (rounds : Nat) → Bytes
  | 0 => []
  | rounds + 1 =>
    ByteOrder.little.encode 4 state.toNat ++
      stretch (state * prime32 + UInt32.ofNat (position + 3)) (position + 4) rounds

theorem length_stretch (state : UInt32) (position rounds : Nat) :
    (stretch state position rounds).length = 4 * rounds := by
  induction rounds generalizing state position with
  | zero => rfl
  | succ rounds ih =>
    rw [stretch, List.length_append, ih, ByteOrder.length_encode]
    omega

/-- Eight words that stem from the 32-bit hash alone, so collisions are easy to find. -/
def checksum : Hasher := fun bytes =>
  ⟨(stretch (hash32 bytes) 0 8).toArray, by simp [length_stretch]⟩

end Fnv

end OptionClearing
