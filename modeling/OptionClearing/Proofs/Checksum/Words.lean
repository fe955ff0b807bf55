import OptionClearing.Proofs.Checksum.Separation
import OptionClearing.Proofs.Record.Bytewise

/-!
The eight words of an FNV checksum: the hash of the bytes, and then each word out of the one before
it by a step that loses none.
-/

namespace OptionClearing

def Checksum.word (checksum : Checksum) (index : Nat) : UInt32 :=
  Bytes.wordAt .little checksum.toList (4 * index)

namespace Fnv

def fnv1a32 (bytes : Bytes) : Nat :=
  bytes.foldl (fun state byte => (state ^^^ byte.toNat) * 0x01000193 % 2 ^ 32) 0x811c9dc5

theorem toNat_absorb32 (state : UInt32) (byte : UInt8) :
    (absorb32 state byte).toNat = (state.toNat ^^^ byte.toNat) * 0x01000193 % 2 ^ 32 := by
  rw [absorb32, UInt32.toNat_mul, UInt32.toNat_xor, UInt8.toNat_toUInt32]
  rfl

theorem toNat_hash32 (bytes : Bytes) : (hash32 bytes).toNat = fnv1a32 bytes :=
  (List.foldl_hom UInt32.toNat fun state byte => (toNat_absorb32 state byte).symm).symm

theorem hash32_eq_iff (bytes others : Bytes) :
    hash32 bytes = hash32 others ↔ fnv1a32 bytes = fnv1a32 others := by
  rw [← toNat_hash32, ← toNat_hash32, UInt32.toNat_inj]

def remix (state : UInt32) (position : Nat) : UInt32 := state * prime32 + UInt32.ofNat position

theorem toNat_remix (state : UInt32) (position : Nat) :
    (remix state position).toNat = (state.toNat * 0x01000193 + position) % 2 ^ 32 := by
  rw [remix, UInt32.toNat_add, UInt32.toNat_mul, UInt32.toNat_ofNat']
  exact (Nat.add_mod _ _ _).symm

theorem remix_injective (position : Nat) : Function.Injective (remix · position) := by
  intro state other same
  exact mul_prime32_injective ((UInt32.add_left_inj _).mp same)

theorem stretch_succ (state : UInt32) (position rounds : Nat) :
    stretch state position (rounds + 1) =
      ByteOrder.little.encode 4 state.toNat ++
        stretch (remix state (position + 3)) (position + 4) rounds := rfl

section Stretch

variable (state : UInt32) (position rounds : Nat)

theorem wordAt_stretch_zero :
    (stretch state position (rounds + 1)).wordAt .little (4 * 0) = state := by
  rw [stretch_succ]
  exact Bytes.wordAt_encode_append .little state _

theorem wordAt_stretch_tail (index : Nat) :
    (stretch state position (rounds + 1)).wordAt .little (4 * (index + 1)) =
      (stretch (remix state (position + 3)) (position + 4) rounds).wordAt .little (4 * index) := by
  have size := ByteOrder.length_encode .little 4 state.toNat
  have behind : 4 * (index + 1) = (ByteOrder.little.encode 4 state.toNat).length + 4 * index := by
    omega
  rw [stretch_succ, behind, Bytes.wordAt_append_add]

theorem wordAt_stretch_succ (index : Nat) (within : index + 1 < rounds) :
    (stretch state position rounds).wordAt .little (4 * (index + 1)) =
      remix ((stretch state position rounds).wordAt .little (4 * index))
        (position + (4 * index + 3)) := by
  induction index generalizing state position rounds with
  | zero =>
      obtain ⟨rounds, rfl⟩ : ∃ fewer, rounds = fewer + 2 := ⟨rounds - 2, by omega⟩
      rw [wordAt_stretch_tail, wordAt_stretch_zero, wordAt_stretch_zero]
  | succ index ih =>
      obtain ⟨rounds, rfl⟩ : ∃ fewer, rounds = fewer + 1 := ⟨rounds - 1, by omega⟩
      have place : position + 4 + (4 * index + 3) = position + (4 * (index + 1) + 3) := by omega
      rw [wordAt_stretch_tail, wordAt_stretch_tail, ih _ _ _ (by omega), place]

end Stretch

section Checksum

variable (bytes others : Bytes)

theorem toList_checksum : (checksum bytes).toList = stretch (hash32 bytes) 0 8 := rfl

theorem word_zero : (checksum bytes).word 0 = hash32 bytes := by
  rw [Checksum.word, toList_checksum]
  exact wordAt_stretch_zero _ 0 7

theorem word_succ (index : Nat) (within : index < 7) :
    (checksum bytes).word (index + 1) = remix ((checksum bytes).word index) (4 * index + 3) := by
  have step := wordAt_stretch_succ (hash32 bytes) 0 8 index (by omega)
  rw [Nat.zero_add] at step
  exact step

theorem word_eq_iff (index : Nat) (within : index < 8) :
    (checksum bytes).word index = (checksum others).word index ↔ hash32 bytes = hash32 others := by
  induction index with
  | zero => rw [word_zero, word_zero]
  | succ index ih =>
      rw [word_succ bytes index (by omega), word_succ others index (by omega),
        (remix_injective _).eq_iff, ih (by omega)]

theorem checksum_eq_iff : checksum bytes = checksum others ↔ hash32 bytes = hash32 others := by
  constructor
  · intro same
    rw [← word_eq_iff bytes others 0 (by decide), same]
  · intro same
    apply Vector.toList_inj.mp
    rw [toList_checksum, toList_checksum, same]

end Checksum

/-- A loop that writes a checksum: the state, and where its next byte stands. -/
structure Emitter where
  state : UInt32
  position : Nat
  deriving DecidableEq, Repr

namespace Emitter

def byte (emitter : Emitter) : UInt8 :=
  (emitter.state >>> UInt32.ofNat (emitter.position % 4 * 8)).toUInt8

def next (emitter : Emitter) : Emitter where
  state :=
    if emitter.position % 4 = 3 then remix emitter.state emitter.position else emitter.state
  position := emitter.position + 1

def run (emitter : Emitter) : (count : Nat) → Bytes
  | 0 => []
  | count + 1 => emitter.byte :: emitter.next.run count

section Word

variable (state : UInt32) (index : Nat) {lane : Nat}

theorem byte_eq (within : lane < 4) :
    byte ⟨state, 4 * index + lane⟩ = UInt8.ofNat (state.toNat / 256 ^ lane) := by
  have place : (4 * index + lane) % 4 = lane := by omega
  have shift : (UInt32.ofNat (lane * 8)).toNat % 32 = 8 * lane := by
    rw [UInt32.toNat_ofNat']
    omega
  apply UInt8.toNat_inj.mp
  rw [byte, place, UInt32.toNat_toUInt8, UInt32.toNat_shiftRight, shift, Nat.shiftRight_eq_div_pow,
    Nat.pow_mul, UInt8.toNat_ofNat']

theorem next_within (within : lane < 3) :
    next ⟨state, 4 * index + lane⟩ = ⟨state, 4 * index + (lane + 1)⟩ := by
  have place : ¬ (4 * index + lane) % 4 = 3 := by omega
  rw [next, if_neg place, Nat.add_assoc]

theorem next_behind :
    next ⟨state, 4 * index + 3⟩ = ⟨remix state (4 * index + 3), 4 * (index + 1)⟩ := by
  have place : (4 * index + 3) % 4 = 3 := by omega
  rw [next, if_pos place]
  rfl

/-- While a word is written its state stands still, and its bytes leave from the low end. -/
theorem run_rest (rest count : Nat) (whole : lane + (rest + 1) = 4) :
    run ⟨state, 4 * index + lane⟩ (count + (rest + 1)) =
      littleEndian (rest + 1) (state.toNat / 256 ^ lane) ++
        run ⟨remix state (4 * index + 3), 4 * (index + 1)⟩ count := by
  induction rest generalizing lane with
  | zero =>
      obtain rfl : lane = 3 := by omega
      rw [Nat.zero_add, run, byte_eq state index (by decide), next_behind]
      rfl
  | succ rest ih =>
      rw [← Nat.add_assoc, run, byte_eq state index (by omega), next_within state index (by omega),
        ih (by omega), Nat.pow_succ, ← Nat.div_div_eq_div_mul]
      rfl

end Word

theorem run_eq_stretch (state : UInt32) (index rounds : Nat) :
    run ⟨state, 4 * index⟩ (4 * rounds) = stretch state (4 * index) rounds := by
  induction rounds generalizing state index with
  | zero => rfl
  | succ rounds ih =>
      have word := run_rest state index 3 (4 * rounds) (Nat.zero_add 4)
      rw [Nat.pow_zero, Nat.div_one] at word
      exact word.trans (congrArg _ (ih _ (index + 1)))

end Emitter

theorem toList_checksum_eq_run (bytes : Bytes) :
    (checksum bytes).toList = Emitter.run ⟨hash32 bytes, 0⟩ 32 :=
  (Emitter.run_eq_stretch (hash32 bytes) 0 8).symm

/-- Written byte by byte, a checksum is eight words in a row: the hash, and then each word out of the
one before it. As no step loses a word, two checksums agree in all words, when their hashes do, or
differ in all of them. -/
theorem checksum_carries_one_word :
    (∀ bytes : Bytes,
      (checksum bytes).toList = Emitter.run ⟨hash32 bytes, 0⟩ 32 ∧
      ((checksum bytes).word 0).toNat = fnv1a32 bytes ∧
      ∀ index < 7, ((checksum bytes).word (index + 1)).toNat =
        (((checksum bytes).word index).toNat * 0x01000193 + (4 * index + 3)) % 2 ^ 32) ∧
    ∀ bytes others : Bytes,
      (checksum bytes = checksum others ∨
        ∀ index < 8, (checksum bytes).word index ≠ (checksum others).word index) ∧
      (checksum bytes = checksum others ↔ fnv1a32 bytes = fnv1a32 others) := by
  refine ⟨?words, ?pairs⟩
  case words =>
    intro bytes
    refine ⟨toList_checksum_eq_run bytes, ?_, ?_⟩
    · rw [word_zero, toNat_hash32]
    · intro index within
      rw [word_succ bytes index within, toNat_remix]
  case pairs =>
    intro bytes others
    rw [checksum_eq_iff, ← hash32_eq_iff, and_iff_left Iff.rfl]
    by_cases same : hash32 bytes = hash32 others
    · exact .inl same
    · refine .inr fun index within => ?_
      rw [Ne, word_eq_iff bytes others index within]
      exact same

/-- The words costarring and liquid have one hash and therefore one checksum, and the letters a and b
differ up to the last word of theirs. -/
theorem costarring_liquid_alike :
    let costarring : Bytes := [99, 111, 115, 116, 97, 114, 114, 105, 110, 103]
    let liquid : Bytes := [108, 105, 113, 117, 105, 100]
    checksum costarring = checksum liquid ∧
    ((checksum [97]).word 0).toNat = 0xe40c292c ∧
    (6 < 7 ∧ ((checksum [97]).word 7).toNat =
      (((checksum [97]).word 6).toNat * 0x01000193 + 27) % 2 ^ 32) ∧
    (7 < 8 ∧ (checksum [97]).word 7 ≠ (checksum [98]).word 7) := by
  intro costarring liquid
  obtain ⟨words, pairs⟩ := checksum_carries_one_word
  obtain ⟨_, first, step⟩ := words [97]
  obtain ⟨apart, same⟩ := pairs [97] [98]
  have different : ¬ checksum [97] = checksum [98] := mt same.mp (by decide)
  refine ⟨(pairs costarring liquid).2.mpr (by decide), first.trans (by decide), ⟨by decide, ?_⟩,
    by decide, ?_⟩
  · exact step 6 (by decide)
  · exact apart.resolve_left different 7 (by decide)

end Fnv

end OptionClearing
