import TextSearch.LittleEndian

/-!
# Fingerprints

A fingerprint is the first half of the 128-bit MurmurHash3 in its variant for 64-bit machines,
started from a fixed seed. Every build and every reader computes the same one.
-/

namespace TextSearch

/-- The number both halves of the state start from. -/
def fingerprintSeed : UInt64 := 19861202

namespace Murmur

/-- Moves the upper `n` bits of a word below the others. -/
def rotateLeft (x n : UInt64) : UInt64 := (x <<< n) ||| (x >>> (64 - n))

def multiplier₁ : UInt64 := 0x87c37b91114253d5

def multiplier₂ : UInt64 := 0x4cf5ad432745937f

/-- The two halves of the state. -/
structure State where
  low : UInt64
  high : UInt64

/-- What the first half of a block adds to the lower half of the state. -/
def scrambleLow (k : UInt64) : UInt64 := rotateLeft (k * multiplier₁) 31 * multiplier₂

/-- What the second half of a block adds to the upper half of the state. -/
def scrambleHigh (k : UInt64) : UInt64 := rotateLeft (k * multiplier₂) 33 * multiplier₁

/-- Takes in a block of sixteen bytes, given as two words. -/
def State.absorb (s : State) (k₁ k₂ : UInt64) : State :=
  let low := (rotateLeft (s.low ^^^ scrambleLow k₁) 27 + s.high) * 5 + 0x52dce729
  let high := (rotateLeft (s.high ^^^ scrambleHigh k₂) 31 + low) * 5 + 0x38495ab5
  ⟨low, high⟩

/-- Takes in the last bytes, fewer than sixteen, as if zeros followed, without stirring. -/
def State.absorbTail (s : State) (k₁ k₂ : UInt64) : State :=
  ⟨s.low ^^^ scrambleLow k₁, s.high ^^^ scrambleHigh k₂⟩

/-- The word that up to eight bytes stand for. -/
def word (bytes : List UInt8) : UInt64 := UInt64.ofNat (LittleEndian.decode bytes)

/-- Takes in all bytes, block by block. -/
def State.absorbAll (s : State) (bytes : List UInt8) : State :=
  match _h : bytes.drop 15 with
  | [] => s.absorbTail (word (bytes.take 8)) (word (bytes.drop 8))
  | _ :: rest => (s.absorb (word (bytes.take 8)) (word ((bytes.drop 8).take 8))).absorbAll rest
termination_by bytes.length
decreasing_by
  have := congrArg List.length _h
  simp at this
  omega

/-- Spreads every bit of a word over all of it. -/
def avalanche (k : UInt64) : UInt64 :=
  let k := (k ^^^ (k >>> 33)) * 0xff51afd7ed558ccd
  let k := (k ^^^ (k >>> 33)) * 0xc4ceb9fe1a85ec53
  k ^^^ (k >>> 33)

/-- The first half of the hash, once all bytes are taken in. -/
def State.finish (s : State) (length : UInt64) : UInt64 :=
  let low := s.low ^^^ length
  let high := s.high ^^^ length
  let low := low + high
  let high := high + low
  avalanche low + avalanche high

end Murmur

/-- The fingerprint of some bytes. -/
def fingerprint (bytes : List UInt8) : UInt64 :=
  ((⟨fingerprintSeed, fingerprintSeed⟩ : Murmur.State).absorbAll bytes).finish
    (UInt64.ofNat bytes.length)

end TextSearch
