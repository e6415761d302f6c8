import Multigrad.Random.Seed

/-!
# A random generator

A linear congruential generator modulo `2 ^ 128` whose output is the folded state, rotated by its
highest bits. Halves of its 64-bit words serve as 32-bit words.
-/

namespace Multigrad.Random

structure Generator where
  state : BitVec 128
  increment : BitVec 128
  /-- The half of the last word that is still to be handed out. -/
  spare : Option UInt32

namespace Generator

def multiplier : BitVec 128 := 0x2360ed051fc65da44385df649fccf645

def step (generator : Generator) : Generator :=
  { generator with state := generator.state * multiplier + generator.increment }

def ofNumbers (start sequence : BitVec 128) : Generator :=
  let generator : Generator := step ⟨0, 2 * sequence + 1, none⟩
  step { generator with state := generator.state + start }

/-- Joins 32-bit words, the lowest first. -/
def join (words : List UInt32) : Nat :=
  words.foldr (fun word n => word.toNat + 0x100000000 * n) 0

/-- A seed gives eight words, and four of them the halves of a number, the high one first. -/
def ofSeed (seed : List UInt32) : Generator :=
  let drawn := (Pool.ofSeed seed).output 8
  let half (index : Nat) : Nat := join ((drawn.drop (2 * index)).take 2)
  let number (high low : Nat) : BitVec 128 := BitVec.ofNat 128 (Nat.pow 2 64 * high + low)
  ofNumbers (number (half 0) (half 1)) (number (half 2) (half 3))

def next64 (generator : Generator) : BitVec 64 × Generator :=
  let generator := generator.step
  let folded := generator.state.extractLsb' 64 64 ^^^ generator.state.extractLsb' 0 64
  (folded.rotateRight (generator.state.extractLsb' 122 6).toNat, generator)

def next32 (generator : Generator) : Nat × Generator :=
  match generator.spare with
  | some word => (word.toNat, { generator with spare := none })
  | none =>
    let (word, generator) := generator.next64
    let high := UInt32.ofBitVec (word.extractLsb' 32 32)
    ((word.extractLsb' 0 32).toNat, { generator with spare := some high })

/-- How often a draw is repeated before it is given up; each is rejected with a probability below
one half. -/
def patience : Nat := 512

/-- Draws until the masked word is not above the bound. -/
def drawMasked (mask bound : Nat) : (attempts : Nat) → Generator → Nat × Generator
  | 0, generator => (bound, generator)
  | attempts + 1, generator =>
    let (word, generator) := generator.next32
    if word &&& mask ≤ bound then (word &&& mask, generator)
    else drawMasked mask bound attempts generator

def upTo (generator : Generator) (bound : Nat) : Nat × Generator :=
  drawMasked (Nat.pow 2 (bound.log2 + 1) - 1) bound patience generator

/-- Swaps every entry up to an index with one that is not behind it, the last one first. -/
def shuffle : (index : Nat) → Array Int → Generator → Array Int × Generator
  | 0, entries, generator => (entries, generator)
  | index + 1, entries, generator =>
    let (other, generator) := generator.upTo (index + 1)
    shuffle index (entries.swapIfInBounds (index + 1) other) generator

def permutation (generator : Generator) (n : Nat) : List Int × Generator :=
  let (entries, generator) := shuffle (n - 1) ((List.range n).map Int.ofNat).toArray generator
  (entries.toList, generator)

end Generator

end Multigrad.Random
