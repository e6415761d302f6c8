import Multigrad.Value.Basic

/-!
# Seeds

A seed is a sequence of 32-bit words of any length. Hashing spreads it over a pool of four words,
from which a generator takes as many words as its state needs.
-/

namespace Multigrad.Random

/-- The 32-bit words of a number, the lowest first. -/
def words (n : Nat) : List UInt32 :=
  if n < 0x100000000 then [UInt32.ofNat n]
  else UInt32.ofNat (n % 0x100000000) :: words (n / 0x100000000)
termination_by n
decreasing_by omega

mutual

/-- The words of a seed: of a natural number, or of the members of a list in order. -/
def seedWords {R : Type} : Value R → Except Mishap (List UInt32)
  | .int n => if n < 0 then .error .malformed else .ok (words n.toNat)
  | .flag b => .ok (words (if b then 1 else 0))
  | .list items => seedWordsOf items
  | _ => .error .wrongType

def seedWordsOf {R : Type} : List (Value R) → Except Mishap (List UInt32)
  | [] => .ok []
  | item :: rest => do
    let first ← seedWords item
    let others ← seedWordsOf rest
    return first ++ others

end

def fold (v : UInt32) : UInt32 := v ^^^ (v >>> 16)

/-- A hash of words whose key changes with every word. -/
structure Hash where
  key : UInt32
  multiplier : UInt32

def Hash.next (hash : Hash) (word : UInt32) : UInt32 × Hash :=
  let key := hash.key * hash.multiplier
  (fold ((word ^^^ hash.key) * key), { hash with key })

def mix (x y : UInt32) : UInt32 := fold (0xca01f9dd * x - 0x4973f715 * y)

structure Pool where
  words : List UInt32
  hash : Hash

namespace Pool

def word (pool : Pool) (index : Nat) : UInt32 := pool.words.getD index 0

/-- Hashes a word and mixes it into one place of the pool. -/
def absorb (pool : Pool) (place : Nat) (word : UInt32) : Pool :=
  let (hashed, hash) := pool.hash.next word
  ⟨pool.words.set place (mix (pool.word place) hashed), hash⟩

def stir (pool : Pool) : Pool :=
  ([(0, 1), (0, 2), (0, 3), (1, 0), (1, 2), (1, 3), (2, 0), (2, 1), (2, 3), (3, 0), (3, 1),
    (3, 2)] : List (Nat × Nat)).foldl
    (fun pool (source, place) => pool.absorb place (pool.word source)) pool

/-- The pool that the first four words of a seed fill. -/
def fill (seed : List UInt32) : Pool :=
  [0, 1, 2, 3].foldl
    (fun pool index =>
      let (hashed, hash) := pool.hash.next (seed.getD index 0)
      ⟨pool.words ++ [hashed], hash⟩)
    ⟨[], ⟨0x43b0d7e5, 0x931e8875⟩⟩

def absorbAll (pool : Pool) (word : UInt32) : Pool :=
  [0, 1, 2, 3].foldl (fun pool place => pool.absorb place word) pool

def ofSeed (seed : List UInt32) : Pool := (seed.drop 4).foldl absorbAll (fill seed).stir

/-- Words for the state of a generator; the pool is read in turn. -/
def output (pool : Pool) (count : Nat) : List UInt32 :=
  ((List.range count).foldl
    (fun (drawn, hash) index =>
      let (word, hash) := Hash.next hash (pool.word (index % 4))
      (drawn ++ [word], hash))
    (([] : List UInt32), (⟨0x8b51f9dd, 0x58f38ded⟩ : Hash))).1

end Pool

end Multigrad.Random
