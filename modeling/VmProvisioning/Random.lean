/-!
# Random choices

A source of random numbers is a function on its state, so that a choice is determined by the
source and the state it starts in.

## Main definitions

* `RandomSource`: a source of numbers below a bound
* `Congruential.source`: the source of a linear congruential generator
-/

namespace VmProvisioning

/-- **A source of random numbers** with states `σ`: `index most` draws a number up to `most`. -/
structure RandomSource (σ : Type) where
  index : (most : Nat) → StateM σ (Fin (most + 1))

namespace RandomSource

variable {σ α : Type}

/-- One of the elements of a list, or nothing of an empty one. -/
def pick (source : RandomSource σ) : List α → StateM σ (List α)
  | [] => return []
  | first :: others => do
    let i ← source.index others.length
    return [(first :: others)[i]]

/-- A number of elements of a list, each drawn on its own. -/
def pickMany (source : RandomSource σ) (choices : List α) : Nat → StateM σ (List α)
  | 0 => return []
  | count + 1 => do
    let picked ← source.pick choices
    return picked ++ (← source.pickMany choices count)

end RandomSource

/-! ## A linear congruential generator -/

namespace Congruential

/-- The next word of the generator. -/
def next (word : UInt32) : UInt32 :=
  word * 1664525 + 1013904223

/-- The greatest low half of a product that is accepted: it leaves a whole multiple of the count
of results, so that each result is equally likely. -/
def acceptance (count : Nat) : Nat :=
  count * Nat.pow 2 (31 - count.log2) % UInt32.size - 1

/-- Draw until the low half of the product of word and count is accepted; the high half is the
number. The generator runs through all words, so `2 ^ 32` attempts are enough. -/
def draw (most : Nat) : (attempts : Nat) → StateM UInt32 (Fin (most + 1))
  | 0 => return 0
  | attempts + 1 => do
    let word := next (← get)
    set word
    let product := word.toNat * (most + 1)
    if product % UInt32.size ≤ acceptance (most + 1) then
      return ⟨product / UInt32.size, Nat.div_lt_of_lt_mul (by
        show word.toNat * (most + 1) < UInt32.size * (most + 1)
        exact Nat.mul_lt_mul_of_pos_right word.toNat_lt (Nat.succ_pos most))⟩
    else draw most attempts

/-- The source of the generator. -/
def source : RandomSource UInt32 where
  index most := draw most UInt32.size

end Congruential

end VmProvisioning
