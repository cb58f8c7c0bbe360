/-!
# Numbers of times

How often a part of a pattern stands in a row.
-/

namespace LiteralLang

/-- Between `least` and `most` times, or any number of times from `least` on. -/
structure Times where
  least : Nat
  most : Option Nat
  ordered : most.all (least ≤ ·)
  deriving DecidableEq, Repr

namespace Times

def optional : Times := ⟨0, some 1, rfl⟩

def atLeast (least : Nat) : Times := ⟨least, none, rfl⟩

/-- The times between two bounds, unless they are the wrong way round. -/
def between? (least : Nat) (most : Option Nat) : Option Times :=
  if ordered : most.all (least ≤ ·) then some ⟨least, most, ordered⟩ else none

/-- The same times, but once for all numbers above one. -/
def once (times : Times) : Times :=
  ⟨min times.least 1, some (min (times.most.getD 1) 1), by
    obtain ⟨least, most, ordered⟩ := times
    cases most with
    | none =>
      simp only [Option.getD_none, Option.all_some, decide_eq_true_eq]
      omega
    | some most =>
      have : least ≤ most := by simpa using ordered
      simp only [Option.getD_some, Option.all_some, decide_eq_true_eq]
      omega⟩

end Times

end LiteralLang
