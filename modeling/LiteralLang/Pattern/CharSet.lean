import LiteralLang.Text.Ranges

/-!
# Sets of characters

Sets of code points as ascending lists of closed ranges that neither overlap nor touch, and the
operations on them.
-/

namespace LiteralLang

/-- A set of code points. -/
structure CharSet where
  ranges : List (Nat × Nat)
  deriving DecidableEq, Repr

namespace CharSet

/-- A list of ranges with one more in it, joined with those that it overlaps or touches. -/
def insertRange (first last : Nat) : List (Nat × Nat) → List (Nat × Nat)
  | [] => [(first, last)]
  | (a, b) :: rest =>
      if last + 1 < a then (first, last) :: (a, b) :: rest
      else if b + 1 < first then (a, b) :: insertRange first last rest
      else insertRange (min a first) (max b last) rest

/-- The ranges between ranges, from the code point `next` to the greatest one. -/
def gaps (greatest next : Nat) : List (Nat × Nat) → List (Nat × Nat)
  | [] => if next ≤ greatest then [(next, greatest)] else []
  | (a, b) :: rest =>
      let later := gaps greatest (b + 1) rest
      if next < a then (next, a - 1) :: later else later

def none : CharSet := ⟨[]⟩

def single (code : Nat) : CharSet := ⟨[(code, code)]⟩

/-- The set of some ranges in any order. -/
def ofRanges (ranges : List (Nat × Nat)) : CharSet :=
  ⟨ranges.foldr (fun (first, last) set => insertRange first last set) []⟩

def union (a b : CharSet) : CharSet :=
  ⟨a.ranges.foldr (fun (first, last) set => insertRange first last set) b.ranges⟩

/-- The code points up to the greatest one that are not in the set. -/
def complement (greatest : Nat) (a : CharSet) : CharSet := ⟨gaps greatest 0 a.ranges⟩

/-- The code points of both sets. -/
def inter (greatest : Nat) (a b : CharSet) : CharSet :=
  ((a.complement greatest).union (b.complement greatest)).complement greatest

/-- The code points of the first set that are not in the second. -/
def diff (greatest : Nat) (a b : CharSet) : CharSet := a.inter greatest (b.complement greatest)

/-- The code points of exactly one of both sets. -/
def symmDiff (greatest : Nat) (a b : CharSet) : CharSet :=
  (a.diff greatest b).union (b.diff greatest a)

/-- All code points of the set are those of ASCII. -/
def isAscii (set : CharSet) : Bool := set.ranges.all fun (_, last) => decide (last < 128)

def has (set : CharSet) (code : Nat) : Bool :=
  set.ranges.any fun (first, last) => decide (first ≤ code) && decide (code ≤ last)

def contains (set : CharSet) (c : Char) : Bool := Text.inRanges set.ranges c

/-- The set with the other case of each of its letters of ASCII. -/
def withBothCases (set : CharSet) : CharSet :=
  let lower := (List.range 26).filter fun (i : Nat) => set.has ('A'.toNat + i)
  let upper := (List.range 26).filter fun (i : Nat) => set.has ('a'.toNat + i)
  set.union (ofRanges (lower.map (fun i => ('a'.toNat + i, 'a'.toNat + i))
    ++ upper.map (fun i => ('A'.toNat + i, 'A'.toNat + i))))

end CharSet

end LiteralLang
