/-!
# Sets of Characters

A set is a list of closed ranges of codes, which may overlap.  The codes between the two parts of
`CharSet.all` belong to no character.  Every operation is described by what the resulting set
contains.
-/

namespace StatementLang.Pattern

/-- A set of characters, as closed ranges of their codes. -/
structure CharSet where
  ranges : List (Nat × Nat)
deriving DecidableEq, Repr

namespace CharSet

def isWithin (code : Nat) (range : Nat × Nat) : Bool :=
  decide (range.1 ≤ code) && decide (code ≤ range.2)

def contains (set : CharSet) (code : Nat) : Bool := set.ranges.any (isWithin code)

def empty : CharSet := { ranges := [] }

def single (code : Nat) : CharSet := { ranges := [(code, code)] }

def all : CharSet := { ranges := [(0, 0xD7FF), (0xE000, 0x10FFFF)] }

def isEmpty (set : CharSet) : Bool := set.ranges.isEmpty

def isAscii (set : CharSet) : Bool := set.ranges.all fun range ↦ decide (range.2 ≤ 0x7F)

/-- What is left of a range without another one, below it and above it. -/
def cut (hole range : Nat × Nat) : List (Nat × Nat) :=
  (if range.1 < hole.1 then [(range.1, min range.2 (hole.1 - 1))] else []) ++
    (if hole.2 < range.2 then [(max range.1 (hole.2 + 1), range.2)] else [])

def union (first second : CharSet) : CharSet := { ranges := first.ranges ++ second.ranges }

def difference (first second : CharSet) : CharSet :=
  { ranges := second.ranges.foldl (fun ranges hole ↦ ranges.flatMap (cut hole)) first.ranges }

def intersection (first second : CharSet) : CharSet := first.difference (first.difference second)

def symmetricDifference (first second : CharSet) : CharSet :=
  (first.difference second).union (second.difference first)

def complement (set : CharSet) : CharSet := all.difference set

def between (first last : Nat) : CharSet := intersection { ranges := [(first, last)] } all

def raise (set : CharSet) (distance : Nat) : CharSet :=
  { ranges := set.ranges.map fun range ↦ (range.1 + distance, range.2 + distance) }

def lower (set : CharSet) (distance : Nat) : CharSet :=
  { ranges := set.ranges.map fun range ↦ (range.1 - distance, range.2 - distance) }

/-- Put a range among ranges in order that are apart, joined with those it overlaps or touches. -/
def insertRange (range : Nat × Nat) : List (Nat × Nat) → List (Nat × Nat)
  | [] => [range]
  | next :: later =>
    if range.2 + 1 < next.1 then range :: next :: later
    else if next.2 + 1 < range.1 then next :: insertRange range later
    else insertRange (min range.1 next.1, max range.2 next.2) later

/-- The ranges of a set in order, none of which can be joined to another. -/
def parts (set : CharSet) : List (Nat × Nat) := set.ranges.foldr insertRange []

def capitals : CharSet := { ranges := [(0x41, 0x5A)] }

def smalls : CharSet := { ranges := [(0x61, 0x7A)] }

/-- The set with both cases of every letter of ASCII that belongs to it. -/
def bothCases (set : CharSet) : CharSet :=
  (set.union ((set.intersection capitals).raise 0x20)).union
    ((set.intersection smalls).lower 0x20)

theorem any_isWithin_cut (code : Nat) (hole range : Nat × Nat) :
    (cut hole range).any (isWithin code) = (isWithin code range && !isWithin code hole) := by
  rw [Bool.eq_iff_iff]
  by_cases below : range.1 < hole.1 <;> by_cases above : hole.2 < range.2 <;>
    simp [cut, isWithin, below, above] <;> omega

theorem any_isWithin_insertRange (code : Nat) (range : Nat × Nat) (ranges : List (Nat × Nat)) :
    (insertRange range ranges).any (isWithin code) =
      (isWithin code range || ranges.any (isWithin code)) := by
  induction ranges generalizing range with
  | nil => rfl
  | cons next later ih =>
    have hjoined (touching : ¬ range.2 + 1 < next.1) (touched : ¬ next.2 + 1 < range.1) :
        isWithin code (min range.1 next.1, max range.2 next.2) =
          (isWithin code range || isWithin code next) := by
      rw [Bool.eq_iff_iff]
      simp [isWithin]
      omega
    unfold insertRange
    split
    · rfl
    · rename_i touching
      split
      · rw [List.any_cons, List.any_cons, ih, Bool.or_left_comm]
      · rename_i touched
        rw [ih, hjoined touching touched, List.any_cons, Bool.or_assoc]

/-- Joining ranges changes nothing of a set. -/
theorem any_isWithin_parts (set : CharSet) (code : Nat) :
    set.parts.any (isWithin code) = set.contains code := by
  obtain ⟨ranges⟩ := set
  induction ranges with
  | nil => rfl
  | cons range ranges ih =>
    have hparts : parts { ranges := range :: ranges } =
        insertRange range (parts { ranges := ranges }) := rfl
    rw [hparts, any_isWithin_insertRange, ih]
    rfl

@[simp]
theorem contains_union (first second : CharSet) (code : Nat) :
    (first.union second).contains code = (first.contains code || second.contains code) := by
  simp [contains, union]

@[simp]
theorem contains_difference (first second : CharSet) (code : Nat) :
    (first.difference second).contains code =
      (first.contains code && !second.contains code) := by
  obtain ⟨ranges⟩ := first
  obtain ⟨holes⟩ := second
  simp only [contains, difference]
  induction holes generalizing ranges with
  | nil => simp
  | cons hole holes ih =>
    have step : (ranges.flatMap (cut hole)).any (isWithin code) =
        (ranges.any (isWithin code) && !isWithin code hole) := by
      induction ranges with
      | nil => rfl
      | cons range ranges ihRanges =>
        simp only [List.flatMap_cons, List.any_append, List.any_cons, any_isWithin_cut, ihRanges,
          Bool.and_or_distrib_right]
    rw [List.foldl_cons, ih, step, List.any_cons, Bool.not_or, Bool.and_assoc]

@[simp]
theorem contains_intersection (first second : CharSet) (code : Nat) :
    (first.intersection second).contains code =
      (first.contains code && second.contains code) := by
  simp only [intersection, contains_difference]
  cases first.contains code <;> cases second.contains code <;> rfl

@[simp]
theorem contains_symmetricDifference (first second : CharSet) (code : Nat) :
    (first.symmetricDifference second).contains code =
      (first.contains code != second.contains code) := by
  simp only [symmetricDifference, contains_union, contains_difference]
  cases first.contains code <;> cases second.contains code <;> rfl

theorem contains_complement (set : CharSet) (code : Nat) :
    set.complement.contains code = (all.contains code && !set.contains code) :=
  contains_difference all set code

end CharSet

end StatementLang.Pattern
