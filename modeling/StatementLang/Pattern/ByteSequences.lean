import StatementLang.Pattern.CharSet

/-!
# Sets of Characters as Sequences of Bytes

The characters of a set are spelled with one to four bytes in UTF-8.  Its ranges are cut into parts
such that, over a part, every byte of the spelling runs through a range of its own.  The sequences
of these ranges are what the automata for the set are built from, one for each direction of reading.
-/

namespace StatementLang.Pattern

/-- Ranges of bytes, one after another. -/
abbrev ByteSequence := List (UInt8 × UInt8)

namespace ByteSequence

/-- The characters that are spelled with one, two, three, again three, and four bytes. -/
def lengthClasses : List (Nat × Nat) :=
  [(0, 0x7F), (0x80, 0x7FF), (0x800, 0xD7FF), (0xE000, 0xFFFF), (0x10000, 0x10FFFF)]

def meet (first second : Nat × Nat) : List (Nat × Nat) :=
  if max first.1 second.1 ≤ min first.2 second.2 then
    [(max first.1 second.1, min first.2 second.2)]
  else []

/-- The parts of a range before the first multiple of a unit, up to the last, and from there on.  A
range inside of one unit stays whole. -/
def cutAt (unit : Nat) (range : Nat × Nat) : List (Nat × Nat) :=
  let start := (range.1 + unit - 1) / unit * unit
  let stop := (range.2 + 1) / unit * unit
  if stop < start then [range]
  else
    (if range.1 < start then [(range.1, start - 1)] else []) ++
      (if start < stop then [(start, stop - 1)] else []) ++
        if stop ≤ range.2 then [(stop, range.2)] else []

/-- The parts of a range with spellings of one length.  Every byte behind the first carries six
bits. -/
def cutAtBytes (range : Nat × Nat) : List (Nat × Nat) :=
  if range.2 ≤ 0x7F then [range]
  else ((cutAt 64 range).flatMap (cutAt (64 * 64))).flatMap (cutAt (64 * 64 * 64))

/-- The parts of a range over which every byte of the spelling has a range of its own. -/
def evenParts (range : Nat × Nat) : List (Nat × Nat) :=
  lengthClasses.flatMap fun lengthClass ↦ (meet lengthClass range).flatMap cutAtBytes

theorem any_isWithin_flatMap {code : Nat} {parts : Nat × Nat → List (Nat × Nat)}
    {ranges : List (Nat × Nat)}
    (h : ∀ range, (parts range).any (CharSet.isWithin code) = CharSet.isWithin code range) :
    (ranges.flatMap parts).any (CharSet.isWithin code) = ranges.any (CharSet.isWithin code) := by
  rw [List.any_flatMap]
  exact congrArg ranges.any (funext h)

theorem any_isWithin_meet (code : Nat) (first second : Nat × Nat) :
    (meet first second).any (CharSet.isWithin code) =
      (CharSet.isWithin code first && CharSet.isWithin code second) := by
  rw [Bool.eq_iff_iff]
  by_cases overlap : max first.1 second.1 ≤ min first.2 second.2 <;>
    simp [meet, CharSet.isWithin, overlap] <;> omega

theorem any_isWithin_cutAt {unit : Nat} (positive : 0 < unit) (code : Nat) (range : Nat × Nat) :
    (cutAt unit range).any (CharSet.isWithin code) = CharSet.isWithin code range := by
  have hstart : range.1 ≤ (range.1 + unit - 1) / unit * unit := by
    have hbelow := Nat.lt_div_mul_add positive (a := range.1 + unit - 1)
    omega
  have hstop : (range.2 + 1) / unit * unit ≤ range.2 + 1 := Nat.div_mul_le_self _ _
  unfold cutAt
  generalize (range.1 + unit - 1) / unit * unit = start at *
  generalize (range.2 + 1) / unit * unit = stop at *
  rw [Bool.eq_iff_iff]
  by_cases inside : stop < start
  · simp [inside]
  · by_cases before : range.1 < start <;> by_cases between : start < stop <;>
      by_cases behind : stop ≤ range.2 <;>
        simp [CharSet.isWithin, inside, before, between, behind] <;> omega

theorem any_isWithin_cutAtBytes (code : Nat) (range : Nat × Nat) :
    (cutAtBytes range).any (CharSet.isWithin code) = CharSet.isWithin code range := by
  unfold cutAtBytes
  split
  · exact Bool.or_false _
  · rw [any_isWithin_flatMap (any_isWithin_cutAt (by decide) code),
      any_isWithin_flatMap (any_isWithin_cutAt (by decide) code),
      any_isWithin_cutAt (by decide)]

/-- The parts of a range hold the characters of the range, and no code that is none. -/
theorem any_isWithin_evenParts (code : Nat) (range : Nat × Nat) :
    (evenParts range).any (CharSet.isWithin code) =
      (CharSet.all.contains code && CharSet.isWithin code range) := by
  have hparts (lengthClass : Nat × Nat) :
      ((meet lengthClass range).flatMap cutAtBytes).any (CharSet.isWithin code) =
        (CharSet.isWithin code lengthClass && CharSet.isWithin code range) := by
    rw [any_isWithin_flatMap (any_isWithin_cutAtBytes code), any_isWithin_meet]
  have hall : lengthClasses.any (CharSet.isWithin code) = CharSet.all.contains code := by
    rw [Bool.eq_iff_iff]
    simp [lengthClasses, CharSet.all, CharSet.contains, CharSet.isWithin]
    omega
  rw [evenParts, List.any_flatMap, funext hparts, ← hall, List.and_any_distrib_right]

/-- The even parts of a set hold the characters that belong to it. -/
theorem any_isWithin_evenParts_of_set (code : Nat) (set : CharSet) :
    (set.parts.flatMap evenParts).any (CharSet.isWithin code) =
      (CharSet.all.contains code && set.contains code) := by
  rw [List.any_flatMap, funext (any_isWithin_evenParts code), ← CharSet.any_isWithin_parts set,
    List.and_any_distrib_left]

/-- The ranges of the bytes that spell the characters of an even part. -/
def ofPart (part : Nat × Nat) : ByteSequence :=
  (String.utf8EncodeChar (Char.ofNat part.1)).zip (String.utf8EncodeChar (Char.ofNat part.2))

/-- The sequences for a set, in the order of the characters that they spell. -/
def ofSet (set : CharSet) : List ByteSequence :=
  (set.parts.flatMap evenParts).map ofPart

/-- All characters are spelled by nine sequences. -/
example : (ofSet .all).map List.length = [1, 2, 3, 3, 3, 3, 4, 4, 4] := by decide +kernel

/-! ## Automata -/

/-- The first ranges of some sequences, each with what is left of the sequences that start with
it. -/
def branches : List ByteSequence → List ((UInt8 × UInt8) × List ByteSequence)
  | [] => []
  | [] :: sequences => branches sequences
  | (first :: rest) :: sequences =>
    match branches sequences with
    | (other, rests) :: later =>
      if first = other then (first, rest :: rests) :: later
      else (first, [rest]) :: (other, rests) :: later
    | [] => [(first, [rest])]

/-- The states of the automaton that reads sequences of at most some length from the front.  A state
is what is left to read there. -/
def forwardStates : Nat → List ByteSequence → List (List ByteSequence)
  | 0, _ => []
  | length + 1, sequences =>
    match branches sequences with
    | [] => []
    | next => sequences :: next.flatMap fun branch ↦ forwardStates length branch.2

/-- The states of the automaton that reads sequences from the back.  A state is what is left to read
of one of them. -/
def backwardStates (sequences : List ByteSequence) : List ByteSequence :=
  sequences.flatMap fun sequence ↦
    (List.range sequence.length).map fun length ↦ sequence.take (length + 1)

end ByteSequence

inductive Direction where
  | forward
  | backward
deriving DecidableEq, Repr

/-- The space that the automaton for some sequences takes in a direction.  Equal states are one.
Forward, a state chooses between ranges; backward, it has a single one, and the automaton starts
with a choice between the sequences. -/
def ByteSequence.space (sequences : List ByteSequence) : Direction → Nat
  | .forward =>
    let states := (forwardStates 4 sequences).eraseDups
    32 + 32 * states.length + 8 * (states.flatMap branches).length
  | .backward =>
    let states := (backwardStates sequences).eraseDups
    64 + 4 * sequences.length + 32 * states.length

/-- The two cases of é have their first byte in common. -/
example :
    let sequences := ByteSequence.ofSet { ranges := [(0xE9, 0xE9), (0xC9, 0xC9)] }
    ByteSequence.space sequences .forward = 120 ∧ ByteSequence.space sequences .backward = 168 := by
  decide +kernel

end StatementLang.Pattern
