/-!
# Similar Words

The similarity of two words counts the letters that they have in common at nearby places.  With `m`
common letters in words of `a` and `b` letters, of which `t` pairs stand in another order, it is the
mean of `m / a`, `m / b` and `(m - t) / m`, and zero without common letters.
-/

namespace StatementLang.Text

structure Ratio where
  numerator : Nat
  denominator : Nat
deriving DecidableEq, Repr

def Ratio.atMost (first second : Ratio) : Bool :=
  decide (first.numerator * second.denominator ≤ second.numerator * first.denominator)

/-- How far apart two common letters may stand. -/
def window (first second : List Char) : Nat := max first.length second.length / 2 - 1

/-- The first place near `place` in a word that holds a letter and is not taken. -/
def partner (word : List Char) (reach : Nat) (taken : List Nat) (letter : Char) (place : Nat) :
    Option Nat :=
  (List.range word.length).find? fun other ↦
    decide (place ≤ other + reach) && decide (other ≤ place + reach) && !taken.contains other &&
      word[other]? == some letter

/-- The places of the common letters in the first word, each with its place in the second. -/
def commonPlaces (first second : List Char) : List (Nat × Nat) :=
  first.zipIdx.foldl
    (fun places (letter, place) ↦
      match partner second (window first second) (places.map Prod.snd) letter place with
      | some other => places ++ [(place, other)]
      | none => places)
    []

def similarity (first second : String) : Ratio :=
  let first := first.toList
  let second := second.toList
  let places := commonPlaces first second
  let common := places.length
  if common = 0 then { numerator := 0, denominator := 1 }
  else
    let inFirst := places.map fun place ↦ first[place.1]?
    let inSecond := ((places.map Prod.snd).mergeSort).map fun place ↦ second[place]?
    let displaced := (inFirst.zip inSecond).countP fun letters ↦ letters.1 != letters.2
    let ordered := common - displaced / 2
    { numerator :=
        common * common * second.length + common * common * first.length +
          ordered * first.length * second.length
      denominator := 3 * first.length * second.length * common }

/-- The least similarity of a word that is worth suggesting. -/
def suggestionThreshold : Ratio := { numerator := 7, denominator := 10 }

def similarNames (word : String) (names : List String) : List String :=
  let rated := names.map fun name ↦ (similarity word name, name)
  let similar := rated.filter fun name ↦ suggestionThreshold.atMost name.1
  (similar.mergeSort fun first second ↦ first.1.atMost second.1).map Prod.snd

/-- Four of five letters in order are similar enough. -/
example : suggestionThreshold.atMost (similarity "chek" "check") = true := by cbv

/-- The mean is exactly the threshold: three of six and three of five letters, in order. -/
example : similarity "chexyz" "check" =
    { numerator := 189, denominator := 270 } := by cbv

end StatementLang.Text
