/-!
# How alike two words are

The likeness of two words by Jaro, with the premium of Winkler for a common beginning, as a fraction between 0 and 1. Characters
match if they are the same and stand not too far from each other, each one once; the likeness is the mean of the share of matching
characters in the one word, of their share in the other one, and of the share of them that match in order.
-/

namespace Seedbed.Text

/-- A fraction, the denominator of which is not zero. -/
structure Fraction where
  num : Nat
  den : Nat
  deriving DecidableEq, Repr

/-- Whether a fraction is less than another one. -/
def Fraction.below (a b : Fraction) : Bool := a.num * b.den < b.num * a.den

/-- A word whose characters are marked if they are taken. -/
abbrev Marked := List (Char × Bool)

/-- The word with the first character taken that is free, is the given one, and stands between the two places; `place` is that of
the first character of the word. -/
def takeMatch (c : Char) (low high : Nat) : Nat → Marked → Option Marked
  | _, [] => none
  | place, (d, taken) :: rest =>
    if low ≤ place ∧ place < high ∧ taken = false ∧ c = d then some ((d, true) :: rest)
    else (takeMatch c low high (place + 1) rest).map ((d, taken) :: ·)

/-- The characters of a word, from the given place on, that match one of another word within a range, and the other word with
those taken. -/
def matching (range : Nat) : Nat → List Char → Marked → List Char × Marked
  | _, [], other => ([], other)
  | place, c :: rest, other =>
    match takeMatch c (place - range) (place + range + 1) 0 other with
    | some other =>
      let (matched, other) := matching range (place + 1) rest other
      (c :: matched, other)
    | none => matching range (place + 1) rest other

/-- The likeness of two words by Jaro. -/
def jaro (a b : List Char) : Fraction :=
  if a = [] ∧ b = [] then ⟨1, 1⟩
  else
    let (matched, marked) := matching (max a.length b.length / 2 - 1) 0 a (b.map (fun c => (c, false)))
    let m := matched.length
    if m = 0 then ⟨0, 1⟩
    else
      let others := (marked.filter Prod.snd).map Prod.fst
      let swaps := ((matched.zip others).filter (fun (c, d) => c ≠ d)).length / 2
      ⟨m * m * b.length + m * m * a.length + (m - swaps) * a.length * b.length, 3 * m * a.length * b.length⟩

/-- How many characters two words have in common at their beginnings. -/
def commonBeginning : List Char → List Char → Nat
  | c :: a, d :: b => if c = d then commonBeginning a b + 1 else 0
  | _, _ => 0

/-- The likeness of two words: where they are more alike than seven tenths, each of up to four common characters at the beginning
makes up a tenth of what is missing. -/
def likeness (a b : List Char) : Fraction :=
  let j := jaro a b
  if Fraction.below ⟨7, 10⟩ j then ⟨10 * j.num + min 4 (commonBeginning a b) * (j.den - j.num), 10 * j.den⟩ else j

/-- The first of the words that are most like a word, with its likeness. -/
def mostAlike (words : List String) (word : String) : String × Fraction :=
  words.foldl (fun best candidate =>
    let l := likeness candidate.toList word.toList
    if best.2.below l then (candidate, l) else best) ("", ⟨0, 1⟩)

end Seedbed.Text
