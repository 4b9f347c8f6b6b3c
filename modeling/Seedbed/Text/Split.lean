/-!
# Texts in parts

The parts of a text between all occurrences of a mark, and the two parts of a text around the first or the last one.
-/

namespace Seedbed.Text

/-- The parts of a text between the marks in it, one more than there are marks. -/
def splitAll (mark : Char) : List Char → List (List Char)
  | [] => [[]]
  | c :: rest =>
    match splitAll mark rest with
    | first :: more => if c = mark then [] :: first :: more else (c :: first) :: more
    | [] => [[c]]

/-- The parts of a text before and after the first mark in it. -/
def splitFirst? (mark : Char) : List Char → Option (List Char × List Char)
  | [] => none
  | c :: rest => if c = mark then some ([], rest) else (splitFirst? mark rest).map (fun (before, after) => (c :: before, after))

/-- The parts of a text before and after the last mark in it. -/
def splitLast? (mark : Char) (text : List Char) : Option (List Char × List Char) :=
  (splitFirst? mark text.reverse).map (fun (after, before) => (before.reverse, after.reverse))

end Seedbed.Text
