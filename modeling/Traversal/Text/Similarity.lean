/-!
# Similar words

How similar two words are, to guess which word was meant.  Two equal characters match if they stand at
about the same place, and each character matches at most once.  The measure counts the share of matched
characters in both words and the share of those that come in the same order.
-/

namespace Traversal.Text

/-- How far apart matching characters may be, in words of two lengths. -/
def matchingRange (m n : Nat) : Nat :=
  max m n / 2 - 1

/-- The characters of a word, from a position on, that match characters of another word, with the places
of those.  Some places are taken already. -/
def matched (word : List Char) (range : Nat) : Nat → List Char → List Nat → List (Char × Nat)
  | _, [], _ => []
  | i, c :: rest, taken =>
    let first := i - range
    let places := List.range' first (min word.length (i + range + 1) - first)
    match places.find? fun j => word[j]? = some c && !taken.contains j with
    | some j => (c, j) :: matched word range (i + 1) rest (j :: taken)
    | none => matched word range (i + 1) rest taken

/-- The similarity of two words, from zero to one. -/
def similarity (a b : List Char) : Float :=
  let pairs := matched b (matchingRange a.length b.length) 0 a []
  let places := (pairs.map (·.2)).mergeSort (· ≤ ·)
  let crossed := (pairs.zip places).countP fun (pair, j) => b[j]? ≠ some pair.1
  let share (n total : Nat) : Float := Float.ofNat n / Float.ofNat total
  let m := pairs.length
  if m = 0 then 0 else (share m a.length + share m b.length + share (m - crossed / 2) m) / 3

/-- The similarity beyond which one word may have been meant by another one. -/
def similarityThreshold : Float := 0.7

/-- The candidate that is most similar to a word, if any is similar enough; of two the later one. -/
def closest? (word : String) (candidates : List String) : Option String :=
  (candidates.foldl (fun best? candidate =>
    let s := similarity word.toList candidate.toList
    if similarityThreshold < s && best?.all (fun best => best.1 ≤ s) then some (s, candidate)
    else best?) (none : Option (Float × String))).map (·.2)

end Traversal.Text
