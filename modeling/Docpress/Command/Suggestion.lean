import Docpress.Text.Basic
/-!
Names that are close to a word that is none. How close two texts are is measured by the blocks that
they share: the longest one, and then those on either side of it.
-/

namespace Docpress.Command

/-- How many characters two texts have in common at their beginning. -/
def sharedLead : Text → Text → Nat
  | a :: s, b :: t => if a == b then sharedLead s t + 1 else 0
  | _, _ => 0

/-- A block that two texts share: where it begins in each, and its size. -/
structure Block where
  left : Nat
  right : Nat
  size : Nat
deriving DecidableEq, Repr

/-- The longest block that two texts share; of several the first. -/
def longestBlock (s t : Text) : Block :=
  let blocks := (List.range s.length).flatMap fun i =>
    (List.range t.length).map fun j => ⟨i, j, sharedLead (s.drop i) (t.drop j)⟩
  blocks.foldl (fun best b => if best.size < b.size then b else best) ⟨0, 0, 0⟩

/-- How many characters two texts share in blocks. The first number bounds how many blocks are
    looked for one inside the other. -/
def sharedCount : Nat → Text → Text → Nat
  | 0, _, _ => 0
  | n + 1, s, t =>
    let b := longestBlock s t
    if b.size == 0 then 0
    else sharedCount n (s.take b.left) (t.take b.right) + b.size +
      sharedCount n (s.drop (b.left + b.size)) (t.drop (b.right + b.size))

/-- A name and how close it is to a word: twice what they share, out of the length of both. -/
structure Candidate where
  name : Text
  shared : Nat
  total : Nat
deriving DecidableEq, Repr

/-- A name beside a word. -/
def Candidate.of (word name : Text) : Candidate :=
  ⟨name, 2 * sharedCount name.length name word, name.length + word.length⟩

/-- At least three fifths are shared. -/
def Candidate.isClose (c : Candidate) : Bool :=
  3 * c.total ≤ 5 * c.shared

/-- A candidate comes before another: it is closer, or its name comes later. -/
def Candidate.precedes (a b : Candidate) : Bool :=
  a.shared * b.total > b.shared * a.total ||
    (a.shared * b.total == b.shared * a.total && !Text.precedes a.name b.name)

/-- The names that are close to a word, the closest first, and three at most. -/
def closeNames (word : Text) (names : List Text) : List Text :=
  let candidates := (names.map (Candidate.of word)).filter Candidate.isClose
  ((candidates.mergeSort Candidate.precedes).take 3).map Candidate.name

end Docpress.Command
