/-!
# Similarity of texts

How alike two texts are, as a number from 0 to 1. Characters of one text are paired, in order and each
once, with equal characters of the other that stand near the same place. The similarity is the mean of
three shares: of the characters of either text that are paired, and of the pairs that stand in the same
order in both texts.
-/
namespace TypedRoutes.Text

/-- Marks the first character equal to `c` that is not marked yet and stands at most `reach` places
from place `i`. The characters are those from place `j` on. -/
def markNear? (reach i : Nat) (c : Char) : Nat → List (Char × Bool) → Option (List (Char × Bool))
  | _, [] => none
  | j, (d, marked) :: rest =>
    if c = d ∧ ¬ marked ∧ i ≤ j + reach ∧ j ≤ i + reach then some ((d, true) :: rest)
    else (markNear? reach i c (j + 1) rest).map ((d, marked) :: ·)

/-- The characters of a text, from place `i` on, that find partners in another, and the other text with
the partners marked. -/
def pairUp (reach : Nat) : Nat → List Char → List (Char × Bool) → List Char × List (Char × Bool)
  | _, [], ds => ([], ds)
  | i, c :: cs, ds =>
    match markNear? reach i c 0 ds with
    | some ds =>
      let (paired, ds) := pairUp reach (i + 1) cs ds
      (c :: paired, ds)
    | none => pairUp reach (i + 1) cs ds

/-- The characters of two texts that are paired, in the order of either text. -/
def pairs (cs ds : List Char) : List Char × List Char :=
  let reach := max cs.length ds.length / 2 - 1
  let (paired, marked) := pairUp reach 0 cs (ds.map fun d => (d, false))
  (paired, (marked.filter (·.2)).map (·.1))

/-- The number of pairs that stand in another order: half the places at which the orders differ. -/
def transpositions (cs ds : List Char) : Nat :=
  ((cs.zip ds).filter fun (c, d) => c ≠ d).length / 2

/-- How alike two texts are. -/
def similarity (s t : String) : Float :=
  let cs := s.toList
  let ds := t.toList
  let (ps, qs) := pairs cs ds
  if cs.isEmpty ∧ ds.isEmpty then 1
  else if ps.isEmpty then 0
  else
    let count := Float.ofNat ps.length
    let ordered := Float.ofNat (ps.length - transpositions ps qs)
    (count / Float.ofNat cs.length + count / Float.ofNat ds.length + ordered / count) / 3

/-- The least similarity, itself excluded, at which one text may be meant by another. -/
def similarityBound : Float := 0.7

/-- Those things of which the names are similar to a text, from the least similar to the most; equally
similar ones keep their order. -/
def similar {α : Type} (name : α → String) (text : String) (things : List α) : List α :=
  let scored := things.map fun a => (similarity text (name a), a)
  ((scored.filter (similarityBound < ·.1)).mergeSort (fun x y => x.1 ≤ y.1)).map (·.2)

end TypedRoutes.Text
