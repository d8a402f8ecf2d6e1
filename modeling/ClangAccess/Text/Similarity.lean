namespace ClangAccess

namespace Similarity

/-- The first place from `low` on, below `high`, where `c` stands in `cs` and is not `taken` yet. -/
def partner? (c : Char) (cs : List Char) (taken : List Nat) (low high : Nat) : Option Nat :=
  (List.range' low (high - low)).find? fun j => cs[j]? = some c && !taken.contains j

/-- For each character of `as`, from place `i` on, its partner's place in `bs`. Partners stand at most
`reach` places apart and no place has two. -/
def partners (bs : List Char) (reach : Nat) : Nat → List Nat → List Char → List (Option Nat)
  | _, _, [] => []
  | i, taken, a :: as =>
    match partner? a bs taken (i - reach) (min bs.length (i + reach + 1)) with
    | some j => some j :: partners bs reach (i + 1) (j :: taken) as
    | none => none :: partners bs reach (i + 1) taken as

end Similarity

/-- Jaro's measure of how alike two words are, between zero and one: the mean of the shares of their
characters that have partners, and the share of partners that stand in the same order. -/
def similarity (as bs : List Char) : Rat :=
  if as.isEmpty && bs.isEmpty then 1
  else if as.isEmpty || bs.isEmpty then 0
  else
    let found := Similarity.partners bs (max as.length bs.length / 2 - 1) 0 [] as
    let places := found.filterMap id
    let fromFirst := (as.zip found).filterMap fun (a, place) => place.map fun _ => a
    let fromSecond := (List.range bs.length).filterMap fun j => if places.contains j then bs[j]? else none
    let swaps := ((fromFirst.zip fromSecond).filter fun (a, b) => a != b).length / 2
    let matched := places.length
    if matched = 0 then 0
    else
      ((matched : Rat) / as.length + (matched : Rat) / bs.length + ((matched - swaps : Nat) : Rat) / matched) / 3

/-- The candidates that a mistyped word may stand for, the most alike last. -/
def similarTo (word : String) (candidates : List String) : List String :=
  let scored := candidates.map fun c => (similarity word.toList c.toList, c)
  let near := scored.filter fun (score, _) => decide (7 / 10 ≤ score)
  (near.mergeSort fun a b => decide (a.1 ≤ b.1)).map Prod.snd

end ClangAccess
