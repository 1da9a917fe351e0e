/-
Regular expressions as terms, and matching by sets of positions.  The
places between the characters of a text are numbered from zero; a set of
places is a natural number, place `i` standing for bit `i`.  A term takes
the set of places where a match of it may start to the set of places where
such a match may end, so alternatives are unions, sequences compositions,
and no choice is ever taken back.

A round of a repetition moves every place forward or keeps it, so after
as many rounds as there are places nothing new can happen; that bounds
every loop here.
-/

namespace Docket

/-- Regular expressions over atoms of type `α`. -/
inductive Regex (α : Type) where
  | empty
  | atom (a : α)
  | seq (r s : Regex α)
  | alt (r s : Regex α)
  | rep (r : Regex α) (least : Nat) (most : Option Nat)
  | group (r : Regex α)
deriving DecidableEq, Repr

namespace Regex

variable {α β : Type}

/-- Replace the atoms. -/
def map (f : α → β) : Regex α → Regex β
  | empty => empty
  | atom a => atom (f a)
  | seq r s => seq (map f r) (map f s)
  | alt r s => alt (map f r) (map f s)
  | rep r least most => rep (map f r) least most
  | group r => group (map f r)

/-- The sequence of several terms. -/
def ofList : List (Regex α) → Regex α
  | [] => empty
  | [r] => r
  | r :: rest => seq r (ofList rest)

/-- The choice between a term and further ones. -/
def choice (first : Regex α) : List (Regex α) → Regex α
  | [] => first
  | r :: rest => alt first (choice r rest)

end Regex

/-- What an atom does with a set of places: go past one character at the
places of the mask, or keep the places of the mask. -/
inductive PlaceStep where
  | consume (mask : Nat)
  | keep (mask : Nat)

/-- The places that a step leads to. -/
def PlaceStep.run : PlaceStep → Nat → Nat
  | consume mask, p => (p &&& mask) <<< 1
  | keep mask, p => p &&& mask

/-- Apply a function a number of times. -/
def iterate (f : Nat → Nat) : Nat → Nat → Nat
  | 0, p => p
  | n + 1, p => iterate f n (f p)

/-- Add to `seen` the places reached from `front` in up to `n` rounds;
each round goes on from the places that are new. -/
def spread (f : Nat → Nat) : Nat → Nat → Nat → Nat
  | 0, seen, _ => seen
  | n + 1, seen, front =>
    let next := f front
    let fresh := next ^^^ (next &&& seen)
    if fresh = 0 then seen else spread f n (seen ||| fresh) fresh

/-- The places where a match may end, from the places where it may start,
in a text with `places` places. -/
def Regex.run (places : Nat) : Regex PlaceStep → Nat → Nat
  | empty, p => p
  | atom a, p => a.run p
  | seq r s, p => run places s (run places r p)
  | alt r s, p => run places r p ||| run places s p
  | group r, p => run places r p
  | rep r least most, p =>
    let start := iterate (run places r) (min least places) p
    let rounds := match most with
      | none => places
      | some k => min (k - least) places
    spread (run places r) rounds start start

/-- The characters before and behind each place of a text. -/
def surroundings (cs : List Char) : List (Option Char × Option Char) :=
  List.zip (none :: cs.map some) (cs.map some ++ [none])

/-- The set of places whose surroundings pass a test. -/
def placesWhere (test : Option Char → Option Char → Bool)
    (around : List (Option Char × Option Char)) : Nat :=
  around.foldr (fun (before, behind) mask =>
    2 * mask + if test before behind then 1 else 0) 0

end Docket
