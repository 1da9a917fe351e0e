/-
Sets of code points.  A set is a list of closed intervals; `normalize`
puts the intervals in order, apart and non-empty, and the operations of
the character class algebra are built from union and complement.

Main statements: normalizing keeps the members, and the members of a
union are those of either set.
-/

namespace Docket

/-- A set of code points, as closed intervals. -/
structure CodeSet where
  spans : List (Nat × Nat)
deriving DecidableEq, Repr

namespace CodeSet

/-- The largest code point. -/
def top : Nat := 0x10FFFF

/-- Membership. -/
def contains (s : CodeSet) (n : Nat) : Bool :=
  s.spans.any fun (lo, hi) => lo ≤ n && n ≤ hi

/-- No code point. -/
def empty : CodeSet := ⟨[]⟩

/-- Every code point. -/
def full : CodeSet := ⟨[(0, top)]⟩

/-- One code point. -/
def single (n : Nat) : CodeSet := ⟨[(n, n)]⟩

/-- The code points from `lo` to `hi`. -/
def range (lo hi : Nat) : CodeSet := ⟨[(lo, hi)]⟩

/-- Join intervals that are in order of their starts. -/
def joinAll : List (Nat × Nat) → List (Nat × Nat)
  | [] => []
  | span :: rest => go span rest
where
  /-- Grow `span` by the intervals that touch it. -/
  go (span : Nat × Nat) : List (Nat × Nat) → List (Nat × Nat)
    | [] => [span]
    | next :: rest =>
      if next.1 ≤ span.2 + 1 then go (span.1, max span.2 next.2) rest
      else span :: go next rest

/-- The same set with its intervals in order and apart. -/
def normalize (s : CodeSet) : CodeSet :=
  ⟨joinAll (s.spans.mergeSort fun a b => a.1 ≤ b.1)⟩

/-- The code points of either set. -/
def union (a b : CodeSet) : CodeSet := normalize ⟨a.spans ++ b.spans⟩

/-- The code points of any of the sets. -/
def unions (ss : List CodeSet) : CodeSet := normalize ⟨ss.flatMap spans⟩

/-- The gaps between ordered intervals, from `start` up to `last`. -/
def gaps (last start : Nat) : List (Nat × Nat) → List (Nat × Nat)
  | [] => if start ≤ last then [(start, last)] else []
  | (lo, hi) :: rest =>
    if start < lo then (start, lo - 1) :: gaps last (hi + 1) rest
    else gaps last (hi + 1) rest

/-- The code points that are not in a set. -/
def complement (s : CodeSet) : CodeSet := ⟨gaps top 0 s.normalize.spans⟩

/-- The code points of both sets. -/
def inter (a b : CodeSet) : CodeSet := complement (union (complement a) (complement b))

/-- The code points of the first set that are not in the second. -/
def diff (a b : CodeSet) : CodeSet := complement (union (complement a) b)

/-- The code points of exactly one of the sets. -/
def symmDiff (a b : CodeSet) : CodeSet := union (diff a b) (diff b a)

/-- Every member is below `bound`. -/
def allBelow (s : CodeSet) (bound : Nat) : Bool := s.spans.all fun (_, hi) => hi < bound

-- ========================================================== membership

/-- Membership in a list of intervals laid end to end. -/
theorem contains_append (a b : List (Nat × Nat)) (n : Nat) :
    (CodeSet.mk (a ++ b)).contains n = ((CodeSet.mk a).contains n || (CodeSet.mk b).contains n) := by
  simp [contains, List.any_append]

/-- Membership in a list of intervals, the first one apart. -/
theorem contains_cons (span : Nat × Nat) (spans : List (Nat × Nat)) (n : Nat) :
    (CodeSet.mk (span :: spans)).contains n
      = ((decide (span.1 ≤ n) && decide (n ≤ span.2)) || (CodeSet.mk spans).contains n) := rfl

/-- Growing an interval by those that touch it keeps the members, when
none of them starts in front of it. -/
theorem contains_joinAll_go (n : Nat) (span : Nat × Nat) (spans : List (Nat × Nat))
    (h : (span :: spans).Pairwise fun a b => a.1 ≤ b.1) :
    (CodeSet.mk (joinAll.go span spans)).contains n = (CodeSet.mk (span :: spans)).contains n := by
  induction spans generalizing span with
  | nil => rfl
  | cons next rest ih =>
    obtain ⟨hspan, hnext⟩ := List.pairwise_cons.1 h
    have hle : span.1 ≤ next.1 := hspan next (List.mem_cons_self ..)
    rw [joinAll.go]
    split
    · next htouch =>
      have hgrown : ((span.1, max span.2 next.2) :: rest).Pairwise fun a b => a.1 ≤ b.1 :=
        List.pairwise_cons.2
          ⟨fun s hs => hspan s (List.mem_cons_of_mem _ hs), (List.pairwise_cons.1 hnext).2⟩
      rw [ih _ hgrown]
      simp only [contains_cons, ← Bool.or_assoc]
      congr 1
      rw [Bool.eq_iff_iff]
      simp only [Bool.or_eq_true, Bool.and_eq_true, decide_eq_true_eq]
      omega
    · rw [contains_cons, ih _ hnext, ← contains_cons]

/-- Normalizing keeps the members. -/
theorem contains_normalize (s : CodeSet) (n : Nat) : s.normalize.contains n = s.contains n := by
  have hsorted : (s.spans.mergeSort fun a b => a.1 ≤ b.1).Pairwise fun a b => a.1 ≤ b.1 := by
    refine (List.pairwise_mergeSort (fun a b c => ?_) (fun a b => ?_) s.spans).imp ?_
    · simp only [decide_eq_true_eq]
      omega
    · simp only [Bool.or_eq_true, decide_eq_true_eq]
      omega
    · simp
  have hperm : (CodeSet.mk (s.spans.mergeSort fun a b => a.1 ≤ b.1)).contains n = s.contains n :=
    (List.mergeSort_perm _ _).any_eq
  rw [← hperm]
  unfold normalize
  cases h : s.spans.mergeSort fun a b => a.1 ≤ b.1 with
  | nil => rfl
  | cons span rest =>
    rw [h] at hsorted
    exact contains_joinAll_go n span rest hsorted

/-- The members of a union are those of either set. -/
theorem contains_union (a b : CodeSet) (n : Nat) :
    (union a b).contains n = (a.contains n || b.contains n) := by
  rw [union, contains_normalize, contains_append]

/-- The members of the union of several sets are those of any of them. -/
theorem contains_unions (ss : List CodeSet) (n : Nat) :
    (unions ss).contains n = ss.any fun s => s.contains n := by
  rw [unions, contains_normalize]
  induction ss with
  | nil => rfl
  | cons s rest ih => rw [List.flatMap_cons, contains_append, ih, List.any_cons]

end CodeSet

end Docket
