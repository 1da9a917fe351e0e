/-
The size of the byte automaton of a pattern.  Patterns are small texts
that can stand for very large automata, so each is measured before it is
accepted: one pass counts the automaton that reads forwards, another the
one that reads backwards, both in bytes, and neither may pass `maxBytes`.

A state takes 32 bytes, a transition of a branching state 8 more, and the
link to an alternative 4 more.  A set of characters is a tree of byte
ranges: the forward automaton shares equal branches, the backward one
equal beginnings.
-/
import Std.Data.HashSet
import Docket.Pattern.Atom

namespace Docket.Pattern

/-- The most bytes that an automaton may take. -/
def maxBytes : Nat := 10485760

/-- The bytes of one state. -/
def stateBytes : Nat := 32

-- ======================================================== byte sequences

/-- The UTF-8 form of a code point. -/
def utf8Bytes (n : Nat) : List Nat :=
  let tail (unit : Nat) : Nat := 0x80 + n / unit % 64
  if n < 0x80 then [n]
  else if n < 0x800 then [0xC0 + n / 0x40, tail 1]
  else if n < 0x10000 then [0xE0 + n / 0x1000, tail 0x40, tail 1]
  else [0xF0 + n / 0x40000, tail 0x1000, tail 0x40, tail 1]

/-- Where to cut an interval of code points whose UTF-8 forms are not a
single sequence of byte ranges: the last code point of the first piece. -/
def cutAfter? (lo hi : Nat) : Option Nat :=
  match [0x7F, 0x7FF, 0xFFFF].find? fun last => lo ≤ last && last < hi with
  | some last => some last
  | none =>
    if hi ≤ 0x7F then none
    else [0x40, 0x1000, 0x40000].findSome? fun block =>
      if lo / block = hi / block then none
      else if lo % block ≠ 0 then some (lo / block * block + block - 1)
      else if hi % block ≠ block - 1 then some (hi / block * block - 1)
      else none

/-- The sequences of byte ranges of an interval, cut at most `fuel` deep. -/
def byteRanges : Nat → Nat → Nat → List (List (Nat × Nat))
  | 0, _, _ => []
  | fuel + 1, lo, hi =>
    match cutAfter? lo hi with
    | some last => byteRanges fuel lo last ++ byteRanges fuel (last + 1) hi
    | none => [List.zip (utf8Bytes lo) (utf8Bytes hi)]

/-- The sequences of byte ranges of a set; half surrogates have no form. -/
def CodeSet.byteRanges (s : CodeSet) : List (List (Nat × Nat)) :=
  let text := s.inter ⟨[(0, 0xD7FF), (0xE000, CodeSet.top)]⟩
  text.spans.flatMap fun (lo, hi) => Pattern.byteRanges 64 lo hi

/-- The distinct branches of a tree of sequences, `depth` levels deep, and
the transitions that leave them. -/
def branches : Nat → List (List (Nat × Nat)) →
    Std.HashSet (List (List (Nat × Nat))) × Nat →
    Std.HashSet (List (List (Nat × Nat))) × Nat
  | 0, _, acc => acc
  | depth + 1, seqs, acc =>
    if seqs.isEmpty || acc.1.contains seqs then acc
    else
      let groups := seqs.splitBy fun a b => a.head? == b.head?
      let acc := (acc.1.insert seqs, acc.2 + groups.length)
      groups.foldl (fun acc g =>
        branches depth ((g.map (List.drop 1)).filter (!·.isEmpty)) acc) acc

/-- The distinct beginnings of sequences. -/
def beginnings (seqs : List (List (Nat × Nat))) : Nat :=
  (seqs.foldl (fun (s : Std.HashSet (List (Nat × Nat))) seq =>
    (List.range seq.length).foldl (fun s i => s.insert (seq.take (i + 1))) s)
    (Std.HashSet.emptyWithCapacity 64)).size

-- ============================================================== measuring

/-- The direction an automaton reads in. -/
inductive Direction where
  | forwards
  | backwards
deriving DecidableEq

/-- The bytes for an atom. -/
def atomBytes (d : Direction) : Atom → Nat
  | .look _ _ => stateBytes
  | .char set =>
    match set.normalize.spans with
    | [] => stateBytes
    | spans =>
      if spans.length = 1 && spans.all fun (lo, hi) => lo = hi then
        stateBytes * spans.foldl (fun n (lo, _) => n + (utf8Bytes lo).length) 0
      else if spans.all fun (_, hi) => hi < 0x80 then 2 * stateBytes + 8 * spans.length
      else
        let seqs := CodeSet.byteRanges set
        match d with
        | .forwards =>
          let (nodes, transitions) := branches 4 seqs (Std.HashSet.emptyWithCapacity 64, 0)
          stateBytes * (nodes.size + 1) + 8 * transitions
        | .backwards => stateBytes * (beginnings seqs + 2) + 4 * seqs.length

end Pattern

open Pattern in
/-- The term matches the empty text only. -/
def Regex.isHollow : Regex Atom → Bool
  | empty => true
  | atom (.char _) => false
  | atom (.look _ _) => true
  | seq r s => r.isHollow && s.isHollow
  | alt r s => r.isHollow && s.isHollow
  | rep r _ most => r.isHollow || most = some 0
  | group r => r.isHollow

/-- The term matches the empty text among others. -/
def Regex.takesEmpty : Regex Atom → Bool
  | empty => true
  | atom (.char _) => false
  | atom (.look _ _) => true
  | seq r s => r.takesEmpty && s.takesEmpty
  | alt r s => r.takesEmpty || s.takesEmpty
  | rep r least _ => least = 0 || r.takesEmpty
  | group r => r.takesEmpty

/-- The bytes for a term, `chained` telling that it is a further
alternative of a choice that is already counted. -/
def Regex.bytes (d : Pattern.Direction) (chained : Bool) : Regex Atom → Nat
  | empty => Pattern.stateBytes
  | atom a => Pattern.atomBytes d a
  | seq r s => r.bytes d false + s.bytes d false
  | alt r s =>
    (if chained then 4 else 2 * Pattern.stateBytes + 8) + r.bytes d false + s.bytes d true
  | group r =>
    (match d with
      | .forwards => 2 * Pattern.stateBytes
      | .backwards => 0) + r.bytes d false
  | rep r least most =>
    let one := r.bytes d false
    let branch := Pattern.stateBytes + 8
    let (least, most) :=
      if r.isHollow then (min least 1, some (min (most.getD 1) 1)) else (least, most)
    match most with
    | none =>
      if least = 0 then
        if r.takesEmpty then one + 2 * branch + Pattern.stateBytes else one + branch
      else least * one + branch
    | some most =>
      if most = 0 then Pattern.stateBytes
      else if least = 0 && most = 1 then one + branch + Pattern.stateBytes
      else if least = most then least * one
      else (if least = 0 then Pattern.stateBytes else least * one)
        + (most - least) * (one + branch) + Pattern.stateBytes

/-- Both automata of the term keep within bounds; what every automaton
has besides the term's own states takes a few states more. -/
def Regex.fits (r : Regex Atom) : Bool :=
  r.bytes .forwards false + 300 ≤ Pattern.maxBytes
    && r.bytes .backwards false + 200 ≤ Pattern.maxBytes

end Docket
