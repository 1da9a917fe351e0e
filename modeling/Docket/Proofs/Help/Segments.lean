/-
The segments of a colored command.  A command is cut at the `<` and `>` of
its placeholders; what is colored are the segments, one behind the other.

# How a command is cut

There are three ways to go on (`Segmented`): no placeholder begins, one
begins and does not end, or one begins and ends and the rest is cut in the
same way.  What holds of all segments is shown along these three.

The cutting works on what is left, by offsets in bytes: where a placeholder
begins is counted from the start of what is left, and where it ends from its
own start.  Every round takes a `<` away, so it ends (`paintWithin`).

# Why segments can be told from their colors

What is painted begins with a sequence that tells the color and ends with an
escape character, of which the text holds none, so it can be read back
(`paint_append_inj`).

Main statement: the colored command is that of its segments, and of no
others; together they are the command, none is empty, and only placeholders
hold a `<`.
-/
import Docket.Help.Examples
import Docket.Proofs.Text.Offset
import Mathlib.Data.List.TakeWhile

namespace Docket

-- ================================================ statement vocabulary

/-- The color of a segment. -/
def Segment.tint : Segment → Tint
  | literal _ => .literal
  | context _ => .context

/-- No segment is empty, a literal one holds no `<`, and a context one goes
from a `<` to the first `>` behind it, or to the end if there is none. -/
structure WellCut (parts : List Segment) : Prop where
  nonempty : ∀ part ∈ parts, part.text ≠ []
  literal : ∀ cs, .literal cs ∈ parts → '<' ∉ cs
  context : ∀ cs more, .context cs :: more <:+ parts → ∃ inside, '>' ∉ inside
    ∧ (cs = '<' :: (inside ++ ['>']) ∨ cs = '<' :: inside ∧ more = [])

/-- The offset in bytes at which a character comes first. -/
def byteOffset? (ch : Char) : List Char → Option Nat
  | [] => none
  | c :: cs => if c = ch then some 0 else (byteOffset? ch cs).map (c.utf8Size + ·)

/-- One round: behind what is done, paint what stands in front of the
placeholder that begins at an offset, and the placeholder.  It ends where a
`>` comes first, counted from its start, or at the end. -/
def paintRound (start : Nat) (done rest : List Char) : Option (List Char × List Char) := do
  let (front, bracket) ← cutAt? start rest
  let stop := (byteOffset? '>' bracket).elim (byteWidth rest) (start + · + 1)
  let (placeholder, _) ← cutAt? (stop - start) bracket
  let (_, behind) ← cutAt? stop rest
  let done := if 0 < start then done ++ Tint.literal.paint front else done
  some (done ++ Tint.context.paint placeholder, behind)

/-- Paint what is left of a command behind what is done, in at most so many
rounds. -/
def paintWithin : Nat → List Char → List Char → Option (List Char)
  | rounds, done, rest =>
    match byteOffset? '<' rest, rounds with
    | none, _ => some (if rest.isEmpty then done else done ++ Tint.literal.paint rest)
    | some _, 0 => none
    | some start, rounds + 1 =>
      (paintRound start done rest).bind fun next => paintWithin rounds next.1 next.2

-- ============================================================== cutting

/-- How a command is cut into segments. -/
inductive Segmented : List Char → List Segment → Prop
  | plain {cs : List Char} (hcs : '<' ∉ cs) : Segmented cs (literalSegment cs)
  | opened {front inside : List Char} (hfront : '<' ∉ front) (hinside : '>' ∉ inside) :
      Segmented (front ++ '<' :: inside) (literalSegment front ++ [.context ('<' :: inside)])
  | closed {front inside behind : List Char} {parts : List Segment} (hfront : '<' ∉ front)
      (hinside : '>' ∉ inside) (hbehind : Segmented behind parts) :
      Segmented (front ++ ('<' :: (inside ++ ['>']) ++ behind))
        (literalSegment front ++ .context ('<' :: (inside ++ ['>'])) :: parts)

variable {ch : Char} {cs front inside behind done : List Char} {parts others : List Segment}

theorem not_mem_takeWhile_bne (ch : Char) (cs : List Char) : ch ∉ cs.takeWhile (· != ch) := by
  intro h
  have hne := List.mem_takeWhile_imp h
  simp at hne

/-- Behind what stands in front of a character, that character is first. -/
theorem eq_of_dropWhile_bne {c : Char} {rest : List Char}
    (h : cs.dropWhile (· != ch) = c :: rest) : c = ch := by
  have hhead := List.head?_dropWhile_not (· != ch) cs
  rw [h] at hhead
  simpa using hhead

theorem segments_nil : segments [] = [] := by
  rw [segments]
  rfl

/-- A command is cut in one of the three ways. -/
theorem segmented_segments (cs : List Char) : Segmented cs (segments cs) := by
  fun_induction segments cs with
  | case1 cs ih =>
      have hfront := not_mem_takeWhile_bne '<' cs
      have hsplit := List.takeWhile_append_dropWhile (p := (· != '<')) (l := cs)
      split
      · next hnone =>
        rw [hnone, List.append_nil] at hsplit
        rw [hsplit] at hfront
        rw [hsplit, List.append_nil]
        exact .plain hfront
      · next c rest hbracket =>
        obtain rfl : c = '<' := eq_of_dropWhile_bne hbracket
        have hinside := not_mem_takeWhile_bne '>' rest
        have hrest := List.takeWhile_append_dropWhile (p := (· != '>')) (l := rest)
        have hbehind := ih '<' rest hbracket
        rw [hbracket, ← hrest] at hsplit
        cases hclose : rest.dropWhile (· != '>') with
        | nil =>
            rw [hclose, List.append_nil] at hsplit
            conv => arg 1; rw [← hsplit]
            rw [List.take_nil, List.append_nil, List.drop_nil, segments_nil]
            exact .opened hfront hinside
        | cons d behind =>
            obtain rfl : d = '>' := eq_of_dropWhile_bne hclose
            rw [hclose] at hsplit hbehind
            have hall : cs.takeWhile (· != '<')
                ++ ('<' :: (rest.takeWhile (· != '>') ++ ['>']) ++ behind) = cs := by
              rw [List.cons_append, List.append_assoc, List.singleton_append]
              exact hsplit
            conv => arg 1; rw [← hall]
            exact .closed hfront hinside hbehind

-- ============================================================= segments

theorem literalSegment_of_ne_nil (h : cs ≠ []) : literalSegment cs = [.literal cs] := by
  cases cs with
  | nil => exact absurd rfl h
  | cons c cs => rfl

/-- A literal segment is nowhere where a context one begins. -/
theorem context_suffix_append_iff {more : List Segment} :
    .context cs :: more <:+ literalSegment front ++ parts ↔ .context cs :: more <:+ parts := by
  cases front with
  | nil => rfl
  | cons c front =>
      rw [literalSegment_of_ne_nil (List.cons_ne_nil c front), List.singleton_append,
        List.suffix_cons_iff]
      simp

/-- Literal text in front of well cut segments. -/
theorem WellCut.literal_append (h : WellCut parts) (hfront : '<' ∉ front) :
    WellCut (literalSegment front ++ parts) := by
  refine ⟨fun part hpart => ?_, fun cs hcs => ?_, fun cs more hmore => ?_⟩
  · rcases List.mem_append.1 hpart with hpart | hpart
    · cases front with
      | nil => cases hpart
      | cons c front =>
          rw [List.mem_singleton.1 hpart]
          exact List.cons_ne_nil c front
    · exact h.nonempty part hpart
  · rcases List.mem_append.1 hcs with hcs | hcs
    · cases front with
      | nil => cases hcs
      | cons c front =>
          cases List.mem_singleton.1 hcs
          exact hfront
    · exact h.literal cs hcs
  · exact h.context cs more (context_suffix_append_iff.1 hmore)

/-- A placeholder in front of well cut segments, which ends if there are
any. -/
theorem WellCut.context_cons (h : WellCut parts) (hinside : '>' ∉ inside)
    (hcs : cs = '<' :: (inside ++ ['>']) ∨ cs = '<' :: inside ∧ parts = []) :
    WellCut (.context cs :: parts) := by
  refine ⟨fun part hpart => ?_, fun text htext => ?_, fun text more hmore => ?_⟩
  · rcases List.mem_cons.1 hpart with rfl | hpart
    · rcases hcs with rfl | ⟨rfl, -⟩ <;> exact List.cons_ne_nil _ _
    · exact h.nonempty part hpart
  · rcases List.mem_cons.1 htext with heq | htext
    · cases heq
    · exact h.literal text htext
  · rcases List.suffix_cons_iff.1 hmore with heq | hmore
    · cases heq
      exact ⟨inside, hinside, hcs⟩
    · exact h.context text more hmore

theorem wellCut_nil : WellCut [] :=
  ⟨fun _ h => absurd h List.not_mem_nil, fun _ h => absurd h List.not_mem_nil,
    fun _ _ h => absurd (List.suffix_nil.1 h) (List.cons_ne_nil _ _)⟩

theorem Segmented.wellCut (h : Segmented cs parts) : WellCut parts := by
  induction h with
  | plain hcs =>
      have hliteral := wellCut_nil.literal_append hcs
      rwa [List.append_nil] at hliteral
  | opened hfront hinside =>
      exact (wellCut_nil.context_cons hinside (Or.inr ⟨rfl, rfl⟩)).literal_append hfront
  | closed hfront hinside hbehind ih =>
      exact (ih.context_cons hinside (Or.inl rfl)).literal_append hfront

-- =============================================================== colors

theorem Segment.paint_eq (part : Segment) : part.paint = part.tint.paint part.text := by
  cases part <;> rfl

theorem Segment.eq_of_tint {part other : Segment} (htint : part.tint = other.tint)
    (htext : part.text = other.text) : part = other := by
  cases part <;> cases other <;> cases htint <;> cases htext <;> rfl

theorem Tint.eq_of_code {tint tint' : Tint} (h : tint.code = tint'.code) : tint = tint' := by
  cases tint <;> cases tint' <;> simp [Tint.code] at h ⊢

/-- Up to the first time a character comes, two texts that are the same are
the same, and so is what stands behind. -/
theorem append_cons_inj_of_not_mem {k k' : List Char} (hfront : ch ∉ front) (hcs : ch ∉ cs)
    (h : front ++ ch :: k = cs ++ ch :: k') : front = cs ∧ k = k' := by
  induction front generalizing cs with
  | nil =>
      cases cs with
      | nil => exact ⟨rfl, (List.cons.inj h).2⟩
      | cons c cs =>
          obtain rfl : ch = c := (List.cons.inj h).1
          exact absurd List.mem_cons_self hcs
  | cons a front ih =>
      cases cs with
      | nil =>
          obtain rfl : a = ch := (List.cons.inj h).1
          exact absurd List.mem_cons_self hfront
      | cons c cs =>
          rw [List.mem_cons, not_or] at hfront hcs
          obtain ⟨rfl, hrest⟩ := List.cons.inj h
          obtain ⟨rfl, hk⟩ := ih hfront.2 hcs.2 hrest
          exact ⟨rfl, hk⟩

/-- A color is told by the sequence that switches it on. -/
theorem switchOn_append_inj {tint tint' : Tint} {k k' : List Char}
    (h : tint.switchOn ++ k = tint'.switchOn ++ k') : tint = tint' ∧ k = k' := by
  have hdigits : ∀ n, 'm' ∉ numeral n := fun n hmem =>
    absurd (isDigit_of_mem_numeral n _ hmem) (by decide)
  unfold Tint.switchOn at h
  simp only [List.cons_append, List.append_assoc, List.cons.injEq, true_and, List.nil_append] at h
  obtain ⟨hcode, hk⟩ := append_cons_inj_of_not_mem (hdigits _) (hdigits _) h
  have hvalue := congrArg decimal hcode
  rw [decimal_numeral, decimal_numeral] at hvalue
  exact ⟨Tint.eq_of_code hvalue, hk⟩

/-- A painted text is told from its colors, whatever stands behind. -/
theorem paint_append_inj {part other : Segment} {k k' : List Char} (hpart : '\x1b' ∉ part.text)
    (hother : '\x1b' ∉ other.text) (h : part.paint ++ k = other.paint ++ k') :
    part = other ∧ k = k' := by
  rw [Segment.paint_eq, Segment.paint_eq] at h
  unfold Tint.paint at h
  rw [List.append_assoc, List.append_assoc, List.append_assoc, List.append_assoc] at h
  obtain ⟨htint, hrest⟩ := switchOn_append_inj h
  obtain ⟨htext, hk⟩ := append_cons_inj_of_not_mem hpart hother hrest
  exact ⟨Segment.eq_of_tint htint htext, List.append_cancel_left hk⟩

theorem paint_ne_nil (part : Segment) (k : List Char) : part.paint ++ k ≠ [] := by
  rw [Segment.paint_eq]
  exact List.cons_ne_nil _ _

/-- Segments are told from their colors. -/
theorem flatMap_paint_inj (hparts : ∀ part ∈ parts, '\x1b' ∉ part.text)
    (hothers : ∀ part ∈ others, '\x1b' ∉ part.text)
    (h : parts.flatMap Segment.paint = others.flatMap Segment.paint) : parts = others := by
  induction parts generalizing others with
  | nil =>
      cases others with
      | nil => rfl
      | cons other others => exact absurd h.symm (paint_ne_nil other _)
  | cons part parts ih =>
      cases others with
      | nil => exact absurd h (paint_ne_nil part _)
      | cons other others =>
          rw [List.forall_mem_cons] at hparts hothers
          obtain ⟨rfl, hrest⟩ := paint_append_inj hparts.1 hothers.1 h
          rw [ih hparts.2 hothers.2 hrest]

-- =============================================================== rounds

theorem byteOffset?_append (hfront : ch ∉ front) (k : List Char) :
    byteOffset? ch (front ++ ch :: k) = some (byteWidth front) := by
  induction front with
  | nil => rw [List.nil_append, byteOffset?, if_pos rfl, byteWidth]
  | cons c front ih =>
      rw [List.mem_cons, not_or] at hfront
      rw [List.cons_append, byteOffset?, if_neg (Ne.symm hfront.1), ih hfront.2, byteWidth,
        Option.map_some]

theorem byteOffset?_eq_none (hcs : ch ∉ cs) : byteOffset? ch cs = none := by
  induction cs with
  | nil => rfl
  | cons c cs ih =>
      rw [List.mem_cons, not_or] at hcs
      rw [byteOffset?, if_neg (Ne.symm hcs.1), ih hcs.2, Option.map_none]

/-- Text in front is painted if there is any, which its width tells. -/
theorem paint_front (front done : List Char) :
    (if 0 < byteWidth front then done ++ Tint.literal.paint front else done)
      = done ++ (literalSegment front).flatMap Segment.paint := by
  cases front with
  | nil => exact (List.append_nil done).symm
  | cons c front =>
      have hc := c.utf8Size_pos
      rw [literalSegment_of_ne_nil (List.cons_ne_nil c front), List.flatMap_singleton, byteWidth,
        if_pos (by omega)]
      rfl

/-- A round cuts a placeholder out when its end is found where it is. -/
theorem paintRound_append (front placeholder behind done : List Char)
    (hstop : (byteOffset? '>' (placeholder ++ behind)).elim
      (byteWidth (front ++ (placeholder ++ behind))) (byteWidth front + · + 1)
        = byteWidth front + byteWidth placeholder) :
    paintRound (byteWidth front) done (front ++ (placeholder ++ behind))
      = some (done ++ (literalSegment front ++ [Segment.context placeholder]).flatMap Segment.paint,
        behind) := by
  have hcut := cutAt?_byteWidth (front ++ placeholder) behind
  rw [byteWidth_append, List.append_assoc] at hcut
  unfold paintRound
  simp only [cutAt?_byteWidth, Option.bind_eq_bind, Option.bind_some, hstop, hcut,
    Nat.add_sub_cancel_left, paint_front, List.flatMap_append, List.flatMap_singleton,
    List.append_assoc]
  rfl

theorem paintRound_closed (hinside : '>' ∉ inside) :
    paintRound (byteWidth front) done (front ++ ('<' :: (inside ++ ['>']) ++ behind))
      = some (done ++ (literalSegment front ++ [Segment.context ('<' :: (inside ++ ['>']))]).flatMap
        Segment.paint, behind) := by
  have hbracket : '>' ∉ '<' :: inside := by simp [hinside]
  have hplaceholder : '<' :: (inside ++ ['>']) ++ behind = '<' :: inside ++ '>' :: behind := by
    rw [List.cons_append, List.append_assoc, List.singleton_append, List.cons_append]
  have hend : byteWidth ['>'] = 1 := rfl
  refine paintRound_append front ('<' :: (inside ++ ['>'])) behind done ?_
  rw [hplaceholder, byteOffset?_append hbracket behind, Option.elim_some, ← List.cons_append,
    byteWidth_append, hend, Nat.add_assoc]

theorem paintRound_opened (hinside : '>' ∉ inside) :
    paintRound (byteWidth front) done (front ++ '<' :: inside)
      = some (done ++ (literalSegment front ++ [Segment.context ('<' :: inside)]).flatMap
        Segment.paint, []) := by
  have hbracket : '>' ∉ '<' :: inside := by simp [hinside]
  have hround := paintRound_append front ('<' :: inside) [] done
  rw [List.append_nil, byteOffset?_eq_none hbracket, byteWidth_append] at hround
  exact hround rfl

theorem paintWithin_plain (hcs : '<' ∉ cs) (rounds : Nat) (done : List Char) :
    paintWithin rounds done cs = some (done ++ (literalSegment cs).flatMap Segment.paint) := by
  unfold paintWithin
  rw [byteOffset?_eq_none hcs]
  cases cs with
  | nil => exact congrArg some (List.append_nil done).symm
  | cons c cs =>
      rw [literalSegment_of_ne_nil (List.cons_ne_nil c cs), List.flatMap_singleton]
      rfl

/-- A round that cuts a placeholder out, and the rounds behind it. -/
theorem paintWithin_succ {placeholder : List Char} (hfront : '<' ∉ front)
    (hround : paintRound (byteWidth front) done (front ++ '<' :: inside)
      = some (done ++ (literalSegment front ++ [Segment.context placeholder]).flatMap Segment.paint,
        behind)) {rounds : Nat}
    (hbehind : ∀ done, paintWithin rounds done behind
      = some (done ++ parts.flatMap Segment.paint)) :
    paintWithin (rounds + 1) done (front ++ '<' :: inside)
      = some (done ++ (literalSegment front ++ .context placeholder :: parts).flatMap
        Segment.paint) := by
  unfold paintWithin
  rw [byteOffset?_append hfront]
  dsimp only
  rw [hround, Option.bind_some, hbehind, List.append_assoc, ← List.flatMap_append,
    List.append_assoc, List.singleton_append]

/-- The rounds paint the segments, one round for each placeholder. -/
theorem Segmented.paintWithin_eq (h : Segmented cs parts) {rounds : Nat}
    (hrounds : cs.count '<' ≤ rounds) (done : List Char) :
    paintWithin rounds done cs = some (done ++ parts.flatMap Segment.paint) := by
  induction h generalizing rounds done with
  | plain hcs => exact paintWithin_plain hcs rounds done
  | opened hfront hinside =>
      rw [List.count_append, List.count_cons_self] at hrounds
      obtain ⟨rounds, rfl⟩ := Nat.exists_eq_add_one_of_ne_zero (n := rounds) (by omega)
      exact paintWithin_succ hfront (paintRound_opened hinside)
        (paintWithin_plain List.not_mem_nil rounds)
  | closed hfront hinside hbehind ih =>
      rw [List.count_append, List.count_append, List.count_cons_self] at hrounds
      obtain ⟨rounds, rfl⟩ := Nat.exists_eq_add_one_of_ne_zero (n := rounds) (by omega)
      exact paintWithin_succ hfront (paintRound_closed hinside) (ih (by omega))

-- ============================================================= commands

/-- A command without escape characters is painted segment by segment.  The
segments together are the command, none is empty, a literal one holds no `<`,
and a context one goes from a `<` to the first `>` behind it or, if there is
none, to the end; no other segments would be painted the same.

The rounds from placeholder to placeholder, in bytes, come to their end and
paint the same: a round takes a `<` away, and no offset tears a character or
lies beyond the end. -/
theorem paintCommand_in_segments (cs : List Char) (h : '\x1b' ∉ cs) :
    (∃ parts : List Segment, paintCommand cs = parts.flatMap Segment.paint
        ∧ parts.flatMap Segment.text = cs
        ∧ WellCut parts
        ∧ ∀ others : List Segment, (∀ part ∈ others, '\x1b' ∉ part.text) →
          paintCommand cs = others.flatMap Segment.paint → others = parts)
      ∧ ∀ rounds, cs.count '<' ≤ rounds → paintWithin rounds [] cs = some (paintCommand cs) := by
  have hsegmented := segmented_segments cs
  have htext := flatMap_text_segments cs
  refine ⟨⟨segments cs, rfl, htext, hsegmented.wellCut, fun others hothers heq => ?_⟩,
    fun rounds hrounds => hsegmented.paintWithin_eq hrounds []⟩
  refine (flatMap_paint_inj (fun part hpart hesc => ?_) hothers heq).symm
  rw [← htext] at h
  exact h (List.mem_flatMap.2 ⟨part, hpart, hesc⟩)

/-- One placeholder in another, two side by side, a `>` in front of its `<`, a
placeholder that does not end, and characters of two and three bytes. -/
theorem paintCommand_in_segments_nested :
    let cs := "é> <a<ü>b> <€><c> <d".toList
    let parts : List Segment := [.literal "é> ".toList, .context "<a<ü>".toList,
      .literal "b> ".toList, .context "<€>".toList, .context "<c>".toList, .literal " ".toList,
      .context "<d".toList]
    paintCommand cs = parts.flatMap Segment.paint ∧ WellCut parts := by
  intro cs parts
  obtain ⟨⟨_, -, -, hcut, honly⟩, hrounds⟩ := paintCommand_in_segments cs (by decide)
  have hpaint : some (paintCommand cs) = some (parts.flatMap Segment.paint) :=
    (hrounds 5 (by decide)).symm.trans (by decide +kernel)
  rw [Option.some.injEq] at hpaint
  refine ⟨hpaint, ?_⟩
  rw [honly parts (by decide) hpaint]
  exact hcut

end Docket
