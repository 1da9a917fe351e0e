/-
What reaches an output.  Whatever the output, the bytes that are written are
those at the front of what the run prints, as many as there is room for; and
where there is room for all of them the run comes to what it comes to
without an output in its way.

So a run that prints nothing never meets a problem of its output, and behind
one the next run meets the whole of it.  Where a report is too long, it is a
line end that is not taken, unless the report is an array: all lines of that
but the last leave while it is being written.
-/
import Docket.Output
import Docket.Proofs.Listing.Showing

namespace Docket

/-- The bytes of a text and of a line end behind it. -/
def ended (text : String) : List UInt8 := bytesOf text ++ [lineEnd]

/-- The bytes that a deed brings to its output. -/
def Deed.bytes : Deed → List UInt8
  | say _ => []
  | print text _ => ended text

variable {α β : Type} {output : Output} {bytes rest : List UInt8} {text : String}
  {refusal : Problem} {result : Except Problem α} {deeds : List Deed} {run : Run α} {a : α}
  {next : Output → Delivery α}

theorem ended_eq (text : String) :
    wholeLines (bytesOf text) ++ (lastLine (bytesOf text) ++ [lineEnd]) = ended text := by
  rw [← List.append_assoc, wholeLines_append_lastLine]
  rfl

namespace Output

-- ============================================================== the room

/-- There is room for two parts when there is for one, and for the other
behind it. -/
theorem takes_append (output : Output) (bytes rest : List UInt8) :
    output.takes (bytes ++ rest).length
      = (output.takes bytes.length && (output.behind bytes.length).takes rest.length) := by
  cases output with
  | boundless => rfl
  | upTo room =>
      rw [Bool.eq_iff_iff, List.length_append]
      simp only [takes, behind, Bool.and_eq_true, decide_eq_true_eq]
      omega

theorem behind_append (output : Output) (bytes rest : List UInt8) :
    output.behind (bytes ++ rest).length = (output.behind bytes.length).behind rest.length := by
  cases output with
  | boundless => rfl
  | upTo room =>
      rw [List.length_append]
      exact congrArg upTo (Nat.sub_add_eq ..)

theorem takes_nil (output : Output) : output.takes ([] : List UInt8).length = true := by
  cases output with
  | boundless => rfl
  | upTo room => exact decide_eq_true (Nat.zero_le room)

/-- What there is room for is taken. -/
theorem front_of_takes (h : output.takes bytes.length = true) : output.front bytes = bytes := by
  cases output with
  | boundless => rfl
  | upTo room => exact List.take_of_length_le (of_decide_eq_true h)

theorem front_append_of_takes (h : output.takes bytes.length = true) :
    output.front (bytes ++ rest) = bytes ++ (output.behind bytes.length).front rest := by
  cases output with
  | boundless => rfl
  | upTo room =>
      have hle : bytes.length ≤ room := of_decide_eq_true h
      simp only [Output.front, behind]
      rw [List.take_append, List.take_of_length_le hle]

/-- Nothing is taken behind what there is no room for. -/
theorem front_append_of_full (h : output.takes bytes.length = false) :
    output.front (bytes ++ rest) = output.front bytes := by
  cases output with
  | boundless => cases h
  | upTo room =>
      have hlt : ¬ bytes.length ≤ room := of_decide_eq_false h
      exact List.take_append_of_le_length (by omega)

/-- An output without room for some bytes has room for fewer of them. -/
theorem exists_room (h : output.takes bytes.length = false) :
    ∃ room, output = upTo room ∧ room < bytes.length ∧ output.front bytes = bytes.take room := by
  cases output with
  | boundless => cases h
  | upTo room => exact ⟨room, rfl, Nat.lt_of_not_le (of_decide_eq_false h), rfl⟩

-- =========================================================== the writing

/-- What is written of bytes and of what comes next is the front of both. -/
theorem written_write (h : ∀ output, (next output).written = output.front rest) :
    (output.write bytes refusal next).written = output.front (bytes ++ rest) := by
  unfold write
  cases htakes : output.takes bytes.length with
  | true =>
      rw [front_append_of_takes htakes, ← h]
      rfl
  | false =>
      rw [front_append_of_full htakes]
      rfl

theorem written_writeLine (h : ∀ output, (next output).written = output.front rest) :
    (output.writeLine text refusal next).written = output.front (ended text ++ rest) := by
  rw [← ended_eq, List.append_assoc]
  exact written_write fun output => written_write h

theorem result_write (output : Output) (bytes : List UInt8) (refusal : Problem)
    (next : Output → Delivery α) :
    (output.write bytes refusal next).result
      = if output.takes bytes.length then (next (output.behind bytes.length)).result
        else .error refusal := by
  unfold write
  split <;> rfl

/-- A line is written if there is room for it.  Where there is not, the line
end behind the text is not taken, or an earlier one. -/
theorem result_writeLine (output : Output) (text : String) (refusal : Problem)
    (next : Output → Delivery α) :
    (output.writeLine text refusal next).result
      = if output.takes (ended text).length then (next (output.behind (ended text).length)).result
        else if output.takes (wholeLines (bytesOf text)).length then .error .unwritableLine
        else .error refusal := by
  unfold writeLine
  -- the whole lines of the text leave first, and with the rest the line end
  rw [result_write, result_write, ← ended_eq, takes_append output (wholeLines _),
    behind_append output (wholeLines _)]
  cases output.takes (wholeLines (bytesOf text)).length with
  | true => simp only [Bool.true_and, if_true]
  | false => rfl

theorem events_write (h : output.takes bytes.length = true) :
    (output.write bytes refusal next).events = (next (output.behind bytes.length)).events := by
  unfold write
  rw [if_pos h]

/-- Where there is room for a line, what is said comes next. -/
theorem events_writeLine (h : output.takes (ended text).length = true) :
    (output.writeLine text refusal next).events
      = (next (output.behind (ended text).length)).events := by
  rw [← ended_eq, takes_append output (wholeLines _), Bool.and_eq_true] at h
  rw [← ended_eq, behind_append output (wholeLines _)]
  exact (events_write h.1).trans (events_write h.2)

-- ========================================================= what is done

/-- What is written is the front of what deeds bring. -/
theorem written_deliver (result : Except Problem α) (deeds : List Deed) (output : Output) :
    (output.deliver result deeds).written = output.front (deeds.flatMap Deed.bytes) := by
  induction deeds generalizing output with
  | nil => cases output <;> simp [deliver, Output.front]
  | cons deed deeds ih =>
      rw [List.flatMap_cons]
      cases deed with
      | say event => exact ih output
      | print text refusal => exact written_writeLine ih

/-- Where there is room for all that deeds bring, all of them are done. -/
theorem deliver_of_takes (h : output.takes (deeds.flatMap Deed.bytes).length = true) :
    (output.deliver result deeds).events = deeds.filterMap Deed.event?
      ∧ (output.deliver result deeds).result = result := by
  induction deeds generalizing output with
  | nil => exact ⟨rfl, rfl⟩
  | cons deed deeds ih =>
      rw [List.flatMap_cons] at h
      cases deed with
      | say event => exact ⟨congrArg (event :: ·) (ih h).1, (ih h).2⟩
      | print text refusal =>
          rw [takes_append, Bool.and_eq_true] at h
          obtain ⟨hline, hrest⟩ := h
          refine ⟨(events_writeLine hline).trans (ih hrest).1, ?_⟩
          exact (result_writeLine ..).trans ((if_pos hline).trans (ih hrest).2)

/-- Where there is not, and every text meets the same problem when it is not
taken as its line end does, that is what the deeds come to. -/
theorem deliver_of_full (h : output.takes (deeds.flatMap Deed.bytes).length = false)
    (hlines : ∀ text refusal, .print text refusal ∈ deeds → refusal = .unwritableLine) :
    (output.deliver result deeds).result = .error .unwritableLine := by
  induction deeds generalizing output with
  | nil =>
      rw [List.flatMap_nil, takes_nil] at h
      cases h
  | cons deed deeds ih =>
      rw [List.flatMap_cons] at h
      have hlines' : ∀ text refusal, .print text refusal ∈ deeds → refusal = .unwritableLine :=
        fun text refusal hmem => hlines text refusal (List.mem_cons_of_mem _ hmem)
      cases deed with
      | say event => exact ih h hlines'
      | print text refusal =>
          obtain rfl := hlines text refusal List.mem_cons_self
          refine (result_writeLine ..).trans ?_
          rw [ite_self]
          -- the line that is not taken is this one, or one behind it
          split
          · next hline =>
              have hrest : (output.takes (ended text).length && _) = false :=
                (takes_append ..).symm.trans h
              rw [hline, Bool.true_and] at hrest
              exact ih hrest hlines'
          · rfl

/-- Where nothing is printed first, the rest meets the whole of the output. -/
theorem deliver_append_of_silent {deeds' : List Deed} (h : deeds.filterMap Deed.text? = []) :
    output.deliver result (deeds ++ deeds')
      = { output.deliver result deeds' with
          events := deeds.filterMap Deed.event? ++ (output.deliver result deeds').events } := by
  induction deeds with
  | nil => rfl
  | cons deed deeds ih =>
      cases deed with
      | say event =>
          show (let delivery := output.deliver result (deeds ++ deeds')
            { delivery with events := event :: delivery.events }) = _
          rw [ih h]
          rfl
      | print text refusal => cases h

end Output

namespace Run

/-- The bytes that a run brings to its output are those of its texts. -/
theorem bytes_deeds (run : Run α) : run.deeds.flatMap Deed.bytes = run.printed.flatMap ended := by
  unfold printed
  induction run.deeds with
  | nil => rfl
  | cons deed deeds ih =>
      cases deed with
      | say event => exact ih
      | print text refusal => exact congrArg (ended text ++ ·) ih

/-- Every output takes the front of what a run prints. -/
theorem written_onto (run : Run α) (output : Output) :
    (run.onto output).written = output.front (run.printed.flatMap ended) := by
  rw [← bytes_deeds]
  exact Output.written_deliver ..

/-- A run comes to the same on an output that has room for all that it
prints. -/
theorem onto_of_takes (h : output.takes (run.printed.flatMap ended).length = true) :
    run.onto output = ⟨run.events, run.printed.flatMap ended, run.result⟩ := by
  have hwritten := written_onto run output
  rw [Output.front_of_takes h] at hwritten
  rw [← bytes_deeds] at h
  obtain ⟨hevents, hresult⟩ : (run.onto output).events = run.events
      ∧ (run.onto output).result = run.result := Output.deliver_of_takes h
  calc run.onto output
      = ⟨(run.onto output).events, (run.onto output).written, (run.onto output).result⟩ := rfl
    _ = ⟨run.events, run.printed.flatMap ended, run.result⟩ := by
        rw [hevents, hwritten, hresult]

/-- A run that prints nothing meets no problem of its output. -/
theorem onto_of_silent (h : run.printed = []) : run.onto output = ⟨run.events, [], run.result⟩ := by
  rw [onto_of_takes (by rw [h]; exact output.takes_nil), h]
  rfl

/-- Behind a run that prints nothing and ends well, the next one meets the
whole of the output. -/
theorem onto_bind (h : run.result = .ok a) (hsilent : run.printed = []) (f : α → Run β)
    (output : Output) :
    (run >>= f).onto output
      = { (f a).onto output with events := run.events ++ ((f a).onto output).events } := by
  unfold onto
  rw [deeds_bind h, result_bind h]
  exact Output.deliver_append_of_silent hsilent

theorem result_onto_bind (h : run.result = .ok a) (hsilent : run.printed = []) (f : α → Run β)
    (output : Output) : ((run >>= f).onto output).result = ((f a).onto output).result := by
  rw [onto_bind h hsilent]

end Run

-- ============================================================ the reports

/-- What is wrong with an output for the lines of a report: it does not have
room for all of them.  The writer of an array has a problem of its own unless
the array is at its last line. -/
def Output.problem? (output : Output) (format : OutputFormat) (texts : List String) :
    Option Problem :=
  if output.takes (texts.flatMap ended).length then none
  else if format = .json ∧ output.takes (wholeLines (texts.flatMap bytesOf)).length = false then
    some .unwritableListing
  else some .unwritableLine

/-- Nothing is wrong with an output that has room for the report. -/
theorem Output.problem?_eq_none_iff {format : OutputFormat} {texts : List String} :
    output.problem? format texts = none ↔ output.takes (texts.flatMap ended).length = true := by
  unfold problem?
  cases output.takes (texts.flatMap ended).length with
  | true => simp
  | false =>
      rw [if_neg Bool.false_ne_true]
      split <;> simp

/-- Printing records comes to what is wrong with the output for their
report. -/
theorem result_onto_printRecords (format : OutputFormat) (records : List Record) (matched : Nat)
    (output : Output) :
    ((printRecords format records matched).onto output).result
      = (output.problem? format (report format records matched)).elim (.ok ()) .error := by
  have hprinted := printed_printRecords format records matched
  unfold Output.problem?
  cases htakes : output.takes ((report format records matched).flatMap ended).length with
  | true =>
      rw [Run.onto_of_takes (by rw [hprinted]; exact htakes)]
      rfl
  | false =>
      have hlines : format.refusal = .unwritableLine →
          ((printRecords format records matched).onto output).result = .error .unwritableLine := by
        intro hrefusal
        refine Output.deliver_of_full (by rw [Run.bytes_deeds, hprinted]; exact htakes) ?_
        intro text refusal hmem
        obtain ⟨text', -, htext⟩ := List.mem_map.1 hmem
        cases htext
        exact hrefusal
      cases format with
      | text => exact hlines rfl
      | id => exact hlines rfl
      | json =>
          -- an array is one text, and its last line alone leaves with the line end
          have hreport : report .json records matched = [(encodeRecords records).pretty] := rfl
          rw [hreport, List.flatMap_singleton] at htakes ⊢
          refine (Output.result_writeLine ..).trans ?_
          rw [htakes]
          cases output.takes (wholeLines (bytesOf (encodeRecords records).pretty)).length <;> rfl

/-- With its query read and its records loaded, a listing comes to what is
wrong with the output for its report. -/
theorem result_onto_showList {files : Files} {config : Config} {q : Query}
    {records : List Record} (hq : Query.parse text = .ok q)
    (hl : (loadRecords files config).result = .ok records) (format : OutputFormat)
    (limit : Option Nat) (output : Output) :
    ((showList files config text format limit).onto output).result
      = (output.problem? format (report format (cutTo limit (q.keep records))
          (q.keep records).length)).elim (.ok ()) .error := by
  unfold showList
  rw [Run.result_onto_bind (result_parseQuery hq) (printed_parseQuery text),
    Run.result_onto_bind hl (printed_loadRecords files config)]
  exact (Run.result_onto_bind rfl rfl _ _).trans (result_onto_printRecords ..)

end Docket
