/-
A query in a session and the same query on the command line.  The session
trims its lines and the command line does not, but the blanks around a
query do not count; both keep the same records, cut them to the same limit
and print the same report.

Main statement: where the records can be loaded, a session answers a query
with what a listing prints, or with the problem that the listing comes to.
-/
import Docket.Proofs.Listing.Showing
import Docket.Proofs.Query.Padding
import Docket.Proofs.Shell.State

namespace Docket

variable {files : Files} {config : Config} {records : List Record} {line text : String}

namespace Shell

/-- A query that can be read is answered by the report on the records that
it keeps. -/
theorem printed_query_of_ok {q : Query} (hq : Query.parse text = .ok q) :
    (query ⟨config, some records⟩ text).printed
      = report .text (cutTo config.limit (q.keep records)) (q.keep records).length := by
  unfold query
  simp only [hq]
  rw [Run.printed_bind rfl, Run.printed_tell]
  exact printed_printRecords ..

/-- A query that cannot be read is answered by its error. -/
theorem printed_query_of_error {error : QueryError} (hq : Query.parse text = .error error) :
    (query ⟨config, some records⟩ text).printed = ["Error: " ++ error.message] := by
  unfold query
  simp only [hq]
  rfl

/-- The answer to a query line is the answer to its query. -/
theorem printed_handle_query (files : Files) (shell : Shell)
    (hline : ShellLine.ofString line = .query text) :
    (handle files shell (.ofString line)).printed = (shell.query text).printed := by
  rw [hline]
  show (shell.query text >>= _).printed = _
  rw [Run.printed_bind (result_query shell text)]
  exact List.append_nil _

/-- A session and the command line agree on a query.  Where the records of
the configuration are loaded, the line leaves the session as it is; it is
answered by all that a listing prints for the untrimmed line, if that
listing ends well, and else by the problem that it comes to. -/
theorem query_agrees_with_listing (hload : (loadRecords files config).result = .ok records)
    (hline : (trim line.toList).head? ≠ some '/') :
    (handle files ⟨config, some records⟩ (.ofString line)).result
        = .ok (some ⟨config, some records⟩)
      ∧ ((showList files config line .text config.limit).result = .ok () →
        (handle files ⟨config, some records⟩ (.ofString line)).output
          = (showList files config line .text config.limit).output)
      ∧ ∀ problem, (showList files config line .text config.limit).result = .error problem →
        (handle files ⟨config, some records⟩ (.ofString line)).output
          = "Error: " ++ problem.message ++ "\n" := by
  have hquery := ofString_of_query hline
  have hprinted := printed_handle_query files ⟨config, some records⟩ hquery
  obtain ⟨back, hparse⟩ := Query.exists_parse_trimText line
  refine ⟨?_, fun hok => ?_, fun problem herror => ?_⟩
  · rw [result_handle_eq, hquery]
    rfl
  · obtain ⟨q, -, hq, -⟩ := exists_of_showList hok
    rw [hq] at hparse
    cases hshort : Query.parse (trimText line) with
    | error error =>
        rw [hshort] at hparse
        cases hparse
    | ok short =>
        rw [hshort] at hparse
        cases hparse
        unfold Run.output
        rw [hprinted, printed_query_of_ok hshort, printed_showList hq hload]
        rfl
  · cases hq : Query.parse line with
    | ok q =>
        rw [result_showList hq hload] at herror
        cases herror
    | error error =>
        rw [showList_of_error hq] at herror
        cases herror
        rw [hq] at hparse
        cases hshort : Query.parse (trimText line) with
        | ok short =>
            rw [hshort] at hparse
            cases hparse
        | error error =>
            rw [hshort] at hparse
            cases hparse
            unfold Run.output
            rw [hprinted, printed_query_of_error hshort]
            rfl

/-- A query with blanks around it that keeps a record, and one that fails at
the character in front of its last blank. -/
theorem query_agrees_with_listing_padded :
    (loadRecords oneListing ⟨"a", "issues.json", "pulls.json", none⟩).result
        = .ok [Record.ofNumber 7]
      ∧ (trim " n(7)\t".toList).head? ≠ some '/'
      ∧ (showList oneListing ⟨"a", "issues.json", "pulls.json", none⟩ " n(7)\t" .text none).result
        = .ok ()
      ∧ (handle oneListing
          ⟨⟨"a", "issues.json", "pulls.json", none⟩, some [Record.ofNumber 7]⟩
          (.ofString " n(7)\t")).output
        = (showList oneListing ⟨"a", "issues.json", "pulls.json", none⟩ " n(7)\t" .text
          none).output
      ∧ (trim " n(7 x ".toList).head? ≠ some '/'
      ∧ (showList oneListing ⟨"a", "issues.json", "pulls.json", none⟩ " n(7 x " .text none).result
        = .error (.query (.expectedSeparator ')' (some 'x')))
      ∧ (handle oneListing
          ⟨⟨"a", "issues.json", "pulls.json", none⟩, some [Record.ofNumber 7]⟩
          (.ofString " n(7 x ")).output
        = "Error: " ++ "expecting separator ')' but found 'x'" ++ "\n" := by
  have hgood : Query.parse " n(7)\t" = .ok ⟨[.number 7], ""⟩ := by cbv
  have hbad : Query.parse " n(7 x " = .error (.expectedSeparator ')' (some 'x')) := by cbv
  have hquery : (trim " n(7)\t".toList).head? ≠ some '/'
      ∧ (trim " n(7 x ".toList).head? ≠ some '/' := ⟨by decide, by decide⟩
  have hok : (showList oneListing ⟨"a", "issues.json", "pulls.json", none⟩ " n(7)\t" .text
      none).result = .ok () := result_showList hgood loadRecords_oneListing
  have herror : (showList oneListing ⟨"a", "issues.json", "pulls.json", none⟩ " n(7 x " .text
      none).result = .error (.query (.expectedSeparator ')' (some 'x'))) :=
    congrArg Run.result (showList_of_error hbad)
  exact ⟨loadRecords_oneListing, hquery.1, hok,
    (query_agrees_with_listing loadRecords_oneListing hquery.1).2.1 hok, hquery.2, herror,
    (query_agrees_with_listing loadRecords_oneListing hquery.2).2.2 _ herror⟩

end Shell

end Docket
