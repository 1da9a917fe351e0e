/-
Linking pull requests.  An issue that carries the link of a pull request
gets the whole pull request of that url; where several have it, the last
one counts.  The issues are then in the order of their numbers.

Main statements: linking keeps the issues, one for one, but for their pull
requests, and an issue without a matching pull request is left alone.
-/
import Docket.Record

namespace Docket

/-- The last pull request with that url. -/
def pullAt? (pulls : List Pull) (url : String) : Option Pull :=
  pulls.reverse.find? fun p => p.url == some url

/-- The pull request that an issue links to. -/
def Record.target? (pulls : List Pull) (issue : Record) : Option Pull := do
  let link ← issue.pull
  let url ← link.url
  pullAt? pulls url

/-- An issue with the pull request that it links to. -/
def Record.link (pulls : List Pull) (issue : Record) : Record :=
  match issue.target? pulls with
  | some pull => { issue with pull := some pull }
  | none => issue

/-- Records in the order of their numbers; equal numbers keep their order. -/
def sortRecords (records : List Record) : List Record :=
  records.mergeSort fun r s => r.number ≤ s.number

/-- Link all issues and order them. -/
def linkPulls (issues : List Record) (pulls : List Pull) : List Record :=
  sortRecords (issues.map (Record.link pulls))

/-- The number of issues that link to one of the pull requests. -/
def linkedCount (issues : List Record) (pulls : List Pull) : Nat :=
  issues.countP fun issue => (issue.target? pulls).isSome

/-- Linking keeps the number of an issue. -/
theorem Record.number_link (pulls : List Pull) (issue : Record) :
    (issue.link pulls).number = issue.number := by
  unfold link
  split <;> rfl

/-- An issue that links to none of the pull requests is left alone. -/
theorem Record.link_eq_self {pulls : List Pull} {issue : Record}
    (h : issue.target? pulls = none) : issue.link pulls = issue := by
  simp [link, h]

/-- Linking keeps the issues, one for one. -/
theorem linkPulls_perm (issues : List Record) (pulls : List Pull) :
    (linkPulls issues pulls).Perm (issues.map (Record.link pulls)) :=
  List.mergeSort_perm _ _

end Docket
