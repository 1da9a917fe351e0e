/-
Records: issues and pull requests, as far as filters and output look at
them.

Main statement: a record whose closing time can be read is closed.
-/
import Docket.Time.Timestamp

namespace Docket

/-- A user. -/
structure User where
  login : String
  htmlUrl : Option String
  avatarUrl : Option String
deriving DecidableEq, Repr

/-- A label; its color is written without a leading `#`. -/
structure Label where
  name : String
  color : Option String
deriving DecidableEq, Repr

/-- A pull request, or the mere link to one. -/
structure Pull where
  url : Option String
  htmlUrl : Option String
  number : Option UInt64
  mergedAt : Option String
deriving DecidableEq, Repr

/-- An issue, which is a pull request too when it carries one. -/
structure Record where
  number : UInt64
  title : Option String
  body : Option String
  state : Option String
  htmlUrl : Option String
  user : Option User
  assignees : List User
  labels : List Label
  closedAt : Option String
  pull : Option Pull
deriving DecidableEq, Repr

/-- A user of whom only the login is known. -/
def User.ofLogin (login : String) : User := ⟨login, none, none⟩

/-- A label without a color. -/
def Label.ofName (name : String) : Label := ⟨name, none⟩

namespace Record

/-- A record of which only the number is known. -/
def ofNumber (number : UInt64) : Record :=
  ⟨number, none, none, none, none, none, [], [], none, none⟩

/-- The record has a closing time, readable or not. -/
def isClosed (r : Record) : Bool := r.closedAt.any fun s => !s.isEmpty

/-- The closing time, if it can be read. -/
def closedTime (r : Record) : Option Instant := r.closedAt.bind Timestamp.ofString?

/-- The record's pull request has a merge time, readable or not. -/
def isMerged (r : Record) : Bool := (r.pull.bind Pull.mergedAt).any fun s => !s.isEmpty

end Record

-- ====================================================== closing times

/-- The empty text is no timestamp. -/
theorem Timestamp.ofString?_empty : Timestamp.ofString? "" = none := by
  decide +kernel

/-- A record whose closing time can be read is closed. -/
theorem Record.isClosed_of_closedTime {r : Record} {t : Instant}
    (h : r.closedTime = some t) : r.isClosed = true := by
  unfold closedTime at h
  unfold isClosed
  cases hc : r.closedAt with
  | none => simp [hc] at h
  | some s =>
    rw [hc] at h
    simp only [Option.bind_some] at h
    simp only [Option.any_some, Bool.not_eq_true', String.isEmpty_eq_false_iff]
    intro hs
    rw [hs, Timestamp.ofString?_empty] at h
    cases h

end Docket
