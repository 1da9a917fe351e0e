/-
Why a text is not a pattern.
-/

namespace Docket

/-- The reasons for refusing a pattern. -/
inductive PatternFault where
  | groupUnclosed
  | groupUnopened
  | groupName
  | groupNameRepeated (name : String)
  | lookAround
  | switch
  | nothingToRepeat
  | repeatCount
  | repeatOrder
  | escapeUnfinished
  | escapeUnknown (c : Char)
  | backReference
  | hexDigits
  | hexValue
  | propertyName
  | propertyUnknown (name : String)
  | propertyWithoutUnicode
  | notText
  | classUnclosed
  | classItem
  | classRange
  | wordEdgeName
  | tooDeep
  | tooLarge
deriving DecidableEq, Repr

end Docket
