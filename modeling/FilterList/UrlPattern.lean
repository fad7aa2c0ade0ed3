import FilterList.Regex.Positions
import FilterList.Regex.Read
import FilterList.RegexLibrary

/-!
The patterns of rules, read and matched by the expressions of this development.
-/

namespace FilterList

/-- Every expression that can be read is taken; there are no bounds on nesting and size. -/
@[reducible] def Regex.library : RegexLibrary where
  Program := Expr
  Fault := Fault
  message := Fault.message
  compile := read
  search := Expr.occursIn

abbrev UrlPattern := Regex.library.Pattern

abbrev UrlPattern.ofSource (source : Text) : UrlPattern := RegexLibrary.Pattern.ofSource source

end FilterList
