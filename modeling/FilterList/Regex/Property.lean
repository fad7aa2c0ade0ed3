import FilterList.Unicode.Age
import FilterList.Unicode.Break
import FilterList.Unicode.ScriptExtension

/-!
Character properties by name, as an expression may write them between braces.
-/

namespace FilterList.Regex
open Unicode

/-- What `\p` asks for: a property, category or script, by one name or by kind and value. -/
inductive PropertyQuery where
  | letter (c : Char)
  | named (name : Text)
  | value (kind name : Text)

/-- The kinds of property that have values, by the names they go by. -/
def PropertyQuery.kinds : List (List String × List NamedSet) := [
  (["gc", "General_Category"], categories),
  (["sc", "Script"], scripts),
  (["scx", "Script_Extensions"], scriptExtensions),
  (["age"], ages),
  (["GCB", "Grapheme_Cluster_Break"], graphemeBreaks),
  (["WB", "Word_Break"], wordBreaks),
  (["SB", "Sentence_Break"], sentenceBreaks)]

/-- A name by itself may be that of a property, a category or a script. -/
def PropertyQuery.set? : PropertyQuery → Option CharSet
  | letter c => NamedSet.find? categories (looseName [c])
  | named name =>
    let loose := looseName name
    NamedSet.find? (properties ++ categories ++ scripts) loose
  | value kind name => do
    let (_, values) ← kinds.find? fun (names, _) => answersTo (looseName kind) names
    NamedSet.find? values (looseName name)

end FilterList.Regex
