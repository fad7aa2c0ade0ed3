import FilterList.Emission.Blocking
import FilterList.Emission.Exception
import FilterList.Line
import FilterList.Text.Lines
import FilterList.Text.Utf8

/-!
Compiling a filter list. Its lines are read one after the other; the entries they place stand in
their order, and the title and version are the first that a line gives.
-/

namespace FilterList

/-- Takes a value that is not there yet. -/
def Header.capture (header : Header) : Line.HeaderValue → Header
  | .title value => { header with title := header.title.or (some value) }
  | .version value => { header with version := header.version.or (some value) }

structure Compilation where
  rules : RuleSet
  tally : Tally
  log : List LogRecord

/-- What a line turned out to be. A rule has placed some entries, or it was refused. -/
inductive Line.Kind where
  | blank
  | comment
  | cosmetic
  | rule (result : Except Rule.Rejection Nat)

namespace Compiler

/-- Reads the content of a line: takes the value of a comment, and places the entries of a rule. -/
def classify (content : Text) : StateM Compiler Line.Kind :=
  if content.isEmpty then return .blank
  else if Line.isCosmetic content then return .cosmetic
  else if Line.isComment content then do
    if let some value := Line.headerValue? content then
      modify fun compiler => { compiler with header := compiler.header.capture value }
    return .comment
  else match "@@".toList.isPrefixOf? content with
    | some rule => return .rule (← (Emission.exception rule).run)
    | none => return .rule (← (Emission.blocking content).run)

/-- Reads one more line. -/
def feed (compiler : Compiler) (line : Text) : Compiler :=
  let begun := { compiler with tally.lines := compiler.tally.lines + 1 }
  match (classify (Line.content line)).run begun with
  | (.blank, compiler) => { compiler with tally.blank := compiler.tally.blank + 1 }
  | (.comment, compiler) => { compiler with tally.comments := compiler.tally.comments + 1 }
  | (.cosmetic, compiler) => { compiler with tally.cosmetic := compiler.tally.cosmetic + 1 }
  | (.rule (.ok emitted), compiler) =>
    { compiler with
      tally.accepted := compiler.tally.accepted + 1
      tally.entries := compiler.tally.entries + emitted }
  | (.rule (.error reason), compiler) =>
    { compiler with
      tally.dropped := compiler.tally.dropped + 1
      records := .dropped (Text.trim line) reason :: compiler.records }

def read (lines : List Text) : Compiler := lines.foldl feed {}

/-- The list that the lines make. -/
def finish (compiler : Compiler) : Compilation :=
  let rules : RuleSet := ⟨compiler.header, compiler.placed.reverse⟩
  let tally := compiler.tally
  { rules, tally,
    log := compiler.records.reverse ++
      [.compiled rules.label tally.lines tally.entries tally.dropped] }

end Compiler

namespace Compilation

def ofLines (lines : List Text) : Compilation := (Compiler.read lines).finish

def ofText (text : Text) : Compilation := ofLines (Text.lines text)

end Compilation

/-- The text of a list's bytes, without a byte order mark and with broken parts replaced. -/
def decodeList (bytes : Bytes) : Text :=
  Utf8.toTextLossy ((Utf8.byteOrderMark.isPrefixOf? bytes).getD bytes)

def Compilation.ofBytes (bytes : Bytes) : Compilation := ofText (decodeList bytes)

end FilterList
