import FilterList.Json.Reader
import FilterList.Json.Value

/-!
Libraries that read requests from JSON and write values as JSON.
-/

namespace FilterList

/-- A value without numbers. -/
inductive Json.Plain : Json → Prop
  | null : Plain null
  | bool (value : Bool) : Plain (bool value)
  | string (text : Text) : Plain (string text)
  | array {items : List Json} : (∀ item ∈ items, Plain item) → Plain (array items)
  | object {members : List (String × Json)} :
    (∀ member ∈ members, Plain member.2) → Plain (object members)

/-- A text without control characters, line ends among them. -/
def Json.Printable (text : Text) : Prop := ∀ c ∈ text, 0x20 ≤ c.toNat

/-- A library as far as commands use it. What fails comes with what the library says of it. -/
structure JsonLibrary where
  /-- The request that a text writes. -/
  readProbe : Text → Except String Probe
  /-- The value on one line. -/
  write : Json → Except String Text
  /-- The value spread over lines. -/
  spread : Json → Except String Text

/-- The library does as documented. -/
structure JsonLibrary.Meets (library : JsonLibrary) : Prop where
  /-- Only maps whose keys are no strings cannot be written. -/
  writes : ∀ value, ∃ text, library.write value = .ok text
  spreads : ∀ value, ∃ text, library.spread value = .ok text
  /-- Control characters in strings are escaped, and nothing else is written with any. -/
  printable : ∀ {value text}, value.Plain → library.write value = .ok text → Json.Printable text
  /-- A request is read from an object with its two members, and other members are ignored. -/
  reads_written : ∀ {probe : Probe} {members : List (String × Json)} {text},
    (∀ member ∈ members, member.2.Plain) →
    (∀ member ∈ members, member.1 ≠ "page" ∧ member.1 ≠ "url") →
    library.write (.object ([("page", .string probe.page), ("url", .string probe.resource)] ++
      members)) = .ok text →
    library.readProbe text = .ok probe

/-- The reader and the writers of this development. -/
@[reducible] def Json.library : JsonLibrary where
  readProbe text :=
    match readProbe? text with
    | some probe => .ok probe
    | none => .error "not a request"
  write value := .ok value.compact
  spread value := .ok (value.spread 0)

end FilterList
