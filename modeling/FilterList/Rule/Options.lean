import FilterList.Text.Blank

/-!
The options of a rule: what follows the dollar sign after its pattern.
-/

namespace FilterList.Rule

/-- Cuts after the slash of the last `/$`. -/
def cutLastSlashDollar? : Text → Option (Text × Text)
  | [] => none
  | c :: rest =>
    match cutLastSlashDollar? rest with
    | some (before, after) => some (c :: before, after)
    | none =>
      match c, rest with
      | '/', '$' :: after => some (['/'], after)
      | _, _ => none

/-- The pattern of a rule and the text of its options. A dollar sign inside `/…/` does not count
where a backslash shows that a regular expression stands there. -/
def splitOptions (entry : Text) : Text × Option Text :=
  if entry.head? == some '/' && entry.contains '\\' then
    match (cutLastSlashDollar? entry).filter fun (pattern, _) => pattern.length > 1 with
    | some (pattern, options) => (pattern, some options)
    | none =>
      if entry.length > 1 && entry.getLast? == some '/' then (entry, none) else atFirstDollar
  else atFirstDollar
where
  atFirstDollar : Text × Option Text :=
    match Text.cut? '$' entry with
    | some (pattern, options) => (pattern, some options)
    | none => (entry, none)

/-- The domains of a list, blank ones left out. -/
def domainItems (domains : Text) : List Text :=
  ((domains.pieces '|').map Text.trim).filter (!·.isEmpty)

/-- The source of a regular expression without the slashes around it. -/
def regexSource (pattern : Text) : Text :=
  match pattern with
  | '/' :: rest => (['/'].isSuffixOf? rest).getD pattern
  | _ => pattern

/-- The options that limit a rule to some requests. Any others are not kept. -/
structure Options where
  thirdParty : Bool := false
  notThirdParty : Bool := false
  domains : Option Text := none
  deriving Repr, DecidableEq

namespace Options

/-- Takes account of one more option. Of several domain lists the last counts. -/
def add (options : Options) (option : Text) : Options :=
  let option := Text.trim option
  if option = "third-party".toList then { options with thirdParty := true }
  else if option = "~third-party".toList then { options with notThirdParty := true }
  else match "domain=".toList.isPrefixOf? option with
    | some domains => { options with domains := some domains }
    | none => options

def ofText (text : Text) : Options := (text.pieces ',').foldl add {}

end Options

end FilterList.Rule
