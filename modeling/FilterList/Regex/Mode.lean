import FilterList.Text.Blank

/-!
The modes that flags switch while an expression is read, and the blanks and comments that
verbose mode lets stand between its parts.
-/

namespace FilterList.Regex

structure Mode where
  caseless : Bool := false
  multiLine : Bool := false
  dotAll : Bool := false
  crlf : Bool := false
  unicode : Bool := true
  verbose : Bool := false
  deriving Repr, DecidableEq

namespace Mode

/-- The mode after a flag is switched; `none` where there is no such flag. Greed makes no
difference to what an expression can match, so its flag changes nothing. -/
def set? (mode : Mode) (flag : Char) (on : Bool) : Option Mode :=
  match flag with
  | 'i' => some { mode with caseless := on }
  | 'm' => some { mode with multiLine := on }
  | 's' => some { mode with dotAll := on }
  | 'R' => some { mode with crlf := on }
  | 'u' => some { mode with unicode := on }
  | 'x' => some { mode with verbose := on }
  | 'U' => some mode
  | _ => none

end Mode

/-- Drops blanks and comments; a comment runs to the end of its line. -/
def dropInsignificant (inComment : Bool) : Text → Text
  | [] => []
  | c :: rest =>
    if inComment then dropInsignificant (c ≠ '\n') rest
    else if Text.isBlank c then dropInsignificant false rest
    else if c = '#' then dropInsignificant true rest
    else c :: rest

/-- What is left to read once insignificant text is passed over. -/
def Mode.skip (mode : Mode) (text : Text) : Text :=
  if mode.verbose then dropInsignificant false text else text

/-- The characters that satisfy `p`, up to the first that does not, and the rest. In verbose mode
blanks and comments may stand before, between and after them. -/
def Mode.collect (mode : Mode) (p : Char → Bool) (inComment : Bool) : Text → Text × Text
  | [] => ([], [])
  | c :: rest =>
    if inComment then mode.collect p (c ≠ '\n') rest
    else if mode.verbose && Text.isBlank c then mode.collect p false rest
    else if mode.verbose && c = '#' then mode.collect p true rest
    else if p c then
      let (found, rest) := mode.collect p false rest
      (c :: found, rest)
    else ([], c :: rest)

end FilterList.Regex
