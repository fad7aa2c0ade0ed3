/-!
Text as a list of characters. Rules, hosts and requests are cut up, compared and searched
character by character, so the operations here are recursions on that list.
-/

namespace FilterList

abbrev Text := List Char

namespace Text

/-- Whether `part` occurs in the text without a gap. -/
def occurs (part : Text) : Text → Bool
  | [] => part.isEmpty
  | c :: rest => part.isPrefixOf (c :: rest) || occurs part rest

/-- The parts between the separators. There is one more part than there are separators. -/
def pieces (separator : Char) : Text → List Text
  | [] => [[]]
  | c :: rest =>
    if c = separator then [] :: pieces separator rest
    else match pieces separator rest with
      | [] => [[c]]
      | part :: parts => (c :: part) :: parts

/-- The parts with the separator written between them. -/
def join (separator : Text) : List Text → Text
  | [] => []
  | [part] => part
  | part :: next :: rest => part ++ separator ++ join separator (next :: rest)

/-- The text before and after the first separator. -/
def cut? (separator : Char) : Text → Option (Text × Text)
  | [] => none
  | c :: rest =>
    if c = separator then some ([], rest)
    else (cut? separator rest).map fun (before, after) => (c :: before, after)

/-- What follows the last separator, or the whole text where there is none. -/
def afterLast (separator : Char) (text : Text) : Text :=
  (text.reverse.takeWhile (· ≠ separator)).reverse

/-- The text without one leading `lead`. -/
def dropLead (text lead : Text) : Text := (lead.isPrefixOf? text).getD text

/-- The text without one final `tail`. -/
def dropTail (text tail : Text) : Text := (tail.isSuffixOf? text).getD text

/-- The text without the run of characters at its end that satisfy `p`. -/
def dropEndWhile (p : Char → Bool) (text : Text) : Text := (text.reverse.dropWhile p).reverse

/-- The value of a hexadecimal digit, upper or lower case. -/
def hexDigit? (c : Char) : Option Nat :=
  if '0' ≤ c && c ≤ '9' then some (c.toNat - '0'.toNat)
  else if 'A' ≤ c && c ≤ 'F' then some (c.toNat - 'A'.toNat + 10)
  else if 'a' ≤ c && c ≤ 'f' then some (c.toNat - 'a'.toNat + 10)
  else none

/-- The number that hexadecimal digits write; other characters are skipped. -/
def hexValue (digits : Text) : Nat :=
  (digits.filterMap hexDigit?).foldl (fun value digit => 16 * value + digit) 0

/-- The number that decimal digits write. -/
def decimalValue (digits : Text) : Nat :=
  digits.foldl (fun value c => 10 * value + (c.toNat - '0'.toNat)) 0

/-- The shortest hexadecimal writing of a number, in lower case. -/
def hexDigits (n : Nat) : Text := Nat.toDigits 16 n

/-- The decimal writing of a number. -/
def ofNat (n : Nat) : Text := Nat.toDigits 10 n

theorem occurs_iff_isInfix {part text : Text} : occurs part text = true ↔ part <:+: text := by
  induction text with
  | nil => simp [occurs]
  | cons c rest ih => simp [occurs, List.infix_cons_iff, ih]

theorem pieces_ne_nil (separator : Char) (text : Text) : pieces separator text ≠ [] := by
  cases text with
  | nil => simp [pieces]
  | cons c rest =>
    unfold pieces
    split
    · simp
    · split <;> simp

theorem join_pieces (separator : Char) (text : Text) :
    join [separator] (pieces separator text) = text := by
  induction text with
  | nil => rfl
  | cons c rest ih =>
    unfold pieces
    obtain ⟨part, parts, eq⟩ := List.exists_cons_of_ne_nil (pieces_ne_nil separator rest)
    rw [eq] at ih ⊢
    split
    · next h => subst h; simp [join, ih]
    · cases parts <;> simp [join] at ih ⊢ <;> exact ih

end Text

end FilterList
