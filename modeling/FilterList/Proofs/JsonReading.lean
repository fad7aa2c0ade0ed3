import FilterList.Json.Library

/-! Reading back what has been written. A quoted text is read as that text, a value without numbers is
passed over whole, and an object that starts with a page and a resource URL is read as the request for
them. What is written this way has no control characters, so it stays on one line. -/

namespace FilterList.Json

theorem hexDigit?_digitChar : ∀ n < 16, Text.hexDigit? (Nat.digitChar n) = some n := by decide

/-- The four digits that write a control character by its code point. -/
def unitDigits (n : Nat) : Text := ['0', '0', Nat.digitChar (n / 16), Nat.digitChar (n % 16)]

theorem readUnit?_unitDigits {n : Nat} (control : n < 0x20) (rest : Text) :
    readUnit? (unitDigits n ++ rest) = some (n, rest) := by
  have value : ∀ n < 0x20, Text.hexValue (unitDigits n) = n := by decide
  have high := hexDigit?_digitChar (n / 16) (by omega)
  have low := hexDigit?_digitChar (n % 16) (by omega)
  change (if (unitDigits n).all fun digit => (Text.hexDigit? digit).isSome then
    some (Text.hexValue (unitDigits n), rest) else none) = _
  rw [value n control, if_pos]
  simp only [unitDigits, List.all_cons, high, low]
  rfl

theorem readUnits?_unitDigits {c : Char} (control : c.toNat < 0x20) (rest : Text) :
    readUnits? (unitDigits c.toNat ++ rest) = some (c, rest) := by
  have notLow : isLowSurrogate c.toNat = false := by
    simp only [isLowSurrogate, Bool.and_eq_false_iff, decide_eq_false_iff_not]; omega
  have notHigh : isHighSurrogate c.toNat = false := by
    simp only [isHighSurrogate, Bool.and_eq_false_iff, decide_eq_false_iff_not]; omega
  simp [readUnits?, readUnit?_unitDigits control, notLow, notHigh]

/-- A character is written by a backslash and a letter, by its code point, or by itself. -/
theorem escape_cases (c : Char) :
    (∃ e, escape c = ['\\', e] ∧ e ≠ 'u' ∧ unescape? e = some c) ∨
    (c.toNat < 0x20 ∧ escape c = '\\' :: 'u' :: unitDigits c.toNat) ∨
    (escape c = [c] ∧ c ≠ '"' ∧ c ≠ '\\' ∧ ¬ c.toNat < 0x20) := by
  unfold escape
  split
  · exact .inl ⟨'"', rfl, by decide, rfl⟩
  · exact .inl ⟨'\\', rfl, by decide, rfl⟩
  · exact .inl ⟨'b', rfl, by decide, rfl⟩
  · exact .inl ⟨'f', rfl, by decide, rfl⟩
  · exact .inl ⟨'n', rfl, by decide, rfl⟩
  · exact .inl ⟨'r', rfl, by decide, rfl⟩
  · exact .inl ⟨'t', rfl, by decide, rfl⟩
  · next noQuote noSlash _ _ _ _ _ =>
    split
    next control => exact .inr (.inl ⟨control, rfl⟩)
    next visible => exact .inr (.inr ⟨rfl, noQuote, noSlash, visible⟩)

theorem readString?_letter {e : Char} (other : e ≠ 'u') (steps : Nat) (rest : Text) :
    readString? (steps + 1) ('\\' :: e :: rest) =
      (unescape? e).bind fun c => (readString? steps rest).map fun read =>
        (c :: read.1, read.2) := by
  simp only [readString?]
  cases unescape? e with
  | none => rfl
  | some c => cases readString? steps rest <;> rfl

theorem readString?_unit (steps : Nat) (rest : Text) :
    readString? (steps + 1) ('\\' :: 'u' :: rest) =
      (readUnits? rest).bind fun unit => (readString? steps unit.2).map fun read =>
        (unit.1 :: read.1, read.2) := by
  have step : readString? (steps + 1) ('\\' :: 'u' :: rest) =
      (readUnits? rest).bind fun unit => (readString? steps unit.2).bind fun read =>
        some (unit.1 :: read.1, read.2) := rfl
  rw [step]
  congr 1
  funext unit
  cases readString? steps unit.2 <;> rfl

theorem passString?_unit (steps : Nat) (rest : Text) :
    passString? (steps + 1) ('\\' :: 'u' :: rest) =
      (readUnit? rest).bind fun unit => passString? steps unit.2 := rfl

theorem readString?_escape (steps : Nat) (c : Char) (rest : Text) :
    readString? (steps + 1) (escape c ++ rest) =
      (readString? steps rest).map fun read => (c :: read.1, read.2) := by
  obtain ⟨e, written, other, means⟩ | ⟨control, written⟩ | ⟨written, noQuote, noSlash, visible⟩ :=
    escape_cases c
  · rw [written, List.cons_append, List.singleton_append, readString?_letter other, means]
    rfl
  · rw [written, List.cons_append, List.cons_append, readString?_unit,
      readUnits?_unitDigits control]
    rfl
  · rw [written]
    simp only [List.singleton_append, readString?, noQuote, noSlash, visible]
    cases readString? steps rest <;> rfl

theorem passString?_escape (steps : Nat) (c : Char) (rest : Text) :
    passString? (steps + 1) (escape c ++ rest) = passString? steps rest := by
  obtain ⟨e, written, other, means⟩ | ⟨control, written⟩ | ⟨written, noQuote, noSlash, visible⟩ :=
    escape_cases c
  · rw [written, List.cons_append, List.singleton_append]
    simp [passString?, means]
  · rw [written, List.cons_append, List.cons_append, passString?_unit,
      readUnit?_unitDigits control]
    rfl
  · rw [written]
    simp only [List.singleton_append, passString?, noQuote, noSlash, visible, if_false]

theorem readString?_flatMap_escape (rest : Text) : ∀ (text : Text) (steps : Nat),
    text.length < steps →
    readString? steps (text.flatMap escape ++ '"' :: rest) = some (text, rest)
  | _, 0, enough => absurd enough (Nat.not_lt_zero _)
  | [], _ + 1, _ => rfl
  | c :: text, steps + 1, enough => by
    rw [List.flatMap_cons, List.append_assoc, readString?_escape,
      readString?_flatMap_escape rest text steps (Nat.lt_of_succ_lt_succ enough)]
    rfl

theorem passString?_flatMap_escape (rest : Text) : ∀ (text : Text) (steps : Nat),
    text.length < steps →
    passString? steps (text.flatMap escape ++ '"' :: rest) = some rest
  | _, 0, enough => absurd enough (Nat.not_lt_zero _)
  | [], _ + 1, _ => rfl
  | c :: text, steps + 1, enough => by
    rw [List.flatMap_cons, List.append_assoc, passString?_escape,
      passString?_flatMap_escape rest text steps (Nat.lt_of_succ_lt_succ enough)]

theorem escape_ne_nil (c : Char) : escape c ≠ [] := by
  obtain ⟨e, written, -⟩ | ⟨-, written⟩ | ⟨written, -⟩ := escape_cases c <;> simp [written]

theorem length_le_length_flatMap_escape (text : Text) :
    text.length ≤ (text.flatMap escape).length := by
  induction text with
  | nil => exact Nat.le_refl _
  | cons c text ih =>
    have step : 0 < (escape c).length := List.length_pos_iff.mpr (escape_ne_nil c)
    rw [List.flatMap_cons, List.length_append, List.length_cons]
    omega

theorem quote_append (text rest : Text) :
    quote text ++ rest = '"' :: (text.flatMap escape ++ '"' :: rest) := by simp [quote]

/-- A quoted text is read back. -/
theorem string?_quote (text rest : Text) : string? (quote text ++ rest) = some (text, rest) := by
  have steps := length_le_length_flatMap_escape text
  rw [quote_append, string?]
  exact readString?_flatMap_escape rest text _ (by
    rw [List.length_append, List.length_cons]; omega)

theorem passString?_quote (text rest : Text) :
    passString? ((text.flatMap escape ++ '"' :: rest).length + 1)
      (text.flatMap escape ++ '"' :: rest) = some rest := by
  have steps := length_le_length_flatMap_escape text
  exact passString?_flatMap_escape rest text _ (by
    rw [List.length_append, List.length_cons]; omega)

theorem skipSpace_cons {c : Char} (visible : isSpace c = false) (rest : Text) :
    skipSpace (c :: rest) = c :: rest :=
  List.dropWhile_cons_of_neg (by simp [visible])

theorem passName?_quote (name rest : Text) :
    passName? (quote name ++ ':' :: rest) = some rest := by
  rw [quote_append, passName?, skipSpace_cons (by decide)]
  simp only [passString?_quote, Option.map_some, skipSpace_cons (show isSpace ':' = false by decide)]

/-- What `passValue?` does once it has passed over a value. -/
def passOn? (steps : Nat) (open_ : List Nesting) (rest : Text) : Option Text :=
  match passClosers? open_ rest with
  | some ([], rest) => some rest
  | some (open_, rest) => passValue? steps open_ rest
  | none => none

/-- Wherever the text starts with the value, the reader of values gets past it, with at most one step
for each of its characters. -/
def Passed (value : Json) : Prop :=
  ∀ (steps : Nat) (open_ : List Nesting) (rest : Text), value.compact.length ≤ steps →
    ∃ left, steps ≤ left + value.compact.length ∧
      passValue? steps open_ (value.compact ++ rest) = passOn? left open_ rest

theorem passOn?_comma (steps : Nat) (open_ : List Nesting) (rest : Text) :
    passOn? steps (.array :: open_) (',' :: rest) = passValue? steps (.array :: open_) rest := by
  simp only [passOn?, passClosers?, skipSpace_cons (show isSpace ',' = false by decide)]

theorem passOn?_name (steps : Nat) (open_ : List Nesting) (name rest : Text) :
    passOn? steps (.object :: open_) (',' :: (quote name ++ ':' :: rest)) =
      passValue? steps (.object :: open_) rest := by
  simp only [passOn?, passClosers?, skipSpace_cons (show isSpace ',' = false by decide),
    passName?_quote, Option.map_some]

theorem passOn?_bracket (steps : Nat) (open_ : List Nesting) (rest : Text) :
    passOn? steps (.array :: open_) (']' :: rest) = passOn? steps open_ rest := by
  simp only [passOn?, passClosers?, skipSpace_cons (show isSpace ']' = false by decide)]

theorem passOn?_brace (steps : Nat) (open_ : List Nesting) (rest : Text) :
    passOn? steps (.object :: open_) ('\x7d' :: rest) = passOn? steps open_ rest := by
  simp only [passOn?, passClosers?, skipSpace_cons (show isSpace '\x7d' = false by decide)]

/-- The text of a value starts with what no blank and no closing bracket is. -/
theorem Plain.compact_eq_cons {value : Json} (plain : value.Plain) :
    ∃ c rest, value.compact = c :: rest ∧ isSpace c = false ∧ c ≠ ']' := by
  cases plain with
  | null => exact ⟨_, _, rfl, by decide, by decide⟩
  | bool value => cases value <;> exact ⟨_, _, rfl, by decide, by decide⟩
  | string text => exact ⟨_, _, by rw [compact, quote]; rfl, by decide, by decide⟩
  | array items => exact ⟨_, _, by rw [compact]; rfl, by decide, by decide⟩
  | object members => exact ⟨_, _, by rw [compact]; rfl, by decide, by decide⟩

theorem passed_of_step {value : Json} (filled : 0 < value.compact.length)
    (step : ∀ left open_ rest,
      passValue? (left + 1) open_ (value.compact ++ rest) = passOn? left open_ rest) :
    value.Passed := by
  intro steps open_ rest enough
  obtain ⟨left, rfl⟩ : ∃ left, steps = left + 1 := ⟨steps - 1, by omega⟩
  exact ⟨left, by omega, step left open_ rest⟩

theorem passed_null : null.Passed := by
  exact passed_of_step (by decide) fun _ _ _ => rfl

theorem passed_bool (value : Bool) : (bool value).Passed := by
  refine passed_of_step (by cases value <;> decide) fun left open_ rest => ?_
  cases value <;> rfl

theorem passed_string (text : Text) : (string text).Passed := by
  refine passed_of_step (by simp [compact, quote]) fun left open_ rest => ?_
  have past := passString?_quote text rest
  rw [compact, quote_append]
  calc passValue? (left + 1) open_ ('"' :: (text.flatMap escape ++ '"' :: rest))
    _ = (passString? ((text.flatMap escape ++ '"' :: rest).length + 1)
          (text.flatMap escape ++ '"' :: rest)).bind (passOn? left open_) := rfl
    _ = passOn? left open_ rest := by rw [past]; rfl

/-- The items after one that has been written. -/
def furtherItems : List Json → Text
  | [] => []
  | item :: items => ',' :: compactItems (item :: items)

/-- The members after one that has been written. -/
def furtherMembers : List (String × Json) → Text
  | [] => []
  | member :: members => ',' :: compactMembers (member :: members)

theorem compactItems_cons (item : Json) (items : List Json) :
    compactItems (item :: items) = item.compact ++ furtherItems items := by
  cases items <;> simp [compactItems, furtherItems]

theorem compactMembers_cons (name : String) (value : Json) (members : List (String × Json)) :
    compactMembers ((name, value) :: members) =
      quote name.toList ++ ':' :: (value.compact ++ furtherMembers members) := by
  cases members <;> simp [compactMembers, furtherMembers]

theorem passOn?_furtherItems (items : List Json) (passed : ∀ item ∈ items, item.Passed)
    (steps : Nat) (open_ : List Nesting) (rest : Text)
    (enough : (furtherItems items).length ≤ steps) :
    ∃ left, steps ≤ left + (furtherItems items).length ∧
      passOn? steps (.array :: open_) (furtherItems items ++ ']' :: rest) =
        passOn? left open_ rest := by
  induction items generalizing steps with
  | nil => exact ⟨steps, Nat.le_refl _, passOn?_bracket steps open_ rest⟩
  | cons item items ih =>
    rw [furtherItems, compactItems_cons] at enough ⊢
    simp only [List.length_cons, List.length_append] at enough ⊢
    obtain ⟨left₁, bound₁, past₁⟩ := passed item List.mem_cons_self steps (.array :: open_)
      (furtherItems items ++ ']' :: rest) (by omega)
    obtain ⟨left₂, bound₂, past₂⟩ := ih
      (fun item among => passed item (List.mem_cons_of_mem _ among)) left₁ (by omega)
    refine ⟨left₂, by omega, ?_⟩
    rw [List.cons_append, passOn?_comma, List.append_assoc, past₁, past₂]

theorem passOn?_furtherMembers (members : List (String × Json))
    (passed : ∀ member ∈ members, member.2.Passed) (steps : Nat) (open_ : List Nesting)
    (rest : Text) (enough : (furtherMembers members).length ≤ steps) :
    ∃ left, steps ≤ left + (furtherMembers members).length ∧
      passOn? steps (.object :: open_) (furtherMembers members ++ '\x7d' :: rest) =
        passOn? left open_ rest := by
  induction members generalizing steps with
  | nil => exact ⟨steps, Nat.le_refl _, passOn?_brace steps open_ rest⟩
  | cons member members ih =>
    obtain ⟨name, value⟩ := member
    rw [furtherMembers, compactMembers_cons] at enough ⊢
    simp only [List.length_cons, List.length_append] at enough ⊢
    have here : value.Passed := passed (name, value) List.mem_cons_self
    obtain ⟨left₁, bound₁, past₁⟩ := here steps (.object :: open_)
      (furtherMembers members ++ '\x7d' :: rest) (by omega)
    obtain ⟨left₂, bound₂, past₂⟩ := ih
      (fun member among => passed member (List.mem_cons_of_mem _ among)) left₁ (by omega)
    refine ⟨left₂, by omega, ?_⟩
    rw [List.cons_append, List.append_assoc, List.cons_append, passOn?_name, List.append_assoc,
      past₁, past₂]

/-- An array that holds something is entered at its first item. -/
theorem passValue?_bracket {c : Char} (visible : isSpace c = false) (closes : c ≠ ']')
    (steps : Nat) (open_ : List Nesting) (rest : Text) :
    passValue? (steps + 1) open_ ('[' :: c :: rest) =
      passValue? steps (.array :: open_) (c :: rest) := by
  rw [passValue?]
  simp only [skipSpace_cons (show isSpace '[' = false by decide), skipSpace_cons visible]
  split
  · next h => simp only [List.cons.injEq] at h; exact absurd h.1 closes
  · rfl

/-- An object that holds something is entered after its first name. -/
theorem passValue?_brace (steps : Nat) (open_ : List Nesting) (name rest : Text) :
    passValue? (steps + 1) open_ ('\x7b' :: (quote name ++ ':' :: rest)) =
      passValue? steps (.object :: open_) rest := by
  have named := passName?_quote name rest
  rw [quote_append] at named ⊢
  calc passValue? (steps + 1) open_ ('\x7b' :: '"' :: (name.flatMap escape ++ '"' :: ':' :: rest))
    _ = (passName? ('"' :: (name.flatMap escape ++ '"' :: ':' :: rest))).bind
        (passValue? steps (.object :: open_)) := rfl
    _ = _ := by rw [named]; rfl

theorem passed_array {items : List Json} (plain : ∀ item ∈ items, item.Plain)
    (passed : ∀ item ∈ items, item.Passed) : (array items).Passed := by
  intro steps open_ rest enough
  rw [compact, List.length_append, List.length_cons, List.length_singleton] at enough ⊢
  obtain ⟨left, rfl⟩ : ∃ left, steps = left + 1 := ⟨steps - 1, by omega⟩
  cases items with
  | nil => exact ⟨left, by omega, rfl⟩
  | cons item items =>
    obtain ⟨c, first, starts, visible, closes⟩ :=
      (plain item List.mem_cons_self).compact_eq_cons
    rw [compactItems_cons, List.length_append] at enough ⊢
    obtain ⟨left₁, bound₁, past₁⟩ := passed item List.mem_cons_self left (.array :: open_)
      (furtherItems items ++ ']' :: rest) (by omega)
    obtain ⟨left₂, bound₂, past₂⟩ := passOn?_furtherItems items
      (fun item among => passed item (List.mem_cons_of_mem _ among)) left₁ open_ rest (by omega)
    refine ⟨left₂, by omega, ?_⟩
    rw [← past₂, ← past₁, starts]
    simp only [List.cons_append, List.append_assoc, List.nil_append]
    exact passValue?_bracket visible closes left open_ _

theorem passed_object {members : List (String × Json)}
    (passed : ∀ member ∈ members, member.2.Passed) : (object members).Passed := by
  intro steps open_ rest enough
  rw [compact, List.length_append, List.length_cons, List.length_singleton] at enough ⊢
  obtain ⟨left, rfl⟩ : ∃ left, steps = left + 1 := ⟨steps - 1, by omega⟩
  cases members with
  | nil => exact ⟨left, by omega, rfl⟩
  | cons member members =>
    obtain ⟨name, value⟩ := member
    rw [compactMembers_cons] at enough ⊢
    simp only [List.length_append, List.length_cons] at enough ⊢
    have here : value.Passed := passed (name, value) List.mem_cons_self
    obtain ⟨left₁, bound₁, past₁⟩ := here left (.object :: open_)
      (furtherMembers members ++ '\x7d' :: rest) (by omega)
    obtain ⟨left₂, bound₂, past₂⟩ := passOn?_furtherMembers members
      (fun member among => passed member (List.mem_cons_of_mem _ among)) left₁ open_ rest (by omega)
    refine ⟨left₂, by omega, ?_⟩
    rw [← past₂, ← past₁]
    simp only [List.cons_append, List.append_assoc, List.nil_append]
    exact passValue?_brace left open_ _ _

theorem Plain.passed {value : Json} (plain : value.Plain) : value.Passed := by
  induction plain with
  | null => exact passed_null
  | bool value => exact passed_bool value
  | string text => exact passed_string text
  | array plain passed => exact passed_array plain passed
  | object _ passed => exact passed_object passed

/-- A value is passed over, whatever comes after it. -/
theorem pass?_compact {value : Json} (plain : value.Plain) (rest : Text) :
    pass? (value.compact ++ rest) = some rest := by
  obtain ⟨left, -, past⟩ := plain.passed ((value.compact ++ rest).length + 1) [] rest
    (by rw [List.length_append]; omega)
  exact past

/-- What `readMembers?` does once it has read a member. -/
def readOn? (steps : Nat) (found : Members) (rest : Text) : Option (Members × Text) :=
  match skipSpace rest with
  | ',' :: rest => readMembers? steps found rest
  | '\x7d' :: rest => some (found, rest)
  | _ => none

theorem readMembers?_quote (steps : Nat) (found : Members) (name rest : Text) :
    readMembers? (steps + 1) found (quote name ++ ':' :: rest) = (do
      let (found, rest) ←
        if name = "page".toList then
          if found.page.isSome then none
          else (string? (skipSpace rest)).map fun (page, rest) =>
            ({ found with page := some page }, rest)
        else if name = "url".toList then
          if found.resource.isSome then none
          else (string? (skipSpace rest)).map fun (resource, rest) =>
            ({ found with resource := some resource }, rest)
        else (pass? rest).map fun rest => (found, rest)
      readOn? steps found rest) := by
  have named := string?_quote name (':' :: rest)
  rw [quote_append] at named ⊢
  rw [readMembers?, skipSpace_cons (by decide)]
  simp only [named, Option.bind_eq_bind, Option.bind_some,
    skipSpace_cons (show isSpace ':' = false by decide)]
  rfl

theorem skipSpace_quote (text rest : Text) :
    skipSpace (quote text ++ rest) = quote text ++ rest := by
  rw [quote_append, skipSpace_cons (by decide)]

theorem readMembers?_page (steps : Nat) (found : Members) (page rest : Text)
    (unread : found.page = none) :
    readMembers? (steps + 1) found (quote "page".toList ++ ':' :: (quote page ++ rest)) =
      readOn? steps { found with page := some page } rest := by
  rw [readMembers?_quote]
  simp [unread, skipSpace_quote, string?_quote]

theorem readMembers?_url (steps : Nat) (found : Members) (resource rest : Text)
    (unread : found.resource = none) :
    readMembers? (steps + 1) found (quote "url".toList ++ ':' :: (quote resource ++ rest)) =
      readOn? steps { found with resource := some resource } rest := by
  rw [readMembers?_quote]
  simp [unread, skipSpace_quote, string?_quote]

theorem readMembers?_other (steps : Nat) (found : Members) {name : Text}
    (noPage : name ≠ "page".toList) (noUrl : name ≠ "url".toList) {value : Json}
    (plain : value.Plain) (rest : Text) :
    readMembers? (steps + 1) found (quote name ++ ':' :: (value.compact ++ rest)) =
      readOn? steps found rest := by
  rw [readMembers?_quote, if_neg noPage, if_neg noUrl, pass?_compact plain]
  rfl

theorem readOn?_comma (steps : Nat) (found : Members) (rest : Text) :
    readOn? steps found (',' :: rest) = readMembers? steps found rest := by
  simp only [readOn?, skipSpace_cons (show isSpace ',' = false by decide)]

theorem readOn?_furtherMembers (members : List (String × Json))
    (plain : ∀ member ∈ members, member.2.Plain)
    (other : ∀ member ∈ members, member.1 ≠ "page" ∧ member.1 ≠ "url") (steps : Nat)
    (found : Members) (rest : Text) (enough : members.length ≤ steps) :
    readOn? steps found (furtherMembers members ++ '\x7d' :: rest) = some (found, rest) := by
  induction members generalizing steps with
  | nil => rfl
  | cons member members ih =>
    obtain ⟨name, value⟩ := member
    have here : value.Plain := plain (name, value) List.mem_cons_self
    rw [List.length_cons] at enough
    obtain ⟨left, rfl⟩ : ∃ left, steps = left + 1 := ⟨steps - 1, by omega⟩
    have noPage : name.toList ≠ "page".toList := fun same =>
      (other (name, value) List.mem_cons_self).1 (String.toList_inj.mp same)
    have noUrl : name.toList ≠ "url".toList := fun same =>
      (other (name, value) List.mem_cons_self).2 (String.toList_inj.mp same)
    rw [furtherMembers, compactMembers_cons]
    simp only [List.cons_append, List.append_assoc]
    rw [readOn?_comma, readMembers?_other left found noPage noUrl here]
    exact ih (fun member among => plain member (List.mem_cons_of_mem _ among))
      (fun member among => other member (List.mem_cons_of_mem _ among)) left (by omega)

theorem length_le_length_furtherMembers (members : List (String × Json)) :
    members.length ≤ (furtherMembers members).length := by
  induction members with
  | nil => exact Nat.le_refl _
  | cons member members ih =>
    obtain ⟨name, value⟩ := member
    rw [furtherMembers, compactMembers_cons]
    simp only [List.length_cons, List.length_append]
    omega

/-- An object that starts with a page and a resource URL is read as the request for them. -/
theorem readProbe?_compact (probe : Probe) (members : List (String × Json))
    (plain : ∀ member ∈ members, member.2.Plain)
    (other : ∀ member ∈ members, member.1 ≠ "page" ∧ member.1 ≠ "url") :
    readProbe? (object ([("page", string probe.page), ("url", string probe.resource)] ++
      members)).compact = some probe := by
  have enough := length_le_length_furtherMembers members
  let text : Text := quote "page".toList ++ ':' :: (quote probe.page ++ ',' ::
    (quote "url".toList ++ ':' :: (quote probe.resource ++ (furtherMembers members ++ ['\x7d']))))
  have written : (object ([("page", string probe.page), ("url", string probe.resource)] ++
      members)).compact = '\x7b' :: text := by
    simp only [text, compact, List.cons_append, List.nil_append, compactMembers_cons,
      furtherMembers, List.append_assoc]
  have read : readMembers? (text.length + 1) {} text =
      some (⟨some probe.page, some probe.resource⟩, []) := by
    obtain ⟨steps, long⟩ : ∃ steps, text.length + 1 = steps + members.length + 2 :=
      ⟨text.length - members.length - 1, by
        simp only [text, List.length_append, List.length_cons]; omega⟩
    rw [long, readMembers?_page _ _ _ _ rfl, readOn?_comma, readMembers?_url _ _ _ _ rfl]
    exact readOn?_furtherMembers members plain other _ _ [] (by omega)
  rw [written, readProbe?, readProbe?.readEither?, skipSpace_cons (by decide)]
  simp only [readObject?, read]
  rfl

theorem visible_of_unescape? {e c : Char} (means : unescape? e = some c) : 0x20 ≤ e.toNat := by
  unfold unescape? at means
  split at means
  all_goals first | decide | cases means

theorem visible_digitChar : ∀ n < 16, 0x20 ≤ (Nat.digitChar n).toNat := by decide

theorem printable_escape (c : Char) : Printable (escape c) := by
  obtain ⟨e, written, -, means⟩ | ⟨control, written⟩ | ⟨written, -, -, visible⟩ := escape_cases c
  · have visible := visible_of_unescape? means
    simp [Printable, written, visible]
  · have high := visible_digitChar (c.toNat / 16) (by omega)
    have low := visible_digitChar (c.toNat % 16) (by omega)
    simp [Printable, written, unitDigits, high, low]
  · simp only [Printable, written, List.mem_singleton, forall_eq]
    omega

theorem printable_append {before after : Text} :
    Printable (before ++ after) ↔ Printable before ∧ Printable after := List.forall_mem_append

theorem printable_cons {c : Char} {rest : Text} :
    Printable (c :: rest) ↔ 0x20 ≤ c.toNat ∧ Printable rest := List.forall_mem_cons

theorem printable_quote (text : Text) : Printable (quote text) := by
  have inside : Printable (text.flatMap escape) := by
    intro d among
    obtain ⟨c, _, inEscape⟩ := List.mem_flatMap.mp among
    exact printable_escape c d inEscape
  rw [quote, List.cons_append, printable_cons, printable_append]
  exact ⟨by decide, inside, by simp [Printable]⟩

theorem printable_compactItems {items : List Json}
    (printable : ∀ item ∈ items, Printable item.compact) : Printable (compactItems items) := by
  induction items with
  | nil => exact nofun
  | cons item items ih =>
    obtain ⟨first, later⟩ := List.forall_mem_cons.mp printable
    rw [compactItems_cons, printable_append]
    refine ⟨first, ?_⟩
    cases items with
    | nil => exact nofun
    | cons next items => exact printable_cons.mpr ⟨by decide, ih later⟩

theorem printable_compactMembers {members : List (String × Json)}
    (printable : ∀ member ∈ members, Printable member.2.compact) :
    Printable (compactMembers members) := by
  induction members with
  | nil => exact nofun
  | cons member members ih =>
    obtain ⟨first, later⟩ := List.forall_mem_cons.mp printable
    rw [compactMembers_cons, printable_append, printable_cons, printable_append]
    refine ⟨printable_quote _, by decide, first, ?_⟩
    cases members with
    | nil => exact nofun
    | cons next members => exact printable_cons.mpr ⟨by decide, ih later⟩

theorem Plain.printable {value : Json} (plain : value.Plain) : Printable value.compact := by
  induction plain with
  | null => simp [Printable, compact]
  | bool value =>
    have literals : Printable "false".toList ∧ Printable "true".toList := by simp [Printable]
    rw [compact]
    cases value with
    | false => exact literals.1
    | true => exact literals.2
  | string text =>
    rw [compact]
    exact printable_quote text
  | array _ printable =>
    rw [compact, List.cons_append, printable_cons, printable_append]
    exact ⟨by decide, printable_compactItems printable, by simp [Printable]⟩
  | object _ printable =>
    rw [compact, List.cons_append, printable_cons, printable_append]
    exact ⟨by decide, printable_compactMembers printable, by simp [Printable]⟩

theorem library_meets : library.Meets where
  writes value := ⟨value.compact, rfl⟩
  spreads value := ⟨value.spread 0, rfl⟩
  printable := by
    rintro value _ plain ⟨⟩
    exact plain.printable
  reads_written := by
    rintro probe members _ plain other ⟨⟩
    have read := readProbe?_compact probe members plain other
    simp only [read]

end FilterList.Json
