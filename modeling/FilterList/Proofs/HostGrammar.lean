import FilterList.Url
import FilterList.Proofs.TextCutting
import FilterList.Proofs.TextSlices

/-! URLs with a host as they are written: a scheme, perhaps user information, the host, perhaps a
port, and whatever follows the authority. Each part gives up the characters that would end it, so
the host of such a URL is found again, and a text written in no such way has none. -/

namespace FilterList

/-- Where a host ends shows from its start: an address in brackets runs to the closing one, a name
to the first colon. -/
inductive EndsItself : Text → Prop where
  | bracketed (inner : Text) (free : ']' ∉ inner) : EndsItself ('[' :: inner ++ [']'])
  | named (name : Text) (filled : name ≠ []) (unbracketed : name.head? ≠ some '[')
      (free : ':' ∉ name) : EndsItself name

theorem EndsItself.ne_nil {host : Text} (ends : EndsItself host) : host ≠ [] := by
  cases ends with
  | bracketed inner free => exact List.cons_ne_nil _ _
  | named _ filled unbracketed free => exact filled

structure WrittenUrl where
  scheme : Text
  userInfo : Option Text
  host : Text
  port : Option Text
  tail : Text
  scheme_filled : scheme ≠ []
  scheme_plain : ∀ c ∈ scheme, c.isAlphanum = true ∨ c ∈ ['+', '-', '.']
  userInfo_free : ∀ info ∈ userInfo, ∀ c ∈ info, c ∉ ['/', '?', '#']
  host_ends : EndsItself host
  host_free : ∀ c ∈ host, c ∉ ['@', '/', '?', '#']
  port_free : ∀ name ∈ port, ∀ c ∈ name, c ∉ ['@', '/', '?', '#']
  tail_opens : ∀ c ∈ tail.head?, c ∈ ['/', '?', '#']

namespace WrittenUrl

def writeUserInfo : Option Text → Text
  | none => []
  | some info => info ++ ['@']

def writePort : Option Text → Text
  | none => []
  | some port => ':' :: port

theorem authority_free_iff {userInfo port : Option Text} {host : Text} :
    (∀ c ∈ writeUserInfo userInfo ++ (host ++ writePort port), c ∉ ['/', '?', '#']) ∧
        '@' ∉ host ++ writePort port ↔
      (∀ info ∈ userInfo, ∀ c ∈ info, c ∉ ['/', '?', '#']) ∧
        (∀ c ∈ host, c ∉ ['@', '/', '?', '#']) ∧
        ∀ name ∈ port, ∀ c ∈ name, c ∉ ['@', '/', '?', '#'] := by
  cases userInfo <;> cases port <;> grind [writeUserInfo, writePort]

variable (url : WrittenUrl)

def before : Text := url.scheme ++ ':' :: '/' :: '/' :: writeUserInfo url.userInfo

def after : Text := writePort url.port ++ url.tail

def text : Text := url.before ++ url.host ++ url.after

def hostAndPort : Text := url.host ++ writePort url.port

def authority : Text := writeUserInfo url.userInfo ++ url.hostAndPort

theorem text_eq : url.text = url.scheme ++ ':' :: '/' :: '/' :: (url.authority ++ url.tail) := by
  simp [text, before, after, authority, hostAndPort]

theorem authority_free :
    (∀ c ∈ url.authority, c ∉ ['/', '?', '#']) ∧ '@' ∉ url.hostAndPort :=
  authority_free_iff.mpr ⟨url.userInfo_free, url.host_free, url.port_free⟩

theorem host_ne_nil : url.host ≠ [] := by
  exact url.host_ends.ne_nil

end WrittenUrl

namespace Url
open WrittenUrl

theorem isSchemeChar_iff {c : Char} :
    isSchemeChar c = true ↔ c.isAlphanum = true ∨ c ∈ ['+', '-', '.'] := by
  simp [isSchemeChar, or_assoc]

theorem endsAuthority_iff {c : Char} : endsAuthority c = true ↔ c ∈ ['/', '?', '#'] := by
  simp [endsAuthority, or_assoc]

theorem scanAuthority_iff {rest authority tail : Text} :
    rest.takeWhile (!endsAuthority ·) = authority ∧ rest.dropWhile (!endsAuthority ·) = tail ↔
      rest = authority ++ tail ∧ (∀ c ∈ authority, c ∉ ['/', '?', '#']) ∧
        ∀ c ∈ tail.head?, c ∈ ['/', '?', '#'] := by
  rw [Text.scan_iff]
  simp only [Bool.not_eq_true', ← Bool.not_eq_true, endsAuthority_iff, not_not]

theorem exists_writeUserInfo_iff {lead : Text} :
    (∃ info, lead = writeUserInfo info) ↔ ∀ c ∈ lead.getLast?, c = '@' := by
  constructor
  · rintro ⟨info, rfl⟩
    cases info <;> simp [writeUserInfo]
  · intro ends
    cases lead using List.reverseRecOn with
    | nil => exact ⟨none, rfl⟩
    | append_singleton info c =>
      obtain rfl : c = '@' := ends c List.getLast?_concat
      exact ⟨some info, rfl⟩

theorem exists_writePort_iff {rest : Text} :
    (∃ port, rest = writePort port) ↔ ∀ c ∈ rest.head?, c = ':' := by
  constructor
  · rintro ⟨port, rfl⟩
    cases port <;> simp [writePort]
  · intro opens
    cases rest with
    | nil => exact ⟨none, rfl⟩
    | cons c port =>
      obtain rfl : c = ':' := opens c rfl
      exact ⟨some port, rfl⟩

theorem splitScheme?_eq_some_iff {url scheme rest : Text} :
    splitScheme? url = some (scheme, rest) ↔
      url = scheme ++ ':' :: '/' :: '/' :: rest ∧ scheme ≠ [] ∧
        ∀ c ∈ scheme, isSchemeChar c = true := by
  have usable (scheme : Text) : ¬(scheme.isEmpty || !scheme.all isSchemeChar) = true ↔
      scheme ≠ [] ∧ ∀ c ∈ scheme, isSchemeChar c = true := by
    simp
  constructor
  · intro split
    unfold splitScheme? at split
    split at split
    next slashes =>
      dsimp only at split
      split at split
      next => cases split
      next plain =>
        cases split
        obtain ⟨joined, _⟩ := Text.scanTo_iff.mp ⟨rfl, slashes⟩
        exact ⟨joined, (usable _).mp plain⟩
    next => cases split
  · rintro ⟨rfl, filled, plain⟩
    have free : ':' ∉ scheme := fun member => absurd (plain _ member) (by decide)
    obtain ⟨read, unread⟩ := Text.scanTo_iff.mpr
      ⟨(rfl : scheme ++ ':' :: '/' :: '/' :: rest = _), free, by simp⟩
    simp only [splitScheme?, read, unread, if_neg ((usable scheme).mpr ⟨filled, plain⟩)]

/-- The last `@` of an authority ends its user information, which may hold others. -/
theorem afterLast_eq_iff {authority hostAndPort : Text} :
    Text.afterLast '@' authority = hostAndPort ↔
      '@' ∉ hostAndPort ∧ ∃ info, authority = writeUserInfo info ++ hostAndPort := by
  rw [Text.afterLast_eq_iff]
  constructor
  · rintro ⟨free, lead, rfl, ends⟩
    obtain ⟨info, rfl⟩ := exists_writeUserInfo_iff.mpr ends
    exact ⟨free, info, rfl⟩
  · rintro ⟨free, info, rfl⟩
    exact ⟨free, _, rfl, exists_writeUserInfo_iff.mp ⟨info, rfl⟩⟩

theorem onlyPortFollows_iff {after : Text} :
    (after.isEmpty || after.head? == some ':') = true ↔ ∀ c ∈ after.head?, c = ':' := by
  cases after <;> simp

theorem takeHost?_unbracketed {authority : Text} (unbracketed : authority.head? ≠ some '[') :
    takeHost? authority =
      if authority.takeWhile (· ≠ ':') = [] then none
      else some (authority.takeWhile (· ≠ ':')) := by
  unfold takeHost?
  split
  next => exact absurd rfl unbracketed
  next => simp only [List.isEmpty_iff]

theorem ends_of_takeHost? {authority host : Text} (taken : takeHost? authority = some host) :
    EndsItself host ∧ ∃ port, authority = host ++ writePort port := by
  by_cases bracket : authority.head? = some '['
  · obtain ⟨inner, rfl⟩ := List.head?_eq_some_iff.mp bracket
    rw [takeHost?] at taken
    split at taken
    next => cases taken
    next c after closing =>
      split at taken
      next clear =>
        cases taken
        obtain ⟨joined, free, stop⟩ := Text.scanTo_iff.mp ⟨rfl, closing⟩
        obtain rfl : c = ']' := stop c rfl
        obtain ⟨port, rfl⟩ := exists_writePort_iff.mpr (onlyPortFollows_iff.mp clear)
        exact ⟨.bracketed _ free, port, by simpa using joined⟩
      next => cases taken
  · rw [takeHost?_unbracketed bracket] at taken
    split at taken
    next => cases taken
    next filled =>
      cases taken
      obtain ⟨joined, free, stop⟩ :=
        Text.scanTo_iff.mp (And.intro (rfl : authority.takeWhile (· ≠ ':') = _) rfl)
      have unbracketed : (authority.takeWhile (· ≠ ':')).head? ≠ some '[' := by
        rwa [joined, List.head?_append_of_ne_nil _ filled] at bracket
      obtain ⟨port, rest⟩ := exists_writePort_iff.mpr stop
      exact ⟨.named _ filled unbracketed free, port, by rw [← rest, ← joined]⟩

theorem takeHost?_append {host : Text} (ends : EndsItself host) (port : Option Text) :
    takeHost? (host ++ writePort port) = some host := by
  have clear := exists_writePort_iff.mp ⟨port, rfl⟩
  cases ends with
  | bracketed inner free =>
    obtain ⟨read, unread⟩ := Text.scanTo_iff.mpr
      ⟨(rfl : inner ++ ']' :: writePort port = _), free, by simp⟩
    rw [List.append_assoc, List.cons_append, List.singleton_append, takeHost?]
    simp only [read, unread, if_pos (onlyPortFollows_iff.mpr clear)]
  | named _ filled unbracketed free =>
    obtain ⟨read, _⟩ := Text.scanTo_iff.mpr ⟨(rfl : host ++ writePort port = _), free, clear⟩
    rw [takeHost?_unbracketed, read, if_neg filled]
    rwa [List.head?_append_of_ne_nil _ filled]

theorem splitHost?_text (url : WrittenUrl) :
    splitHost? url.text = some ⟨url.before, url.host, url.after⟩ := by
  have scheme : splitScheme? url.text = some (url.scheme, url.authority ++ url.tail) := by
    refine splitScheme?_eq_some_iff.mpr ⟨url.text_eq, url.scheme_filled, ?_⟩
    exact fun c member => isSchemeChar_iff.mpr (url.scheme_plain c member)
  obtain ⟨authority, _⟩ := scanAuthority_iff.mpr
    ⟨(rfl : url.authority ++ url.tail = _), url.authority_free.1, url.tail_opens⟩
  have hostAndPort : Text.afterLast '@' url.authority = url.hostAndPort :=
    afterLast_eq_iff.mpr ⟨url.authority_free.2, url.userInfo, rfl⟩
  have host : takeHost? url.hostAndPort = some url.host := takeHost?_append url.host_ends url.port
  have userInfo : url.authority.take (url.authority.length - url.hostAndPort.length) =
      writeUserInfo url.userInfo := by
    rw [WrittenUrl.authority, List.length_append, Nat.add_sub_cancel, List.take_left]
  have after : url.text.drop (url.before.length + url.host.length) = url.after := by
    rw [text, ← List.length_append, List.drop_left]
  simp only [splitHost?, scheme, authority, hostAndPort, host, userInfo, Option.bind_eq_bind,
    Option.bind_some]
  rw [← before, after]
  rfl

theorem exists_written {url : Text} {split : HostSplit} (found : splitHost? url = some split) :
    ∃ written : WrittenUrl, written.text = url := by
  obtain ⟨⟨scheme, rest⟩, schemeSplit, found⟩ := Option.bind_eq_some_iff.mp found
  obtain ⟨host, taken, _⟩ := Option.bind_eq_some_iff.mp found
  obtain ⟨joined, filled, plain⟩ := splitScheme?_eq_some_iff.mp schemeSplit
  obtain ⟨atTail, runsOn, opens⟩ :=
    scanAuthority_iff.mp (And.intro (rfl : rest.takeWhile (!endsAuthority ·) = _) rfl)
  generalize rest.takeWhile (!endsAuthority ·) = authority at taken atTail runsOn
  generalize rest.dropWhile (!endsAuthority ·) = tail at atTail opens
  obtain ⟨ends, port, atPort⟩ := ends_of_takeHost? taken
  obtain ⟨unmarked, info, rfl⟩ := afterLast_eq_iff.mp atPort
  obtain ⟨infoFree, hostFree, portFree⟩ := authority_free_iff.mp ⟨runsOn, unmarked⟩
  have schemePlain : ∀ c ∈ scheme, c.isAlphanum = true ∨ c ∈ ['+', '-', '.'] :=
    fun c member => isSchemeChar_iff.mp (plain c member)
  refine ⟨⟨scheme, info, host, port, tail, filled, schemePlain, infoFree, ends, hostFree, portFree,
    opens⟩, ?_⟩
  rw [text_eq, joined, atTail]
  rfl

/-- A URL has a host where it can be written with one, and then in no two places. -/
theorem splitHost?_eq_some_iff {url : Text} {split : HostSplit} :
    splitHost? url = some split ↔
      ∃ written : WrittenUrl, written.text = url ∧
        split = ⟨written.before, written.host, written.after⟩ := by
  constructor
  · intro found
    obtain ⟨written, rfl⟩ := exists_written found
    exact ⟨written, rfl, Option.some.inj (found.symm.trans (splitHost?_text written))⟩
  · rintro ⟨written, rfl, rfl⟩
    exact splitHost?_text written

theorem host?_text (url : WrittenUrl) : host? url.text = some url.host := by
  rw [host?, splitHost?_text, Option.map_some]

theorem hostSpan?_text (url : WrittenUrl) :
    hostSpan? url.text =
      some (url.before.utf8Length, url.before.utf8Length + url.host.utf8Length) := by
  rw [hostSpan?, splitHost?_text, Option.map_some]

/-- The positions of a host cut the URL between characters, and the host is what they cut out. -/
theorem slice?_host (url : WrittenUrl) :
    Text.slice? url.text url.before.utf8Length (url.before.utf8Length + url.host.utf8Length) =
      some url.host :=
  Text.slice?_eq_some_iff.mpr ⟨url.before, url.after, rfl, rfl, rfl⟩

theorem host_unique {url other : WrittenUrl} (same : url.text = other.text) :
    url.before = other.before ∧ url.host = other.host := by
  have split := splitHost?_text url
  rw [same, splitHost?_text other, Option.some.injEq, HostSplit.mk.injEq] at split
  exact ⟨split.1.symm, split.2.1.symm⟩

end Url

end FilterList
