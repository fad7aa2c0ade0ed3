import FilterList.Proofs.DomainLabels
import FilterList.Proofs.HostGrammar
import FilterList.Proofs.RuleMeaning
import FilterList.Proofs.SampledEntries
import FilterList.Proofs.WildcardLayouts

/-! A request made from an entry always asks for a resource that the entry's segments match. Whether the
entry fires on it then depends on hosts alone: the entry's domain has to be the host of the page made
from it, and where the table is for third parties the resource needs a host, and another one. -/

namespace FilterList

section Paths
variable (lead tail : Text) (parts : Segments)

def Segments.layout : Layout where
  spans := (lead, parts.first) :: parts.toList.tail.map (['/'], ·)
  filled := List.cons_ne_nil _ _
  lastGap := tail

theorem Segments.segments_layout : (parts.layout lead tail).segments = parts.toList := by
  simp [layout, Layout.segments, Function.comp_def, first]

theorem Segments.text_layout :
    (parts.layout lead tail).text = lead ++ Text.join ['/'] parts.toList ++ tail := by
  have whole := List.cons_head_tail parts.ne_nil
  rw [← whole, Text.join_cons_eq_flatMap]
  simp only [layout, Layout.text, first, List.flatMap_cons, List.flatMap_map, List.append_assoc]

end Paths

theorem Segments.AskedFor.fires_eq {parts : Segments} {anchor : Anchor} {resource : Text}
    (asked : parts.AskedFor anchor resource) (domain : Option Text) (page : Text) :
    (Entry.mk domain (.segments parts)).fires anchor (.ofUrls page resource) =
      domain.all fun name => (Url.host? page).any (Domain.covers name) := by
  cases asked with
  | start =>
    have found := (parts.layout [] []).occurFromStart_text rfl
    rw [segments_layout, text_layout, List.nil_append, List.append_nil] at found
    exact (congrArg (_ && ·) found).trans (Bool.and_true _)
  | stop =>
    have found := (parts.layout (Probe.resourceHost ++ ['/']) []).occurToEnd_text rfl
    rw [segments_layout, text_layout, List.append_nil, List.append_assoc] at found
    exact (congrArg (_ && ·) found).trans (Bool.and_true _)
  | anywhere =>
    have found := (parts.layout (Probe.resourceHost ++ ['/']) "/x".toList).occurIn_text
    rw [segments_layout, text_layout, List.append_assoc _ ['/']] at found
    exact (congrArg (_ && ·) found).trans (Bool.and_true _)

/-- A text that is a host as it stands: nothing in it ends it, or the authority that it is all of. -/
structure IsHost (text : Text) : Prop where
  ends : EndsItself text
  free : ∀ c ∈ text, c ∉ ['@', '/', '?', '#']

namespace IsHost
variable {name : Text} (isHost : IsHost name)
include isHost

def url (path : Text) : WrittenUrl where
  scheme := "https".toList
  userInfo := none
  host := name
  port := none
  tail := '/' :: path
  scheme_filled := by simp
  scheme_plain := by simp
  userInfo_free := nofun
  host_ends := isHost.ends
  host_free := isHost.free
  port_free := nofun
  tail_opens := by simp

theorem host?_https (path : Text) :
    Url.host? ("https://".toList ++ name ++ '/' :: path) = some name := by
  have found := Url.host?_text (isHost.url path)
  simpa [WrittenUrl.text, WrittenUrl.before, WrittenUrl.after, url, WrittenUrl.writeUserInfo,
    WrittenUrl.writePort] using found

end IsHost

theorem Text.count_dot_lt {text : Text} {c : Char} (inside : c ∈ text) (other : c ≠ '.') :
    text.count '.' < text.length := by
  apply Nat.lt_of_le_of_ne List.count_le_length
  intro all
  exact other (List.count_eq_length.mp all c inside).symm

namespace Probe

/-- The host of a domain's page is the domain, or what is left of it without user information before
and without what follows a host. -/
theorem exists_of_host?_pageOn {domain host : Text} (found : Url.host? (pageOn domain) = some host) :
    IsHost host ∧ ∃ before after, domain = before ++ host ++ after ∧
      (∀ c ∈ before.getLast?, c = '@') ∧ ∀ c ∈ after.head?, c ∈ [':', '/', '?', '#'] := by
  obtain ⟨split, cut, rfl⟩ := Option.map_eq_some_iff.mp found
  obtain ⟨written, same, rfl⟩ := Url.splitHost?_eq_some_iff.mp cut
  have read : Url.splitScheme? written.text = some (written.scheme, written.authority ++ written.tail) :=
    Url.splitScheme?_eq_some_iff.mpr ⟨written.text_eq, written.scheme_filled, fun c member =>
      Url.isSchemeChar_iff.mpr (written.scheme_plain c member)⟩
  have schemePlain : ∀ c ∈ "https".toList, Url.isSchemeChar c = true := by simp [Url.isSchemeChar]
  have readPage : Url.splitScheme? (pageOn domain) = some ("https".toList, domain ++ ['/']) :=
    Url.splitScheme?_eq_some_iff.mpr ⟨rfl, List.cons_ne_nil _ _, schemePlain⟩
  rw [same, readPage, Option.some.injEq, Prod.mk.injEq] at read
  obtain ⟨_, rest⟩ := read
  rcases List.eq_nil_or_concat' written.tail with untailed | ⟨front, c, tailed⟩
  · rw [untailed, List.append_nil] at rest
    have slash : '/' ∈ written.authority := rest ▸ List.mem_append_right _ List.mem_cons_self
    exact absurd List.mem_cons_self (written.authority_free.1 _ slash)
  · rw [tailed, ← List.append_assoc] at rest
    obtain ⟨whole, _⟩ := List.append_inj' rest rfl
    refine ⟨⟨written.host_ends, written.host_free⟩, WrittenUrl.writeUserInfo written.userInfo,
      WrittenUrl.writePort written.port ++ front, ?_, ?_, ?_⟩
    · rw [whole, WrittenUrl.authority, WrittenUrl.hostAndPort]
      simp only [List.append_assoc]
    · exact Url.exists_writeUserInfo_iff.mp ⟨_, rfl⟩
    · intro d opens
      cases port : written.port with
      | some name =>
        rw [port] at opens
        cases opens
        exact List.mem_cons_self
      | none =>
        rw [port] at opens
        have first : front.head? = some d := opens
        apply List.mem_cons_of_mem
        apply written.tail_opens
        rw [tailed, List.head?_append, first]
        rfl

theorem covers_host_iff {domain host : Text} (found : Url.host? (pageOn domain) = some host) :
    Domain.covers domain host = true ↔ host = domain ∧ domain ≠ ['.'] := by
  obtain ⟨isHost, before, after, rfl, ends, opens⟩ := exists_of_host?_pageOn found
  constructor
  · intro covered
    have solidBefore : before = [] ∨ before.count '.' < before.length := by
      cases last : before.getLast? with
      | none => exact .inl (List.getLast?_eq_none_iff.mp last)
      | some c =>
        have mark : c ≠ '.' := by simp [ends c last]
        exact .inr (Text.count_dot_lt (List.mem_of_getLast? last) mark)
    have solidAfter : after = [] ∨ after.count '.' < after.length := by
      cases first : after.head? with
      | none => exact .inl (List.head?_eq_none_iff.mp first)
      | some c =>
        have mark : c ≠ '.' := by
          rintro rfl
          simpa using opens '.' first
        exact .inr (Text.count_dot_lt (List.mem_of_head? first) mark)
    obtain ⟨rfl, rfl⟩ := Domain.eq_nil_of_covers_part covered solidBefore solidAfter
    rw [List.nil_append, List.append_nil] at covered ⊢
    exact ⟨rfl, (Domain.covers_self_iff.mp covered).2⟩
  · intro ⟨same, notDot⟩
    rw [← same] at notDot ⊢
    exact Domain.covers_self_iff.mpr ⟨isHost.ends.ne_nil, notDot⟩

theorem any_covers_pageOn_iff {domain : Text} :
    (Url.host? (pageOn domain)).any (Domain.covers domain) = true ↔
      IsHost domain ∧ domain ≠ ['.'] := by
  rw [Option.any_eq_true]
  constructor
  · intro ⟨host, found, covered⟩
    obtain ⟨rfl, notDot⟩ := (covers_host_iff found).mp covered
    exact ⟨(exists_of_host?_pageOn found).1, notDot⟩
  · intro ⟨isHost, notDot⟩
    have found : Url.host? (pageOn domain) = some domain := isHost.host?_https []
    exact ⟨domain, found, (covers_host_iff found).mpr ⟨rfl, notDot⟩⟩

theorem host?_plainPage : Url.host? plainPage = some "page.bench.test".toList := by decide +kernel

end Probe

theorem Segments.AskedFor.host?_of_ne_start {parts : Segments} {anchor : Anchor} {resource : Text}
    (asked : parts.AskedFor anchor resource) (unpinned : anchor ≠ .start) :
    Url.host? resource = some "cdn.bench.test".toList := by
  have isHost : IsHost "cdn.bench.test".toList :=
    ⟨.named _ (by simp) (by simp) (by simp), by simp⟩
  cases asked with
  | start => exact absurd rfl unpinned
  | stop => exact isHost.host?_https _
  | anywhere =>
    rw [List.append_assoc]
    exact isHost.host?_https _

theorem Request.isThirdParty_ofUrls_iff {page host : Text} (known : Url.host? page = some host)
    (resource : Text) : (ofUrls page resource).isThirdParty = true ↔
      ∃ other, Url.host? resource = some other ∧ Text.caselessEq host other = false := by
  simp only [isThirdParty, ofUrls, known]
  cases Url.host? resource <;> simp

theorem Segments.AskedFor.reached_iff {table : Table} {domain : Option Text} {thirdParty : Bool}
    {parts : Segments} {resource : Text} (asked : parts.AskedFor table.anchor resource)
    (takes : table.Takes domain.isSome thirdParty false) :
    let request := Request.ofUrls (domain.elim Probe.plainPage Probe.pageOn) resource
    request.admits table.scope = true ∧
        (Entry.mk domain (.segments parts)).fires table.anchor request = true ↔
      (∀ name, domain = some name → IsHost name ∧ name ≠ ['.']) ∧
      (thirdParty = true → ∃ host, Url.host? resource = some host ∧
        Text.caselessEq (domain.getD "page.bench.test".toList) host = false) := by
  intro request
  rw [asked.fires_eq, Request.admits_iff, takes.scope]
  cases domain with
  | none =>
    have parties : request.isThirdParty = true ↔ _ :=
      Request.isThirdParty_ofUrls_iff Probe.host?_plainPage resource
    simp [parties]
  | some name =>
    have onPage : (Url.host? (Probe.pageOn name)).any (Domain.covers name) = true ↔ _ :=
      Probe.any_covers_pageOn_iff
    simp only [Option.elim_some, Option.all_some, Option.getD_some, Option.some.injEq, forall_eq',
      onPage]
    constructor
    · intro ⟨⟨_, apart⟩, isHost, notDot⟩
      have known : Url.host? (Probe.pageOn name) = some name := isHost.host?_https []
      refine ⟨⟨isHost, notDot⟩, fun limited => ?_⟩
      exact (Request.isThirdParty_ofUrls_iff known resource).mp (apart limited)
    · intro ⟨⟨isHost, notDot⟩, apart⟩
      have known : Url.host? (Probe.pageOn name) = some name := isHost.host?_https []
      refine ⟨⟨fun _ => ?_, fun limited => ?_⟩, isHost, notDot⟩
      · exact Option.isSome_of_eq_some known
      · exact (Request.isThirdParty_ofUrls_iff known resource).mpr (apart limited)

namespace Compilation

/-- Every entry of a compiled list that is no regular expression gives a request. It reaches the entry
where the entry's domain, if it has one, is a host and not a dot alone, and where a table for third
parties finds a host in the resource that is not the page's. The resource is on a host of its own, or
is the segments with slashes between them where these are pinned to the start of URLs. -/
theorem reached_iff_hosts (lines : List Text) (table : Table) (entry : Entry)
    (compiled : entry ∈ (ofLines lines).rules.table table) (plain : entry.isRegex = false) :
    ∃ probe, Probe.ofPlacement? ⟨table, entry⟩ = some probe ∧
      (table.anchor ≠ .start → Url.host? probe.resource = some "cdn.bench.test".toList) ∧
      (table.anchor = .start → ∃ parts, entry.body = .segments parts ∧
        probe.resource = Text.join ['/'] parts.toList) ∧
      (probe.request.admits table.scope = true ∧ entry.fires table.anchor probe.request = true ↔
        (∀ domain, entry.domain = some domain → IsHost domain ∧ domain ≠ ['.']) ∧
        (table.scope.thirdParty = true → ∃ host, Url.host? probe.resource = some host ∧
          Text.caselessEq (entry.domain.getD "page.bench.test".toList) host = false)) := by
  obtain ⟨thirdParty, takes⟩ := takes_of_compiled (RuleSet.mem_table.mp compiled)
  obtain ⟨domain, body⟩ := entry
  cases body with
  | regex pattern => cases plain
  | segments parts =>
    obtain ⟨resource, made, asked⟩ := Probe.exists_ofPlacement? takes parts
    refine ⟨_, made, asked.host?_of_ne_start, fun pinned => ⟨parts, rfl, ?_⟩, ?_⟩
    · rw [pinned] at asked
      cases asked
      rfl
    · have limited : table.scope.thirdParty = thirdParty := by rw [takes.scope]
      rw [limited]
      exact asked.reached_iff takes

theorem reached_iff_hosts_of_port :
    let lines := ["|https://px.test/*.gif$third-party,domain=.b.test".toList,
      "ads$domain=b.test:80".toList]
    let pixel : Entry := ⟨some ".b.test".toList,
      .segments ⟨["https://px.test/".toList, ".gif".toList], by decide, by decide⟩⟩
    let ads : Entry := ⟨some "b.test:80".toList, .segments (.single "ads".toList)⟩
    pixel ∈ (ofLines lines).rules.table .blockThirdPartyDomainInitial ∧
    (∃ probe, Probe.ofPlacement? ⟨.blockThirdPartyDomainInitial, pixel⟩ = some probe ∧
      pixel.fires .start probe.request = true) ∧
    ads ∈ (ofLines lines).rules.table .blockDomain ∧
    ∃ probe, Probe.ofPlacement? ⟨.blockDomain, ads⟩ = some probe ∧
      ¬ (probe.request.admits Table.blockDomain.scope = true ∧
        ads.fires .anywhere probe.request = true) := by
  intro lines pixel ads
  have compiledPixel : pixel ∈ (ofLines lines).rules.table .blockThirdPartyDomainInitial := by
    decide +kernel
  have compiledAds : ads ∈ (ofLines lines).rules.table .blockDomain := by decide +kernel
  obtain ⟨first, madeFirst, _, asked, reached⟩ := reached_iff_hosts lines _ pixel compiledPixel rfl
  obtain ⟨second, madeSecond, _, _, unreached⟩ := reached_iff_hosts lines _ ads compiledAds rfl
  refine ⟨compiledPixel, ⟨first, madeFirst, (reached.mpr ⟨?_, ?_⟩).2⟩, compiledAds, second,
    madeSecond, fun hit => ?_⟩
  · rintro domain ⟨⟩
    exact ⟨⟨.named _ (by simp) (by simp) (by simp), by simp⟩, by decide⟩
  · intro _
    obtain ⟨parts, same, resource⟩ := asked rfl
    cases same
    exact ⟨"px.test".toList, by rw [resource]; decide +kernel, by decide⟩
  · obtain ⟨⟨ends, _⟩, _⟩ := (unreached.mp hit).1 _ rfl
    cases ends with
    | named _ _ _ free => exact free (by decide)

/-- A bare scheme has no host, so it is no third party. -/
theorem not_reached_of_compiled :
    ¬ ∀ (lines : List Text) (table : Table) (entry : Entry),
      entry ∈ (ofLines lines).rules.table table → entry.isRegex = false →
        ∃ probe, Probe.ofPlacement? ⟨table, entry⟩ = some probe ∧
          probe.request.admits table.scope = true ∧ entry.fires table.anchor probe.request = true := by
  intro reached
  let entry : Entry := ⟨none, .segments (.single "https://".toList)⟩
  have compiled : entry ∈
      (ofLines ["|https://$third-party".toList]).rules.table .blockThirdPartyInitial := by
    decide +kernel
  obtain ⟨probe, made, admitted, _⟩ := reached _ _ entry compiled rfl
  have built : Probe.ofPlacement? ⟨.blockThirdPartyInitial, entry⟩ =
      some ⟨Probe.plainPage, "https://".toList⟩ := by decide +kernel
  cases built.symm.trans made
  have refused : (Request.ofUrls Probe.plainPage "https://".toList).admits
      Table.blockThirdPartyInitial.scope = false := by decide +kernel
  exact Bool.false_ne_true (refused.symm.trans admitted)

end Compilation

end FilterList
