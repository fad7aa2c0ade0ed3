import FilterList.Compilation
import FilterList.Subscriptions

/-! Rules know nothing of the page that makes a request but its host, and nothing of the case of the
letters in that. Pages alike in it get the same verdict from any list, found in the same way. -/

namespace FilterList

namespace Text

theorem toLower_eq_dot_iff {c : Char} : c.toLower = '.' ↔ c = '.' := by
  constructor
  · intro dot
    unfold Char.toLower at dot
    split at dot
    · next capital =>
      -- A capital becomes a letter, which is no dot.
      have low : 65 ≤ c.toNat := capital.1
      have high : c.toNat ≤ 90 := capital.2
      have moved : (c.toNat + 32) % 4294967296 = 46 := by
        simpa [← Char.toNat_val] using congrArg (fun d : Char => d.val.toNat) dot
      omega
    · exact dot
  · rintro rfl
    rfl

variable {left right : Text}

theorem length_eq_of_lower (same : lower left = lower right) : left.length = right.length := by
  simpa [lower] using congrArg List.length same

theorem lower_take (same : lower left = lower right) (n : Nat) :
    lower (left.take n) = lower (right.take n) := by
  simpa only [lower, List.map_take] using congrArg (List.take n) same

theorem lower_drop (same : lower left = lower right) (n : Nat) :
    lower (left.drop n) = lower (right.drop n) := by
  simpa only [lower, List.map_drop] using congrArg (List.drop n) same

theorem getLast?_lower_eq_dot_iff (text : Text) :
    (lower text).getLast? = some '.' ↔ text.getLast? = some '.' := by
  rw [lower, List.getLast?_map, Option.map_eq_some_iff]
  constructor
  · intro ⟨c, last, dot⟩
    rwa [toLower_eq_dot_iff.mp dot] at last
  · intro last
    exact ⟨'.', last, rfl⟩

theorem endsInDot_congr (same : lower left = lower right) :
    (left.getLast? == some '.') = (right.getLast? == some '.') := by
  rw [Bool.eq_iff_iff, beq_iff_eq, beq_iff_eq, ← getLast?_lower_eq_dot_iff left,
    ← getLast?_lower_eq_dot_iff right, same]

theorem isEmpty_congr (same : lower left = lower right) : left.isEmpty = right.isEmpty := by
  have length := length_eq_of_lower same
  rw [Bool.eq_iff_iff, List.isEmpty_iff_length_eq_zero, List.isEmpty_iff_length_eq_zero, length]

end Text

theorem Domain.covers_congr {host other : Text} (same : Text.lower host = Text.lower other)
    (domain : Text) : covers domain host = covers domain other := by
  have length := Text.length_eq_of_lower same
  simp only [covers, Text.caselessEq, length, Text.lower_drop same,
    Text.isEmpty_congr (Text.lower_take same _), Text.endsInDot_congr (Text.lower_take same _)]

/-- Two hosts unknown, or the same but for the case of letters. -/
inductive SameHost : Option Text → Option Text → Prop where
  | unknown : SameHost none none
  | known {host other : Text} (equal : Text.caselessEq host other = true) :
      SameHost (some host) (some other)

namespace SameHost
variable {host other : Option Text} (same : SameHost host other)
include same

theorem isSome_eq : host.isSome = other.isSome := by
  cases same <;> rfl

theorem any_covers_eq (domain : Text) :
    host.any (Domain.covers domain) = other.any (Domain.covers domain) := by
  cases same with
  | unknown => rfl
  | known equal => exact Domain.covers_congr (Text.caselessEq_iff.mp equal) domain

theorem isThirdParty_eq (resource : Text) (resourceHost : Option Text) :
    (Request.mk host resource resourceHost).isThirdParty =
      (Request.mk other resource resourceHost).isThirdParty := by
  cases same with
  | unknown => rfl
  | known equal =>
    cases resourceHost with
    | none => rfl
    | some name => simp only [Request.isThirdParty, Text.caselessEq, Text.caselessEq_iff.mp equal]

end SameHost

/-- Requests for one resource from pages of the same host. -/
structure Request.Alike (request other : Request) : Prop where
  pageHost : SameHost request.pageHost other.pageHost
  resource : request.resource = other.resource
  resourceHost : request.resourceHost = other.resourceHost

namespace Request.Alike
variable {request other : Request} (alike : request.Alike other)
include alike

theorem admits_eq (scope : Scope) : request.admits scope = other.admits scope := by
  obtain ⟨host, resource, resourceHost⟩ := request
  obtain ⟨otherHost, _, _⟩ := other
  obtain ⟨same, rfl, rfl⟩ := alike
  simp only [admits, same.isSome_eq, same.isThirdParty_eq]

theorem skipReason?_eq (scope : Scope) : request.skipReason? scope = other.skipReason? scope := by
  have noHost : request.pageHost.isNone = other.pageHost.isNone := by
    rw [← Option.not_isSome, ← Option.not_isSome, alike.pageHost.isSome_eq]
  rw [skipReason?, skipReason?, alike.admits_eq, noHost]

theorem fires_eq (entry : Entry) (anchor : Anchor) :
    entry.fires anchor request = entry.fires anchor other := by
  simp only [Entry.fires, alike.pageHost.any_covers_eq, alike.resource]

/-- Each table is passed over or tried for both, and the same entry of it fires first. -/
theorem scan_eq (rules : RuleSet) (tables : List Table) :
    rules.scan request tables = rules.scan other tables := by
  induction tables with
  | nil => rfl
  | cons table rest ih => simp only [RuleSet.scan, alike.skipReason?_eq, alike.fires_eq, ih]

theorem evaluate_eq (rules : RuleSet) : rules.evaluate request = rules.evaluate other := by
  simp only [RuleSet.evaluate, RuleSet.findException, RuleSet.findBlock, alike.scan_eq]

theorem evaluate_subscriptions_eq (subscriptions : Subscriptions) :
    subscriptions.evaluate request = subscriptions.evaluate other := by
  simp only [Subscriptions.evaluate, RuleSet.findException, RuleSet.findBlock, alike.scan_eq]

end Request.Alike

namespace SameHost

/-- Pages of one host, however it is written and whatever else their URLs hold, get the same
decision on every resource from every list and from all lists in force, made by the same entry
after the same tables. -/
theorem decide_eq {page other : Text} (same : SameHost (Url.host? page) (Url.host? other))
    (resource : Text) (rules : RuleSet) (subscriptions : Subscriptions) :
    rules.decide (.ofUrls page resource) = rules.decide (.ofUrls other resource) ∧
    rules.evaluate (.ofUrls page resource) = rules.evaluate (.ofUrls other resource) ∧
    subscriptions.decide (.ofUrls page resource) = subscriptions.decide (.ofUrls other resource) ∧
    subscriptions.evaluate (.ofUrls page resource) =
      subscriptions.evaluate (.ofUrls other resource) := by
  have alike : (Request.ofUrls page resource).Alike (.ofUrls other resource) := ⟨same, rfl, rfl⟩
  have one := alike.evaluate_eq rules
  have all := alike.evaluate_subscriptions_eq subscriptions
  refine ⟨?_, one, ?_, all⟩
  · rw [RuleSet.decide, RuleSet.decide, one]
  · rw [Subscriptions.decide, Subscriptions.decide, all]

/-- A subdomain beyond ASCII in two writings, under a rule for its domain in a third. -/
theorem decide_eq_of_subdomain :
    let page := "https://user@É.News.test:8080/a".toList
    let other := "HTTP://É.NEWS.Test?b#c".toList
    let resource := "https://cdn.test/ads.js".toList
    let rules := (Compilation.ofLines ["/ads$third-party,domain=.nEWs.test".toList]).rules
    SameHost (Url.host? page) (Url.host? other) ∧
    (rules.decide (.ofUrls page resource)).isBlocked = true ∧
    rules.decide (.ofUrls page resource) = rules.decide (.ofUrls other resource) ∧
    rules.evaluate (.ofUrls page resource) = rules.evaluate (.ofUrls other resource) ∧
    Subscriptions.decide ⟨[rules]⟩ (.ofUrls page resource) =
      Subscriptions.decide ⟨[rules]⟩ (.ofUrls other resource) ∧
    Subscriptions.evaluate ⟨[rules]⟩ (.ofUrls page resource) =
      Subscriptions.evaluate ⟨[rules]⟩ (.ofUrls other resource) := by
  intro page other resource rules
  have found : Url.host? page = some "É.News.test".toList := by decide +kernel
  have foundOther : Url.host? other = some "É.NEWS.Test".toList := by decide +kernel
  have same : SameHost (Url.host? page) (Url.host? other) := by
    rw [found, foundOther]
    exact .known (by decide +kernel)
  exact ⟨same, by decide +kernel, decide_eq same resource rules ⟨[rules]⟩⟩

end SameHost

end FilterList
