import FilterList.Text.Caseless

/-!
Domains that rules are limited to. A domain covers itself and its subdomains.
-/

namespace FilterList.Domain

/-- Whether `domain`, or the part of it after one leading dot, is `host` or a parent domain of it.
An empty domain covers nothing. -/
def covers (domain host : Text) : Bool :=
  let domain := domain.dropLead ['.']
  let head := host.take (host.length - domain.length)
  !domain.isEmpty && domain.length ≤ host.length &&
    Text.caselessEq (host.drop (host.length - domain.length)) domain &&
    (head.isEmpty || head.getLast? == some '.')

end FilterList.Domain
