import FilterList.Table
import FilterList.Url

/-!
Requests for a resource, as rules see them: of the page that makes a request only its host counts.
-/

namespace FilterList

structure Request where
  pageHost : Option Text
  resource : Text
  resourceHost : Option Text
  deriving Repr, DecidableEq

namespace Request

def ofUrls (page resource : Text) : Request := ⟨Url.host? page, resource, Url.host? resource⟩

/-- Both hosts are known and differ. -/
def isThirdParty (request : Request) : Bool :=
  match request.pageHost, request.resourceHost with
  | some page, some resource => !Text.caselessEq page resource
  | _, _ => false

/-- Whether a table with this scope applies to the request. -/
def admits (request : Request) (scope : Scope) : Bool :=
  (!scope.domain || request.pageHost.isSome) && (!scope.thirdParty || request.isThirdParty)

end Request

end FilterList
