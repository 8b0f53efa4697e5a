import RegistrySync.Text.Cut

/-!
Managed registries, known by their host name alone.

Account and region are the two free parts of `<account>.dkr.ecr.<region>.amazonaws.com`, which
may end in `.cn` and may have a port and a path behind it.
-/

namespace RegistrySync

open Text

/-- Whose managed registry an endpoint is, and where. -/
structure Identity where
  account : String
  region : String
  deriving DecidableEq, Repr

namespace Identity

/-- The domains under which managed registries stand. -/
def domains : List (List Char) := ["amazonaws.com".toList, "amazonaws.com.cn".toList]

/-- What stands between account and region. -/
def service : List Char := "dkr.ecr.".toList

def isDomain (text : List Char) : Bool := domains.contains (text.takeWhile (· != ':'))

/-- The host of a managed registry under a domain. -/
def host (i : Identity) (domain : List Char) : List Char :=
  i.account.toList ++ '.' :: service ++ i.region.toList ++ '.' :: domain

/-- Account and region of a managed endpoint; none for any other. -/
def parse (endpoint : String) : Option Identity := do
  let host := endpoint.toList.takeWhile (· != '/')
  let (account, rest) ← cutFirst '.' host
  let rest ← stripLead service rest
  let (region, domain) ← cutFirst '.' rest
  guard (!account.isEmpty && !region.isEmpty && isDomain domain)
  return ⟨String.ofList account, String.ofList region⟩

end Identity

end RegistrySync
