import PageHarvest.Data.Table
import PageHarvest.Failure

/-!
Scripted sites: what each address answers.
-/
namespace PageHarvest

/-- A page of a site. An absent address stands for the requested one; a page that fails does so after
its latency. -/
structure SitePage where
  status : Int := 200
  url : Option String := none
  markup : String := ""
  latencyMs : Option Rat := none
  failure : Option Failure := none

abbrev Site := Table String SitePage

/-- The page that a site answers with for an address; an unknown one is not found. -/
def Site.page (site : Site) (url : String) : SitePage :=
  (site.get? url).getD { status := 404, markup := "Not Found" }

end PageHarvest
