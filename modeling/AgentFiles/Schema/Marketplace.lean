import AgentFiles.Schema.Plugin

/-!
# Marketplace catalogs
-/

namespace AgentFiles

open Json

structure Listing where
  name : String := ""
  source : String := ""
  description : Option String := none
  version : Option String := none
  category : Option String := none
deriving DecidableEq, Repr

def Listing.record : Record Listing where
  name := "MarketplacePlugin"
  fields := [
    .mandatory "name" .text (·.name) (fun v l => { l with name := v }),
    .mandatory "source" .text (·.source) (fun v l => { l with source := v }),
    .optional "description" .text (·.description) (fun v l => { l with description := v }),
    .optional "version" .text (·.version) (fun v l => { l with version := v }),
    .optional "category" .text (·.category) (fun v l => { l with category := v })]
  blank := {}

structure Marketplace where
  name : String := ""
  owner : Contact := {}
  plugins : List Listing := []
  version : Option String := none
  description : Option String := none
  extra : List (String × Value) := []
deriving Repr

namespace Marketplace

def record : Record Marketplace where
  name := "Marketplace"
  fields := [
    .mandatory "name" .text (·.name) (fun v m => { m with name := v }),
    .mandatory "owner" (Contact.record "MarketplaceOwner").codec (·.owner)
      (fun v m => { m with owner := v }),
    .mandatory "plugins" (.list Listing.record.codec) (·.plugins)
      (fun v m => { m with plugins := v }),
    .optional "version" .text (·.version) (fun v m => { m with version := v }),
    .optional "description" .text (·.description) (fun v m => { m with description := v })]
  blank := {}

def codec : Codec Marketplace :=
  record.codecWithExtra (·.extra) fun extra m => { m with extra := extra }

end Marketplace
end AgentFiles
