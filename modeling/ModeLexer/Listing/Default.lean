import ModeLexer.Listing.Json
import ModeLexer.Listing.Tagged

/-!
# The formats that are always there
-/

namespace ModeLexer

/-- The registry of the tagged and the JSON listing. -/
def ListingRegistry.default : ListingRegistry :=
  (ListingRegistry.empty.register TaggedListing.format).register JsonListing.format

end ModeLexer
