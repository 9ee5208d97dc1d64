/-
  FlowProcessor.GroupListing — THE GROUPS OF A DEVICE AS A LISTING.

  A heading that names the device, one line for each group in ascending order, and an empty line.
-/
import FlowProcessor.Destinations
import FlowProcessor.Platform.State

namespace FlowProcessor

/-- All groups of a device at one moment. -/
structure GroupListing where
  device : DeviceId
  groups : GroupTable
  deriving DecidableEq, Repr

namespace GroupListing

/-- The line of one group, without its line end. -/
def line (group : GroupId) (dests : DestSet) : String :=
  "Group " ++ idText group ++ ": " ++ (Listing.ofSet dests).text

/-- The lines of a listing, without their line ends. -/
def lines (l : GroupListing) : List String :=
  ("Load balance group destinations for NFE " ++ idText l.device)
    :: (List.finRange groupCount).map (fun group => line group (l.groups.get group))
    ++ [""]

/-- The text of a listing. -/
def text (l : GroupListing) : String := String.join (l.lines.map (· ++ "\n"))

end GroupListing

end FlowProcessor
