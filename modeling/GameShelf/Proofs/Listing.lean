import GameShelf.Listing
import GameShelf.Proofs.Picks.Rows

namespace GameShelf

def JsonValue.member? (key : String) : JsonValue → Option JsonValue
  | .object members => members.lookup key
  | _ => none

namespace Listing

end Listing
end GameShelf
