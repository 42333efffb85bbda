import Dlt.Shared.Id
import Dlt.Shared.MessageHistory
import Dlt.Shared.MessagePayload

/-!
# Parts of a message that was read

* `DltMessage.htyp`, `DltMessage.printed` — what decides how a message is printed.
-/

namespace Dlt.Gateway

open Dlt.Lib Dlt.Shared

/-- The id at the beginning of some memory. -/
def idOf (memory : List UInt8) : Id4 :=
  ⟨(memory ++ List.replicate 4 0).take 4, by
    rw [List.length_take, List.length_append, List.length_replicate]
    omega⟩

/-- The header type. -/
def DltMessage.htyp (msg : DltMessage) : UInt8 := msg.headerbuffer.getD sizeofDltStorageHeader 0

/-- The parts of a message that decide how it is printed. -/
def DltMessage.printed (msg : DltMessage) : PayloadMessage where
  htyp := DltMessage.htyp msg
  msin := msg.headerbuffer.getD (msg.extendedheader.getD 0) 0
  noar := msg.headerbuffer.getD (msg.extendedheader.getD 0 + 1) 0
  databuffer := msg.payload

end Dlt.Gateway
