import Dlt.Lib.Sorted

/-!
# Sorting a file by time stamps

* `sortByTimestamp` — the tool behind its options. Its outcome is the numbers of the messages that it writes, or
  that it accesses an array outside.

`qsort` is a stable sort. Reading a counted message and writing it succeed.
-/

namespace Dlt.Console

open Dlt.Lib

/-! ## The index -/

/-- `FIFTY_SEC_IN_MSEC`. Source: `dlt-sortbytimestamp.c` -/
def fiftySecInMsec : ℕ := 500000

/-- `THREE_MIN_IN_SEC`. Source: `dlt-sortbytimestamp.c` -/
def threeMinInSec : ℕ := 180

/-- What the tool reads of a message. -/
structure SourceMessage where
  seconds : UInt32
  /-- The time stamp, if the header has one. -/
  tmsp : Option UInt32
deriving DecidableEq, Repr

/-- Source: `TimestampIndex` -/
structure TimestampIndex where
  num : ℕ
  tmsp : UInt32
  systmsp : UInt32
deriving DecidableEq, Repr

/-- Source: `compare_index_timestamps` -/
def compareIndexTimestamps (a b : TimestampIndex) : ℤ :=
  if a.tmsp > b.tmsp then 1 else if a.tmsp = b.tmsp then 0 else -1

/-- Source: `compare_index_systime` -/
def compareIndexSystime (a b : TimestampIndex) : ℤ :=
  if a.systmsp > b.systmsp then 1 else if a.systmsp = b.systmsp then 0 else -1

/-- The entries of messages from number `num` on. `headerTmsp` is `file.msg.headerextra.tmsp`, which a message
without time stamp leaves as it is. Source: `main` -/
def fillIndex (headerTmsp : UInt32) (num : ℕ) : List SourceMessage → List TimestampIndex
  | [] => []
  | m :: rest =>
      ⟨num, m.tmsp.getD headerTmsp, m.seconds⟩ :: fillIndex (m.tmsp.getD headerTmsp) (num + 1) rest

/-- The first of `message_count` entries is copied to the position `num`, which is not before the end of the
entries, in an array that has one more entry than these. Source: `main` -/
def extendIndex (index : List TimestampIndex) (num : ℕ) : Option (List TimestampIndex) :=
  if num < index.length + 1 then index.head?.map fun first => index ++ [first] else none

/-! ## The cycles -/

/-- Source: `main` -/
def newCycle (next cur : TimestampIndex) : Bool :=
  ((next.tmsp.toNat : ℤ) - cur.tmsp.toNat).natAbs > fiftySecInMsec ||
    ((next.systmsp.toNat : ℤ) - cur.systmsp.toNat).natAbs ≥ threeMinInSec

/-- `count` entries from `start` on. -/
def copyEntries (index : List TimestampIndex) (start count : ℕ) : Option (List TimestampIndex) :=
  if start + count ≤ index.length then some ((index.drop start).take count) else none

/-- The loop over the next `k` entries: the entries that it writes, and `count` at its end.
Source: `main` -/
def cycleLoop (index : List TimestampIndex) : (k num start count : ℕ) → Option (List TimestampIndex × ℕ)
  | 0, _, _, count => some ([], count)
  | k + 1, num, start, count =>
      (index[num + 1]?).bind fun next => (index[num]?).bind fun cur =>
        if newCycle next cur then
          (copyEntries index start (count + 1)).bind fun temp =>
            (cycleLoop index k (num + 1) (start + (count + 1)) 0).map fun p =>
              (qsort compareIndexTimestamps temp ++ p.1, p.2)
        else cycleLoop index k (num + 1) start (count + 1)

/-- The cycles are written, and the whole index where there is only one cycle.
Source: `main` -/
def writeCycles (index : List TimestampIndex) (messageCount num : ℕ) : Option (List TimestampIndex) :=
  (cycleLoop index messageCount num 0 0).map fun p =>
    if p.2 = messageCount then p.1 ++ (qsort compareIndexTimestamps index).take p.2 else p.1

/-! ## The tool -/

inductive SortOutcome
  /-- The tool ends with a return value and writes nothing. -/
  | failed (ret : ℤ)
  | outOfBounds
  /-- The messages with these numbers are written. -/
  | written (nums : List ℕ)
deriving DecidableEq, Repr

def selectedIndex (messages : List SourceMessage) (headerTmsp : UInt32) (beginNum endNum : ℤ) :
    List TimestampIndex :=
  fillIndex headerTmsp beginNum.toNat ((messages.drop beginNum.toNat).take (1 + endNum - beginNum).toNat)

/-- The tool, when the file is loaded: `headerTmsp` is the time stamp that was read last, and the messages from
`begin` to `end` are selected. Source: `main` -/
def sortByTimestamp (messages : List SourceMessage) (headerTmsp : UInt32) (beginNum endNum : ℤ) : SortOutcome :=
  if beginNum < 0 ∨ endNum < 0 ∨ beginNum > endNum ∨ beginNum ≥ messages.length ∨
      endNum ≥ messages.length then
    .failed (-1)
  else
    let messageCount := (1 + endNum - beginNum).toNat
    let index := selectedIndex messages headerTmsp beginNum endNum
    let outcome := (extendIndex index (endNum.toNat + 1)).bind fun index =>
      writeCycles (qsort compareIndexSystime (index.take messageCount) ++ index.drop messageCount) messageCount
        beginNum.toNat
    match outcome with
    | none => .outOfBounds
    | some entries => .written (entries.map TimestampIndex.num)

end Dlt.Console
