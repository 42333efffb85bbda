import Dlt.Shared.Id
import Dlt.Shared.MessagePayload

/-!
# The filter of messages: `DltFilter`

* `dltMessageFilterCheck` — whether a message is selected. `FilterEntry.accepts` — by which entry.
-/

namespace Dlt.MsgFilter

open Dlt.Lib Dlt.Shared

/-! ## Data -/

/-- `DLT_FILTER_MAX`. Source: `dlt_common.h` -/
def dltFilterMax : ℕ := 30

/-- `INT32_MAX`. -/
def int32Max : ℤ := 2147483647

/-- One entry of the arrays. Source: `DltFilter` -/
structure FilterEntry where
  apid : Id4
  ctid : Id4
  logLevel : ℤ
  payloadMin : ℤ
  payloadMax : ℤ
  /-- The ids are filled with zeros: they are written by `dlt_set_id`. -/
  canonical_apid : apid.Canonical
  canonical_ctid : ctid.Canonical

theorem FilterEntry.eq_iff {d e : FilterEntry} :
    d = e ↔ d.apid = e.apid ∧ d.ctid = e.ctid ∧ d.logLevel = e.logLevel ∧ d.payloadMin = e.payloadMin ∧
      d.payloadMax = e.payloadMax := by
  obtain ⟨⟩ := d
  obtain ⟨⟩ := e
  simp only [FilterEntry.mk.injEq]

instance : DecidableEq FilterEntry := fun _ _ => decidable_of_iff _ FilterEntry.eq_iff.symm

/-- The first `counter` entries of the arrays. Source: `DltFilter` -/
structure DltFilter where
  entries : List FilterEntry
  length_le : entries.length ≤ dltFilterMax
deriving DecidableEq

/-- The values that are passed to the functions: the four bytes at the pointers, and `none` where the pointer is
null. -/
structure FilterValues where
  apid : Id4
  ctid : Option Id4
  logLevel : ℤ
  payloadMin : ℤ
  payloadMax : ℤ
deriving DecidableEq

/-- The entry with these values. Source: `dlt_common.c`, `dlt_filter_add` -/
def FilterValues.entry (v : FilterValues) : FilterEntry where
  apid := dltSetId v.apid.bytes
  ctid := dltSetId ((v.ctid.map Id4.bytes).getD [])
  logLevel := v.logLevel
  payloadMin := v.payloadMin
  payloadMax := v.payloadMax
  canonical_apid := canonical_dltSetId _
  canonical_ctid := canonical_dltSetId _

/-- An empty entry. Source: `dlt_filter_delete` -/
def clearedEntry : FilterEntry where
  apid := dltSetId []
  ctid := dltSetId []
  logLevel := 0
  payloadMin := 0
  payloadMax := int32Max
  canonical_apid := canonical_dltSetId_nil
  canonical_ctid := canonical_dltSetId_nil

/-! ## The list -/

/-- The entry is found for the values. Source: `dlt_filter_find` -/
def FilterEntry.found (v : FilterValues) (e : FilterEntry) : Bool :=
  e.apid = v.apid && e.ctid = v.ctid.getD (dltSetId []) && (e.logLevel = v.logLevel || e.logLevel = 0) &&
    e.payloadMin ≤ v.payloadMin && e.payloadMax ≥ v.payloadMax

/-- The index of the first entry that is found, `none` for `-1`. Source: `dlt_filter_find` -/
def dltFilterFind (filter : DltFilter) (v : FilterValues) : Option ℕ := filter.entries.findIdx? (·.found v)

theorem length_push_le {entries : List FilterEntry} (h : ¬entries.length ≥ dltFilterMax) (e : FilterEntry) :
    (entries ++ [e]).length ≤ dltFilterMax := by
  rw [List.length_append, List.length_singleton]
  omega

/-- Source: `dlt_filter_add` -/
def dltFilterAdd (filter : DltFilter) (v : FilterValues) : DltFilter × ℤ :=
  if h : filter.entries.length ≥ dltFilterMax then (filter, dltReturnError)
  else
    match dltFilterFind filter v with
    | none => (⟨filter.entries ++ [v.entry], length_push_le h _⟩, dltReturnOk)
    | some _ => (filter, dltReturnError)

/-- The entry is the one to delete. Source: `dlt_filter_delete` -/
def FilterEntry.deleted (v : FilterValues) (ctid : Id4) (e : FilterEntry) : Bool :=
  e.apid = v.apid && e.ctid = ctid && (e.logLevel = v.logLevel || e.logLevel = 0) &&
    e.payloadMin = v.payloadMin && e.payloadMax = v.payloadMax

/-- The entry behind `k` is copied to `k`. Source: `dlt_filter_delete` -/
def copyDown (entries : List FilterEntry) (k : ℕ) : List FilterEntry :=
  match entries[k + 1]? with
  | none => entries
  | some e => entries.set k
      { e with
        apid := dltSetId e.apid.bytes, ctid := dltSetId e.ctid.bytes
        canonical_apid := canonical_dltSetId _, canonical_ctid := canonical_dltSetId _ }

/-- The entries behind `j` are copied down, one after the other, over the cleared entry.
Source: `dlt_filter_delete` -/
def deleteAt (entries : List FilterEntry) (j : ℕ) : List FilterEntry :=
  ((List.range' j (entries.length - 1 - j)).foldl copyDown (entries.set j clearedEntry)).take (entries.length - 1)

theorem length_deleteAt_le (entries : List FilterEntry) (j : ℕ) : (deleteAt entries j).length ≤ entries.length := by
  unfold deleteAt
  rw [List.length_take]
  omega

/-- Source: `dlt_filter_delete` -/
def dltFilterDelete (filter : DltFilter) (v : FilterValues) : DltFilter × ℤ :=
  match v.ctid with
  | none => (filter, dltReturnWrongParameter)
  | some ctid =>
    match filter.entries.findIdx? (·.deleted v ctid) with
    | none => (filter, dltReturnError)
    | some j =>
        (⟨deleteAt filter.entries j, (length_deleteAt_le _ _).trans filter.length_le⟩, dltReturnOk)

/-! ## Selecting messages -/

/-- The fields of an extended header that the filter reads. Source: `dlt_protocol.h`, `DltExtendedHeader` -/
structure DltExtendedHeader where
  msin : UInt8
  apid : Id4
  ctid : Id4
deriving DecidableEq

/-- An entry accepts a message with this header and size of the payload.
Source: `dlt_common.c`, `dlt_message_filter_check` -/
def FilterEntry.accepts (e : FilterEntry) (ext : DltExtendedHeader) (datasize : ℤ) : Bool :=
  (e.apid.isEmpty || e.apid = ext.apid) && (e.ctid.isEmpty || e.ctid = ext.ctid) &&
    (e.logLevel = 0 || e.logLevel = dltGetMsinMtin ext.msin) &&
    (e.payloadMin = 0 || e.payloadMin ≤ datasize) && (e.payloadMax = 0 || e.payloadMax ≥ datasize)

/-- The message, as the filter sees it: the extended header, if the standard header says that there is one, and the
size of the payload. -/
structure CheckedMessage where
  extended : Option DltExtendedHeader
  /-- `datasize`: no message has a negative one. -/
  datasize : ℕ
  /-- It is an `int32_t`. -/
  datasize_le : datasize ≤ 2147483647

/-- Source: `dlt_message_filter_check` -/
def dltMessageFilterCheck (msg : CheckedMessage) (filter : DltFilter) : ℤ :=
  match msg.extended with
  | none => dltReturnTrue
  | some ext =>
      if filter.entries.length = 0 then dltReturnTrue
      else if filter.entries.any (·.accepts ext msg.datasize) then dltReturnTrue
      else dltReturnOk

end Dlt.MsgFilter
