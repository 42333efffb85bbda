import Mathlib.Data.Int.Notation
import Mathlib.Data.Nat.Notation

/-!
# Return values and memory allocation

* The values of the enumeration `DltReturnValue`.
* `Malloc` — the outcomes of a call of `malloc`, by the requested size: no memory, or a block whose
  bytes are arbitrary. `Malloc.Succeeds` is the assumption that every request is met.
-/

namespace Dlt.Shared

/-! ## `DltReturnValue` -/

/-- `DLT_RETURN_USER_BUFFER_FULL`. Source: `dlt_types.h` -/
abbrev dltReturnUserBufferFull : ℤ := -6

/-- `DLT_RETURN_WRONG_PARAMETER`. Source: `dlt_types.h` -/
abbrev dltReturnWrongParameter : ℤ := -5

/-- `DLT_RETURN_BUFFER_FULL`. Source: `dlt_types.h` -/
abbrev dltReturnBufferFull : ℤ := -4

/-- `DLT_RETURN_PIPE_FULL`. Source: `dlt_types.h` -/
abbrev dltReturnPipeFull : ℤ := -3

/-- `DLT_RETURN_PIPE_ERROR`. Source: `dlt_types.h` -/
abbrev dltReturnPipeError : ℤ := -2

/-- `DLT_RETURN_ERROR`. Source: `dlt_types.h` -/
abbrev dltReturnError : ℤ := -1

/-- `DLT_RETURN_OK`. Source: `dlt_types.h` -/
abbrev dltReturnOk : ℤ := 0

/-- `DLT_RETURN_TRUE`. Source: `dlt_types.h` -/
abbrev dltReturnTrue : ℤ := 1

/-! ## Allocation -/

/-- The outcome of `malloc(n)` for each `n`: `none` is the null pointer, `some f` a block whose byte
at offset `i` is `f i` — the contents of fresh memory are not specified. -/
abbrev Malloc := ℕ → Option (ℕ → UInt8)

/-- Every request is met. -/
def Malloc.Succeeds (malloc : Malloc) : Prop := ∀ n, (malloc n).isSome

/-- Memory that is always available and filled with zeros. -/
def zeroMalloc : Malloc := fun _ => some fun _ => 0

theorem zeroMalloc_succeeds : zeroMalloc.Succeeds := fun _ => rfl

end Dlt.Shared
