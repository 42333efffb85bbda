import Dlt.Lib.Checked
import Dlt.Lib.TextMemory
import Dlt.Shared.MessagePayload

/-!
# Printing bytes into a text buffer

* `PrintState` — the text buffer, and where the payload is read. `Printer` — a function that prints.
* `dltPrintHexStringDelim`, `dltPrintMixedString`, `dltPrintCharString` — bytes as digits, as lines of digits and
  characters, and as characters.

A printer is undefined where it reads outside the payload or writes outside the text buffer.
-/

namespace Dlt.Payload

open Dlt.Lib Dlt.Shared

structure PrintState where
  text : List UInt8
  /-- `ptr`: the position in the payload. -/
  ptr : ℕ
  /-- `datalength`. -/
  datalength : ℤ
deriving DecidableEq

/-- A function that prints, and may return a value early. -/
abbrev Printer (α : Type) := Checked ℤ PrintState α

/-- `snprintf(text + pos, size, "%s", piece)`. -/
def printf (pos size : ℕ) (piece : List UInt8) : Printer Unit := do
  let s ← get
  let text ← Checked.ofOption (snprintf s.text pos size piece)
  set { s with text }

/-- `strlen(text + pos)`. -/
def strlen (pos : ℕ) : Printer ℕ := do
  let s ← get
  let text ← Checked.ofOption (cstring s.text pos)
  pure text.length

/-- `snprintf(text + strlen(text), textlength - strlen(text), "%s", piece)`. -/
def appendf (textlength : ℕ) (piece : List UInt8) : Printer Unit := do
  let length ← strlen 0
  printf length (textlength - length) piece

/-- A number in a base, with zeros in front of it. -/
def digits (base width n : ℕ) : List UInt8 :=
  let shown := (Nat.toDigits base n).map fun c => UInt8.ofNat c.toNat
  List.replicate (width - shown.length) 48 ++ shown

section printers

variable (data : List UInt8)

/-! ## Digits -/

/-- The loop over the bytes; `more` says that it is not the first one.
Source: `dlt_common.c`, `dlt_print_hex_string_delim` -/
def hexLoop (delim : UInt8) : Bool → ℕ → List UInt8 → Printer Unit
  | _, _, [] => pure ()
  | false, pos, b :: rest => do
      printf pos 3 (hexByte b)
      hexLoop delim true (pos + 2) rest
  | true, pos, b :: rest => do
      printf pos 2 [delim]
      printf (pos + 1) 3 (hexByte b)
      hexLoop delim true (pos + 3) rest

/-- Source: `dlt_print_hex_string_delim` -/
def dltPrintHexStringDelim (pos : ℕ) (textlength : ℤ) (ptr : ℕ) (size : ℤ) (delim : UInt8) : Printer ℤ :=
  if textlength ≤ 0 ∨ size < 0 then pure dltReturnWrongParameter
  else if textlength < size * 3 then pure dltReturnError
  else do
    let bytes ← Checked.ofOption (peek data ptr size.toNat)
    hexLoop delim false pos bytes
    pure dltReturnOk

/-- Source: `dlt_print_hex_string` -/
def dltPrintHexString (pos : ℕ) (textlength : ℤ) (ptr : ℕ) (size : ℤ) : Printer ℤ :=
  dltPrintHexStringDelim data pos textlength ptr size 32

/-! ## Characters -/

/-- The character for a byte: `char` is signed. Source: `dlt_print_char_string` -/
def shownChar (b : UInt8) : UInt8 := if b.toNat < 32 ∨ 126 < b.toNat ∨ b = 60 then 46 else b

/-- The loop over the bytes. Source: `dlt_print_char_string` -/
def charLoop : ℕ → List UInt8 → Printer Unit
  | _, [] => pure ()
  | pos, b :: rest => do
      printf pos 2 [shownChar b]
      charLoop (pos + 1) rest

/-- The position behind the characters is the result. Source: `dlt_print_char_string` -/
def dltPrintCharString (pos : ℕ) (textlength : ℤ) (ptr size : ℕ) : Printer ℕ :=
  if textlength ≤ 0 ∨ textlength < size then pure pos
  else do
    let bytes ← Checked.ofOption (peek data ptr size)
    charLoop pos bytes
    pure (pos + size)

/-! ## Lines -/

/-- `DLT_COMMON_HEX_CHARS`. Source: `dlt_common.h` -/
def dltCommonHexChars : ℕ := 16

/-- `DLT_COMMON_HEX_LINELEN`. Source: `dlt_common.h` -/
def dltCommonHexLinelen : ℕ := 8

/-- `DLT_COMMON_CHARLEN`. Source: `dlt_common.h` -/
def dltCommonCharlen : ℕ := 1

def lineNumber (line : ℕ) : List UInt8 := digits 16 6 (line * dltCommonHexChars) ++ ascii ": "

def lineEnd (html : Bool) : List UInt8 := if html then ascii "<BR>" else ascii "\n"

/-- The full lines, `lines` of them from the line `line` on; the result is the position behind them.
Source: `dlt_common.c`, `dlt_print_mixed_string` -/
def fullLines (html : Bool) (textlength : ℤ) (ptr : ℕ) : ℕ → ℕ → ℕ → Printer ℕ
  | 0, _, pos => pure pos
  | lines + 1, line, pos => do
      printf pos (dltCommonHexLinelen + 1) (lineNumber line)
      let pos := pos + dltCommonHexLinelen
      let _ ← dltPrintHexString data pos textlength (ptr + line * dltCommonHexChars) dltCommonHexChars
      let pos := pos + (2 * dltCommonHexChars + (dltCommonHexChars - 1))
      printf pos 2 (ascii " ")
      let pos ← dltPrintCharString data (pos + dltCommonCharlen) textlength (ptr + line * dltCommonHexChars)
        dltCommonHexChars
      printf pos ((lineEnd html).length + 1) (lineEnd html)
      fullLines html textlength ptr lines (line + 1) (pos + (lineEnd html).length)

/-- The fill of the last line. Source: `dlt_print_mixed_string` -/
def fillLoop : ℕ → ℕ → Printer ℕ
  | 0, pos => pure pos
  | missing + 1, pos => do
      printf pos 4 (ascii " xx")
      fillLoop missing (pos + 3)

/-- The last line, which is not full. Source: `dlt_print_mixed_string` -/
def partialLine (textlength : ℤ) (ptr line rest pos : ℕ) : Printer Unit := do
  printf pos 9 (lineNumber line)
  let pos := pos + dltCommonHexLinelen
  let _ ← dltPrintHexString data pos textlength (ptr + line * dltCommonHexChars) rest
  let pos ← fillLoop (dltCommonHexChars - rest) (pos + (2 * rest + (rest - 1)))
  printf pos 2 (ascii " ")
  let _ ← dltPrintCharString data (pos + dltCommonCharlen) textlength (ptr + line * dltCommonHexChars) rest

/-- The room that a payload needs. Source: `dlt_print_mixed_string` -/
def requiredSize (html : Bool) (size : ℕ) : ℕ :=
  (dltCommonHexLinelen + (2 * dltCommonHexChars + (dltCommonHexChars - 1)) + dltCommonCharlen + dltCommonHexChars +
    (if html then 4 * dltCommonCharlen else dltCommonCharlen)) * (size / dltCommonHexChars + 1)

/-- Source: `dlt_print_mixed_string` -/
def dltPrintMixedString (textlength : ℤ) (size : ℕ) (html : Bool) : Printer ℤ :=
  if textlength ≤ 0 then pure dltReturnWrongParameter
  else if textlength < requiredSize html size then pure dltReturnError
  else do
    let pos ← fullLines data html textlength 0 (size / dltCommonHexChars) 0 0
    let rest := size % dltCommonHexChars
    if rest > 0 then partialLine data textlength 0 (size / dltCommonHexChars) rest pos
    pure dltReturnOk

end printers

end Dlt.Payload
