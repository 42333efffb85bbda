import Dlt.Lib.InputFile

/-!
# Sending a file

* `packageTransfer`, `wholeFileTransfer` — a file sent package by package, and in one call.

The messages about errors, the creation date in the header and the waiting between two messages are left out.
-/

namespace Dlt.User

open Dlt.Lib

/-! ## Data -/

/-- `BUFFER_SIZE`. Source: `dlt_filetransfer.c` -/
def bufferSize : ℕ := 1024

/-- `DLT_FILETRANSFER_TRANSFER_ALL_PACKAGES`, `INT_MAX`. Source: `dlt_filetransfer.c` -/
def dltFiletransferTransferAllPackages : ℤ := 2147483647

/-- `DLT_FILETRANSFER_ERROR_FILE_HEAD`. Source: `dlt_filetransfer.h` -/
def dltFiletransferErrorFileHead : ℤ := -400

/-- `DLT_FILETRANSFER_ERROR_FILE_DATA`. Source: `dlt_filetransfer.h` -/
def dltFiletransferErrorFileData : ℤ := -500

/-- `DLT_FILETRANSFER_ERROR_FILE_DATA_USER_BUFFER_FAILED`. Source: `dlt_filetransfer.h` -/
def dltFiletransferErrorFileDataUserBufferFailed : ℤ := -501

/-- `DLT_FILETRANSFER_ERROR_FILE_END`. Source: `dlt_filetransfer.h` -/
def dltFiletransferErrorFileEnd : ℤ := -600

/-- `DLT_FILETRANSFER_FILE_SERIAL_NUMBER`. Source: `dlt_filetransfer.h` -/
def dltFiletransferFileSerialNumber : ℤ := -900

/-- What `stat` tells about a file. -/
structure Stat where
  /-- `st_size`. -/
  size : ℕ
  /-- `st_ino`. -/
  ino : ℕ
  /-- `st_ctime`. -/
  ctime : ℕ
deriving DecidableEq, Repr

/-- What the functions meet. -/
structure TransferEnv where
  name : List UInt8
  /-- `stat`, unless it fails. -/
  stat : Option Stat
  /-- `fopen` and what the file holds, unless it fails. -/
  fopen : Option (List UInt8)
  /-- The total and the used size that `dlt_user_check_buffer` gives when `n` packages were sent. -/
  buffer : ℕ → ℤ × ℤ
  /-- `remove` succeeds. -/
  removes : Bool

structure FileData where
  serial : UInt32
  number : ℕ
  data : List UInt8
deriving DecidableEq, Repr

inductive FileMessage
  | flst (serial : UInt32) (name : List UInt8) (size : ℕ) (packages : ℕ) (bufferSize : ℕ)
  | flda (package : FileData)
  | flfi (serial : UInt32)
deriving DecidableEq, Repr

/-- The return value of a call and the messages that it logged. -/
structure FileCall where
  ret : ℤ
  messages : List FileMessage
deriving DecidableEq, Repr

/-- The call after a message that was logged. -/
def FileCall.after (message : FileMessage) (call : FileCall) : FileCall :=
  { call with messages := message :: call.messages }

/-- A value as an `int`: it wraps around. -/
def int32 (n : ℤ) : ℤ := n.bmod 4294967296

/-- A value as a `uint32_t`. -/
def uint32 (n : ℤ) : ℕ := (n % 4294967296).toNat

/-! ## The file -/

/-- A byte as a signed `char` that is added to a `uint32_t`. -/
def charToUInt32 (c : UInt8) : UInt32 := UInt32.ofNat (if c.toNat < 128 then c.toNat else c.toNat + 4294967040)

/-- Source: `dlt_filetransfer.c`, `stringHash` -/
def stringHash (str : List UInt8) (hash : UInt32) : UInt32 :=
  str.foldl (fun hash c => 53 * hash + charToUInt32 c) hash

section

variable (env : TransferEnv)

/-- Source: `isFile` -/
def isFile : Bool := env.stat.isSome

/-- `none` where `*ok` is zero. Source: `getFilesize` -/
def getFilesize : Option ℕ := env.stat.map fun st => st.size % 4294967296

/-- `none` where `*ok` is zero. Source: `getFileSerialNumber` -/
def getFileSerialNumber : Option UInt32 :=
  env.stat.map fun st => stringHash env.name
    (((UInt32.ofNat st.ino <<< 16) ||| UInt32.ofNat st.size) ^^^ UInt32.ofNat st.ctime)

/-- Source: `checkUserBufferForFreeSpace` -/
def checkUserBufferForFreeSpace (totalSize usedSize : ℤ) : ℤ :=
  if totalSize - usedSize < totalSize.tdiv 2 then -1 else 1

/-- `fseek` from the beginning: an offset that is negative fails. -/
def fseek (file : InputFile UInt8) (offset : ℤ) : Option (InputFile UInt8) :=
  if offset < 0 then none else some (file.seek offset.toNat)

/-! ## The functions -/

/-- Source: `dlt_user_log_file_packagesCount` -/
def dltUserLogFilePackagesCount : ℤ :=
  if isFile env then
    match getFilesize env with
    | none => -1
    | some filesize =>
        if filesize < bufferSize then 1
        else if filesize % bufferSize = 0 then ↑(filesize / bufferSize)
        else ↑(filesize / bufferSize) + 1
  else -1

/-- Source: `dlt_user_log_file_header` -/
def dltUserLogFileHeader : FileCall :=
  if isFile env then
    ⟨0, [.flst ((getFileSerialNumber env).getD 0) env.name ((getFilesize env).getD 0)
      (uint32 (dltUserLogFilePackagesCount env)) bufferSize]⟩
  else ⟨dltFiletransferErrorFileHead, []⟩

/-- The loop for the whole file. Source: `dlt_user_log_file_data` -/
def dataLoop (file : InputFile UInt8) (pkgNumber : ℕ) : FileCall :=
  if _h : file.eof = false then
    if checkUserBufferForFreeSpace (env.buffer pkgNumber).1 (env.buffer pkgNumber).2 > 0 then
      match getFileSerialNumber env with
      | none => ⟨dltFiletransferFileSerialNumber, []⟩
      | some fserial =>
          (dataLoop (file.read bufferSize).2 (pkgNumber + 1)).after
            (.flda ⟨fserial, pkgNumber + 1, (file.read bufferSize).1⟩)
    else ⟨dltFiletransferErrorFileDataUserBufferFailed, []⟩
  else ⟨0, []⟩
termination_by file.left
decreasing_by exact InputFile.left_read (by decide) _h

/-- Source: `dlt_user_log_file_data` -/
def dltUserLogFileData (packageToTransfer : ℤ) : FileCall :=
  if isFile env then
    match env.fopen with
    | none => ⟨dltFiletransferErrorFileData, []⟩
    | some content =>
        if (packageToTransfer ≠ dltFiletransferTransferAllPackages ∧
            packageToTransfer > dltUserLogFilePackagesCount env) ∨ packageToTransfer ≤ 0 then
          ⟨dltFiletransferErrorFileData, []⟩
        else if packageToTransfer ≠ dltFiletransferTransferAllPackages then
          match fseek (.start content) (int32 ((packageToTransfer - 1) * bufferSize)) with
          | none => ⟨-1, []⟩
          | some file =>
              match getFileSerialNumber env with
              | none => ⟨dltFiletransferFileSerialNumber, []⟩
              | some fserial =>
                  ⟨0, [.flda ⟨fserial, uint32 packageToTransfer, (file.read bufferSize).1⟩]⟩
        else dataLoop env (.start content) 0
  else ⟨dltFiletransferErrorFileData, []⟩

/-- Source: `dlt_user_log_file_end` -/
def dltUserLogFileEnd (deleteFlag : Bool) : FileCall :=
  if isFile env then
    match getFileSerialNumber env with
    | none => ⟨dltFiletransferFileSerialNumber, []⟩
    | some fserial => ⟨if deleteFlag && !env.removes then -1 else 0, [.flfi fserial]⟩
  else ⟨dltFiletransferErrorFileEnd, []⟩

/-! ## The two modes -/

/-- The packages one by one: the header, the packages from one to their number, and the end. -/
def packageTransfer (deleteFlag : Bool) : List FileCall :=
  dltUserLogFileHeader env ::
    ((List.range (dltUserLogFilePackagesCount env).toNat).map fun i : ℕ => dltUserLogFileData env (i + 1)) ++
    [dltUserLogFileEnd env deleteFlag]

/-- The whole file in one call, with the header and the end.
Source: `dlt_user_log_file_complete` -/
def wholeFileTransfer (deleteFlag : Bool) : List FileCall :=
  [dltUserLogFileHeader env, dltUserLogFileData env dltFiletransferTransferAllPackages,
    dltUserLogFileEnd env deleteFlag]

end

end Dlt.User
