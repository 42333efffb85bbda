import Dlt.Lib.TextFile

/-!
# Configuration files

* `dltConfigFileGetValue`, `dltConfigFileGetSectionName`, `dltConfigFileGetNumSections` — the questions.

Memory is there. The copy of the keys that nothing reads is left out.
-/

namespace Dlt.Shared

open Dlt.Lib

/-! ## Data -/

/-- `DLT_CONFIG_FILE_ENTRY_MAX_LEN`. Source: `dlt_config_file_parser.h` -/
def dltConfigFileEntryMaxLen : ℕ := 100

/-- `DLT_CONFIG_FILE_LINE_MAX_LEN`. Source: `dlt_config_file_parser.h` -/
def dltConfigFileLineMaxLen : ℕ := 210

/-- `DLT_CONFIG_FILE_SECTIONS_MAX`. Source: `dlt_config_file_parser.h` -/
def dltConfigFileSectionsMax : ℕ := 125

/-- `DLT_CONFIG_FILE_KEYS_MAX`. Source: `dlt_config_file_parser.h` -/
def dltConfigFileKeysMax : ℕ := 25

/-- A section: its name, and its keys with their values. Source: `DltConfigFileSection` -/
structure ConfigFileSection where
  /-- `name`. -/
  name : List UInt8
  /-- `list`, with `num_entries` entries. -/
  list : List (List UInt8 × List UInt8)
deriving DecidableEq, Repr

/-- The sections. Source: `DltConfigFile` -/
abbrev DltConfigFile := List ConfigFileSection

/-- `strncmp` of two texts without zero bytes finds no difference. -/
def sameText (a b : List UInt8) (n : ℕ) : Bool := a.take n = b.take n

/-! ## A line -/

/-- The characters of the line up to the terminating zero, without white space.
Source: `dlt_config_file_parser.c`, `dlt_config_file_trim_line` -/
def dltConfigFileTrimLine (line : List UInt8) : List UInt8 :=
  (line.takeWhile (· ≠ 0)).filter fun c => !isspace c

/-- `#`, `;`, a line break or the end of the line. Source: `dlt_config_file_ignore_line` -/
def dltConfigFileIgnoreLine (line : List UInt8) : Bool :=
  line.headD 0 = 35 || line.headD 0 = 59 || line.headD 0 = 10 || line.headD 0 = 0

/-- `[`. Source: `dlt_config_file_line_has_section` -/
def dltConfigFileLineHasSection (line : List UInt8) : Bool := line.headD 0 = 91

/-- The name in the next `n` characters. Source: `dlt_config_file_get_section_name_from_string` -/
def sectionNameLoop : ℕ → List UInt8 → List UInt8
  | 0, _ => []
  | _ + 1, [] => []
  | n + 1, c :: cs =>
      if c = 91 ∨ isspace c then sectionNameLoop n cs
      else if c = 93 ∨ c = 10 ∨ c = 0 then []
      else c :: sectionNameLoop n cs

/-- Source: `dlt_config_file_get_section_name_from_string` -/
def dltConfigFileGetSectionNameFromString (line : List UInt8) : List UInt8 :=
  sectionNameLoop dltConfigFileEntryMaxLen line

/-- The first two fields between `=`. Source: `dlt_config_file_get_key_value` -/
def dltConfigFileGetKeyValue (line : List UInt8) : Option (List UInt8 × List UInt8) :=
  match strtok 61 line with
  | key :: value :: _ =>
      some (key.take (dltConfigFileEntryMaxLen - 1), value.take (dltConfigFileEntryMaxLen - 1))
  | _ => none

inductive ConfigLine
  /-- `DLT_CONFIG_FILE_NEW_SECTION`. -/
  | newSection (name : List UInt8)
  /-- `DLT_CONFIG_FILE_NEW_DATA`. -/
  | newData (key value : List UInt8)
  /-- Something is wrong with the line. -/
  | invalid
deriving DecidableEq, Repr

/-- Source: `dlt_config_file_read_line` -/
def dltConfigFileReadLine (line : List UInt8) : ConfigLine :=
  if dltConfigFileLineHasSection line then .newSection (dltConfigFileGetSectionNameFromString line)
  else
    match dltConfigFileGetKeyValue line with
    | some (key, value) => .newData key value
    | none => .invalid

/-! ## The file -/

/-- The name is used already. Source: `dlt_config_file_is_section_name` -/
def dltConfigFileIsSectionName (file : DltConfigFile) (name : List UInt8) : Bool :=
  file.any fun s => sameText s.name name dltConfigFileEntryMaxLen

/-- Source: `dlt_config_file_set_section` -/
def dltConfigFileSetSection (file : DltConfigFile) (name : List UInt8) : Option DltConfigFile :=
  if file.length ≥ dltConfigFileSectionsMax then none
  else if dltConfigFileIsSectionName file name then none
  else some (file ++ [{ name := name.take dltConfigFileEntryMaxLen, list := [] }])

/-- The last section gets the key. Source: `dlt_config_file_set_section_data` -/
def dltConfigFileSetSectionData (file : DltConfigFile) (key value : List UInt8) : DltConfigFile :=
  file.modify (file.length - 1) fun s =>
    if s.list.length + 1 ≥ dltConfigFileKeysMax then s else { s with list := s.list ++ [(key, value)] }

/-- The variables of the loop over the lines. Source: `dlt_config_file_read_file` -/
structure ConfigReader where
  file : DltConfigFile
  /-- `is_section_valid` is zero. -/
  isSectionValid : Bool
deriving DecidableEq, Repr

/-- The cases of what a line says. Source: `dlt_config_file_read_file` -/
def storeConfigLine (s : ConfigReader) : ConfigLine → ConfigReader
  | .newSection name =>
      match dltConfigFileSetSection s.file name with
      | some file => { file := file, isSectionValid := true }
      | none => { s with isSectionValid := false }
  | .newData key value =>
      if s.isSectionValid then { s with file := dltConfigFileSetSectionData s.file key value } else s
  | .invalid => s

/-- What a line of the file does. Source: `dlt_config_file_read_file` -/
def configFileLine (s : ConfigReader) (line : List UInt8) : ConfigReader :=
  if dltConfigFileIgnoreLine line then s
  else storeConfigLine s (dltConfigFileReadLine (dltConfigFileTrimLine line))

/-- Source: `dlt_config_file_read_file` -/
def dltConfigFileReadFile (text : List UInt8) : DltConfigFile :=
  ((readLines dltConfigFileLineMaxLen text).foldl configFileLine { file := [], isSectionValid := false }).file

/-! ## The questions -/

/-- Source: `dlt_config_file_find_section` -/
def dltConfigFileFindSection (file : DltConfigFile) (sectionName : List UInt8) : Option ConfigFileSection :=
  file.find? fun s => sameText s.name sectionName dltConfigFileEntryMaxLen

/-- `none` is the return value `-1`. Source: `dlt_config_file_get_value` -/
def dltConfigFileGetValue (file : DltConfigFile) (sectionName key : List UInt8) : Option (List UInt8) :=
  (dltConfigFileFindSection file sectionName).bind fun s =>
    (s.list.find? fun entry => sameText entry.1 key dltConfigFileEntryMaxLen).map fun entry =>
      entry.2.take dltConfigFileEntryMaxLen

/-- `none` is the return value `-1`. Source: `dlt_config_file_get_section_name` -/
def dltConfigFileGetSectionName (file : DltConfigFile) (num : ℤ) : Option (List UInt8) :=
  if num < 0 ∨ num ≥ file.length then none
  else (file[num.toNat]?).map fun s => s.name.take dltConfigFileEntryMaxLen

/-- Source: `dlt_config_file_get_num_sections` -/
def dltConfigFileGetNumSections (file : DltConfigFile) : ℤ := file.length

end Dlt.Shared
