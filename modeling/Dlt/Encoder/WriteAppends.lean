import Dlt.Encoder.Write

/-!
# What a writer appends

* `writeAttribute_appends`, `writeVarInfo_appends`, `writeStringHeader_appends` — the pieces, and `bind` puts them one
  behind the other.
* `dltUserLogWriteGenericAttr_ends`, `dltUserLogWriteGenericFormatted_ends`, `dltUserLogWriteRawInternal_ends` — these
  functions refuse, or they append the argument.
-/

namespace Dlt.Encoder

open Dlt.Lib Dlt.Shared Checked List
open Dlt.Log (CString)
open Dlt.User (WriteEnv StringType strTruncatedMessage)

variable {log : LogMemory} {bytes more : List UInt8}

/-! ## Appending -/

/-- The bytes are appended. -/
def LogMemory.written (log : LogMemory) (bytes : List UInt8) : LogMemory :=
  { log with buffer := overwrite log.buffer log.size bytes, size := log.size + bytes.length }

def LogMemory.counted (log : LogMemory) : LogMemory := { log with argsNum := log.argsNum + 1 }

def LogMemory.Room (log : LogMemory) (n : ℕ) : Prop := log.size + n ≤ log.buffer.length

@[simp] theorem size_written : (log.written bytes).size = log.size + bytes.length := rfl

theorem length_written (h : log.Room bytes.length) : (log.written bytes).buffer.length = log.buffer.length :=
  length_overwrite h

/-- **The message with the bytes.** -/
theorem content_written (h : log.Room bytes.length) :
    (log.written bytes).buffer.take (log.written bytes).size = log.buffer.take log.size ++ bytes := by
  have hsize : log.size ≤ log.buffer.length := Nat.le_trans (Nat.le_add_right _ _) h
  have hlength : (log.buffer.take log.size ++ bytes).length = log.size + bytes.length := by
    rw [length_append, length_take, Nat.min_eq_left hsize]
  unfold LogMemory.written overwrite
  exact take_left' hlength

theorem written_nil : log.written [] = log := by
  unfold LogMemory.written overwrite
  simp

theorem written_written (h : log.Room bytes.length) :
    (log.written bytes).written more = log.written (bytes ++ more) := by
  unfold LogMemory.written
  dsimp only
  rw [overwrite_overwrite more h, length_append, Nat.add_assoc]

/-- The writer appends the bytes to every message that has room for them. -/
def Appends (x : Writer Unit) (bytes : List UInt8) : Prop :=
  ∀ log : LogMemory, log.Room bytes.length → x.result log = some (.ok (), log.written bytes)

theorem write_appends (bytes : List UInt8) : Appends (write bytes) bytes := by
  intro log h
  have hpoke : poke log.buffer log.size bytes = some (overwrite log.buffer log.size bytes) := if_pos h
  unfold write
  rw [result_get_bind, hpoke]
  rfl

theorem pure_appends : Appends (pure ()) [] := by
  intro log _
  rw [written_nil]
  rfl

/-- **One behind the other.** -/
theorem Appends.bind {x y : Writer Unit} (hx : Appends x bytes) (hy : Appends y more) :
    Appends (do x; y) (bytes ++ more) := by
  intro log h
  rw [length_append] at h
  have hfirst : log.Room bytes.length := by
    unfold LogMemory.Room at h ⊢
    omega
  have hsecond : (log.written bytes).Room more.length := by
    unfold LogMemory.Room at h ⊢
    rw [length_written hfirst, size_written]
    omega
  rw [result_bind_of_ok (hx log hfirst), hy _ hsecond, written_written hfirst]

theorem Appends.onlyIf {x : Writer Unit} (c : Bool) (hx : Appends x bytes) :
    Appends (onlyIf c x) (if c then bytes else []) := by
  cases c with
  | false => exact pure_appends
  | true => exact hx

/-! ## The pieces -/

theorem peek_zero {n : ℕ} (h : n ≤ bytes.length) : peek bytes 0 n = some (bytes.take n) :=
  peek_eq (by rw [Nat.zero_add]; exact h)

/-- The bytes of an attribute: those of the string and its zero that the size covers. -/
def attributeBytes : Option CString → List UInt8
  | none => []
  | some s => (s.text ++ [0]).take (attributeSize (some s))

theorem attributeSize_le (s : CString) : attributeSize (some s) ≤ (s.text ++ [0]).length := by
  rw [length_append, length_singleton]
  exact Nat.mod_le _ _

@[simp] theorem length_attributeBytes (s : Option CString) : (attributeBytes s).length = attributeSize s := by
  cases s with
  | none => rfl
  | some s => exact length_take_of_le (attributeSize_le s)

theorem writeAttribute_appends (s : Option CString) : Appends (writeAttribute s) (attributeBytes s) := by
  cases s with
  | none => exact pure_appends
  | some s =>
    unfold writeAttribute attributeBytes
    dsimp only
    by_cases hsize : attributeSize (some s) ≠ 0
    · rw [if_pos hsize, peek_zero (attributeSize_le s)]
      exact write_appends _
    · rw [if_neg hsize, not_not.mp hsize]
      exact pure_appends

def varInfoBytes : Option VarInfo → List UInt8
  | none => []
  | some v => leBytes 2 (attributeSize v.name) ++ ((if v.withUnit then leBytes 2 (attributeSize v.unit) else []) ++
      (attributeBytes v.name ++ attributeBytes v.unit))

/-- **The room for the information is right.** -/
@[simp] theorem length_varInfoBytes (v : Option VarInfo) : (varInfoBytes v).length = varInfoSize v := by
  cases v with
  | none => rfl
  | some v =>
    unfold varInfoBytes varInfoSize
    dsimp only
    cases hunit : v.withUnit with
    | false =>
      rw [v.unit_none hunit]
      simp [attributeSize]
    | true =>
      simp
      omega

theorem writeVarInfo_appends (v : Option VarInfo) : Appends (writeVarInfo v) (varInfoBytes v) := by
  cases v with
  | none => exact pure_appends
  | some v =>
    exact (write_appends _).bind (((write_appends _).onlyIf v.withUnit).bind
      ((writeAttribute_appends _).bind (writeAttribute_appends _)))

def nameInfoBytes (withVarInfo : Bool) (name : Option CString) : List UInt8 :=
  if withVarInfo then leBytes 2 (attributeSize name) ++ attributeBytes name else []

@[simp] theorem length_nameInfoBytes (withVarInfo : Bool) (name : Option CString) :
    (nameInfoBytes withVarInfo name).length = nameInfoSize withVarInfo name := by
  unfold nameInfoBytes nameInfoSize
  split_ifs <;> simp

theorem writeNameInfo_appends (withVarInfo : Bool) (name : Option CString) :
    Appends (writeNameInfo withVarInfo name) (nameInfoBytes withVarInfo name) :=
  ((write_appends _).bind (writeAttribute_appends _)).onlyIf withVarInfo

/-! ## The functions that refuse or append -/

/-- The function refuses, or it appends the bytes. -/
inductive Ends (logBufLen : UInt16) (x : Writer ℤ) (bytes : List UInt8) (log : LogMemory) : Prop
  | refused (r : ℤ) (h : x.result log = some (.ok r, log))
  | appended (room : log.size + bytes.length ≤ logBufLen.toNat)
      (h : x.result log = some (.ok dltReturnOk, (log.written bytes).counted))

theorem result_counted {x : Writer Unit} (hx : Appends x bytes) (r : ℤ) (h : log.Room bytes.length) :
    Checked.result (do x; countArgument; pure r) log = some (.ok r, (log.written bytes).counted) := by
  rw [result_bind_of_ok (hx log h)]
  rfl

/-- **The writing functions check the room twice, and then they append.** -/
theorem ends_of_checks {logBufLen : UInt16} {x : Writer Unit} {short long : LogMemory → Prop} [DecidablePred short]
    [DecidablePred long] (hbuffer : log.buffer.length = logBufLen.toNat) (hx : Appends x bytes)
    (hroom : ¬ short log → ¬ long log → log.size + bytes.length ≤ logBufLen.toNat) :
    Ends logBufLen (do
      let log ← get
      if short log then pure dltReturnUserBufferFull
      else if long log then pure dltReturnUserBufferFull
      else do
        x
        countArgument
        pure dltReturnOk) bytes log := by
  by_cases hshort : short log
  · refine .refused dltReturnUserBufferFull ?_
    rw [result_get_bind, if_pos hshort]
    rfl
  by_cases hlong : long log
  · refine .refused dltReturnUserBufferFull ?_
    rw [result_get_bind, if_neg hshort, if_pos hlong]
    rfl
  · have hfits := hroom hshort hlong
    refine .appended hfits ?_
    rw [result_get_bind, if_neg hshort, if_neg hlong]
    exact result_counted hx dltReturnOk (hfits.trans_eq hbuffer.symm)

section writers

variable (env : WriteEnv)

def genericAttrBytes (data : List UInt8) (typeInfo : ℕ) (varinfo : Option VarInfo) : List UInt8 :=
  (if env.verbose then leBytes 4 (typeInfo ||| variFlag varinfo.isSome) ++ varInfoBytes varinfo else []) ++ data

theorem dltUserLogWriteGenericAttr_ends (hbuffer : log.buffer.length = env.logBufLen.toNat) (data : List UInt8)
    (typeInfo : ℕ) (varinfo : Option VarInfo) :
    Ends env.logBufLen (dltUserLogWriteGenericAttr env data typeInfo varinfo)
      (genericAttrBytes env data typeInfo varinfo) log := by
  unfold dltUserLogWriteGenericAttr genericAttrBytes
  by_cases hinit : ¬ env.initialised = true
  · rw [if_pos hinit]
    exact .refused _ rfl
  rw [if_neg hinit]
  have happends := (((write_appends (leBytes 4 (typeInfo ||| variFlag varinfo.isSome))).bind
    (writeVarInfo_appends varinfo)).onlyIf env.verbose).bind (write_appends data)
  have hends := @ends_of_checks log _ env.logBufLen _ (fun log => log.size + data.length > env.logBufLen.toNat)
    (fun log => env.verbose ∧ log.size + (data.length + 4 + varInfoSize varinfo) > env.logBufLen.toNat) _ _ hbuffer
    happends ?_
  · simpa only [bind_assoc] using hends
  · intro hshort hlong
    split_ifs with hv
    · have hlt := not_lt.mp fun h => hlong ⟨hv, h⟩
      rw [length_append, length_append, length_leBytes, length_varInfoBytes]
      omega
    · exact not_lt.mp hshort

def genericFormattedBytes (data : List UInt8) (typeInfo : ℕ) (type : ℤ) : List UInt8 :=
  (if env.verbose then leBytes 4 (typeInfo ||| formatScod type) else []) ++ data

theorem dltUserLogWriteGenericFormatted_ends (hbuffer : log.buffer.length = env.logBufLen.toNat) (data : List UInt8)
    (typeInfo : ℕ) (type : ℤ) :
    Ends env.logBufLen (dltUserLogWriteGenericFormatted env data typeInfo type)
      (genericFormattedBytes env data typeInfo type) log := by
  unfold dltUserLogWriteGenericFormatted genericFormattedBytes
  by_cases htype : ¬ ValidFormat type
  · rw [if_pos htype]
    exact .refused _ rfl
  rw [if_neg htype]
  by_cases hinit : ¬ env.initialised = true
  · rw [if_pos hinit]
    exact .refused _ rfl
  rw [if_neg hinit]
  have happends := ((write_appends (leBytes 4 (typeInfo ||| formatScod type))).onlyIf env.verbose).bind
    (write_appends data)
  have hends := @ends_of_checks log _ env.logBufLen _ (fun log => log.size + data.length > env.logBufLen.toNat)
    (fun log => env.verbose ∧ log.size + (data.length + 4) > env.logBufLen.toNat) _ _ hbuffer happends ?_
  · simpa only [bind_assoc] using hends
  · intro hshort hlong
    split_ifs with hv
    · have hlt := not_lt.mp fun h => hlong ⟨hv, h⟩
      rw [length_append, length_leBytes]
      omega
    · exact not_lt.mp hshort

def rawBytes (data : CallerData) (type : ℤ) (name : Option CString) (withVarInfo : Bool) : List UInt8 :=
  (if env.verbose then leBytes 4 (rawTypeInfo type withVarInfo) else []) ++ (leBytes 2 data.length.toNat ++
    ((if env.verbose then nameInfoBytes withVarInfo name else []) ++ (data.bytes.getD []).take data.length.toNat))

theorem dltUserLogWriteRawInternal_ends (hbuffer : log.buffer.length = env.logBufLen.toNat) (data : CallerData)
    (type : ℤ) (name : Option CString) (withVarInfo : Bool) :
    Ends env.logBufLen (dltUserLogWriteRawInternal env data type name withVarInfo)
      (rawBytes env data type name withVarInfo) log := by
  unfold dltUserLogWriteRawInternal rawBytes
  by_cases hnull : data.bytes = none ∧ data.length ≠ 0
  · rw [if_pos hnull]
    exact .refused _ rfl
  rw [if_neg hnull]
  by_cases htype : ¬ ValidFormat type
  · rw [if_pos htype]
    exact .refused _ rfl
  rw [if_neg htype]
  by_cases hinit : ¬ env.initialised = true
  · rw [if_pos hinit]
    exact .refused _ rfl
  rw [if_neg hinit]
  have hlength : data.length.toNat ≤ (data.bytes.getD []).length := by
    cases hbytes : data.bytes with
    | none =>
      have hzero : data.length = 0 := not_not.mp fun h => hnull ⟨hbytes, h⟩
      rw [hzero]
      exact Nat.zero_le _
    | some b => exact data.length_le b hbytes
  have happends := ((write_appends (leBytes 4 (rawTypeInfo type withVarInfo))).onlyIf env.verbose).bind
    ((write_appends (leBytes 2 data.length.toNat)).bind
      (((writeNameInfo_appends withVarInfo name).onlyIf env.verbose).bind
        (write_appends ((data.bytes.getD []).take data.length.toNat))))
  have hends := @ends_of_checks log _ env.logBufLen _
    (fun log => log.size + (data.length.toNat + 2) > env.logBufLen.toNat)
    (fun log => env.verbose ∧
      log.size + (data.length.toNat + 2 + 4 + nameInfoSize withVarInfo name) > env.logBufLen.toNat) _ _ hbuffer
    happends ?_
  · rw [peek_zero hlength]
    simpa only [bind_assoc, ofOption_some, pure_bind] using hends
  · intro hshort hlong
    rw [length_append, length_append, length_append, length_leBytes,
      length_take_of_le hlength]
    split_ifs with hv
    · have hlt := not_lt.mp fun h => hlong ⟨hv, h⟩
      rw [length_leBytes, length_nameInfoBytes]
      omega
    · rw [length_nil]
      omega

end writers

end Dlt.Encoder
