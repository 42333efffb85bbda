import Dlt.Lib.TextMemory
import Dlt.Logstorage.Questions
import Dlt.Shared.Types

/-!
# Splitting a filter key

* `keyRoundTrips_iff` — **what a key was made of is read back** exactly if no id begins with the wildcard and goes on,
  and the ECU id has no `:` where the key has an application or a context.
-/

namespace Dlt.Logstorage

open Dlt.Lib Dlt.Shared List Option

/-! ## Splitting -/

/-- The buffers that the parts of a key are written to. -/
structure KeyParts where
  apid : List UInt8
  ctid : List UInt8
  ecuid : List UInt8
deriving DecidableEq

/-- `strncpy`: the text is cut or filled up with zeros. -/
def strncpy (buffer text : List UInt8) (n : ℕ) : Option (List UInt8) :=
  poke buffer 0 (text.take n ++ List.replicate (n - text.length) 0)

/-- `DLT_OFFLINE_LOGSTORAGE_MAX_KEY_LEN`. Source: `dlt_offline_logstorage.h` -/
def dltOfflineLogstorageMaxKeyLen : ℕ := 15

/-- Source: `dlt_daemon_offline_logstorage.c`, `dlt_logstorage_split_ecuid` -/
def dltLogstorageSplitEcuid (key : List UInt8) (out : KeyParts) : Option (ℤ × KeyParts) :=
  if key.length > 4 + 2 ∨ key.length < 2 then some (dltReturnError, out)
  else do
    let ecuid ← poke out.ecuid 0 (key.take (key.length - 2))
    let apid ← poke out.apid 0 (ascii ".*")
    let ctid ← poke out.ctid 0 (ascii ".*")
    some (dltReturnOk, ⟨apid, ctid, ecuid⟩)

/-- Source: `dlt_logstorage_split_ctid` -/
def dltLogstorageSplitCtid (key : List UInt8) (out : KeyParts) : Option (ℤ × KeyParts) :=
  if key.length > 4 + 2 ∨ key.length < 1 then some (dltReturnError, out)
  else do
    let ctid ← strncpy out.ctid (key.drop 2) (key.length - 1)
    let apid ← poke out.apid 0 (ascii ".*")
    some (dltReturnOk, { out with apid, ctid })

/-- Source: `dlt_logstorage_split_apid` -/
def dltLogstorageSplitApid (key : List UInt8) (out : KeyParts) : Option (ℤ × KeyParts) :=
  if key.length > 4 + 2 ∨ key.length < 2 then some (dltReturnError, out)
  else do
    let apid ← strncpy out.apid (key.drop 1) (key.length - 2)
    let ctid ← poke out.ctid 0 (ascii ".*")
    some (dltReturnOk, { out with apid, ctid })

/-- Source: `dlt_logstorage_split_apid_ctid` -/
def dltLogstorageSplitApidCtid (key : List UInt8) (out : KeyParts) : Option (ℤ × KeyParts) :=
  if key.length > dltOfflineLogstorageMaxKeyLen then some (dltReturnError, out)
  else
    match strtok 58 key with
    | [] => some (dltReturnError, out)
    | tok :: toks => do
      let apid ← strncpy out.apid tok 4
      match toks with
      | [] => some (dltReturnError, { out with apid })
      | tok :: _ => do
        let ctid ← strncpy out.ctid tok 4
        some (dltReturnOk, { out with apid, ctid })

/-- Source: `dlt_logstorage_split_ecuid_apid` -/
def dltLogstorageSplitEcuidApid (key : List UInt8) (out : KeyParts) : Option (ℤ × KeyParts) :=
  if key.length > dltOfflineLogstorageMaxKeyLen then some (dltReturnError, out)
  else
    match strtok 58 key with
    | [] => some (dltReturnError, out)
    | tok :: toks => do
      let ecuid ← strncpy out.ecuid tok 4
      match toks with
      | [] => some (dltReturnError, { out with ecuid })
      | tok :: _ => do
        let apid ← strncpy out.apid tok 4
        let ctid ← poke out.ctid 0 (ascii ".*")
        some (dltReturnOk, ⟨apid, ctid, ecuid⟩)

/-- The key does not begin with `:`, so that the first part stands at its beginning. A part that is missing is a null
pointer. Source: `dlt_logstorage_split_multi` -/
def dltLogstorageSplitMulti (key : List UInt8) (out : KeyParts) : Option (ℤ × KeyParts) :=
  if key.length > dltOfflineLogstorageMaxKeyLen then some (dltReturnError, out)
  else
    match strtok 58 key with
    | [] => some (dltReturnError, out)
    | tok :: toks => do
      let ecuid ← strncpy out.ecuid tok 4
      if key.getD (tok.length + 1) 0 = 58 then
        let ctid ← toks.head?.elim (some out.ctid) fun tok => strncpy out.ctid tok 4
        let apid ← poke out.apid 0 (ascii ".*")
        some (dltReturnOk, ⟨apid, ctid, ecuid⟩)
      else do
        let apid ← toks.head?.bind fun tok => strncpy out.apid tok 4
        let ctid ← toks.tail.head?.bind fun tok => strncpy out.ctid tok 4
        some (dltReturnOk, ⟨apid, ctid, ecuid⟩)

/-- In front of the key `:` there is nothing to be read.
Source: `dlt_logstorage_split_key` -/
def dltLogstorageSplitKey (memory : List UInt8) (out : KeyParts) : Option (ℤ × KeyParts) := do
  let key ← cstring memory 0
  if 58 ∉ key then some (dltReturnWrongParameter, out)
  else if key = [58] then none
  else if key.getLastD 0 = 58 ∧ key.dropLast.getLastD 0 = 58 then dltLogstorageSplitEcuid key out
  else if key.headD 0 = 58 ∧ key.tail.headD 0 = 58 then dltLogstorageSplitCtid key out
  else if key.headD 0 = 58 ∧ key.getLastD 0 = 58 then dltLogstorageSplitApid key out
  else if key.headD 0 = 58 ∧ key.getLastD 0 ≠ 58 then dltLogstorageSplitApidCtid key out
  else if key.headD 0 ≠ 58 ∧ key.getLastD 0 = 58 then dltLogstorageSplitEcuidApid key out
  else dltLogstorageSplitMulti key out

/-! ## What is read back -/

/-- A key in the list of the keys of a filter, which was allocated with zeros. -/
def keyMemory (key : List UInt8) : List UInt8 :=
  key ++ List.replicate (dltOfflineLogstorageMaxKeyLen - key.length) 0

/-- An id in a buffer of five bytes that was filled with zeros. -/
def idBuffer (id : List UInt8) : List UInt8 := id ++ List.replicate (5 - id.length) 0

def noParts : KeyParts := ⟨idBuffer [], idBuffer [], idBuffer []⟩

/-- The key is taken apart into the ids. -/
def ReadsBack (key ecuid apid ctid : List UInt8) : Prop :=
  ∃ parts, dltLogstorageSplitKey (keyMemory key) noParts = some (dltReturnOk, parts) ∧
    cstring parts.ecuid 0 = some ecuid ∧ cstring parts.apid 0 = some apid ∧ cstring parts.ctid 0 = some ctid

/-- A part of a key, which may be missing. -/
structure IsPart (part : List UInt8) : Prop where
  short : part.length ≤ 4
  noZero : 0 ∉ part
  noColon : 58 ∉ part

/-- One id of a list: one to four characters, and neither `:` nor `,`. The wildcard is one. -/
structure IsSingleId (id : List UInt8) : Prop extends IsPart id where
  ne_nil : id ≠ []
  noComma : 44 ∉ id

/-- An id that begins with the wildcard is the wildcard, or the context of a key without ECU id and application; and the
ECU id has no `:`, or the key is made of it alone. -/
structure KeyIsPlain (ecuid : Option Id4) (apid ctid : List UInt8) : Prop where
  ecuid_plain : 58 ∈ (ecuid.map idString).getD [] → isWildcard apid = true ∧ isWildcard ctid = true
  apid_plain : isWildcard apid = true → apid = ascii ".*"
  ctid_plain : isWildcard ctid = true → ctid = ascii ".*" ∨ ecuid = none ∧ isWildcard apid = true

/-! ## Buffers -/

section buffers

variable {id key text buffer : List UInt8} {n : ℕ}

theorem cstring_padded (h : 0 ∉ text) (hn : 0 < n) : cstring (text ++ List.replicate n 0) 0 = some text := by
  obtain ⟨m, rfl⟩ := Nat.exists_eq_succ_of_ne_zero (Nat.pos_iff_ne_zero.mp hn)
  rw [replicate_succ]
  exact cstring_append_zero h _

theorem cstring_keyMemory (h : 0 ∉ key) (hlen : key.length < 15) : cstring (keyMemory key) 0 = some key :=
  cstring_padded h (Nat.sub_pos_of_lt hlen)

theorem cstring_idBuffer (h : 0 ∉ id) (hlen : id.length ≤ 4) : cstring (idBuffer id) 0 = some id :=
  cstring_padded h (Nat.sub_pos_of_lt (Nat.lt_succ_of_le hlen))

theorem strncpy_idBuffer (hn : id.length ≤ n) (hroom : n ≤ 5) : strncpy (idBuffer []) id n = some (idBuffer id) := by
  have hbuffer : idBuffer [] = replicate 5 0 := rfl
  have hlength : (id.take n ++ replicate (n - id.length) (0 : UInt8)).length = n := by
    simp
    omega
  unfold strncpy poke
  rw [hbuffer, hlength, if_pos (by simpa using hroom)]
  unfold overwrite idBuffer
  rw [hlength, take_zero, nil_append, take_of_length_le hn, append_assoc, drop_replicate,
    replicate_append_replicate, Nat.zero_add]
  congr 4
  omega

theorem strncpy_front (hlen : id.length ≤ 5) : strncpy (idBuffer []) (id ++ text) id.length = some (idBuffer id) := by
  have h := @strncpy_idBuffer id id.length le_rfl hlen
  unfold strncpy at h ⊢
  rw [length_append, Nat.sub_eq_zero_of_le (Nat.le_add_right _ _), take_left]
  rwa [take_length, Nat.sub_self] at h

theorem poke_idBuffer (hlen : id.length ≤ 5) : poke (idBuffer []) 0 id = some (idBuffer id) := by
  have h := @strncpy_idBuffer id id.length le_rfl hlen
  unfold strncpy at h
  rwa [take_length, Nat.sub_self, replicate_zero, append_nil] at h

theorem not_mem_strncpy {c : UInt8} (hc : c ≠ 0) (hbuffer : c ∉ buffer) (htext : c ∉ text) {result : List UInt8}
    (h : strncpy buffer text n = some result) : c ∉ result := by
  unfold strncpy poke at h
  split_ifs at h
  obtain rfl := Option.some.inj h
  unfold overwrite
  simp only [take_zero, nil_append, mem_append, mem_replicate, not_or]
  refine ⟨⟨fun h => htext (mem_of_mem_take h), fun h => hc h.2⟩, fun h => hbuffer (mem_of_mem_drop h)⟩

end buffers

/-! ## The parts of a key -/

/-- A part that is missing stands for every id. -/
def orWildcard (part : List UInt8) : List UInt8 := if part = [] then ascii ".*" else part

section parts

variable {e a c rest : List UInt8}

theorem getLastD_colon (hc : 58 ∉ c) : (rest ++ 58 :: c).getLastD 0 = 58 ↔ c = [] := by
  rcases eq_nil_or_concat' c with rfl | ⟨cs, x, rfl⟩
  · simp
  · have hx : x ≠ 58 := fun h => hc (by simp [h])
    rw [← cons_append, ← append_assoc, getLastD_concat]
    simp [hx]

theorem headD_colon (he : 58 ∉ e) : (e ++ 58 :: rest).headD 0 = 58 ↔ e = [] := by
  cases e with
  | nil => simp
  | cons x xs =>
    have hx : x ≠ 58 := fun h => he (by simp [h])
    simp [hx]

theorem joined_last (hc : 58 ∉ c) : (joined e a c).getLastD 0 = 58 ↔ c = [] := by
  have hassoc : joined e a c = (e ++ 58 :: a) ++ 58 :: c := by simp [joined]
  rw [hassoc, getLastD_colon hc]

theorem joined_ends (ha : 58 ∉ a) (hc : 58 ∉ c) :
    (joined e a c).getLastD 0 = 58 ∧ (joined e a c).dropLast.getLastD 0 = 58 ↔ a = [] ∧ c = [] := by
  rw [joined_last hc, and_comm, and_congr_left_iff]
  rintro rfl
  have hlast : (joined e a []).dropLast = e ++ 58 :: a := by
    rw [show joined e a [] = (e ++ 58 :: a) ++ [58] by simp [joined], dropLast_concat]
  rw [hlast, getLastD_colon ha]

theorem joined_begins (he : 58 ∉ e) (ha : 58 ∉ a) :
    (joined e a c).headD 0 = 58 ∧ (joined e a c).tail.headD 0 = 58 ↔ e = [] ∧ a = [] := by
  unfold joined
  rw [headD_colon he, and_congr_right_iff]
  rintro rfl
  exact headD_colon ha

theorem length_joined : (joined e a c).length = e.length + a.length + c.length + 2 := by
  simp [joined]
  omega

theorem cstring_joined (he : 0 ∉ e ∧ e.length ≤ 4) (ha : IsPart a) (hc : IsPart c) :
    cstring (keyMemory (joined e a c)) 0 = some (joined e a c) := by
  have := ha.short
  have := hc.short
  refine cstring_keyMemory (by simp [joined, he.1, ha.noZero, hc.noZero]) ?_
  rw [length_joined]
  omega

theorem strtok_joined (he : 58 ∉ e) (ha : 58 ∉ a) (hc : 58 ∉ c) :
    strtok 58 (joined e a c) = (if e = [] then [] else [e]) ++ ((if a = [] then [] else [a]) ++
      if c = [] then [] else [c]) := by
  rw [joined, strtok_append_cons he, strtok_append_cons ha, strtok_of_not_mem hc]

/-- **The parts of a key are found again**, if there is one; a `:` in the ECU id only if there is no other. -/
theorem splitKey_joined (hzero : 0 ∉ e) (helen : e.length ≤ 4) (ha : IsPart a) (hc : IsPart c)
    (hany : ¬ (e = [] ∧ a = [] ∧ c = [])) (hecolon : 58 ∈ e → a = [] ∧ c = []) :
    dltLogstorageSplitKey (keyMemory (joined e a c)) noParts =
      some (dltReturnOk, ⟨idBuffer (orWildcard a), idBuffer (orWildcard c), idBuffer e⟩) := by
  have hcolon : 58 ∈ joined e a c := by simp [joined]
  have hone : joined e a c ≠ [58] := fun h => by simpa [length_joined] using congrArg length h
  have halen := ha.short
  have hclen := hc.short
  have hwild : poke (idBuffer []) 0 (ascii ".*") = some (idBuffer (ascii ".*")) := by decide
  have hecopy := strncpy_idBuffer helen (Nat.le_succ 4)
  have hacopy := strncpy_idBuffer halen (Nat.le_succ 4)
  have hccopy := strncpy_idBuffer hclen (Nat.le_succ 4)
  unfold dltLogstorageSplitKey
  rw [cstring_joined ⟨hzero, helen⟩ ha hc, bind_eq_bind, bind_some, if_neg (not_not.mpr hcolon), if_neg hone]
  have hlength : (joined e a c).length = e.length + a.length + c.length + 2 := length_joined
  by_cases hecu : (joined e a c).getLastD 0 = 58 ∧ (joined e a c).dropLast.getLastD 0 = 58
  · obtain ⟨rfl, rfl⟩ := (joined_ends ha.noColon hc.noColon).mp hecu
    have htake : (joined e [] []).take ((joined e [] []).length - 2) = e := by simp [joined]
    rw [if_pos hecu]
    unfold dltLogstorageSplitEcuid noParts
    rw [htake, if_neg (by simp at hlength; omega), poke_idBuffer (by omega), hwild]
    rfl
  rw [if_neg hecu]
  have hnot : ¬ (a = [] ∧ c = []) := fun h => hecu ((joined_ends ha.noColon hc.noColon).mpr h)
  have he : 58 ∉ e := fun h => hnot (hecolon h)
  have hfields := strtok_joined he ha.noColon hc.noColon
  have hbegins : (joined e a c).headD 0 = 58 ∧ (joined e a c).tail.headD 0 = 58 ↔ e = [] ∧ a = [] :=
    joined_begins he ha.noColon
  have hfirst : (joined e a c).headD 0 = 58 ↔ e = [] := headD_colon he
  have hlast : (joined e a c).getLastD 0 = 58 ↔ c = [] := joined_last hc.noColon
  split_ifs with hctid hapid hpair hecuApid
  · obtain ⟨rfl, rfl⟩ := hbegins.mp hctid
    have hcopied : strncpy (idBuffer []) c (c.length + 1) = some (idBuffer c) :=
      strncpy_idBuffer (Nat.le_succ _) (Nat.succ_le_succ hclen)
    have hne : c ≠ [] := fun h => hany ⟨rfl, rfl, h⟩
    have hn : (joined [] [] c).length - 1 = c.length + 1 := by simp at hlength; omega
    unfold dltLogstorageSplitCtid noParts
    rw [hn, if_neg (by omega)]
    change ((strncpy (idBuffer []) c (c.length + 1)).bind _) = _
    rw [hcopied, bind_some, hwild]
    simp [orWildcard, hne]
  · obtain ⟨rfl, rfl⟩ : e = [] ∧ c = [] := ⟨hfirst.mp hapid.1, hlast.mp hapid.2⟩
    have hne : a ≠ [] := fun h => hany ⟨rfl, h, rfl⟩
    have hn : (joined [] a []).length - 2 = a.length := by simp at hlength; omega
    have hdrop : (joined [] a []).drop 1 = a ++ [58] := rfl
    unfold dltLogstorageSplitApid noParts
    rw [hn, if_neg (by omega), hdrop]
    dsimp only
    rw [strncpy_front (by omega), bind_eq_bind, bind_some, hwild]
    simp [orWildcard, hne]
  · obtain rfl := hfirst.mp hpair.1
    have hc' : c ≠ [] := fun h => hpair.2 (hlast.mpr h)
    have ha' : a ≠ [] := fun h => hctid (hbegins.mpr ⟨rfl, h⟩)
    unfold dltLogstorageSplitApidCtid dltOfflineLogstorageMaxKeyLen noParts
    rw [if_neg (by omega), hfields, if_pos rfl, if_neg ha', if_neg hc']
    simp [hacopy, hccopy, orWildcard, ha', hc']
  · obtain ⟨he', rfl⟩ : e ≠ [] ∧ c = [] := ⟨fun h => hecuApid.1 (hfirst.mpr h), hlast.mp hecuApid.2⟩
    have ha' : a ≠ [] := fun h => hnot ⟨h, rfl⟩
    unfold dltLogstorageSplitEcuidApid dltOfflineLogstorageMaxKeyLen noParts
    rw [if_neg (by omega), hfields, if_neg he', if_neg ha', if_pos rfl]
    simp [hecopy, hacopy, hwild, orWildcard, ha']
  · have he' : e ≠ [] := fun h => hpair ⟨hfirst.mpr h, fun hl => hapid ⟨hfirst.mpr h, hl⟩⟩
    have hc' : c ≠ [] := fun h => hecuApid ⟨fun hf => he' (hfirst.mp hf), hlast.mpr h⟩
    unfold dltLogstorageSplitMulti dltOfflineLogstorageMaxKeyLen noParts
    rw [if_neg (by omega), hfields, if_neg he', if_neg hc']
    -- Behind the first part there is a second colon, or the application.
    cases a with
    | nil =>
      have hnext : (joined e [] c)[e.length + 1]?.getD 0 = 58 := by simp [joined]
      simp [hecopy, hccopy, hwild, hnext, orWildcard, hc']
    | cons x xs =>
      have hnext : (joined e (x :: xs) c)[e.length + 1]?.getD 0 ≠ 58 := by
        have hx : x ≠ 58 := fun h => ha.noColon (by simp [h])
        simpa [joined] using hx
      simp [hecopy, hacopy, hccopy, hnext, orWildcard, hc']

end parts

/-! ## A colon in the ECU id -/

section colon

variable {memory key buffer : List UInt8} {out : KeyParts} {n : ℕ} {α : Type}

/-- The ECU id that comes out, if one does, has no `:`. -/
def NoColon (r : Option (ℤ × KeyParts)) : Prop := ∀ x ∈ r, 58 ∉ x.2.ecuid

theorem NoColon.of_some {r : ℤ} (h : 58 ∉ out.ecuid) : NoColon (some (r, out)) := by
  intro x hx
  rwa [← some.inj hx]

theorem NoColon.bind {x : Option α} {f : α → Option (ℤ × KeyParts)} (h : ∀ y ∈ x, NoColon (f y)) :
    NoColon (x >>= f) := by
  intro r hr
  obtain ⟨y, hy, hf⟩ := bind_eq_some_iff.mp hr
  exact h y hy r hf

theorem not_mem_copied {rest : List (List UInt8)} {tok : List UInt8} (htoks : strtok 58 key = tok :: rest)
    (hbuffer : 58 ∉ buffer) {copied : List UInt8} (h : copied ∈ strncpy buffer tok n) : 58 ∉ copied :=
  not_mem_strncpy (by decide) hbuffer (mem_strtok (htoks ▸ mem_cons_self)).2.1 h

variable (hout : 58 ∉ out.ecuid)

include hout

theorem noColon_splitCtid : NoColon (dltLogstorageSplitCtid key out) := by
  unfold dltLogstorageSplitCtid
  split
  · exact .of_some hout
  · exact .bind fun _ _ => .bind fun _ _ => .of_some hout

theorem noColon_splitApid : NoColon (dltLogstorageSplitApid key out) := by
  unfold dltLogstorageSplitApid
  split
  · exact .of_some hout
  · exact .bind fun _ _ => .bind fun _ _ => .of_some hout

theorem noColon_splitApidCtid : NoColon (dltLogstorageSplitApidCtid key out) := by
  unfold dltLogstorageSplitApidCtid
  split
  · exact .of_some hout
  split
  · exact .of_some hout
  refine .bind fun _ _ => ?_
  split
  · exact .of_some hout
  · exact .bind fun _ _ => .of_some hout

theorem noColon_splitEcuidApid : NoColon (dltLogstorageSplitEcuidApid key out) := by
  unfold dltLogstorageSplitEcuidApid
  split
  · exact .of_some hout
  split
  · exact .of_some hout
  rename_i tok toks htoks
  refine .bind fun ecuid hecuid => ?_
  have hcopied : 58 ∉ ecuid := not_mem_copied htoks hout hecuid
  split
  · exact .of_some hcopied
  · exact .bind fun _ _ => .bind fun _ _ => .of_some hcopied

theorem noColon_splitMulti : NoColon (dltLogstorageSplitMulti key out) := by
  unfold dltLogstorageSplitMulti
  split
  · exact .of_some hout
  split
  · exact .of_some hout
  rename_i tok toks htoks
  refine .bind fun ecuid hecuid => ?_
  have hcopied : 58 ∉ ecuid := not_mem_copied htoks hout hecuid
  split
  · exact .bind fun _ _ => .bind fun _ _ => .of_some hcopied
  · exact .bind fun _ _ => .bind fun _ _ => .of_some hcopied

/-- **Only the key of an ECU id alone** is taken apart into an ECU id with a `:`. -/
theorem noColon_splitKey (hkey : cstring memory 0 = some key)
    (hend : ¬ (key.getLastD 0 = 58 ∧ key.dropLast.getLastD 0 = 58)) : NoColon (dltLogstorageSplitKey memory out) := by
  unfold dltLogstorageSplitKey
  rw [hkey, bind_eq_bind, bind_some]
  split_ifs
  · exact fun _ h => nomatch h
  · exact noColon_splitCtid hout
  · exact noColon_splitApid hout
  · exact noColon_splitApidCtid hout
  · exact noColon_splitEcuidApid hout
  · exact noColon_splitMulti hout
  · exact .of_some hout

end colon

/-! ## Reading back -/

section readsBack

variable {config : DltLogStorageFilterConfig} {apid ctid e a c : List UInt8}

theorem getKeysList_single {id : List UInt8} (h : IsSingleId id) : dltLogstorageGetKeysList id = some [id] := by
  unfold dltLogstorageGetKeysList
  rw [strtok_of_not_mem h.noComma, if_neg h.ne_nil]
  simp [take_of_length_le h.short]

/-- The application in a key. -/
def apidPart (apid : List UInt8) : List UInt8 := if isWildcard apid then [] else apid

/-- The context in a key. A key has a part. -/
def ctidPart (ecuid : Option Id4) (apid ctid : List UInt8) : List UInt8 :=
  if isWildcard ctid ∧ (ecuid.isSome ∨ ¬ isWildcard apid) then [] else ctid

variable (hapid : IsSingleId apid) (hctid : IsSingleId ctid)

include hapid hctid in
/-- **The key of one application and one context.** -/
theorem createKeys_single (hapids : config.apids = some apid) (hctids : config.ctids = some ctid) :
    dltLogstorageCreateKeys config =
      some [joined (ecuString config) (apidPart apid) (ctidPart config.ecuid apid ctid)] := by
  unfold dltLogstorageCreateKeys onlyEcu
  rw [hapids, hctids]
  dsimp only
  rw [getKeysList_single hapid, getKeysList_single hctid]
  rcases Bool.eq_false_or_eq_true (isWildcard apid) with hwa | hwa <;>
    rcases Bool.eq_false_or_eq_true (isWildcard ctid) with hwc | hwc <;> cases config.ecuid <;>
    simp [pairKey, joined, apidPart, ctidPart, hwa, hwc, dltLogstorageCreateKeysOnlyEcu,
      dltLogstorageCreateKeysOnlyCtid, dltLogstorageCreateKeysOnlyApid, dltLogstorageCreateKeysMulti, ascii_colon,
      ascii_colons]

theorem cstring_orWildcard (ha : IsPart a) : cstring (idBuffer (orWildcard a)) 0 = some (orWildcard a) := by
  unfold orWildcard
  split_ifs
  · decide
  · exact cstring_idBuffer ha.noZero ha.short

/-- **What a key is taken apart into.** -/
theorem readsBack_joined (he : 0 ∉ e ∧ e.length ≤ 4) (ha : IsPart a) (hc : IsPart c)
    (hany : ¬ (e = [] ∧ a = [] ∧ c = [])) :
    ReadsBack (joined e a c) e apid ctid ↔
      (58 ∈ e → a = [] ∧ c = []) ∧ apid = orWildcard a ∧ ctid = orWildcard c := by
  unfold ReadsBack
  by_cases hcolon : 58 ∈ e → a = [] ∧ c = []
  · rw [splitKey_joined he.1 he.2 ha hc hany hcolon]
    simp only [Option.some.injEq, Prod.mk.injEq, true_and, exists_eq_left', cstring_idBuffer he.1 he.2,
      cstring_orWildcard ha, cstring_orWildcard hc, @eq_comm _ _ apid, @eq_comm _ _ ctid]
    exact (and_iff_right hcolon).symm
  · refine iff_of_false ?_ (fun h => hcolon h.1)
    rw [Classical.not_imp] at hcolon
    rintro ⟨parts, hsplit, hecuid, -, -⟩
    have hnone : 58 ∉ parts.ecuid := noColon_splitKey (by decide) (cstring_joined he ha hc)
      (fun h => hcolon.2 ((joined_ends ha.noColon hc.noColon).mp h)) _ hsplit
    unfold cstring at hecuid
    split_ifs at hecuid
    obtain rfl := some.inj hecuid
    exact hnone (takeWhile_subset _ hcolon.1)

/-- The key of one application and one context is taken apart into the ids it was made of. -/
def KeyRoundTrips (config : DltLogStorageFilterConfig) (apid ctid : List UInt8) : Prop :=
  ∃ key, dltLogstorageCreateKeys config = some [key] ∧ ReadsBack key (ecuString config) apid ctid

theorem isPart_apidPart (hapid : IsSingleId apid) : IsPart (apidPart apid) := by
  unfold apidPart
  split_ifs
  · exact ⟨by decide, by decide, by decide⟩
  · exact hapid.toIsPart

include hapid hctid in
/-- **The ids are read back** if and only if they are plain. -/
theorem keyRoundTrips_iff (hapids : config.apids = some apid) (hctids : config.ctids = some ctid)
    (hecuid : ∀ ecuid ∈ config.ecuid, idString ecuid ≠ []) :
    KeyRoundTrips config apid ctid ↔ KeyIsPlain config.ecuid apid ctid := by
  have hplain : KeyIsPlain config.ecuid apid ctid ↔
      (58 ∈ ecuString config → isWildcard apid = true ∧ isWildcard ctid = true) ∧
        (isWildcard apid = true → apid = ascii ".*") ∧
          (isWildcard ctid = true → ctid = ascii ".*" ∨ config.ecuid = none ∧ isWildcard apid = true) :=
    ⟨fun h => ⟨h.ecuid_plain, h.apid_plain, h.ctid_plain⟩, fun h => ⟨h.1, h.2.1, h.2.2⟩⟩
  unfold KeyRoundTrips
  rw [createKeys_single hapid hctid hapids hctids, hplain]
  simp only [Option.some.injEq, cons.injEq, and_true, exists_eq_left']
  have hbounds : 0 ∉ ecuString config ∧ (ecuString config).length ≤ 4 := by
    cases he : config.ecuid with
    | none => simp [ecuString, he]
    | some ecu =>
      rw [ecuString, he]
      exact ⟨zero_not_mem_idText ecu.bytes, length_idText_le ecu.bytes⟩
  have hcpart : IsPart (ctidPart config.ecuid apid ctid) := by
    unfold ctidPart
    split_ifs
    · exact ⟨by decide, by decide, by decide⟩
    · exact hctid.toIsPart
  have hecu : ecuString config = [] ↔ config.ecuid = none := by
    cases he : config.ecuid with
    | none => simp [ecuString, he]
    | some ecu => simpa [ecuString, he] using hecuid ecu he
  have hane := hapid.ne_nil
  have hcne := hctid.ne_nil
  have hwild : ascii ".*" ≠ [] := by decide
  rw [readsBack_joined hbounds (isPart_apidPart hapid) hcpart]
  · unfold apidPart ctidPart orWildcard
    rcases Bool.eq_false_or_eq_true (isWildcard apid) with hwa | hwa <;>
      rcases Bool.eq_false_or_eq_true (isWildcard ctid) with hwc | hwc <;> cases he : config.ecuid <;>
      simp [hwa, hwc, hane, hcne, he, ecuString]
  · rw [hecu, apidPart, ctidPart]
    rcases Bool.eq_false_or_eq_true (isWildcard apid) with hwa | hwa <;> cases config.ecuid <;>
      simp [hwa, hane, hcne]

theorem keyRoundTrips_iff_wildcards :
    KeyRoundTrips ⟨some (ascii "APP"), some (ascii ".*"), none, 6, none⟩ (ascii "APP") (ascii ".*") ↔
      KeyIsPlain none (ascii "APP") (ascii ".*") :=
  keyRoundTrips_iff ⟨⟨by decide, by decide, by decide⟩, by decide, by decide⟩
    ⟨⟨by decide, by decide, by decide⟩, by decide, by decide⟩ rfl rfl nofun

/-- The application `.*A` is taken for the wildcard. -/
theorem not_keyRoundTrips_wildcardPrefix :
    IsSingleId (ascii ".*A") ∧ IsSingleId (ascii "CTX") ∧
      ¬ KeyRoundTrips ⟨some (ascii ".*A"), some (ascii "CTX"), none, 6, none⟩ (ascii ".*A") (ascii "CTX") := by
  have hapid : IsSingleId (ascii ".*A") := ⟨⟨by decide, by decide, by decide⟩, by decide, by decide⟩
  have hctid : IsSingleId (ascii "CTX") := ⟨⟨by decide, by decide, by decide⟩, by decide, by decide⟩
  refine ⟨hapid, hctid, ?_⟩
  rintro ⟨key, hkeys, hreads⟩
  rw [createKeys_single hapid hctid rfl rfl] at hkeys
  obtain rfl : _ = key := by simpa using hkeys
  have hback := (readsBack_joined (by decide) (isPart_apidPart hapid) hctid.toIsPart (by decide)).mp hreads
  exact absurd hback.2.1 (by decide)

end readsBack

end Dlt.Logstorage
