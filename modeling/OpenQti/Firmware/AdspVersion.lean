import OpenQti.Firmware.Md5Digest
import OpenQti.Lib.Loop
import OpenQti.Lib.Text

/-!
# Recognising the firmware of the baseband

`read_adsp_version` computes the digest of the firmware file and looks it up in a table. The file
is read in blocks of 4096 bytes, each by as many calls of `fread` as it takes, and `stream_returns`
says that the digest is that of the file however the calls split it up. The digest is then taken
for a string: it is rejected if it is shorter than 16 characters, which it is if one of its bytes
is zero. The digest of the sixth entry of the table begins with one, so that no file is ever
recognised as that firmware; `version_of_digest` says that all the others are.
-/

namespace OpenQti.Firmware

open Bytes Except Loop Text

/-! ## The file -/

/-- A file that is open for reading: what is left of it, how many bytes more than one each of the
next calls of `fread` reads at most, and whether there is an error where it ends. -/
structure Stream where
  data : List UInt8
  short : List Nat
  error : Bool

/-- `fread(buffer, 1, n, stream)`. -/
def fread (n : Nat) (stream : Stream) : List UInt8 × Stream :=
  let got := match stream.short with
    | [] => n
    | limit :: _ => min n (limit + 1)
  (stream.data.take got, { stream with data := stream.data.drop got, short := stream.short.tail })

/-- `BLOCKSIZE`. -/
def blockSize : Nat := 4096

/-- The variables of `md5_stream`: the context, the first `sum` bytes of `buffer`, and the file. -/
structure StreamState where
  ctx : Md5Ctx
  buffer : List UInt8
  stream : Stream

/-- What `md5_stream` does with the last block. -/
def finishStream (s : StreamState) : Except Buffer.Overflow (List UInt8) := do
  let ctx ← if s.buffer.length > 0 then
      md5ProcessBytes (ofList s.buffer) s.buffer.length s.ctx
    else .ok s.ctx
  md5FinishCtx ctx

/-- One call of `fread` in the two loops of `md5_stream`, and what follows it up to the next one.
The result is `none` where the source returns 1. -/
def streamRound (s : StreamState) :
    Round StreamState (Except Buffer.Overflow (Option (List UInt8))) :=
  let (data, stream) := fread (blockSize - s.buffer.length) s.stream
  let buffer := s.buffer ++ data
  if buffer.length < blockSize ∧ data.length ≠ 0 then .again ⟨s.ctx, buffer, stream⟩
  else if data.length = 0 ∧ stream.error then .leave (.ok none)
  else if data.length = 0 then .leave ((finishStream ⟨s.ctx, buffer, stream⟩).map some)
  else .again ⟨md5ProcessBlock (ofList buffer) blockSize s.ctx, [], stream⟩

/-- `md5_stream(stream, resblock)`, for at most one round more than the file has bytes. -/
def md5Stream (stack : Bytes) (stream : Stream) :
    Option (Except Buffer.Overflow (Option (List UInt8))) :=
  run streamRound (stream.data.length + 1) ⟨md5InitCtx stack, [], stream⟩

/-- `md5_file(filename, md5_result)`, for a file that may be missing. -/
def md5File (stack : Bytes) : Option Stream →
    Option (Except Buffer.Overflow (Option (List UInt8)))
  | none => some (.ok none)
  | some stream => md5Stream stack stream

/-! ## The table -/

/-- The member `md5sum` of the entries of `known_adsp_fw`. -/
def knownAdspFw : List String := [
  "Unknown__",
  "8dcfc9dfc39d4bb41f86014ca6b54040",
  "835030d95d471d4557caa13f14eb5626",
  "64bf3d938fb21a0104d01fcacb37bc8e",
  "6a92799327a56905f6496613671f56df",
  "00f6763a96bc702eaf710cc928b6fa99",
  "74fcbcdd4abed713ce8cd3f8818e7afd",
  "2206b35df4cc1c51a06b1bb25729a0cd",
  "3ad071d36b20fcde95efcf6eaa1005d6",
  "aba4ab6d6c48aeb426b39f04c7757fa6",
  "62c2709d1b3506a87b41a935c7ae22cd"]

/-- `sprintf(…, "%02x", md5_result[j])`, for a character without a sign. -/
def hexByte (b : UInt8) : List UInt8 := padded 2 48 (hexadecimal b.toNat)

def hex (bytes : List UInt8) : List UInt8 := bytes.flatMap hexByte

/-- What `read_adsp_version` returns for the 64 bytes of `md5_result`. -/
def lookUp (md5Result : List UInt8) : Nat :=
  let text := md5Result.takeWhile (· ≠ 0)
  if text.length < 16 then 0
  else (knownAdspFw.findIdx? fun sum => hex text = ascii sum).getD 0

/-- `read_adsp_version()`, for the firmware file if there is one. -/
def readAdspVersion (stack : Bytes) (file : Option Stream) :
    Option (Except Buffer.Overflow Nat) :=
  (md5File stack file).map fun result => result.map fun digest =>
    lookUp ((digest.getD []) ++ List.replicate (64 - (digest.getD []).length) 0)

/-! ## Reading the file -/

variable {stream : Stream} {s : StreamState} {message : List UInt8} {n : Nat}

/-- A call reads bytes from the front of the file, and it reads some if there are any. -/
theorem fread_spec (stream : Stream) (hpos : 0 < n) :
    (fread n stream).1 ++ (fread n stream).2.data = stream.data ∧ (fread n stream).1.length ≤ n ∧
      ((fread n stream).1 = [] → stream.data = []) ∧
      (fread n stream).2.error = stream.error := by
  have hgot : ∃ got, 0 < got ∧ got ≤ n ∧ fread n stream =
      (stream.data.take got, ⟨stream.data.drop got, stream.short.tail, stream.error⟩) := by
    unfold fread
    cases stream.short with
    | nil => exact ⟨n, hpos, Nat.le_refl n, rfl⟩
    | cons limit rest => exact ⟨min n (limit + 1), by omega, by omega, rfl⟩
  obtain ⟨got, hgotpos, hle, heq⟩ := hgot
  rw [heq]
  refine ⟨List.take_append_drop _ _, by rw [List.length_take]; omega, fun h => ?_, rfl⟩
  exact (List.take_eq_nil_iff.1 h).resolve_left (by omega)

theorem block_size_eq : blockSize = 64 * 64 := rfl

/-- The blocks that have been read are in the context, which keeps none of their bytes. -/
structure Streaming (message : List UInt8) (s : StreamState) : Prop where
  represents : Represents message s.ctx
  complete : s.ctx.buflen = 0
  room : s.buffer.length < blockSize

/-- Complete blocks leave no bytes in the context. -/
theorem block_represents {ctx : Md5Ctx} {block : List UInt8} {m : Nat}
    (h : Represents message ctx) (hempty : ctx.buflen = 0) (hblock : block.length = m * 64)
    (hsize : m * 64 < 2 ^ 32) :
    Represents (message ++ block) (md5ProcessBlock (ofList block) (m * 64) ctx) := by
  have hprogress := h.progress.append block
  have hbytes := first_bytes_ofList block
  rw [hempty, UInt32.toNat_zero, first_bytes_zero, List.nil_append] at hprogress
  rw [hblock] at hbytes
  have hblocks : Progress (message ++ block) ctx.registers ctx.total
      (firstBytes (ofList block) (m * 64) ++ []) := by
    rwa [hbytes, List.append_nil]
  refine ⟨?_, ?_⟩
  · rw [process_block_buflen, hempty]
    exact Nat.zero_le _
  · rw [process_block_buflen, hempty]
    exact hblocks.process_block hsize

/-- The last block is shorter, and may be empty. -/
theorem finish_stream_eq (h : Streaming message s) :
    finishStream s = .ok (md5 (message ++ s.buffer)) := by
  have hroom := h.room
  rw [blockSize] at hroom
  rw [finishStream]
  by_cases hsome : s.buffer.length > 0
  · obtain ⟨next, hnext, hkept⟩ := process_bytes_spec (ofList s.buffer) h.represents
      (show s.buffer.length < 2 ^ 32 by omega)
    rw [first_bytes_ofList] at hkept
    rw [if_pos hsome, hnext]
    exact finish_ctx_eq hkept
  · have hnone : s.buffer = [] := List.eq_nil_of_length_eq_zero (by omega)
    rw [if_neg hsome, hnone, List.append_nil]
    exact finish_ctx_eq h.represents

/-- A round either goes on with more of the file, or the file has been read. -/
theorem stream_round_cases (h : Streaming message s) :
    (∃ next read, streamRound s = .again next ∧ Streaming read next ∧
      next.stream.data.length < s.stream.data.length ∧ next.stream.error = s.stream.error ∧
      read ++ next.buffer ++ next.stream.data = message ++ s.buffer ++ s.stream.data) ∨
    (s.stream.data = [] ∧ streamRound s = .leave (.ok
      (if s.stream.error then none else some (md5 (message ++ s.buffer))))) := by
  have hroom := h.room
  obtain ⟨hdata, hle, hend, herror⟩ := fread_spec s.stream
    (show 0 < blockSize - s.buffer.length by omega)
  rw [streamRound]
  generalize fread (blockSize - s.buffer.length) s.stream = got at *
  obtain ⟨data, stream⟩ := got
  dsimp only at *
  by_cases hnone : data = []
  · have hfile := hend hnone
    rw [hnone, List.nil_append] at hdata
    have hfinish : finishStream ⟨s.ctx, s.buffer, stream⟩ = .ok (md5 (message ++ s.buffer)) :=
      finish_stream_eq (s := ⟨s.ctx, s.buffer, stream⟩) ⟨h.represents, h.complete, hroom⟩
    refine .inr ⟨hfile, ?_⟩
    rw [hnone, List.append_nil, List.length_nil, if_neg (by simp), herror, hfinish]
    by_cases herr : s.stream.error = true
    · rw [if_pos ⟨rfl, herr⟩, if_pos herr]
    · rw [if_neg (by simp [herr]), if_pos rfl, if_neg herr]
      rfl
  · have hpos : data.length ≠ 0 := fun hzero => hnone (List.eq_nil_of_length_eq_zero hzero)
    have hless : stream.data.length < s.stream.data.length := by
      rw [← hdata, List.length_append]
      omega
    left
    by_cases hpart : (s.buffer ++ data).length < blockSize
    · refine ⟨⟨s.ctx, s.buffer ++ data, stream⟩, message, if_pos ⟨hpart, hpos⟩,
        ⟨h.represents, h.complete, hpart⟩, hless, herror, ?_⟩
      rw [← hdata]
      simp only [List.append_assoc]
    · have hfull : (s.buffer ++ data).length = blockSize := by
        rw [List.length_append] at hpart ⊢
        omega
      have hblock := block_represents (m := 64) h.represents h.complete hfull (by decide)
      rw [← block_size_eq] at hblock
      refine ⟨⟨md5ProcessBlock (ofList (s.buffer ++ data)) blockSize s.ctx, [], stream⟩,
        message ++ (s.buffer ++ data), ?_, ⟨hblock, ?_, Nat.zero_lt_of_lt hroom⟩, hless,
        herror, ?_⟩
      · rw [if_neg (by simp [hfull]), if_neg (by simp [hnone]), if_neg hpos]
      · rw [process_block_buflen]
        exact h.complete
      · rw [← hdata]
        simp only [List.append_assoc, List.nil_append]

/-- The loop leaves within one round more than there are bytes left. -/
theorem stream_run (h : Streaming message s) (hfuel : s.stream.data.length < n) :
    run streamRound n s = some (.ok (if s.stream.error then none
      else some (md5 (message ++ s.buffer ++ s.stream.data)))) := by
  induction n generalizing s message with
  | zero => omega
  | succ n ih =>
      rw [run]
      rcases stream_round_cases h with ⟨next, read, hround, hnext, hless, herror, hdata⟩ |
        ⟨hfile, hround⟩
      · rw [hround, ← herror, ← hdata]
        exact ih hnext (by omega)
      · rw [hround, hfile, List.append_nil]

/-- Whatever the calls of `fread` return, the result is the digest of the file, unless there is an
error in reading it. -/
theorem stream_returns (stack : Bytes) (stream : Stream) :
    md5Stream stack stream =
      some (.ok (if stream.error then none else some (md5 stream.data))) := by
  have hstart : Streaming [] ⟨md5InitCtx stack, [], stream⟩ :=
    ⟨represents_init stack, rfl, Nat.zero_lt_succ _⟩
  rw [md5Stream, stream_run hstart (Nat.lt_succ_self _), List.append_nil, List.nil_append]

/-! ## Looking the digest up -/

/-- The value of a digit. -/
def hexDigit (c : UInt8) : UInt8 := if c < 58 then c - 48 else c - 87

/-- The bytes that pairs of digits stand for. -/
def unhex : List UInt8 → List UInt8
  | high :: low :: rest => (16 * hexDigit high + hexDigit low) :: unhex rest
  | _ => []

/-- A digit of a number to the base 16. -/
def digit (n : Nat) : UInt8 := UInt8.ofNat (Nat.digitChar n).toNat

theorem hex_byte_eq (b : UInt8) : hexByte b = [digit (b.toNat / 16), digit (b.toNat % 16)] := by
  have hlt := b.toNat_lt
  rw [hexByte, hexadecimal]
  by_cases hsmall : b.toNat < 16
  · rw [Nat.toDigits_of_lt_base hsmall, Nat.div_eq_of_lt hsmall, Nat.mod_eq_of_lt hsmall]
    rfl
  · rw [Nat.toDigits_of_base_le (by decide) (Nat.le_of_not_lt hsmall),
      Nat.toDigits_of_lt_base (by omega)]
    rfl

theorem hex_digit_digit {n : Nat} (hn : n < 16) : hexDigit (digit n) = UInt8.ofNat n := by
  have hall : ∀ n < 16, hexDigit (digit n) = UInt8.ofNat n := by decide
  exact hall n hn

/-- The digits of the bytes say what the bytes are. -/
theorem unhex_hex (bytes : List UInt8) : unhex (hex bytes) = bytes := by
  induction bytes with
  | nil => rfl
  | cons b rest ih =>
      have hlt := b.toNat_lt
      have hvalue : 16 * hexDigit (digit (b.toNat / 16)) + hexDigit (digit (b.toNat % 16)) = b := by
        rw [hex_digit_digit (by omega), hex_digit_digit (by omega), ← UInt8.toNat_inj]
        simp only [UInt8.toNat_add, UInt8.toNat_mul, UInt8.toNat_ofNat']
        rw [show UInt8.toNat 16 = 16 from rfl]
        omega
      rw [hex, List.flatMap_cons, hex_byte_eq]
      exact congrArg₂ List.cons hvalue ih

/-- A string ends at the first zero. -/
theorem take_while_of_mem {text : List UInt8} (h : 0 ∈ text) (rest : List UInt8) :
    ((text ++ rest).takeWhile (· ≠ 0)).length < text.length := by
  obtain ⟨front, back, rfl, hfront⟩ := List.eq_append_cons_of_mem h
  rw [List.append_assoc, take_while_append hfront, List.cons_append,
    List.takeWhile_cons_of_neg (by simp), List.append_nil, List.length_append, List.length_cons]
  omega

theorem length_md5 (message : List UInt8) : (md5 message).length = 16 := rfl

/-- A digest without a zero is looked up, and others are not. -/
theorem look_up_digest (message : List UInt8) :
    lookUp (md5 message ++ List.replicate 48 0) = if 0 ∈ md5 message then 0
      else (knownAdspFw.findIdx? fun sum => hex (md5 message) = ascii sum).getD 0 := by
  have hlength := length_md5 message
  generalize md5 message = digest at *
  rw [lookUp]
  by_cases hzero : 0 ∈ digest
  · have hshort := take_while_of_mem hzero (List.replicate 48 0)
    rw [if_pos hzero, if_pos (by omega)]
  · have htext : (digest ++ List.replicate 48 0).takeWhile (· ≠ 0) = digest := by
      rw [take_while_append hzero, List.replicate_succ, List.takeWhile_cons_of_neg (by simp),
        List.append_nil]
    rw [htext, if_neg hzero, if_neg (by omega)]

/-- The digest of one entry has a byte that is zero. -/
theorem zero_mem_iff {k : Nat} {sum : String} (hpos : 0 < k) (h : knownAdspFw[k]? = some sum) :
    0 ∈ unhex (ascii sum) ↔ k = 5 := by
  have hall : ∀ k < 11, 0 < k →
      (0 ∈ unhex (ascii ((knownAdspFw[k]?).getD "")) ↔ k = 5) := by decide
  have hlt : k < 11 := (List.getElem?_eq_some_iff.1 h).1
  have hentry := hall k hlt hpos
  rwa [h] at hentry

/-- No two entries have the same digest. -/
theorem known_adsp_fw_inj {j k : Nat} {first second : String}
    (hj : knownAdspFw[j]? = some first) (hk : knownAdspFw[k]? = some second)
    (h : ascii first = ascii second) : j = k := by
  have hnodup : (knownAdspFw.map ascii).Nodup := by decide
  have hjget : (knownAdspFw.map ascii)[j]? = some (ascii second) := by
    rw [List.getElem?_map, hj, Option.map_some, h]
  have hkget : (knownAdspFw.map ascii)[k]? = some (ascii second) := by
    rw [List.getElem?_map, hk, Option.map_some]
  obtain ⟨hjlt, hjval⟩ := List.getElem?_eq_some_iff.1 hjget
  obtain ⟨hklt, hkval⟩ := List.getElem?_eq_some_iff.1 hkget
  exact hnodup.getElem_inj_iff.1 (hjval.trans hkval.symm)

/-- The entry that a digest is found at. -/
theorem find_entry_iff {digest : List UInt8} {k : Nat} :
    knownAdspFw.findIdx? (fun sum => hex digest = ascii sum) = some k ↔
      ∃ sum, knownAdspFw[k]? = some sum ∧ hex digest = ascii sum := by
  rw [List.findIdx?_eq_some_iff_getElem]
  constructor
  · rintro ⟨hk, hfound, -⟩
    exact ⟨knownAdspFw[k], List.getElem?_eq_getElem hk, of_decide_eq_true hfound⟩
  · rintro ⟨sum, hsum, hdigest⟩
    obtain ⟨hk, hget⟩ := List.getElem?_eq_some_iff.1 hsum
    refine ⟨hk, by rw [hget]; exact decide_eq_true hdigest, fun j hj hfound => ?_⟩
    have hearlier := (of_decide_eq_true hfound).symm.trans hdigest
    have hsame := known_adsp_fw_inj (List.getElem?_eq_getElem (Nat.lt_trans hj hk)) hsum hearlier
    omega

/-- The number that a digest is given. -/
theorem look_up_iff {message : List UInt8} {k : Nat} (hpos : 0 < k) :
    lookUp (md5 message ++ List.replicate 48 0) = k ↔
      k ≠ 5 ∧ ∃ sum, knownAdspFw[k]? = some sum ∧ hex (md5 message) = ascii sum := by
  -- a digest that is found has a zero exactly if it is that of the sixth entry
  have hzero : ∀ sum, knownAdspFw[k]? = some sum → hex (md5 message) = ascii sum →
      (0 ∈ md5 message ↔ k = 5) := by
    intro sum hsum hdigest
    rw [← zero_mem_iff hpos hsum, ← hdigest, unhex_hex]
  rw [look_up_digest]
  split_ifs with hmem
  · refine ⟨fun h => by omega, ?_⟩
    rintro ⟨hne, sum, hsum, hdigest⟩
    exact absurd ((hzero sum hsum hdigest).1 hmem) hne
  · have hfound : (knownAdspFw.findIdx? fun sum => hex (md5 message) = ascii sum).getD 0 = k ↔
        knownAdspFw.findIdx? (fun sum => hex (md5 message) = ascii sum) = some k := by
      cases knownAdspFw.findIdx? fun sum => hex (md5 message) = ascii sum with
      | none => simp only [Option.getD_none, reduceCtorEq, iff_false]; omega
      | some index => rw [Option.getD_some, Option.some.injEq]
    rw [hfound, find_entry_iff]
    refine ⟨?_, And.right⟩
    rintro ⟨sum, hsum, hdigest⟩
    exact ⟨fun hfive => hmem ((hzero sum hsum hdigest).2 hfive), sum, hsum, hdigest⟩

theorem look_up_failure : lookUp (List.replicate 64 0) = 0 := rfl

/-- `read_adsp_version` returns the entry of the table whose digest is that of the file, however
the file is read, unless it is the sixth one. Without such an entry it returns 0. -/
theorem version_of_digest (stack : Bytes) (file : Option Stream) :
    ∃ version, readAdspVersion stack file = some (.ok version) ∧
      ∀ k, 0 < k → (version = k ↔ k ≠ 5 ∧ ∃ stream sum, file = some stream ∧
        stream.error = false ∧ knownAdspFw[k]? = some sum ∧ hex (md5 stream.data) = ascii sum) := by
  cases file with
  | none =>
      refine ⟨0, rfl, fun k hpos => ⟨fun h => by omega, ?_⟩⟩
      rintro ⟨-, stream, -, hfile, -⟩
      cases hfile
  | some stream =>
      rw [readAdspVersion, md5File, stream_returns]
      by_cases herror : stream.error = true
      · refine ⟨0, by rw [if_pos herror]; rfl, fun k hpos => ⟨fun h => by omega, ?_⟩⟩
        rintro ⟨-, _, -, hstream, hgood, -⟩
        cases hstream
        rw [herror] at hgood
        cases hgood
      · refine ⟨lookUp (md5 stream.data ++ List.replicate 48 0), by rw [if_neg herror]; rfl,
          fun k hpos => ?_⟩
        rw [look_up_iff hpos]
        refine and_congr_right fun _ => ⟨?_, ?_⟩
        · rintro ⟨sum, hsum, hdigest⟩
          exact ⟨stream, sum, rfl, Bool.not_eq_true _ ▸ herror, hsum, hdigest⟩
        · rintro ⟨_, sum, hstream, -, hsum, hdigest⟩
          cases hstream
          exact ⟨sum, hsum, hdigest⟩

end OpenQti.Firmware
