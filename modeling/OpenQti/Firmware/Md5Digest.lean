import Mathlib.Data.List.GetD
import OpenQti.Firmware.Md5

/-!
# The digest that the context computes

RFC 1321 pads a message to complete blocks, the last eight bytes of which are its length in bits,
and compresses the blocks one after the other. `md5` is that, with steps that are all alike: the
registers are passed on by one place after each. The functions that mix them are the standard's
and not the shorter ones of the source; the constants of the steps are the source's.

`Represents` says which part of a message is in the registers and which is in the buffer of the
context. `md5_process_bytes` keeps it for the message with the new bytes, whatever their number,
without ever storing behind the buffer, and `md5_finish_ctx` turns it into the digest.
-/

namespace OpenQti.Firmware

open Bytes Except

/-! ## The standard -/

/-- The auxiliary functions F, G, H and I. -/
def auxiliary (i : Nat) (x y z : UInt32) : UInt32 :=
  if i < 16 then (x &&& y) ||| (~~~x &&& z)
  else if i < 32 then (x &&& z) ||| (y &&& ~~~z)
  else if i < 48 then x ^^^ y ^^^ z
  else y ^^^ (x ||| ~~~z)

/-- The word of the block that a step takes. -/
def wordIndex (i : Nat) : Nat :=
  if i < 16 then i
  else if i < 32 then (5 * i + 1) % 16
  else if i < 48 then (3 * i + 5) % 16
  else 7 * i % 16

/-- The numbers of bits by which the steps of a round rotate. -/
def rotations : List (List Nat) :=
  [[7, 12, 17, 22], [5, 9, 14, 20], [4, 11, 16, 23], [6, 10, 15, 21]]

def rotation (i : Nat) : Nat := (rotations.getD (i / 16) []).getD (i % 4) 0

/-- The constant of a step. -/
def constant (i : Nat) : UInt32 := (lines.getD i ⟨.ff, .abcd, 0, 0, 0⟩).T

def rotateLeft (w : UInt32) (s : Nat) : UInt32 := ⟨w.toBitVec.rotateLeft s⟩

/-- One step of the standard, after which the registers move on. -/
def standardStep (words : Nat → UInt32) (r : Registers) (i : Nat) : Registers where
  A := r.D
  B := rotateLeft (r.A + (auxiliary i r.B r.C r.D + words (wordIndex i) + constant i)) (rotation i)
    + r.B
  C := r.B
  D := r.C

/-- The compression of a block. -/
def compress (r : Registers) (block : List UInt8) : Registers :=
  let next := (List.range 64).foldl (standardStep (word (ofList block))) r
  ⟨next.A + r.A, next.B + r.B, next.C + r.C, next.D + r.D⟩

/-- The length of a message in bits, as 64 of them with the low order byte first. -/
def bitLength (n : Nat) : List UInt8 := (List.range 8).map fun i => UInt8.ofNat (8 * n / 256 ^ i)

/-- What is appended to a message of `n` bytes. -/
def padding (n : Nat) : List UInt8 :=
  0x80 :: List.replicate ((119 - n % 64) % 64) 0 ++ bitLength n

/-- The registers in memory. -/
def output (r : Registers) : List UInt8 :=
  wordBytes r.A ++ wordBytes r.B ++ wordBytes r.C ++ wordBytes r.D

/-- The registers at the start. -/
def initial : Registers := ⟨0x67452301, 0xefcdab89, 0x98badcfe, 0x10325476⟩

/-- The MD5 digest of a message. -/
def md5 (message : List UInt8) : List UInt8 :=
  output (BlockHash.digest compress 64 initial (message ++ padding message.length))

/-! ## The steps -/

/-- The shorter functions of the source are those of the standard. -/
theorem mix_ff (b c d : UInt32) : d ^^^ (b &&& (c ^^^ d)) = (b &&& c) ||| (~~~b &&& d) := by
  apply UInt32.toBitVec_inj.1
  ext i hi
  simp only [UInt32.toBitVec_xor, UInt32.toBitVec_and, UInt32.toBitVec_or, UInt32.toBitVec_not,
    BitVec.getElem_xor, BitVec.getElem_and, BitVec.getElem_or, BitVec.getElem_not]
  cases b.toBitVec[i] <;> cases c.toBitVec[i] <;> cases d.toBitVec[i] <;> rfl

theorem mix_fg (b c d : UInt32) : c ^^^ (d &&& (b ^^^ c)) = (b &&& d) ||| (c &&& ~~~d) := by
  rw [mix_ff, UInt32.and_comm d b, UInt32.and_comm (~~~d) c]

/-- The rotation of the source is one. -/
theorem cyclic_eq (w : UInt32) {s : Nat} (hpos : 0 < s) (hlt : s < 32) :
    cyclic w (UInt32.ofNat s) = rotateLeft w s := by
  apply UInt32.toBitVec_inj.1
  have hs : (UInt32.ofNat s).toNat = s :=
    UInt32.toNat_ofNat_of_lt' (Nat.lt_trans hlt (by decide))
  have hback : (32 - UInt32.ofNat s).toNat = 32 - s := by
    rw [UInt32.toNat_sub_of_le _ _ (by rw [UInt32.le_iff_toNat_le, hs]; exact Nat.le_of_lt hlt), hs]
    rfl
  simp only [cyclic, rotateLeft, UInt32.toBitVec_or, UInt32.toBitVec_shiftLeft,
    UInt32.toBitVec_shiftRight, BitVec.rotateLeft_def, Nat.mod_eq_of_lt hlt,
    BitVec.shiftLeft_eq', BitVec.ushiftRight_eq', BitVec.toNat_umod, UInt32.toNat_toBitVec, hs,
    hback]
  rw [show BitVec.toNat (32 : BitVec 32) = 32 from rfl, Nat.mod_eq_of_lt hlt,
    Nat.mod_eq_of_lt (by omega)]

/-- The registers as a line is handed them: they are passed on by one place for each line. -/
def view : Nat → Registers → Registers
  | 0, r => r
  | 1, r => ⟨r.D, r.A, r.B, r.C⟩
  | 2, r => ⟨r.C, r.D, r.A, r.B⟩
  | _, r => ⟨r.B, r.C, r.D, r.A⟩

theorem view_start (r : Registers) : view (64 % 4) r = r := rfl

/-- The line for a step. -/
def lineOf (i : Nat) : Op where
  f := if i < 16 then .ff else if i < 32 then .fg else if i < 48 then .fh else .fi
  order := match i % 4 with
    | 0 => .abcd
    | 1 => .dabc
    | 2 => .cdab
    | _ => .bcda
  k := wordIndex i
  s := UInt32.ofNat (rotation i)
  T := constant i

theorem lines_eq : lines = (List.range 64).map lineOf := by decide

theorem line_mix (i : Nat) (b c d : UInt32) : (lineOf i).f.apply b c d = auxiliary i b c d := by
  unfold lineOf auxiliary
  dsimp only
  split_ifs
  · exact mix_ff b c d
  · exact mix_fg b c d
  · rfl
  · rfl

theorem rotation_bounds {i : Nat} (hi : i < 64) : 0 < rotation i ∧ rotation i < 32 := by
  have hall : ∀ i < 64, 0 < rotation i ∧ rotation i < 32 := by decide
  exact hall i hi

theorem op_eq (words : Nat → UInt32) {i : Nat} (hi : i < 64) (a b c d : UInt32) :
    op words (lineOf i) a b c d =
      rotateLeft (a + (auxiliary i b c d + words (wordIndex i) + constant i)) (rotation i) + b := by
  have hbounds := rotation_bounds hi
  rw [op, line_mix, ← cyclic_eq _ hbounds.1 hbounds.2]
  rfl

/-- A line of the source is a step of the standard. -/
theorem line_run (words : Nat → UInt32) (r : Registers) {i : Nat} (hi : i < 64) :
    view ((i + 1) % 4) (Op.run words r (lineOf i)) = standardStep words (view (i % 4) r) i := by
  have hop := op_eq words hi
  have horder : (lineOf i).order = match i % 4 with
    | 0 => .abcd
    | 1 => .dabc
    | 2 => .cdab
    | _ => .bcda := rfl
  have hcases : i % 4 = 0 ∨ i % 4 = 1 ∨ i % 4 = 2 ∨ i % 4 = 3 := by omega
  rcases hcases with h | h | h | h
  · rw [show (i + 1) % 4 = 1 by omega]
    rw [h] at horder ⊢
    rw [Op.run, horder]
    simp only [view, standardStep, hop]
  · rw [show (i + 1) % 4 = 2 by omega]
    rw [h] at horder ⊢
    rw [Op.run, horder]
    simp only [view, standardStep, hop]
  · rw [show (i + 1) % 4 = 3 by omega]
    rw [h] at horder ⊢
    rw [Op.run, horder]
    simp only [view, standardStep, hop]
  · rw [show (i + 1) % 4 = 0 by omega]
    rw [h] at horder ⊢
    rw [Op.run, horder]
    simp only [view, standardStep, hop]

/-- The lines of the source are the steps of the standard. -/
theorem lines_run (words : Nat → UInt32) (r : Registers) {n : Nat} (hn : n ≤ 64) :
    view (n % 4) (((List.range n).map lineOf).foldl (Op.run words) r) =
      (List.range n).foldl (standardStep words) r := by
  induction n with
  | zero => rfl
  | succ n ih =>
      rw [List.range_succ, List.map_append, List.foldl_append, List.foldl_append,
        ← ih (Nat.le_of_succ_le hn)]
      exact line_run words _ hn

/-! ## The blocks -/

/-- A step looks at one of the first sixteen words. -/
theorem word_index_lt (i : Nat) : wordIndex i < 16 := by
  unfold wordIndex
  split_ifs <;> omega

theorem standard_step_congr {words other : Nat → UInt32} (h : ∀ k < 16, words k = other k)
    (r : Registers) (i : Nat) : standardStep words r i = standardStep other r i := by
  rw [standardStep, standardStep, h _ (word_index_lt i)]

/-- A block of the source is compressed. -/
theorem block_round_eq (buffer : Bytes) (r : Registers) :
    blockRound buffer r = compress r ((List.range 64).map buffer) := by
  have hwords : ∀ k < 16, word buffer k = word (ofList ((List.range 64).map buffer)) k := by
    intro k hk
    simp only [word, le32, le16]
    rw [ofList_map_range buffer (by omega), ofList_map_range buffer (by omega),
      ofList_map_range buffer (by omega), ofList_map_range buffer (by omega)]
  have hsteps : (List.range 64).foldl (standardStep (word buffer)) r =
      (List.range 64).foldl (standardStep (word (ofList ((List.range 64).map buffer)))) r :=
    List.foldl_ext _ _ _ fun r i _ => standard_step_congr hwords r i
  have hrun := lines_run (word buffer) r (Nat.le_refl 64)
  rw [← lines_eq, view_start] at hrun
  rw [blockRound, compress, ← hsteps, ← hrun]

/-- The loop compresses complete blocks. -/
theorem block_loop_eq (n : Nat) (buffer : Bytes) (r : Registers) :
    blockLoop blockRound n buffer r =
      BlockHash.absorb compress 64 n r ((List.range (n * 64)).map buffer) := by
  induction n generalizing buffer r with
  | zero => rfl
  | succ n ih =>
      have hsplit : (List.range ((n + 1) * 64)).map buffer =
          (List.range 64).map buffer ++
            (List.range (n * 64)).map fun i => buffer (64 + i) := by
        rw [Nat.succ_mul, Nat.add_comm, List.range_add, List.map_append, List.map_map]
        rfl
      rw [blockLoop, ih, block_round_eq, BlockHash.absorb, hsplit,
        List.take_left' (by simp), List.drop_left' (by simp)]

/-- The count of bytes, as one number. -/
def totalValue (total : UInt32 × UInt32) : Nat := total.1.toNat + 2 ^ 32 * total.2.toNat

/-- The two words of the count are one counter. -/
theorem add_total_value (total : UInt32 × UInt32) (len : UInt32) :
    totalValue (addTotal total len) = (totalValue total + len.toNat) % 2 ^ 64 := by
  have hlow := total.1.toNat_lt
  have hhigh := total.2.toNat_lt
  have hlen := len.toNat_lt
  unfold addTotal totalValue
  by_cases hcarry : total.1 + len < len
  · rw [if_pos hcarry]
    rw [UInt32.lt_iff_toNat_lt, UInt32.toNat_add] at hcarry
    simp only [UInt32.toNat_add, UInt32.toNat_one]
    omega
  · rw [if_neg hcarry]
    rw [UInt32.lt_iff_toNat_lt, UInt32.toNat_add] at hcarry
    simp only [UInt32.toNat_add]
    omega

/-! ## The context -/

/-- The bytes from the start of a memory. -/
def firstBytes (buffer : Bytes) (n : Nat) : List UInt8 := (List.range n).map buffer

@[simp] theorem first_bytes_length (buffer : Bytes) (n : Nat) :
    (firstBytes buffer n).length = n := by
  simp [firstBytes]

@[simp] theorem first_bytes_zero (buffer : Bytes) : firstBytes buffer 0 = [] := rfl

theorem first_bytes_add (buffer : Bytes) (m n : Nat) :
    firstBytes buffer (m + n) = firstBytes buffer m ++ firstBytes (fun i => buffer (m + i)) n := by
  rw [firstBytes, List.range_add, List.map_append, List.map_map]
  rfl

/-- Bytes that are stored in the buffer stand behind those that are in front of them. -/
theorem append_first_bytes (array source : Bytes) {i n : Nat} (hfits : i + n ≤ bufferSize) :
    ∃ result, Buffer.putAll bufferSize array i ((List.range n).map source) = .ok result ∧
      firstBytes result (i + n) = firstBytes array i ++ firstBytes source n := by
  have hstore := Buffer.put_all_front array (firstBytes source n)
    (show i + (firstBytes source n).length ≤ bufferSize by rwa [first_bytes_length])
  rwa [first_bytes_length] at hstore

theorem store_first_bytes (array source : Bytes) {len : Nat} (hfits : len ≤ bufferSize) :
    ∃ result, Buffer.putAll bufferSize array 0 ((List.range len).map source) = .ok result ∧
      firstBytes result len = firstBytes source len := by
  obtain ⟨result, hput, hfront⟩ := append_first_bytes array source
    (show 0 + len ≤ bufferSize by rwa [Nat.zero_add])
  rw [Nat.zero_add] at hfront
  exact ⟨result, hput, hfront⟩

/-- What has been compressed and counted of a message, of which the bytes `rest` are kept. -/
structure Progress (message : List UInt8) (registers : Registers) (total : UInt32 × UInt32)
    (rest : List UInt8) : Prop where
  absorbed : BlockHash.Absorbed compress 64 initial message registers rest
  counted : totalValue total = (message.length - rest.length) % 2 ^ 64

/-- The context stands for a message. -/
structure Represents (message : List UInt8) (ctx : Md5Ctx) : Prop where
  room : ctx.buflen.toNat ≤ 64
  progress : Progress message ctx.registers ctx.total (firstBytes ctx.buffer ctx.buflen.toNat)

variable {message front rest : List UInt8} {registers : Registers} {total : UInt32 × UInt32}
  {ctx : Md5Ctx} {buffer : Bytes} {len : Nat}

theorem Progress.length_le (h : Progress message registers total rest) :
    rest.length ≤ message.length := by
  obtain ⟨n, blocks, -, rfl, -⟩ := h.absorbed
  simp

theorem Progress.append (h : Progress message registers total rest) (data : List UInt8) :
    Progress (message ++ data) registers total (rest ++ data) := by
  refine ⟨h.absorbed.append data, ?_⟩
  rw [h.counted, List.length_append, List.length_append, Nat.add_sub_add_right]

/-- Blocks are compressed and counted. -/
theorem Progress.block {m : Nat} (h : Progress message registers total (front ++ rest))
    (hfront : front.length = m * 64) (hsize : m * 64 < 2 ^ 32) :
    Progress message (BlockHash.absorb compress 64 m registers front)
      (addTotal total (UInt32.ofNat (m * 64))) rest := by
  have hlength := h.length_le
  have hcounted := h.counted
  rw [List.length_append] at hlength hcounted
  refine ⟨h.absorbed.compress hfront, ?_⟩
  rw [add_total_value, hcounted, UInt32.toNat_ofNat_of_lt' hsize]
  omega

/-- `md5_process_block` takes complete blocks off the bytes that are kept. -/
theorem Progress.process_block {m : Nat}
    (h : Progress message ctx.registers ctx.total (firstBytes buffer (m * 64) ++ rest))
    (hsize : m * 64 < 2 ^ 32) :
    Progress message (md5ProcessBlock buffer (m * 64) ctx).registers
      (md5ProcessBlock buffer (m * 64) ctx).total rest := by
  have hrounds : (m * 64 / 4 + 15) / 16 = m := by omega
  simp only [md5ProcessBlock, hrounds, block_loop_eq]
  exact h.block (first_bytes_length _ _) hsize

@[simp] theorem process_block_buffer (buffer : Bytes) (len : Nat) (ctx : Md5Ctx) :
    (md5ProcessBlock buffer len ctx).buffer = ctx.buffer := rfl

@[simp] theorem process_block_buflen (buffer : Bytes) (len : Nat) (ctx : Md5Ctx) :
    (md5ProcessBlock buffer len ctx).buflen = ctx.buflen := rfl

theorem represents_init (stack : Bytes) : Represents [] (md5InitCtx stack) :=
  ⟨Nat.zero_le _, BlockHash.absorbed_nil, rfl⟩

/-- Bytes that are stored at the start of the buffer are what the context keeps. -/
theorem Progress.represents (h : Progress message registers total (firstBytes buffer len))
    (hlen : len ≤ 64) : Represents message ⟨registers, total, UInt32.ofNat len, buffer⟩ := by
  have hsize : (UInt32.ofNat len).toNat = len :=
    UInt32.toNat_ofNat_of_lt' (Nat.lt_of_le_of_lt hlen (by decide))
  refine ⟨?_, ?_⟩
  · rwa [hsize]
  · rwa [hsize]

theorem keep_bytes_spec
    (h : Progress message ctx.registers ctx.total (firstBytes buffer len)) (hlen : len ≤ 64)
    (hempty : ctx.buflen = 0) :
    ∃ next, keepBytes buffer len ctx = .ok next ∧ Represents message next := by
  rw [keepBytes]
  by_cases hnone : len > 0
  · obtain ⟨kept, hput, hkept⟩ := store_first_bytes ctx.buffer buffer
      (Nat.le_trans hlen (by decide))
    refine ⟨_, by rw [if_pos hnone, hput]; rfl, ?_⟩
    exact Progress.represents (by rwa [hkept]) hlen
  · obtain rfl : len = 0 := by omega
    refine ⟨ctx, if_neg hnone, ?_, ?_⟩
    · rw [hempty]
      exact Nat.zero_le _
    · rw [hempty]
      exact h

/-- Complete blocks of the input are compressed, and the rest is kept. -/
theorem process_rest_spec (h : Progress message ctx.registers ctx.total (firstBytes buffer len))
    (hlen : len < 2 ^ 32) (hempty : ctx.buflen = 0) :
    ∃ next, processRest buffer len ctx = .ok next ∧ Represents message next := by
  rw [processRest]
  by_cases hmany : len > 64
  · rw [if_pos hmany]
    have hsplit : firstBytes buffer len = firstBytes buffer (len / 64 * 64) ++
        firstBytes (fun i => buffer (len / 64 * 64 + i)) (len % 64) := by
      rw [← first_bytes_add, show len / 64 * 64 + len % 64 = len by omega]
    rw [hsplit] at h
    exact keep_bytes_spec (h.process_block (by omega)) (by omega) hempty
  · rw [if_neg hmany]
    exact keep_bytes_spec h (by omega) hempty

/-- Bytes are appended to those of the context, and the complete blocks are compressed. -/
theorem fill_buffer_spec (buffer : Bytes) {add : Nat} (h : Represents message ctx)
    (hadd : ctx.buflen.toNat + add ≤ bufferSize) :
    ∃ next, fillBuffer buffer add ctx = .ok next ∧
      Represents (message ++ firstBytes buffer add) next ∧
      (ctx.buflen.toNat + add = bufferSize → next.buflen = 0) := by
  obtain ⟨kept, hput, hkept⟩ := append_first_bytes ctx.buffer buffer
    hadd
  have hprogress := h.progress.append (firstBytes buffer add)
  have hroom := h.room
  rw [← hkept] at hprogress
  have hbuflen : (ctx.buflen + UInt32.ofNat add).toNat = ctx.buflen.toNat + add := by
    rw [UInt32.toNat_add, UInt32.toNat_ofNat', bufferSize] at *
    omega
  rw [bufferSize] at hadd ⊢
  rw [fillBuffer, hput]
  generalize hn : ctx.buflen.toNat + add = n at *
  simp only [bind, Except.bind]
  by_cases hmany : n > 64
  · rw [if_pos hmany]
    have hsplit : firstBytes kept n = firstBytes kept (n / 64 * 64) ++
        firstBytes (fun i => kept (n / 64 * 64 + i)) (n % 64) := by
      rw [← first_bytes_add, show n / 64 * 64 + n % 64 = n by omega]
    rw [hsplit] at hprogress
    obtain ⟨moved, hmove, hmoved⟩ := store_first_bytes kept
      (fun i => kept (n / 64 * 64 + i)) (show n % 64 ≤ bufferSize by rw [bufferSize]; omega)
    rw [process_block_buffer, hmove]
    refine ⟨_, rfl, Progress.represents ?_ (by omega), fun hfull => ?_⟩
    · rw [hmoved]
      exact hprogress.process_block (by omega)
    · rw [hfull]
      rfl
  · rw [if_neg hmany]
    exact ⟨_, rfl, ⟨by rw [hbuflen]; omega, by rwa [hbuflen]⟩, fun h => by omega⟩

/-- `md5_process_bytes` never stores behind the buffer, and the context then stands for the
message with the new bytes. -/
theorem process_bytes_spec (buffer : Bytes) (h : Represents message ctx) (hlen : len < 2 ^ 32) :
    ∃ next, md5ProcessBytes buffer len ctx = .ok next ∧
      Represents (message ++ firstBytes buffer len) next := by
  rw [md5ProcessBytes]
  by_cases hempty : ctx.buflen = 0
  · rw [if_neg (not_not_intro hempty)]
    have hprogress := h.progress.append (firstBytes buffer len)
    rw [hempty, UInt32.toNat_zero, first_bytes_zero, List.nil_append] at hprogress
    exact process_rest_spec hprogress hlen hempty
  · rw [if_pos hempty]
    have hroom := h.room
    have hcases : (if bufferSize - ctx.buflen.toNat > len then len
        else bufferSize - ctx.buflen.toNat) = min len (bufferSize - ctx.buflen.toNat) := by
      split_ifs <;> omega
    simp only [hcases]
    generalize hadd : min len (bufferSize - ctx.buflen.toNat) = add
    obtain ⟨filled, hfill, hfilled, hfull⟩ := fill_buffer_spec buffer h
      (show ctx.buflen.toNat + add ≤ bufferSize by rw [bufferSize] at *; omega)
    have hsplit : firstBytes buffer len =
        firstBytes buffer add ++ firstBytes (fun i => buffer (add + i)) (len - add) := by
      rw [← first_bytes_add, Nat.add_sub_cancel' (by omega)]
    rw [hfill, hsplit, ← List.append_assoc]
    -- the input is used up, or the buffer has been filled and is empty again
    by_cases hdone : len - add = 0
    · rw [hdone, first_bytes_zero, List.append_nil]
      exact ⟨filled, rfl, hfilled⟩
    · have hempty := hfull (by rw [bufferSize] at *; omega)
      have hprogress :=
        hfilled.progress.append (firstBytes (fun i => buffer (add + i)) (len - add))
      rw [hempty, UInt32.toNat_zero, first_bytes_zero, List.nil_append] at hprogress
      exact process_rest_spec hprogress (by omega) hempty

/-! ## The end of the message -/

theorem word_bytes_length (w : UInt32) : (wordBytes w).length = 4 := rfl

/-- The bits that the shift of the low word loses are those that the high word takes in. -/
theorem high_word_toNat (low high : UInt32) :
    ((high <<< 3) ||| (low >>> 29)).toNat = 8 * high.toNat % 2 ^ 32 + low.toNat / 2 ^ 29 := by
  have hlow := low.toNat_lt
  have hcarry : low.toNat / 2 ^ 29 < 2 ^ 3 := by omega
  have hhigh : high.toNat <<< 3 % 2 ^ 32 = (high.toNat % 2 ^ 29) <<< 3 := by
    rw [Nat.shiftLeft_eq, Nat.shiftLeft_eq]
    omega
  rw [UInt32.toNat_or, UInt32.toNat_shiftLeft, UInt32.toNat_shiftRight]
  rw [show UInt32.toNat 3 % 32 = 3 from rfl, show UInt32.toNat 29 % 32 = 29 from rfl, hhigh,
    Nat.shiftRight_eq_div_pow, ← Nat.shiftLeft_add_eq_or_of_lt hcarry, Nat.shiftLeft_eq]
  omega

theorem bit_length_eq (n : Nat) : bitLength n =
    [UInt8.ofNat (8 * n / 1), UInt8.ofNat (8 * n / 256), UInt8.ofNat (8 * n / 65536),
      UInt8.ofNat (8 * n / 16777216), UInt8.ofNat (8 * n / 4294967296),
      UInt8.ofNat (8 * n / 1099511627776), UInt8.ofNat (8 * n / 281474976710656),
      UInt8.ofNat (8 * n / 72057594037927936)] := rfl

/-- The length in bits that is stored is that of the message. -/
theorem length_words (total : UInt32 × UInt32) {n : Nat} (h : totalValue total = n % 2 ^ 64) :
    wordBytes (total.1 <<< 3) ++ wordBytes ((total.2 <<< 3) ||| (total.1 >>> 29)) =
      bitLength n := by
  have hlow := total.1.toNat_lt
  have hhigh := total.2.toNat_lt
  rw [totalValue] at h
  have hshift : (total.1 <<< 3).toNat = 8 * total.1.toNat % 2 ^ 32 := by
    rw [UInt32.toNat_shiftLeft, Nat.shiftLeft_eq, Nat.mul_comm]
    rfl
  have hword := high_word_toNat total.1 total.2
  generalize (total.2 <<< 3) ||| (total.1 >>> 29) = high at *
  generalize total.1 <<< 3 = low at *
  have hbyte : ∀ a b : Nat, a % 256 = b % 256 → UInt8.ofNat a = UInt8.ofNat b := by
    intro a b hab
    rw [← UInt8.toNat_inj, UInt8.toNat_ofNat', UInt8.toNat_ofNat']
    exact hab
  simp only [wordBytes, bit_length_eq, List.cons_append, List.nil_append, List.cons.injEq,
    and_true]
  refine ⟨hbyte _ _ ?_, hbyte _ _ ?_, hbyte _ _ ?_, hbyte _ _ ?_, hbyte _ _ ?_, hbyte _ _ ?_,
    hbyte _ _ ?_, hbyte _ _ ?_⟩ <;> simp only [hshift, hword] <;> omega

/-- `pad` in `md5_finish_ctx`. -/
theorem fillbuf_take {kept pad n : Nat} (hkept : kept ≤ 64) (hn : n % 64 = kept % 64)
    (hpad : pad = if kept ≥ 56 then 64 + 56 - kept else 56 - kept) :
    fillbuf.take pad ++ bitLength n = padding n := by
  obtain ⟨rest, hrest⟩ : ∃ rest, pad = rest + 1 := ⟨pad - 1, by split_ifs at hpad <;> omega⟩
  have hcount : min rest 63 = (119 - n % 64) % 64 := by split_ifs at hpad <;> omega
  rw [hrest, fillbuf, List.take_succ_cons, List.take_replicate, hcount]
  rfl

/-- `md5_finish_ctx` never stores behind the buffer, and its result is the digest of the message
that the context stands for. -/
theorem finish_ctx_eq (h : Represents message ctx) : md5FinishCtx ctx = .ok (md5 message) := by
  have hroom := h.room
  obtain ⟨n, blocks, hblocks, hmessage, -⟩ := h.progress.absorbed
  have hlength : message.length = n * 64 + ctx.buflen.toNat := by
    rw [hmessage, List.length_append, hblocks, first_bytes_length]
  have htotal : totalValue (addTotal ctx.total ctx.buflen) = message.length % 2 ^ 64 := by
    rw [add_total_value, h.progress.counted, first_bytes_length]
    omega
  rw [md5FinishCtx]
  generalize addTotal ctx.total ctx.buflen = total at *
  generalize hpad : (if ctx.buflen.toNat ≥ 56 then 64 + 56 - ctx.buflen.toNat
    else 56 - ctx.buflen.toNat) = pad
  have hfill : (fillbuf.take pad).length = pad := by
    rw [List.length_take, fillbuf, List.length_cons, List.length_replicate]
    split_ifs at hpad <;> omega
  have hend : ctx.buflen.toNat + pad = 56 ∨ ctx.buflen.toNat + pad = 120 := by
    split_ifs at hpad <;> omega
  obtain ⟨filled, hfilled, hfront⟩ := Buffer.put_all_front ctx.buffer (fillbuf.take pad)
    (show ctx.buflen.toNat + (fillbuf.take pad).length ≤ bufferSize by
      rw [hfill, bufferSize]; omega)
  rw [hfill] at hfront
  obtain ⟨low, hlow, hlowfront⟩ := Buffer.put_all_front filled (wordBytes (total.1 <<< 3))
    (show ctx.buflen.toNat + pad + 4 ≤ bufferSize by rw [bufferSize]; omega)
  rw [word_bytes_length] at hlowfront
  obtain ⟨high, hhigh, hhighfront⟩ := Buffer.put_all_front low
    (wordBytes ((total.2 <<< 3) ||| (total.1 >>> 29)))
    (show ctx.buflen.toNat + pad + 4 + 4 ≤ bufferSize by rw [bufferSize]; omega)
  have hbytes : firstBytes high (ctx.buflen.toNat + pad + 8) =
      firstBytes ctx.buffer ctx.buflen.toNat ++ padding message.length := by
    rw [← fillbuf_take hroom (by omega) hpad.symm, ← length_words total htotal,
      ← List.append_assoc, ← List.append_assoc]
    exact hhighfront.trans (by rw [hlowfront, hfront]; rfl)
  have hpadded := h.progress.absorbed.append (padding message.length)
  rw [← hbytes] at hpadded
  obtain ⟨m, hm⟩ : ∃ m, ctx.buflen.toNat + pad + 8 = m * 64 := by
    rcases hend with hone | htwo
    · exact ⟨1, by omega⟩
    · exact ⟨2, by omega⟩
  rw [hm] at hpadded
  have hrounds : (m * 64 / 4 + 15) / 16 = m := by omega
  rw [hfilled, md5, hpadded.digest_eq (by decide) (first_bytes_length _ _)]
  simp only [bind, Except.bind, hlow, hhigh, hm, md5ReadCtx, md5ProcessBlock, hrounds,
    block_loop_eq]
  rfl

/-! ## Messages in pieces -/

/-- A message that is handed to `md5_process_bytes` piece by piece. -/
def processPieces (ctx : Md5Ctx) (pieces : List (List UInt8)) : Except Buffer.Overflow Md5Ctx :=
  pieces.foldlM (fun ctx piece => md5ProcessBytes (ofList piece) piece.length ctx) ctx

theorem first_bytes_ofList (data : List UInt8) : firstBytes (ofList data) data.length = data := by
  refine List.ext_getElem (first_bytes_length _ _) fun i _ hi => ?_
  simp only [firstBytes, List.getElem_map, List.getElem_range, ofList]
  exact List.getD_eq_getElem _ _ hi

theorem process_pieces_spec (h : Represents message ctx) {pieces : List (List UInt8)}
    (hsize : ∀ piece ∈ pieces, piece.length < 2 ^ 32) :
    ∃ next, processPieces ctx pieces = .ok next ∧ Represents (message ++ pieces.flatten) next := by
  induction pieces generalizing message ctx with
  | nil => exact ⟨ctx, rfl, by rwa [List.flatten_nil, List.append_nil]⟩
  | cons piece pieces ih =>
      obtain ⟨hpiece, hrest⟩ := List.forall_mem_cons.1 hsize
      obtain ⟨middle, hmiddle, hkept⟩ := process_bytes_spec (ofList piece) h hpiece
      rw [first_bytes_ofList] at hkept
      obtain ⟨next, hnext, hlast⟩ := ih hkept hrest
      rw [List.append_assoc] at hlast
      refine ⟨next, ?_, hlast⟩
      rw [processPieces, List.foldlM_cons, hmiddle]
      exact hnext

/-- Whatever the pieces are that a message comes in, and whatever the buffer held before, the
digest of the context is that of the standard. -/
theorem digest_of_pieces (stack : Bytes) (pieces : List (List UInt8))
    (hsize : ∀ piece ∈ pieces, piece.length < 2 ^ 32) :
    (processPieces (md5InitCtx stack) pieces >>= md5FinishCtx) = .ok (md5 pieces.flatten) := by
  obtain ⟨ctx, hctx, hkept⟩ := process_pieces_spec (represents_init stack) hsize
  rw [hctx]
  exact finish_ctx_eq hkept

theorem digest_of_two_pieces :
    (processPieces (md5InitCtx fun _ => 0xff) [[97], [98, 99]] >>= md5FinishCtx) =
      .ok (md5 [[97], [98, 99]].flatten) :=
  digest_of_pieces (fun _ => 0xff) [[97], [98, 99]] (by decide)

example : md5 [97, 98, 99] = [0x90, 0x01, 0x50, 0x98, 0x3c, 0xd2, 0x4f, 0xb0, 0xd6, 0x96, 0x3f, 0x7d,
    0x28, 0xe1, 0x7f, 0x72] := by decide +kernel

/-- `md5_buffer` is the case of one piece. -/
theorem md5_buffer_eq (stack : Bytes) (hlen : len < 2 ^ 32) :
    md5Buffer stack buffer len = .ok (md5 (firstBytes buffer len)) := by
  obtain ⟨ctx, hctx, hkept⟩ := process_bytes_spec buffer (represents_init stack) hlen
  rw [md5Buffer, hctx]
  exact finish_ctx_eq hkept

end OpenQti.Firmware
