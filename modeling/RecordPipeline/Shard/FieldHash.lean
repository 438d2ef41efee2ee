import RecordPipeline.Bytes

/-!
The 64-bit hash of a field's bytes, XXH3 with seed zero and its standard secret. Short inputs of
each range of lengths have their own mixing; longer ones are folded in stripes of 64 bytes.
-/

namespace RecordPipeline.FieldHash

def prime32a : UInt64 := 0x9E3779B1
def prime32b : UInt64 := 0x85EBCA77
def prime32c : UInt64 := 0xC2B2AE3D
def prime64a : UInt64 := 0x9E3779B185EBCA87
def prime64b : UInt64 := 0xC2B2AE3D27D4EB4F
def prime64c : UInt64 := 0x165667B19E3779F9
def prime64d : UInt64 := 0x85EBCA77C2B2AE63
def prime64e : UInt64 := 0x27D4EB2F165667C5
def primeMixA : UInt64 := 0x165667919E3779F9
def primeMixB : UInt64 := 0x9FB21C651E98DF25

def secret : Array UInt8 := #[
  0xb8, 0xfe, 0x6c, 0x39, 0x23, 0xa4, 0x4b, 0xbe, 0x7c, 0x01, 0x81, 0x2c, 0xf7, 0x21, 0xad, 0x1c,
  0xde, 0xd4, 0x6d, 0xe9, 0x83, 0x90, 0x97, 0xdb, 0x72, 0x40, 0xa4, 0xa4, 0xb7, 0xb3, 0x67, 0x1f,
  0xcb, 0x79, 0xe6, 0x4e, 0xcc, 0xc0, 0xe5, 0x78, 0x82, 0x5a, 0xd0, 0x7d, 0xcc, 0xff, 0x72, 0x21,
  0xb8, 0x08, 0x46, 0x74, 0xf7, 0x43, 0x24, 0x8e, 0xe0, 0x35, 0x90, 0xe6, 0x81, 0x3a, 0x26, 0x4c,
  0x3c, 0x28, 0x52, 0xbb, 0x91, 0xc3, 0x00, 0xcb, 0x88, 0xd0, 0x65, 0x8b, 0x1b, 0x53, 0x2e, 0xa3,
  0x71, 0x64, 0x48, 0x97, 0xa2, 0x0d, 0xf9, 0x4e, 0x38, 0x19, 0xef, 0x46, 0xa9, 0xde, 0xac, 0xd8,
  0xa8, 0xfa, 0x76, 0x3f, 0xe3, 0x9c, 0x34, 0x3f, 0xf9, 0xdc, 0xbb, 0xc7, 0xc7, 0x0b, 0x4f, 0x1d,
  0x8a, 0x51, 0xe0, 0x4b, 0xcd, 0xb4, 0x59, 0x31, 0xc8, 0x9f, 0x7e, 0xc9, 0xd9, 0x78, 0x73, 0x64,
  0xea, 0xc5, 0xac, 0x83, 0x34, 0xd3, 0xeb, 0xc3, 0xc5, 0x81, 0xa0, 0xff, 0xfa, 0x13, 0x63, 0xeb,
  0x17, 0x0d, 0xdd, 0x51, 0xb7, 0xf0, 0xda, 0x49, 0xd3, 0x16, 0x55, 0x26, 0x29, 0xd4, 0x68, 0x9e,
  0x2b, 0x16, 0xbe, 0x58, 0x7d, 0x47, 0xa1, 0xfc, 0x8f, 0xf8, 0xb8, 0xd1, 0x7a, 0xd0, 0x31, 0xce,
  0x45, 0xcb, 0x3a, 0x8f, 0x95, 0x16, 0x04, 0x28, 0xaf, 0xd7, 0xfb, 0xca, 0xbb, 0x4b, 0x40, 0x7e]

/-- The number that the given count of bytes from an offset on form, the lowest byte first. -/
def readWord (bytes : Array UInt8) (offset count : Nat) : UInt64 :=
  (List.range count).foldr (fun i word => (word <<< 8) ||| (bytes.getD (offset + i) 0).toUInt64) 0

def read64 (bytes : Array UInt8) (offset : Nat) : UInt64 := readWord bytes offset 8

def read32 (bytes : Array UInt8) (offset : Nat) : UInt64 := readWord bytes offset 4

def rotateLeft (x : UInt64) (n : UInt64) : UInt64 := (x <<< n) ||| (x >>> (64 - n))

def reverseBytes (x : UInt64) : UInt64 :=
  (List.range 8).foldl (fun r i => (r <<< 8) ||| ((x >>> (8 * UInt64.ofNat i)) &&& 0xFF)) 0

/-- The two halves of the full product, combined. -/
def foldProduct (a b : UInt64) : UInt64 :=
  let product := a.toNat * b.toNat
  UInt64.ofNat product ^^^ UInt64.ofNat (product / UInt64.size)

/-- The last mixing step of the shortest inputs. -/
def finishShort (h : UInt64) : UInt64 :=
  let h := (h ^^^ (h >>> 33)) * prime64b
  let h := (h ^^^ (h >>> 29)) * prime64c
  h ^^^ (h >>> 32)

def finish (h : UInt64) : UInt64 :=
  let h := (h ^^^ (h >>> 37)) * primeMixA
  h ^^^ (h >>> 32)

/-- Mixes the sixteen bytes at an offset with sixteen bytes of the secret. -/
def mix16 (bytes : Array UInt8) (offset key : Nat) : UInt64 :=
  foldProduct (read64 bytes offset ^^^ read64 secret key)
    (read64 bytes (offset + 8) ^^^ read64 secret (key + 8))

def hashTo16 (bytes : Array UInt8) : UInt64 :=
  let n := bytes.size
  let length := UInt64.ofNat n
  if n = 0 then finishShort (read64 secret 56 ^^^ read64 secret 64)
  else if n ≤ 3 then
    let byteAt (i : Nat) : UInt64 := (bytes.getD i 0).toUInt64
    let combined :=
      (byteAt 0 <<< 16) ||| (byteAt (n / 2) <<< 24) ||| byteAt (n - 1) ||| (length <<< 8)
    finishShort (combined ^^^ read32 secret 0 ^^^ read32 secret 4)
  else if n ≤ 8 then
    let input := read32 bytes (n - 4) + (read32 bytes 0 <<< 32)
    let h := input ^^^ read64 secret 8 ^^^ read64 secret 16
    let h := (h ^^^ rotateLeft h 49 ^^^ rotateLeft h 24) * primeMixB
    let h := (h ^^^ ((h >>> 35) + length)) * primeMixB
    h ^^^ (h >>> 28)
  else
    let low := read64 bytes 0 ^^^ read64 secret 24 ^^^ read64 secret 32
    let high := read64 bytes (n - 8) ^^^ read64 secret 40 ^^^ read64 secret 48
    finish (length + reverseBytes low + high + foldProduct low high)

/-- Mixes pairs of sixteen bytes from both ends inwards. -/
def hashTo128 (bytes : Array UInt8) : UInt64 :=
  let n := bytes.size
  let pairs := (n - 1) / 32
  finish ((List.range (pairs + 1)).foldl (fun acc i =>
    acc + mix16 bytes (16 * i) (32 * i) + mix16 bytes (n - 16 * (i + 1)) (32 * i + 16))
    (UInt64.ofNat n * prime64a))

def hashTo240 (bytes : Array UInt8) : UInt64 :=
  let n := bytes.size
  let head := finish ((List.range 8).foldl (fun acc i => acc + mix16 bytes (16 * i) (16 * i))
    (UInt64.ofNat n * prime64a))
  let body := (List.range (n / 16 - 8)).foldl (fun acc i =>
    acc + mix16 bytes (16 * (i + 8)) (16 * i + 3)) head
  finish (body + mix16 bytes (n - 16) 119)

/-- Folds the stripe of 64 bytes at an offset into the eight accumulators. -/
def accumulate (bytes : Array UInt8) (offset key : Nat) (acc : Array UInt64) : Array UInt64 :=
  (List.range 8).foldl (fun acc i =>
    let data := read64 bytes (offset + 8 * i)
    let keyed := data ^^^ read64 secret (key + 8 * i)
    (acc.modify (i ^^^ 1) fun x => x + data).modify i fun (x : UInt64) =>
      x + (keyed &&& (0xFFFFFFFF : UInt64)) * (keyed >>> 32)) acc

/-- Mixes the accumulators at the end of a block of sixteen stripes. -/
def scramble (acc : Array UInt64) : Array UInt64 :=
  acc.mapIdx fun i (x : UInt64) => (x ^^^ (x >>> 47) ^^^ read64 secret (128 + 8 * i)) * prime32a

def hashLong (bytes : Array UInt8) : UInt64 :=
  let n := bytes.size
  let start : Array UInt64 :=
    #[prime32c, prime64a, prime64b, prime64c, prime64d, prime32b, prime64e, prime32a]
  let blocks := (n - 1) / 1024
  let stripes (base count : Nat) (acc : Array UInt64) : Array UInt64 :=
    (List.range count).foldl (fun acc i => accumulate bytes (base + 64 * i) (8 * i) acc) acc
  let acc := (List.range blocks).foldl (fun acc b => scramble (stripes (1024 * b) 16 acc)) start
  let acc := stripes (1024 * blocks) ((n - 1 - 1024 * blocks) / 64) acc
  let acc := accumulate bytes (n - 64) 121 acc
  finish ((List.range 4).foldl (fun sum i =>
    sum + foldProduct (acc.getD (2 * i) 0 ^^^ read64 secret (11 + 16 * i))
      (acc.getD (2 * i + 1) 0 ^^^ read64 secret (19 + 16 * i)))
    (UInt64.ofNat n * prime64a))

def hash (value : Bytes) : UInt64 :=
  let bytes := value.toArray
  if bytes.size ≤ 16 then hashTo16 bytes
  else if bytes.size ≤ 128 then hashTo128 bytes
  else if bytes.size ≤ 240 then hashTo240 bytes
  else hashLong bytes

end RecordPipeline.FieldHash
