import Chip8.Raster

/-!
# Portable network graphics

A picture as a PNG file: a signature and chunks for the header, the pixels and the end. Pixels are
written with eight bits per colour and without prediction, in a zlib stream of stored blocks.
-/

namespace Chip8.Png

/-! ## Checksums -/

/-- One step of the cyclic redundancy check, for one bit. -/
def crcBit (value : UInt32) : UInt32 :=
  if value &&& 1 = 0 then value >>> 1 else (value >>> 1) ^^^ 0xEDB88320

/-- The step for all bits of a byte, for every value of the byte. -/
def crcTable : Array UInt32 :=
  Array.ofFn fun byte : Fin 256 => Nat.repeat crcBit 8 (UInt32.ofNat byte)

/-- The cyclic redundancy check of a chunk. -/
def crc (bytes : ByteArray) : UInt32 :=
  let last := bytes.foldl
    (fun value byte => crcTable.getD ((value ^^^ byte.toUInt32) &&& 0xFF).toNat 0 ^^^ (value >>> 8))
    0xFFFFFFFF
  last ^^^ 0xFFFFFFFF

/-- The checksum of a zlib stream. -/
def adler (bytes : ByteArray) : UInt32 :=
  let (low, high) := bytes.foldl
    (fun (low, high) byte =>
      let low := (low + byte.toUInt32) % 65521
      (low, (high + low) % 65521))
    ((1 : UInt32), (0 : UInt32))
  (high <<< 16) ||| low

/-! ## Bytes -/

/-- A number in four bytes, the most significant first. -/
def fourBytes (number : UInt32) : ByteArray :=
  ⟨#[(number >>> 24).toUInt8, (number >>> 16).toUInt8, (number >>> 8).toUInt8, number.toUInt8]⟩

/-- A chunk: its length, its name, its bytes and their check. -/
def chunk (name : String) (bytes : ByteArray) : ByteArray :=
  let body := name.toUTF8 ++ bytes
  fourBytes (UInt32.ofNat bytes.size) ++ body ++ fourBytes (crc body)

/-- One stored block of a zlib stream, of at most 65535 bytes. -/
def storedBlock (bytes : ByteArray) (isLast : Bool) : ByteArray :=
  let size := UInt16.ofNat bytes.size
  let rest := 0xFFFF - size
  let head : ByteArray := ⟨#[if isLast then 1 else 0, size.toUInt8, (size >>> 8).toUInt8,
    rest.toUInt8, (rest >>> 8).toUInt8]⟩
  head ++ bytes

/-- A zlib stream that stores bytes as they are. -/
def stored (bytes : ByteArray) : ByteArray :=
  let blocks := bytes.size / 65535 + 1
  let body := (List.range blocks).foldl
    (fun stream k =>
      let block := bytes.extract (k * 65535) ((k + 1) * 65535)
      stream ++ storedBlock block (k + 1 = blocks))
    ⟨#[0x78, 0x01]⟩
  body ++ fourBytes (adler bytes)

/-! ## Pictures -/

/-- A line of pixels behind the mark that it is not predicted. -/
def scanline (line : Runs Colour) : ByteArray :=
  line.foldl
    (fun bytes (count, colour) =>
      Nat.repeat (fun bytes => ((bytes.push colour.red).push colour.green).push colour.blue)
        count bytes)
    ⟨#[0]⟩

/-- All lines of a picture. -/
def scanlines (raster : Raster) : ByteArray :=
  raster.lines.foldl
    (fun bytes (count, line) =>
      let encoded := scanline line
      Nat.repeat (· ++ encoded) count bytes)
    .empty

/-- A picture as the bytes of a file. -/
def encode (raster : Raster) : ByteArray :=
  let signature : ByteArray := ⟨#[0x89, 0x50, 0x4E, 0x47, 0x0D, 0x0A, 0x1A, 0x0A]⟩
  let header := fourBytes (UInt32.ofNat raster.width) ++ fourBytes (UInt32.ofNat raster.height) ++
    ⟨#[8, 2, 0, 0, 0]⟩
  signature ++ chunk "IHDR" header ++ chunk "IDAT" (stored (scanlines raster)) ++
    chunk "IEND" .empty

end Chip8.Png
