/-!
# Compression

The compression of a dump stream, told by the magic number it begins with.
-/

namespace GuestVault

/-- Raw data. -/
abbrev Bytes := List UInt8

/-- How a dump stream is compressed. -/
inductive Compression where
  | none
  | gzip
  | lzo
  | zstd
deriving Repr, DecidableEq

namespace Compression

/-- The magic number of each compression; raw streams have none. -/
def magic : Compression → Bytes
  | .none => []
  | .gzip => [0x1f, 0x8b]
  | .zstd => [0x28, 0xb5, 0x2f, 0xfd]
  | .lzo => [0x89, 0x4c, 0x5a, 0x4f, 0x00, 0x0d, 0x0a, 0x1a, 0x0a]

/-- The bytes to look at before a stream can be classified; every magic number is shorter. -/
def headerLength : Nat := 16

/-- The compression whose magic number a stream begins with. -/
def classify (header : Bytes) : Compression :=
  if gzip.magic.isPrefixOf header then .gzip
  else if zstd.magic.isPrefixOf header then .zstd
  else if lzo.magic.isPrefixOf header then .lzo
  else .none

/-- The file name suffix, with its dot. -/
def suffix : Compression → String
  | .none => ""
  | .gzip => ".gz"
  | .lzo => ".lzo"
  | .zstd => ".zst"

/-- The name of a compression. -/
def name : Compression → String
  | .none => "none"
  | .gzip => "gzip"
  | .lzo => "lzo"
  | .zstd => "zstd"

theorem magic_length_le (c : Compression) : c.magic.length ≤ headerLength := by
  cases c <;> decide

end Compression

end GuestVault
