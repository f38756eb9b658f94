import FabricConfig.Digest.Xxh3
import FabricConfig.Json.Printer
/-!
# Content digests

The digest of a content is its 128-bit hash, as sixteen bytes from the least significant on.
-/

namespace FabricConfig

/-- The digest of a content. -/
structure Digest where
  hash : Xxh3.Wide
deriving DecidableEq

namespace Digest

/-- The digest of some bytes. -/
def ofBytes (bytes : ByteArray) : Digest := ⟨Xxh3.hash bytes⟩

/-- The digest of a text in UTF-8. -/
def ofText (text : String) : Digest := ofBytes text.toUTF8

/-- The eight bytes of a word, the least significant first. -/
def wordBytes (word : UInt64) : List Nat :=
  (List.range 8).map fun place => word.toNat >>> (8 * place) % 256

/-- The sixteen bytes of a digest. -/
def bytes (digest : Digest) : List Nat := wordBytes digest.hash.low ++ wordBytes digest.hash.high

/-- A byte in two hexadecimal digits. -/
def byteText (byte : Nat) : List Char := Text.padLeft 2 (Text.hexadecimal byte)

/-- A digest in hexadecimal. -/
def text (digest : Digest) : String := String.ofList (digest.bytes.flatMap byteText)

/-- The first two bytes of a digest, to tell digests apart at a glance. -/
def summary (digest : Digest) : String :=
  "ContentHash(" ++ String.ofList ((digest.bytes.take 2).flatMap byteText) ++ "..)"

/-- A digest as JSON: the array of its bytes. -/
def toJson (digest : Digest) : Json := .array (digest.bytes.map fun byte : Nat => .integer byte)

end Digest

end FabricConfig
