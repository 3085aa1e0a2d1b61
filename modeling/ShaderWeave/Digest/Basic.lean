import ShaderWeave.Digest.Xxh3
import ShaderWeave.Text.Hex

/-! # Digests of shader sources -/

namespace ShaderWeave

/-- A number of 128 bits that stands for a text. -/
structure Digest where
  words : Xxh3.Pair
  deriving DecidableEq

namespace Digest

/-- The hash of the UTF-8 bytes of a text. -/
def ofText (text : String) : Digest := ⟨Xxh3.hash text.toUTF8⟩

/-- The number in 32 hexadecimal digits. -/
def hex (d : Digest) : String :=
  Text.hex 16 d.words.high.toNat ++ Text.hex 16 d.words.low.toNat

end Digest

end ShaderWeave
