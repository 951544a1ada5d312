import Multiplexer.Digest.Sha256
import Multiplexer.Text.Base64

/-!
# Fingerprints of host keys
-/

namespace Multiplexer

/-- The name of the digest and the digest in base 64. -/
def fingerprint (rawKey : List UInt8) : String :=
  "SHA256:" ++ String.ofList (Base64.encode (sha256 rawKey))

end Multiplexer
