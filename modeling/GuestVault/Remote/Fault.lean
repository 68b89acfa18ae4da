import GuestVault.Error

/-!
# Faults of a remote session

The session layer reports its faults as numbers; this is what they mean.
-/

namespace GuestVault

namespace SessionFault

/-- The meanings, in the order of the numbers -2, -3 and so on. -/
def descriptions : List String := [
  "banner recv failure", "banner send failure", "invalid mac", "kex failure", "alloc failure",
  "socket send faiulre", "key exchange failure", "timed out", "hostkey init error",
  "hostkey sign error", "decrypt error", "socket disconnected", "protocol error",
  "password expired", "file error", "bad method name", "authentication failed",
  "public key unverified", "channel out of order", "channel failure", "request denied",
  "unknown channel error", "window exceeded", "packet exceeded", "closed channel", "eof sent",
  "scp protocol error", "zlib error", "socket timeout", "sftp protocol error", "request denied",
  "method not supported", "invalid", "invalid poll type", "public key protocol error",
  "operation would block", "buffer too small", "bad use error", "compression error",
  "out of bounds", "invalid agent protocol", "error receiving on socket", "bad encrypt",
  "bad socket", "known hosts error"]

/-- What a fault means. -/
def description (code : Int) : String :=
  if code ≤ -2 then descriptions.getD (-2 - code).toNat "unknown error" else "unknown error"

/-- The error that a fault causes. -/
def error (code : Int) : Error :=
  .session ("[Session(" ++ toString code ++ ")] " ++ description code)

end SessionFault

end GuestVault
