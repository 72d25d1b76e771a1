/-!
# Protocol settings

How the client speaks to its server. Times are in whole seconds.
-/
namespace MailSync

structure ProtocolSettings where
  version : String
  userAgent : String
  /-- The most rounds that one pass may take. -/
  maxRounds : UInt32
  connectTimeout : UInt64
  commandTimeout : UInt64
  /-- Time for the first round about the folder hierarchy, which is slow on large accounts. -/
  initialTimeout : UInt64
deriving Repr, DecidableEq

def ProtocolSettings.standard : ProtocolSettings where
  version := "14.1"
  userAgent := "easync/0.1.0"
  maxRounds := 100
  connectTimeout := 20
  commandTimeout := 30
  initialTimeout := 120

end MailSync
