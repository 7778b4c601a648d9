import Tunables.Digest.Sha256
import Tunables.Json.Writer

/-!
# Checksums of records

The checksum of records is the digest of their JSON text with the members of
every object in the order of their keys, so it does not depend on that order.
-/

namespace Tunables

/-- The text that stands for records in their checksum. -/
def checksumText (records : Json) : String :=
  records.writeSorted

def checksum (records : Json) : String :=
  Digest.hexText (Digest.sha256 (Text.Utf8.encode (checksumText records)))

end Tunables
