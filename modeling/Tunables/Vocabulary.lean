import Tunables.Text.Quoted

/-!
# Known words

The services, levels and types that clusters are known to use, and the other
spellings under which levels, types and directions may be asked for.  A catalog
may hold other words too.
-/

namespace Tunables

/-- A known word with the label it goes by. -/
structure Term where
  label : String
  word : String
  deriving DecidableEq, Repr

/-- A word that is none of a kind. -/
structure UnknownWord where
  word : Text
  kind : String
  deriving DecidableEq, Repr

def UnknownWord.message (unknown : UnknownWord) : String :=
  Text.quoted unknown.word ++ " is not a valid " ++ unknown.kind

namespace Vocabulary

def services : List Term := [
    ⟨"COMMON", "common"⟩, ⟨"MON", "mon"⟩, ⟨"MDS", "mds"⟩, ⟨"OSD", "osd"⟩, ⟨"MGR", "mgr"⟩,
    ⟨"RGW", "rgw"⟩, ⟨"RBD", "rbd"⟩, ⟨"RBD_MIRROR", "rbd-mirror"⟩,
    ⟨"IMMUTABLE_OBJECT_CACHE", "immutable-object-cache"⟩, ⟨"MDS_CLIENT", "mds_client"⟩,
    ⟨"CEPHFS_MIRROR", "cephfs-mirror"⟩, ⟨"CEPH_EXPORTER", "ceph-exporter"⟩
  ]

def levels : List Term := [
    ⟨"BASIC", "basic"⟩, ⟨"ADVANCED", "advanced"⟩, ⟨"DEVELOPER", "dev"⟩,
    ⟨"EXPERIMENTAL", "experimental"⟩
  ]

def types : List Term := [
    ⟨"STR", "str"⟩, ⟨"UUID", "uuid"⟩, ⟨"ADDR", "addr"⟩, ⟨"ADDRVEC", "addrvec"⟩,
    ⟨"BOOL", "bool"⟩, ⟨"INT", "int"⟩, ⟨"FLOAT", "float"⟩, ⟨"UINT", "uint"⟩,
    ⟨"SIZE", "size"⟩, ⟨"SECS", "secs"⟩, ⟨"MILLISECS", "millisecs"⟩
  ]

/-- Other spellings of words, each with the word it stands for. -/
abbrev Aliases := List (Text × Text)

def levelAliases : Aliases :=
  [("developer", "dev")]

def typeAliases : Aliases :=
  [("string", "str"), ("address", "addr"), ("address-vector", "addrvec"),
    ("unsigned", "uint"), ("seconds", "secs"), ("milliseconds", "millisecs")]

def orderAliases : Aliases :=
  [("ascending", "asc"), ("descending", "desc")]

/-- The word that a spelling stands for. -/
def Aliases.word? (aliases : Aliases) (spelling : Text) : Option Text :=
  (aliases.find? fun entry => entry.1 == spelling).map (·.2)

end Vocabulary
end Tunables
