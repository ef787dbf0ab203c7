import Rill.Discord.Client
import Mathlib.Data.List.Infix

/-!
# The desired-state catalog

The declarative tables of `setup_discord.py`: the role definitions `ROLES`, the
category and channel tree `SERVER_STRUCTURE` and the pinned-message table
`PINNED_MESSAGES`, with the channel-type, overwrite-type and permission-bit
constants the scripts read.  The tables are parameters of the model; a key a
table entry may leave out is an `Option` field, and the default the code
applies to it stays in the function that reads it.
-/

namespace Rill
namespace Discord

/-! ## Constants -/

/-- `CH_TEXT` -/
def chText : Nat := 0
/-- `CH_VOICE` -/
def chVoice : Nat := 2
/-- `CH_CATEGORY` -/
def chCategory : Nat := 4
/-- `CH_ANNOUNCEMENT` -/
def chAnnouncement : Nat := 5
/-- `CH_FORUM` -/
def chForum : Nat := 15

/-- `OW_ROLE` -/
def owRole : Nat := 0
/-- `OW_MEMBER` -/
def owMember : Nat := 1

/-- `PERM_VIEW_CHANNEL` -/
def permViewChannel : Nat := 1 <<< 10
/-- `PERM_SEND_MESSAGES` -/
def permSendMessages : Nat := 1 <<< 11
/-- `PERM_READ_MESSAGES_HISTORY` -/
def permReadMessagesHistory : Nat := 1 <<< 16

/-! ## Table entries -/

/-- An entry of `ROLES`. -/
structure RoleDef where
  name : String
  color : Nat
  hoist : Bool
  mentionable : Bool
  /-- `str` of the permission bitmask. -/
  permissions : String

/-- A channel entry of `SERVER_STRUCTURE`. -/
structure ChannelDef where
  name : String
  type : Nat
  topic : Option String := none
  permTemplate : Option String := none
  slowmode : Option Nat := none
  threadRateLimit : Option Nat := none

/-- A category entry of `SERVER_STRUCTURE`; a missing `"channels"` key reads as
the empty list everywhere. -/
structure CategoryDef where
  category : String
  permTemplate : Option String := none
  channels : List ChannelDef := []

/-- `category_def.get("perm_template", "community")`. -/
def CategoryDef.effectiveTemplate (category : CategoryDef) : String :=
  category.permTemplate.getD "community"

/-- `ch_def.get("perm_template", cat_perm_template)`. -/
def ChannelDef.effectiveTemplate (ch : ChannelDef) (catTemplate : String) : String :=
  ch.permTemplate.getD catTemplate

/-- The tables `ServerSetup` reads.  `PINNED_MESSAGES` is a dict, so its keys
are distinct. -/
structure Catalog where
  roles : List RoleDef
  serverStructure : List CategoryDef
  pinnedMessages : Dict (List String)
  pinnedKeysNodup : (Dict.keys pinnedMessages).Nodup

/-- The literal `"URL_PLACEHOLDER"` occurs in a message (`in` on strings). -/
def hasPlaceholder (message : String) : Bool :=
  decide ("URL_PLACEHOLDER".toList <:+: message.toList)

/-- Some message of the pin table holds the placeholder. -/
def Catalog.anyPlaceholder (catalog : Catalog) : Bool :=
  catalog.pinnedMessages.any fun entry => entry.2.any hasPlaceholder

end Discord
end Rill
