import Rill.Prog

/-!
# The Discord REST client

`DiscordClient._request(method, path, json=...)` of `setup_discord.py`, which
`add_feed_channels.py` imports too.  A request is the triple the client hands to
`requests`: a method, a path under the API base, and an optional JSON payload.
Paths and payloads are kept structured, one constructor per endpoint and payload
shape the scripts use; the ids interpolated into a path are the JSON values the
scripts read out of earlier replies.

In a script, one `call` is one `_request` in live mode, its rate-limit retries
included, and the reply is what `_request` returns: the decoded body, `{}` for a
204, or `None`.  In dry-run mode `_request` issues nothing and returns the stub
`{"id": "DRY_RUN_ID", "dry_run": True}`.  The retry loop itself is `requestLoop`,
over the successive responses the server gives to the repeated request.
-/

namespace Rill
namespace Discord

/-- HTTP methods the scripts use. -/
inductive Method where
  | get | post | delete | put | patch
  deriving DecidableEq, Repr

/-- The API paths the scripts use, with the values interpolated into them. -/
inductive Path where
  /-- `/guilds/{guild}/channels` -/
  | guildChannels (guild : String)
  /-- `/guilds/{guild}/roles` -/
  | guildRoles (guild : String)
  /-- `/channels/{channel}` -/
  | channel (channel : Json)
  /-- `/channels/{channel}/messages` -/
  | channelMessages (channel : Json)
  /-- `/channels/{channel}/pins` -/
  | channelPins (channel : Json)
  /-- `/channels/{channel}/pins/{message}` -/
  | channelPin (channel message : Json)
  deriving DecidableEq

/-- One permission overwrite record `{"id", "type", "allow", "deny"}`; the
bitmasks are sent as `str(int)`. -/
structure Overwrite where
  /-- Target role or member. -/
  id : Json
  /-- `OW_ROLE` or `OW_MEMBER`. -/
  type : Nat
  /-- Allowed permission bits. -/
  allow : Nat
  /-- Denied permission bits. -/
  deny : Nat
  deriving DecidableEq

/-- The role-creation payload of `create_roles`. -/
structure RolePayload where
  name : String
  color : Nat
  hoist : Bool
  mentionable : Bool
  permissions : String
  deriving DecidableEq

/-- One `{"id", "position"}` entry of the role reorder request. -/
structure Position where
  id : Json
  position : Nat
  deriving DecidableEq

/-- A channel-creation payload; an absent key is `none`. -/
structure ChannelPayload where
  name : String
  type : Nat
  parentId : Option Json
  permissionOverwrites : List Overwrite
  topic : Option String
  rateLimitPerUser : Option Nat
  defaultThreadRateLimitPerUser : Option Nat
  deriving DecidableEq

/-- The JSON payloads the scripts send. -/
inductive Payload where
  | role (payload : RolePayload)
  | positions (entries : List Position)
  | channel (payload : ChannelPayload)
  | message (content : String)
  deriving DecidableEq

/-- One request handed to `requests`. -/
structure Request where
  method : Method
  path : Path
  json : Option Payload
  deriving DecidableEq

/-- A script talking to Discord: every call returns what `_request` returns. -/
abbrev Script (α : Type) := Prog Request (fun _ => Option Json) α

/-- One call and the environment's answer to it. -/
abbrev Exchange := Prog.Exchange Request fun _ => Option Json

/-- A server's behaviour: its answer to each call, given every exchange before
it. -/
abbrev Server := List Exchange → (q : Request) → Answer (Option Json)

/-- What a request does, read off its method, endpoint and payload. -/
inductive Kind where
  | listChannels | deleteChannel | createRole | reorderRoles | createChannel
  | sendMessage | pinMessage | listRoles | listPins | other
  deriving DecidableEq, Repr

/-- The kind of a request. -/
def Request.kind : Request → Kind
  | ⟨.get, .guildChannels _, none⟩ => .listChannels
  | ⟨.delete, .channel _, none⟩ => .deleteChannel
  | ⟨.post, .guildRoles _, some (.role _)⟩ => .createRole
  | ⟨.patch, .guildRoles _, some (.positions _)⟩ => .reorderRoles
  | ⟨.post, .guildChannels _, some (.channel _)⟩ => .createChannel
  | ⟨.post, .channelMessages _, some (.message _)⟩ => .sendMessage
  | ⟨.put, .channelPin _ _, none⟩ => .pinMessage
  | ⟨.get, .guildRoles _, none⟩ => .listRoles
  | ⟨.get, .channelPins _, none⟩ => .listPins
  | _ => .other

/-- The client: its token only reaches the session headers. -/
structure DiscordClient where
  token : String
  dryRun : Bool

/-- The dry-run stub reply. -/
def dryRunReply : Json := .obj [("id", .str "DRY_RUN_ID"), ("dry_run", .bool true)]

namespace DiscordClient

/-- `DiscordClient._request`. -/
def request (client : DiscordClient) (method : Method) (path : Path)
    (json : Option Payload) : Script (Option Json) :=
  if client.dryRun then .pure (some dryRunReply) else Prog.send ⟨method, path, json⟩

/-- `DiscordClient.get`. -/
def get (client : DiscordClient) (path : Path) : Script (Option Json) :=
  client.request .get path none

/-- `DiscordClient.post`. -/
def post (client : DiscordClient) (path : Path) (payload : Payload) :
    Script (Option Json) :=
  client.request .post path (some payload)

/-- `DiscordClient.delete`. -/
def delete (client : DiscordClient) (path : Path) : Script (Option Json) :=
  client.request .delete path none

/-- `DiscordClient.put`: the payload is sent only when given. -/
def put (client : DiscordClient) (path : Path) (payload : Option Payload := none) :
    Script (Option Json) :=
  client.request .put path payload

/-- `DiscordClient.patch`. -/
def patch (client : DiscordClient) (path : Path) (payload : Payload) :
    Script (Option Json) :=
  client.request .patch path (some payload)

@[simp] theorem request_live (client : DiscordClient) (live : client.dryRun = false)
    (method : Method) (path : Path) (json : Option Payload) :
    client.request method path json = .call ⟨method, path, json⟩ .pure := by
  simp [request, live, Prog.send]

@[simp] theorem request_dry (client : DiscordClient) (dry : client.dryRun = true)
    (method : Method) (path : Path) (json : Option Payload) :
    client.request method path json = .pure (some dryRunReply) := by
  simp [request, dry]

end DiscordClient

/-! ## The rate-limit loop -/

/-- One HTTP response: its status, what `resp.json()` decodes (`none` when the
body is not JSON and `resp.json()` raises) and `resp.text`. -/
structure Response where
  status : Nat
  body : Option Json
  text : List Char

/-- A line `_request` prints in live mode. -/
inductive LogLine where
  /-- `[RATE LIMIT] Waiting {retry_after:.2f}s ...` -/
  | rateLimit (retryAfter : ℚ)
  /-- `[HTTP {status}] {METHOD} {path}`: no part of the body. -/
  | httpError (status : Nat) (method : Method) (path : Path)
  deriving DecidableEq

/-- `retry_after` of a 429 body, as `time.sleep` takes it: the body must be an
object, the value a number (default `1.0`); `none` where Python raises. -/
def retryAfter? (body : Option Json) : Option ℚ :=
  match body with
  | some (.obj kvs) =>
      match (Dict.get? kvs "retry_after").getD (.num 1) with
      | .num q => some q
      | .bool b => some (if b then 1 else 0)
      | _ => none
  | _ => none

/-- Whether `time.sleep(delay)` raises: `ValueError` for a negative delay,
`OverflowError` for one of `2^63` ns or more.  The bound is exact for an integer
delay; for a float CPython compares the rounded product, which can differ
within a microsecond of the bound. -/
def sleepRaises (delay : ℚ) : Bool := decide (delay < 0) || decide ((2 : ℚ) ^ 63 ≤ delay * 10 ^ 9)

/-- What one live `_request` did: its result, how many times it sent the
request, the delays it slept and the lines it printed. -/
structure RequestRun where
  result : Answer (Option Json)
  sends : Nat
  sleeps : List ℚ
  log : List LogLine

/-- The outcome of the last response, the one that is not a 429. -/
def finalRun (method : Method) (path : Path) (resp : Response) : RequestRun :=
  if resp.status = 200 ∨ resp.status = 201 then
    ⟨match resp.body with | some j => .reply (some j) | none => .raised, 1, [], []⟩
  else if resp.status = 204 then ⟨.reply (some (.obj [])), 1, [], []⟩
  else ⟨.reply none, 1, [], [.httpError resp.status method path]⟩

/-- The `while True` loop of `_request` against the server's successive
responses to the same request; `none` when they run out while the server still
answers 429. -/
def requestLoop (method : Method) (path : Path) : List Response → Option RequestRun
  | [] => none
  | resp :: rest =>
      if resp.status = 429 then
        match retryAfter? resp.body with
        | none => some ⟨.raised, 1, [], []⟩
        | some delay =>
            if sleepRaises delay then some ⟨.raised, 1, [], [.rateLimit delay]⟩
            else (requestLoop method path rest).map fun run =>
              ⟨run.result, run.sends + 1, delay :: run.sleeps, .rateLimit delay :: run.log⟩
      else some (finalRun method path resp)

/-- A failed response is one `_request` neither decodes nor retries. -/
def Failed (status : Nat) : Prop :=
  status ≠ 200 ∧ status ≠ 201 ∧ status ≠ 204 ∧ status ≠ 429

/-- The outcome of a failed response depends on its status only. -/
theorem finalRun_failed_body (method : Method) (path : Path) {resp resp' : Response}
    (failed : Failed resp.status) (same : resp.status = resp'.status) :
    finalRun method path resp = finalRun method path resp' := by
  obtain ⟨h200, h201, h204, -⟩ := failed
  simp [finalRun, ← same, h200, h201, h204]

end Discord
end Rill
