import Rill.Prog
import Rill.Discord.Client
import Rill.Bridge.Format

/-!
# The Discord to Telegram bridge

`discord_telegram_bridge.py` as a script of requests.  One poll,
`check_and_forward`, reads the checkpoint file, fetches each bridged channel's
messages after its checkpoint, forwards those with content from a person,
moves the checkpoint to the newest message fetched and writes the file back;
`main` polls again after every exception.
-/

namespace Rill
namespace Bridge

/-! ## Requests -/

/-- A path `discord_get` reads. -/
inductive Path where
  /-- `/guilds/{guild_id}/channels` -/
  | guildChannels (guildId : String)
  /-- `/channels/{ch_id}/messages?limit=10`, followed by `&after={last_id}`
  when the checkpoint is truthy. -/
  | channelMessages (channelId : Json) (after : Option Json)
  deriving DecidableEq

/-- What a poll asks of the outside. -/
inductive Request where
  /-- `discord_get(path, token)`. -/
  | discordGet (path : Path)
  /-- The POST of a live `telegram_send`.  `source` is the id of the message
  being forwarded: it is not sent, it names the delivery. -/
  | telegramSend (text : List Char) (source : Json)
  /-- `load_state()`: the file's JSON, or `{}` when it is missing or not JSON. -/
  | loadState
  /-- `save_state(state)`. -/
  | saveState (state : Json)

/-- The reply to each request: `None` from a failed `discord_get`, whether
Telegram answered 200. -/
def Reply : Request → Type
  | .discordGet _ => Option Json
  | .telegramSend _ _ => Bool
  | .loadState => Json
  | .saveState _ => Unit

/-- A computation of the bridge. -/
abbrev Script (α : Type) := Prog Request Reply α

/-- One request of a poll and what the outside did with it. -/
abbrev Exchange := Prog.Exchange Request Reply

/-- `discord_get(path, token)`. -/
def discordGet (path : Path) : Script (Option Json) := Prog.send (Request.discordGet path)

/-- `telegram_send(..., text, dry_run)` forwarding the message `source`: a dry
run prints the text and reports success. -/
def telegramSend (dryRun : Bool) (text : List Char) (source : Json) : Script Bool :=
  if dryRun then pure true else Prog.send (Request.telegramSend text source)

/-- `load_state()`. -/
def loadState : Script Json := Prog.send Request.loadState

/-- `save_state(state)`. -/
def saveState (state : Json) : Script Unit := Prog.send (Request.saveState state)

/-! ## One poll -/

/-- The loop of `find_channel_ids`: `ch.get("name")` raises unless `ch` is a
dict, `ch["id"]` when the key is missing. -/
def bridgeIds (result : Dict Json) : List Json → Option (Dict Json)
  | [] => some result
  | ch :: rest => do
      let name ← ch.getD? "name" .null
      match name with
      | .str n =>
          if n ∈ bridgeChannels then do
            let chId ← ch.item? "id"
            bridgeIds (result.insert n chId) rest
          else bridgeIds result rest
      | _ => bridgeIds result rest

/-- `find_channel_ids(guild_id, token)`: a failed, empty or non-list reply
finds nothing. -/
def findChannelIds (guildId : String) : Script (Dict Json) := do
  let channels ← discordGet (.guildChannels guildId)
  match channels with
  | some (.arr chs) => Prog.ofOption (bridgeIds [] chs)
  | _ => pure []

/-- The inner loop `for msg in messages`, oldest first, with the checkpoint
dict `state` and the count `forwarded`.  `content.replace` in
`format_for_telegram` raises unless the content is a string. -/
def forwardEach (dryRun : Bool) (chName : String) :
    List Json → Dict Json → Nat → Script (Dict Json × Nat)
  | [], state, forwarded => pure (state, forwarded)
  | msg :: rest, state, forwarded => do
      let msgId ← Prog.ofOption (msg.getD? "id" (.str ""))
      let content ← Prog.ofOption (msg.getD? "content" (.str ""))
      if content.truthy then do
        let author ← Prog.ofOption (msg.getD? "author" (.obj []))
        let bot ← Prog.ofOption (author.getD? "bot" (.bool false))
        if bot.truthy then forwardEach dryRun chName rest state forwarded
        else do
          let text ← Prog.ofOption content.asString?
          let success ← telegramSend dryRun (formatForTelegram text.toList chName) msgId
          if success then forwardEach dryRun chName rest (state.insert chName msgId) (forwarded + 1)
          else forwardEach dryRun chName rest state forwarded
      else forwardEach dryRun chName rest state forwarded

/-- One pass of `for ch_name, ch_id in channel_ids.items()`: `state.get`
raises unless the loaded state is a dict.  Discord lists messages newest
first, so after `messages.reverse()` the entry `messages[-1]` is the first one
fetched. -/
def forwardChannel (dryRun : Bool) (chName : String) (chId : Json) (state : Json)
    (forwarded : Nat) : Script (Json × Nat) :=
  match state with
  | .obj kvs => do
      let lastId := (Dict.get? kvs chName).getD .null
      let messages ← discordGet (.channelMessages chId (if lastId.truthy then some lastId else none))
      match messages with
      | some (.arr (newest :: older)) => do
          let (kvs, forwarded) ← forwardEach dryRun chName (newest :: older).reverse kvs forwarded
          let latestId ← Prog.ofOption (newest.getD? "id" lastId)
          pure (.obj (kvs.insert chName latestId), forwarded)
      | _ => pure (.obj kvs, forwarded)
  | _ => Prog.raise

/-- The loop over the channels found. -/
def forwardChannels (dryRun : Bool) :
    List (String × Json) → Json → Nat → Script (Json × Nat)
  | [], state, forwarded => pure (state, forwarded)
  | (chName, chId) :: rest, state, forwarded => do
      let (state, forwarded) ← forwardChannel dryRun chName chId state forwarded
      forwardChannels dryRun rest state forwarded

/-- `check_and_forward(env, dry_run)`, returning the number forwarded. -/
def checkAndForward (guildId : String) (dryRun : Bool) : Script Nat := do
  let state ← loadState
  let channelIds ← findChannelIds guildId
  if channelIds.isEmpty then pure 0
  else do
    let (state, forwarded) ← forwardChannels dryRun channelIds state 0
    if !dryRun then saveState state
    pure forwarded

/-! ## The polling loop -/

/-- A server answering each request from every exchange before it. -/
abbrev Server := List Exchange → (q : Request) → Answer (Reply q)

/-- One poll and the exchanges it made. -/
abbrev PollRun := Except Halt Nat × List Exchange

/-- The exchanges of the polls so far, in order. -/
def history (runs : List PollRun) : List Exchange := runs.flatMap Prod.snd

/-- One live poll against `server`, which also sees the earlier polls. -/
def poll (server : Server) (guildId : String) (runs : List PollRun) : PollRun :=
  (checkAndForward guildId false).exec (Prog.oracle fun h => server (history runs ++ h)) []

/-- `count` more rounds of `main`'s `while True` loop after the polls `runs`:
an exception ends the poll, the loop catches it and polls again. -/
def pollLoop (server : Server) (guildId : String) : Nat → List PollRun → List PollRun
  | 0, runs => runs
  | count + 1, runs => pollLoop server guildId count (runs ++ [poll server guildId runs])

/-! ## What the HTTP calls print -/

/-- One HTTP response: its status, `resp.json()` (`none` where it raises) and
`resp.text`. -/
structure Response where
  status : Nat
  json : Option Json
  text : List Char
  deriving DecidableEq

/-- A line the bridge's HTTP helpers print. -/
inductive Line where
  /-- `[Discord HTTP {status}] GET {path}` -/
  | discordHttp (status : Nat) (path : Path)
  /-- `[Telegram HTTP {status}] {resp.text[:200]}` -/
  | telegramHttp (status : Nat) (body : List Char)
  deriving DecidableEq

/-- The `while True` loop of `discord_get` against the successive responses to
one GET: the reply and the lines printed, `none` when the responses run out
while the server still answers 429.  `retry_after` is read as `_request` reads
it, and `time.sleep` raises as `Discord.sleepRaises` says. -/
def discordGetLoop (path : Path) : List Response → Option (Answer (Option Json) × List Line)
  | [] => none
  | resp :: rest =>
      if resp.status = 429 then
        match Discord.retryAfter? resp.json with
        | none => some (.raised, [])
        | some delay => if Discord.sleepRaises delay then some (.raised, []) else discordGetLoop path rest
      else if resp.status = 200 then
        some (match resp.json with | some j => .reply (some j) | none => .raised, [])
      else some (.reply none, [.discordHttp resp.status path])

/-- A live `telegram_send` from the response to its POST. -/
def telegramSendLive (resp : Response) : Bool × List Line :=
  if resp.status = 200 then (true, [])
  else (false, [.telegramHttp resp.status (resp.text.take 200)])

/-- Two responses the same but for the body of a failure (neither 200 nor
429). -/
def SameButFailedBody (resp resp' : Response) : Prop :=
  resp.status = resp'.status ∧ (resp.status = 200 ∨ resp.status = 429 → resp = resp')

/-- `discord_get` keeps the body of a failed response out of its reply and its
output. -/
theorem discordGetLoop_failed_bodies (path : Path) {resps resps' : List Response}
    (same : List.Forall₂ SameButFailedBody resps resps') :
    discordGetLoop path resps = discordGetLoop path resps' := by
  induction same with
  | nil => rfl
  | @cons resp resp' rest rest' head _ ih =>
      obtain ⟨status, shown⟩ := head
      by_cases limited : resp.status = 429
      · cases shown (.inr limited)
        simp only [discordGetLoop, ih]
      · by_cases ok : resp.status = 200
        · obtain rfl := shown (.inl ok)
          simp [discordGetLoop, ok]
        · simp [discordGetLoop, ← status, limited, ok]

/-- `discordGetLoop_failed_bodies` for two 403 replies with different bodies. -/
theorem discordGetLoop_failed_bodies_forbidden :
    List.Forall₂ SameButFailedBody [⟨403, none, "Missing Access".toList⟩]
        [⟨403, none, "token abc".toList⟩] ∧
      discordGetLoop (.guildChannels "g") [⟨403, none, "Missing Access".toList⟩] =
        discordGetLoop (.guildChannels "g") [⟨403, none, "token abc".toList⟩] :=
  ⟨.cons ⟨rfl, by decide⟩ .nil, discordGetLoop_failed_bodies _ (.cons ⟨rfl, by decide⟩ .nil)⟩

/-- `telegram_send` prints the first 200 characters of a failed response's
body: two responses that differ only there print different lines. -/
theorem telegramSendLive_prints_failed_body :
    SameButFailedBody ⟨400, none, "Bad Request: chat not found".toList⟩
        ⟨400, none, "Unauthorized".toList⟩ ∧
      (telegramSendLive ⟨400, none, "Bad Request: chat not found".toList⟩).2 ≠
        (telegramSendLive ⟨400, none, "Unauthorized".toList⟩).2 :=
  ⟨⟨rfl, by decide⟩, by decide⟩

end Bridge
end Rill
