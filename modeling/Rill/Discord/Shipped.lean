import Rill.Discord.Provision

/-!
# The shipped tables

`ROLES`, `SERVER_STRUCTURE` and `PINNED_MESSAGES` as `setup_discord.py` ships
them, with the permission bits and `hex_to_int` they are built from.  Several
pinned messages still hold `URL_PLACEHOLDER`, so against a Discord that carries
out every request a live run of the shipped script resets the guild, creates
every role, category and channel, and then exits with status 1 before it sends
a single message.
-/

namespace Rill
namespace Discord

/-! ## Permission bits -/

/-- `PERM_MANAGE_MESSAGES` -/
def permManageMessages : Nat := 1 <<< 13
/-- `PERM_EMBED_LINKS` -/
def permEmbedLinks : Nat := 1 <<< 14
/-- `PERM_ATTACH_FILES` -/
def permAttachFiles : Nat := 1 <<< 15
/-- `PERM_MENTION_EVERYONE` -/
def permMentionEveryone : Nat := 1 <<< 17
/-- `PERM_USE_VOICE` -/
def permUseVoice : Nat := 1 <<< 21
/-- `PERM_MANAGE_CHANNELS` -/
def permManageChannels : Nat := 1 <<< 4
/-- `PERM_MANAGE_ROLES` -/
def permManageRoles : Nat := 1 <<< 28
/-- `PERM_KICK_MEMBERS` -/
def permKickMembers : Nat := 1 <<< 1
/-- `PERM_BAN_MEMBERS` -/
def permBanMembers : Nat := 1 <<< 2
/-- `PERM_MANAGE_THREADS` -/
def permManageThreads : Nat := 1 <<< 34
/-- `PERM_TIMEOUT_MEMBERS` -/
def permTimeoutMembers : Nat := 1 <<< 40
/-- `PERM_MUTE_MEMBERS` -/
def permMuteMembers : Nat := 1 <<< 22
/-- `PERM_DEAFEN_MEMBERS` -/
def permDeafenMembers : Nat := 1 <<< 23
/-- `PERM_MOVE_MEMBERS` -/
def permMoveMembers : Nat := 1 <<< 24
/-- `PERM_VIEW_AUDIT_LOG` -/
def permViewAuditLog : Nat := 1 <<< 7
/-- `PERM_ADMINISTRATOR` -/
def permAdministrator : Nat := 1 <<< 3
/-- `PERM_CREATE_INSTANT_INVITE` -/
def permCreateInstantInvite : Nat := 1 <<< 0
/-- `PERM_ADD_REACTIONS` -/
def permAddReactions : Nat := 1 <<< 6
/-- `PERM_USE_APPLICATION_COMMANDS` -/
def permUseApplicationCommands : Nat := 1 <<< 31
/-- `STANDARD_MEMBER_PERMS` -/
def standardMemberPerms : Nat :=
  permViewChannel
    ||| permSendMessages
    ||| permEmbedLinks
    ||| permAttachFiles
    ||| permAddReactions
    ||| permReadMessagesHistory
    ||| permUseApplicationCommands
/-- `CORE_TEAM_PERMS` -/
def coreTeamPerms : Nat :=
  standardMemberPerms
    ||| permManageMessages
    ||| permManageThreads
    ||| permMuteMembers
    ||| permDeafenMembers
    ||| permMoveMembers
/-- `MODERATOR_PERMS` -/
def moderatorPerms : Nat :=
  standardMemberPerms
    ||| permKickMembers
    ||| permBanMembers
    ||| permManageMessages
    ||| permManageThreads
    ||| permViewAuditLog
    ||| permTimeoutMembers
    ||| permMuteMembers
    ||| permCreateInstantInvite

/-- The value of a hexadecimal digit. -/
def hexDigit (c : Char) : Nat :=
  if c.isDigit then c.toNat - '0'.toNat
  else if 'a' ≤ c ∧ c ≤ 'f' then c.toNat - 'a'.toNat + 10
  else c.toNat - 'A'.toNat + 10

/-- `hex_to_int`: `int(hex_color.lstrip("#"), 16)`, on a string of hex digits
after its leading `#`s. -/
def hexToInt (hexColor : String) : Nat :=
  (hexColor.toList.dropWhile (· = '#')).foldl (fun acc c => 16 * acc + hexDigit c) 0

example : hexToInt "#F97316" = 0xF97316 := by decide

namespace Shipped

/-! ## The tables -/

/-- `ROLES`, highest first. -/
def roles : List RoleDef := [
  { name := "Founder", color := hexToInt "#F97316", hoist := true,
    mentionable := false, permissions := toString permAdministrator },
  { name := "Core Team", color := hexToInt "#3B82F6", hoist := true,
    mentionable := false, permissions := toString coreTeamPerms },
  { name := "Moderator", color := hexToInt "#2A5A8C", hoist := true,
    mentionable := false, permissions := toString moderatorPerms },
  { name := "Contributor", color := hexToInt "#4A8AF4", hoist := true,
    mentionable := false, permissions := toString standardMemberPerms },
  { name := "Testnet Participant", color := hexToInt "#5DE0F2", hoist := true,
    mentionable := false, permissions := toString standardMemberPerms },
  { name := "Bug Hunter", color := hexToInt "#D97706", hoist := false,
    mentionable := false, permissions := toString standardMemberPerms },
  { name := "Ambassador", color := hexToInt "#3B82F6", hoist := false,
    mentionable := false, permissions := toString standardMemberPerms },
  { name := "Member", color := 0, hoist := false,
    mentionable := false, permissions := toString standardMemberPerms },
  { name := "Unverified", color := 0, hoist := false,
    mentionable := false, permissions := toString (permViewChannel ||| permReadMessagesHistory) },
  { name := "Announcements Ping", color := 0, hoist := false,
    mentionable := false, permissions := toString standardMemberPerms },
  { name := "Testnet Ping", color := 0, hoist := false,
    mentionable := false, permissions := toString standardMemberPerms },
  { name := "Dev Updates Ping", color := 0, hoist := false,
    mentionable := false, permissions := toString standardMemberPerms },
  { name := "AMA Ping", color := 0, hoist := false,
    mentionable := false, permissions := toString standardMemberPerms },
  { name := "Governance Ping", color := 0, hoist := false,
    mentionable := false, permissions := toString standardMemberPerms }]

/-- `SERVER_STRUCTURE` -/
def serverStructure : List CategoryDef := [
  { category := "START HERE",
    permTemplate := some "read_only",
    channels := [
      { name := "welcome", type := chText,
        topic := some "Learn what RillCoin is and how to get started in this server.",
        permTemplate := some "read_only" },
      { name := "rules", type := chText,
        topic := some "Community standards and moderation policy. Read before posting.",
        permTemplate := some "read_only" },
      { name := "roles-and-verification", type := chText,
        topic := some "Verify your account to unlock the server. Learn how roles are earned.",
        permTemplate := some "read_only" },
      { name := "faq", type := chText,
        topic := some "Common questions about concentration decay, the testnet, wallets, and the roadmap.",
        permTemplate := some "read_only" }] },
  { category := "ANNOUNCEMENTS",
    permTemplate := some "read_only",
    channels := [
      { name := "announcements", type := chAnnouncement,
        topic := some "Major releases, milestones, and protocol updates from the Core Team.",
        permTemplate := some "read_only" },
      { name := "dev-updates", type := chAnnouncement,
        topic := some "Technical progress notes from developers. Shipped code, not speculation.",
        permTemplate := some "read_only" },
      { name := "testnet-status", type := chText,
        topic := some "Live testnet health: block height, peer count, last decay event.",
        permTemplate := some "read_only" }] },
  { category := "COMMUNITY",
    permTemplate := some "community",
    channels := [
      { name := "general", type := chText,
        topic := some "Open discussion about RillCoin. The main gathering channel.",
        permTemplate := some "community",
        slowmode := some 3 },
      { name := "introductions", type := chForum,
        topic := some "New here? Start a thread and tell us what brought you to the project.",
        permTemplate := some "community",
        threadRateLimit := some 60 },
      { name := "price-and-markets", type := chText,
        topic := some "Market discussion only. No financial advice, no predictions, no coordination.",
        permTemplate := some "community",
        slowmode := some 30 },
      { name := "off-topic", type := chText,
        topic := some "Everything unrelated to RillCoin. Tech, culture, whatever flows.",
        permTemplate := some "community",
        slowmode := some 5 },
      { name := "memes", type := chText,
        topic := some "Community art and humor. Keep it related to Rill themes.",
        permTemplate := some "community" }] },
  { category := "TECHNICAL",
    permTemplate := some "community",
    channels := [
      { name := "protocol", type := chText,
        topic := some "Decay mechanics, consensus rules, fee structure, and proof-of-work design.",
        permTemplate := some "community",
        slowmode := some 5 },
      { name := "development", type := chText,
        topic := some "Codebase discussion, contribution questions, and architecture decisions.",
        permTemplate := some "community",
        slowmode := some 3 },
      { name := "research", type := chForum,
        topic := some "Longer-form technical analysis, external papers, and economic modeling.",
        permTemplate := some "community",
        threadRateLimit := some 300 },
      { name := "node-operators", type := chText,
        topic := some "Running a node or mining. Configuration, sync issues, hardware discussion.",
        permTemplate := some "community",
        slowmode := some 5 }] },
  { category := "TESTNET",
    permTemplate := some "community",
    channels := [
      { name := "testnet-general", type := chText,
        topic := some "General testnet discussion, questions, and coordination.",
        permTemplate := some "community",
        slowmode := some 5 },
      { name := "bug-reports", type := chForum,
        topic := some "Structured bug reports only. Use the pinned template. Each report becomes a thread.",
        permTemplate := some "community",
        threadRateLimit := some 300 },
      { name := "testnet-wallets", type := chText,
        topic := some "Share testnet wallet addresses for testing. Mainnet addresses are not permitted here.",
        permTemplate := some "community",
        slowmode := some 10 },
      { name := "faucet", type := chText,
        topic := some "Request testnet coins with /faucet. One request per user per 24 hours.",
        permTemplate := some "community",
        slowmode := some 10 }] },
  { category := "GOVERNANCE",
    permTemplate := some "community",
    channels := [
      { name := "governance-general", type := chText,
        topic := some "Discussion of governance process, philosophy, and community direction.",
        permTemplate := some "governance",
        slowmode := some 10 },
      { name := "proposals", type := chForum,
        topic := some "Formal improvement proposals. Use the structured format: title, summary, motivation, specification.",
        permTemplate := some "governance",
        threadRateLimit := some 300 },
      { name := "voting", type := chText,
        topic := some "Governance vote results and links. Active when on-chain voting launches.",
        permTemplate := some "read_only" }] },
  { category := "SUPPORT",
    permTemplate := some "community",
    channels := [
      { name := "support-general", type := chText,
        topic := some "Public support for wallet setup, sync issues, and decay calculation questions.",
        permTemplate := some "community",
        slowmode := some 5 },
      { name := "create-ticket", type := chText,
        topic := some "Open a private support ticket with the team. Click the button below to start.",
        permTemplate := some "read_only" }] },
  { category := "TEAM",
    permTemplate := some "team_only",
    channels := [
      { name := "team-general", type := chText,
        topic := some "Day-to-day coordination.",
        permTemplate := some "team_only" },
      { name := "mod-log", type := chText,
        topic := some "Automated moderation action log.",
        permTemplate := some "team_only" },
      { name := "incident-response", type := chText,
        topic := some "Active incident handling.",
        permTemplate := some "team_only" },
      { name := "community-feedback", type := chText,
        topic := some "Digested community feedback for the dev team.",
        permTemplate := some "team_only" }] },
  { category := "BOTS",
    permTemplate := some "community",
    channels := [
      { name := "bot-commands", type := chText,
        topic := some "Run bot commands here. Keeps other channels clean.",
        permTemplate := some "community" },
      { name := "github-feed", type := chText,
        topic := some "Automated commits, pull requests, and releases from the RillCoin repository.",
        permTemplate := some "read_only" },
      { name := "twitter-feed", type := chText,
        topic := some "Automated feed of posts from @RillCoin on X.",
        permTemplate := some "read_only" },
      { name := "crypto-news", type := chText,
        topic := some "Aggregated crypto industry news from curated RSS sources. Powered by MonitoRSS.",
        permTemplate := some "read_only" },
      { name := "price-ticker", type := chText,
        topic := some "Auto-updating price data for BTC, ETH, and top 20 by market cap. Powered by CoinGecko Bot.",
        permTemplate := some "read_only" },
      { name := "regulatory-watch", type := chText,
        topic := some "Crypto regulation and legal news from SEC, CFTC, and industry sources. Powered by MonitoRSS.",
        permTemplate := some "read_only" },
      { name := "whale-alerts", type := chText,
        topic := some "Large transaction alerts on major chains. Powered by Whale Alert Bot.",
        permTemplate := some "read_only" }] }]

/-- `PINNED_MESSAGES`: each channel name with its messages, in pin order. -/
def pinnedMessages : Dict (List String) := [
  ("welcome", [
    "## Welcome to RillCoin\n\nRillCoin uses progressive concentration decay to prevent whale accumulation. The more you hoard, the more flows back to miners. A cryptocurrency designed for circulation, not concentration.\n\n**\"Wealth should flow like water.\"**\n\n---\n\n**What is this project?**\n\nRillCoin is a proof-of-work cryptocurrency with a built-in concentration decay mechanism that redistributes dormant holdings to active miners. It is currently in active development. The testnet is live and open to participation.\n\n---\n\n**Getting started:**\n\n1. Read the rules → #rules\n2. Verify your account → #roles-and-verification\n3. Check the FAQ if you want to understand decay before anything else → #faq\n4. Join the conversation → #general\n\n---\n\n**Security reminder:**\nNo Core Team member or Moderator will ever DM you first to offer support, airdrops, or giveaways. If someone DMs you claiming to be from the team, it is a scam. Report it using the `/report` command or open a ticket in #create-ticket.\n\n**Protect yourself from DM spam:**\nGo to Server Settings (click the server name) → Privacy Settings → disable \"Allow direct messages from server members.\" This prevents strangers in this server from messaging you directly.",
    "## What is concentration decay?\n\nRillCoin implements progressive concentration decay. When a wallet\x27s balance exceeds defined thresholds, the portion above each threshold decays over time and flows into the mining pool, where it is redistributed to active miners.\n\nThe larger your balance, the faster the excess decays. This is not a penalty — it is a circulation incentive. Wealth should flow like water, not pool in reservoirs.\n\n---\n\n**Key links:**\n- Documentation: [docs.rillcoin.com](URL_PLACEHOLDER)\n- GitHub: [github.com/rillcoin](URL_PLACEHOLDER)\n- Website: [rillcoin.com](URL_PLACEHOLDER)\n- Testnet guide: [docs.rillcoin.com/testnet](URL_PLACEHOLDER)\n- Whitepaper: [docs.rillcoin.com/whitepaper](URL_PLACEHOLDER)\n\n---\n\n**Channels to explore:**\n- Technical discussion → #protocol\n- Node setup and mining → #node-operators\n- Testnet participation → #testnet-general\n- Testnet coins → #faucet\n- Governance → #governance-general"]),
  ("rules", [
    "## RillCoin Community Rules\n\nThese rules apply to all channels, threads, and interactions in this server.\n\n---\n\n**Zero Tolerance — Immediate Permanent Ban**\n\nThe following result in a permanent ban with no warning. These are not negotiable.\n\n- **Scam attempts** — fake giveaways, fake airdrops, fake contract addresses, wallet recovery services, or any message designed to extract funds or private keys\n- **Impersonation** — pretending to be a Core Team member, Moderator, or project representative; this includes similar usernames, copied profile pictures, or claiming to be \"official support\" in DMs\n- **Phishing links** — links to phishing sites, fake exchange listings, or wallet drainers\n- **Coordinated price manipulation** — organizing buy/sell coordination or explicitly encouraging others to manipulate markets\n- **Doxxing** — publishing personal identifying information about any community member without consent\n\nPermanent bans are not eligible for appeal for 90 days. Zero tolerance bans are not eligible for appeal at any time.\n\n---\n\n**Serious Violations — Escalating Enforcement**\n\nWarning → 1-hour timeout → 24-hour timeout → 7-day timeout → Permanent ban.\n\n- Repeated spam after a warning\n- Hate speech or targeted harassment\n- Sharing wallet seed phrases or private keys (yours or anyone else\x27s)\n- Repeatedly posting price predictions framed as certainties\n- Evading a timeout with an alternate account\n- Posting competitor project content in a promotional context",
    "**Minor Violations — Warning, then escalation**\n\n- Off-topic posting in channels with specific purposes\n- Using banned words (see list below)\n- Running bot commands outside #bot-commands\n- Excessive meme posting outside #memes\n\n---\n\n**Banned words and phrases**\nThe following are not permitted in this server in an investment or hype context:\nmoon, lambo, pump, dump, gem, ape, degen, wagmi, ngmi, diamond hands, paper hands, rug, shill\n\n---\n\n**Anti-scam reminder**\nNo Core Team member or Moderator will ever DM you first. We do not offer support, airdrops, or giveaways via DM. Official support goes through #create-ticket. If someone contacts you claiming to be from the RillCoin team, report it immediately using `/report`.\n\n---\n\n**Appeals**\nIf you believe a moderation action was applied in error, email appeals@rillcoin.com or use the appeal form linked in your ban notice. Appeals are reviewed by Core Team within 7 days.\n\n---\n\n**Enforcement is consistent and documented.** Moderators follow this policy. If you observe a rule violation, use `/report` or open a ticket in #create-ticket rather than engaging directly."]),
  ("roles-and-verification", [
    "## Roles and Verification\n\n**Step 1: Verify your account**\nClick the verification button below this message to complete account verification. Your account must be at least 14 days old. Accounts under 30 days old may be asked to complete a CAPTCHA.\n\nOn success, you receive the **Member** role and full access to the server.\n\n---\n\n**Role overview — Team**\n\n**Founder** (orange name) — Project founders. Administrator access. If you see this role, you are speaking with project leadership.\n\n**Core Team** (blue name) — Full-time contributors building the protocol. Manage messages, threads, and announcements.\n\n**Moderator** — Community enforcement. Day-to-day moderation. Distinguished from Core Team to clarify who is building vs. who is enforcing.\n\n---\n\n**Role overview — Earned**\n\n**Contributor** (blue-light) — Unlocks access to #governance-general and #proposals. Earned by: submitting a verified bug report, merging a GitHub contribution, authoring an approved governance proposal, or 30 days active with 500+ messages and no violations (reviewed manually).\n\n**Testnet Participant** (cyan) — Automatically assigned when you use the faucet and confirm receipt. Shows you are testing the network.\n\n**Bug Hunter** (orange) — Awarded manually by Core Team for each confirmed Medium+ severity bug report. Can be earned multiple times.\n\n**Ambassador** (blue) — Community evangelists representing RillCoin in external spaces. Requires application. See Pinned Message 2 for eligibility.",
    "**Role overview — General**\n\n**Member** — Verified community member. Access to all public channels. Assigned automatically after verification.\n\n**Unverified** — New joins before verification. Read-only access to #welcome, #rules, #roles-and-verification, and #faq only.\n\n---\n\n**Opt-in notification roles**\nSelf-assign pings for content you care about. Run `/role` in #bot-commands.\n\n- **Announcements Ping** — Major releases and milestones\n- **Testnet Ping** — Testnet events and status alerts\n- **Dev Updates Ping** — Technical progress posts\n- **AMA Ping** — Upcoming AMAs and office hours\n- **Governance Ping** — New governance proposals\n\n---\n\n**Ambassador application**\nEligibility: Member for 60+ days, Contributor role, no moderation history in the past 30 days, and a demonstrable external presence (X account, blog, YouTube, or active participation in other communities).\n\nApply here: [rillcoin.com/ambassador](URL_PLACEHOLDER)\nApplications reviewed monthly by Core Team.\n\n---\n\n**Bug Hunter nominations**\nConfirmed Medium+ severity bug reports earn this role automatically. No application needed — do quality work in #bug-reports and it follows."]),
  ("faq", [
    "## Frequently Asked Questions\n\n---\n\n**What is RillCoin?**\nRillCoin is a proof-of-work cryptocurrency with a built-in concentration decay mechanism that redistributes dormant holdings to active miners. It is designed around a principle of circulation over concentration. The project is open-source and currently in testnet.\n\n---\n\n**What is concentration decay?**\nWhen a wallet\x27s balance exceeds defined thresholds, the portion above each threshold decays over time and flows into the decay pool, where it is redistributed to active miners. The larger your balance, the faster the excess decays. This is not a penalty — it is a circulation incentive. Wealth should flow like water, not pool in reservoirs.\n\n---\n\n**How does decay work technically?**\nDecay is computed using a sigmoid curve applied to balances above defined concentration thresholds. Each threshold tier applies a progressively higher decay rate to the excess balance. Decay is applied per block and expressed as a fraction of the effective balance above the threshold. The decayed amount flows into the decay pool and is distributed to miners as part of the block reward.\n\n---\n\n**What are the decay thresholds?**\nThe specific threshold values and decay rates are defined in the protocol constants. See the technical documentation for the current mainnet parameters: [docs.rillcoin.com/protocol/decay](URL_PLACEHOLDER). Testnet parameters may differ from mainnet parameters during the testing phase.\n\n---\n\n**What is \"effective balance\"?**\nYour effective balance is the portion of your wallet balance that is not subject to active decay — the amount below the first decay threshold. Holdings above the thresholds are subject to decay at rates defined by the protocol.",
    "**How do I run a node?**\nThe RillCoin node software is available on GitHub: [github.com/rillcoin/rill](URL_PLACEHOLDER). Full node setup documentation is at [docs.rillcoin.com/node](URL_PLACEHOLDER). For questions and troubleshooting, use #node-operators.\n\nBasic requirements: a machine with sufficient disk space for the chain, a stable internet connection, and the ability to open the required ports. Specific hardware recommendations are in the documentation.\n\n---\n\n**How do I get testnet coins?**\nUse the faucet in #faucet. Run the command `/faucet <your-testnet-address>`. You can request once every 24 hours per account. Your testnet address must be in the correct RillCoin testnet address format — the bot will reject addresses that do not match.\n\nOn successful delivery, you will receive the Testnet Participant role automatically.\n\n---\n\n**What is the roadmap?**\nThe current public roadmap is at [rillcoin.com/roadmap](URL_PLACEHOLDER). In brief: the project is in active testnet. Mainnet launch follows once the protocol is stable and audited. Governance tooling is planned post-mainnet.\n\n---\n\n**Is there a token sale or ICO?**\nNo. There is no token sale, no ICO, and no pre-mine. RillCoin is distributed exclusively through proof-of-work mining. Any offer to sell you RillCoin before it is mineable on mainnet is a scam.\n\n---\n\n**How do I contribute to the project?**\nRead the contribution guide at [docs.rillcoin.com/contributing](URL_PLACEHOLDER) and the open issues on GitHub: [github.com/rillcoin/rill](URL_PLACEHOLDER). Discuss your approach in #development before opening a large pull request. All contributions must pass `cargo clippy --workspace -- -D warnings` and `cargo test --workspace`.",
    "**Where is the code?**\nThe full source is on GitHub: [github.com/rillcoin/rill](URL_PLACEHOLDER)\n\nThe codebase is a Cargo workspace with the following crate structure:\n`rill-core` → `rill-decay` → `rill-consensus` → `rill-network` → `rill-wallet` → `rill-node`\n\n---\n\n**Where can I read the whitepaper?**\n[docs.rillcoin.com/whitepaper](URL_PLACEHOLDER)\n\n---\n\n**How do I report a scam or impersonation?**\nUse `/report` in any channel, or open a private ticket in #create-ticket. Do not engage with the scammer. No Core Team member or Moderator will ever DM you first — if someone does claiming to be from the team, it is a scam.\n\n---\n\n**I have a question that is not answered here. Where do I ask?**\n- General questions → #general\n- Technical protocol questions → #protocol\n- Node setup and mining → #node-operators\n- Testnet participation → #testnet-general\n- Bug reports → #bug-reports (use the pinned template)\n- Private support → #create-ticket\n\n---\n\n*This FAQ is updated quarterly. Last updated: February 2026.*"]),
  ("general", [
    "## Welcome to #general\n\nThis is the main community discussion channel. On-topic conversation is preferred. Off-topic discussion is tolerated if it does not dominate — for everything unrelated to RillCoin, use #off-topic.\n\n---\n\n**Quick links:**\n- New here? Start in #faq and #rules\n- Technical questions → #protocol or #development\n- Node and mining questions → #node-operators\n- Testnet → #testnet-general\n- Bot commands → #bot-commands\n\n---\n\n**Anti-scam reminder:**\nNo Core Team member or Moderator will ever DM you first. If someone DMs you claiming to be from the RillCoin team and offering support, airdrops, or giveaways, it is a scam. Use `/report` or open a ticket in #create-ticket.\n\nTeam members are identifiable by their colored names: **Founder** (orange) and **Core Team** (blue) are the only roles that represent the project officially."]),
  ("price-and-markets", [
    "## #price-and-markets — Ground Rules\n\nThis channel exists so market discussion stays out of #general. It is a designated space, not an endorsement of any particular price view.\n\n---\n\n**What is permitted:**\n- Discussion of exchange listings, trading pairs, and market mechanics\n- Questions about how the concentration decay mechanism interacts with market dynamics\n- Links to price data from established sources\n- Factual discussion of market events\n\n**What is not permitted:**\n- Price predictions stated as certainties\n- Financial advice of any kind (\"you should buy/sell\")\n- Coordinated buy or sell language — this server does not organize market activity\n- Banned words: moon, lambo, pump, dump, gem, ape, degen, wagmi, ngmi, diamond hands, paper hands, shill\n\n---\n\n**Standard reminder:**\nNothing posted in this channel constitutes financial advice. RillCoin does not make price predictions or financial promises. Participation in any cryptocurrency involves risk. Make your own decisions.\n\n---\n\nRepeated violations of these ground rules will result in removal from this channel or the server under the standard escalation policy in #rules."]),
  ("protocol", [
    "## Concentration Decay — Protocol Explainer\n\nThis is the differentiating mechanism of RillCoin. Read this before asking decay questions.\n\n---\n\n**The core idea**\nRillCoin implements progressive concentration decay. Wallet balances above defined thresholds decay over time. The decayed amount flows into the decay pool, which is distributed to miners as part of the block reward.\n\nThis is a circulation incentive built into the protocol itself — not a fee, not a tax, not a burn. It is a property of holding a large balance.\n\n---\n\n**How the decay rate is determined**\nDecay uses a sigmoid curve applied to the balance above each threshold. The sigmoid curve means:\n- Small amounts above a threshold decay slowly\n- Large amounts above a threshold decay faster\n- The decay rate increases progressively across tiers — higher thresholds apply higher rates\n\nThis prevents abrupt cliffs while still creating meaningful pressure against large concentration.\n\n---\n\n**What \"effective balance\" means**\nYour effective balance is the portion of your holdings below the first decay threshold. It does not decay. Holdings above the thresholds are subject to decay at the rates defined by the protocol constants.\n\n---\n\n**The decay pool**\nDecayed amounts accumulate in the decay pool per block. The pool balance is distributed to miners as part of the block reward for that block. Miners with more hash power receive a proportionally larger share.",
    "**Arithmetic and precision**\nAll consensus math uses integer arithmetic with fixed-point precision at 10^8 (similar to Bitcoin\x27s satoshi precision). No floating-point arithmetic is used in the protocol. This ensures deterministic results across all implementations.\n\n---\n\n**Proof of work**\nRillCoin uses proof-of-work consensus. Block headers are hashed using SHA-256. The current testnet uses a simplified PoW implementation; the mainnet protocol uses RandomX to provide ASIC resistance.\n\n---\n\n**Fee structure**\nA minimum fee is required for all transactions. The minimum fee is defined in the protocol constants. Fees are distributed to miners alongside the decay pool distribution.\n\n---\n\n**Where to find the formal specification**\nFull protocol specification: [docs.rillcoin.com/protocol](URL_PLACEHOLDER)\nWhitepaper (decay mechanism section): [docs.rillcoin.com/whitepaper#decay](URL_PLACEHOLDER)\nSource of truth for constants: `rill-core/src/constants.rs` on [GitHub](URL_PLACEHOLDER)\n\n---\n\n**Discussion guidelines for this channel**\nHigh-signal conversation is expected here. If you are asking a basic question, check #faq first. If you are making a technical claim, link your reasoning. Threads are encouraged for extended analysis."]),
  ("development", [
    "## Contributing to RillCoin\n\nThe codebase is open-source and contributions are welcome.\n\n---\n\n**Before you start:**\n- Read the contribution guide: [docs.rillcoin.com/contributing](URL_PLACEHOLDER)\n- Check open issues on GitHub: [github.com/rillcoin/rill/issues](URL_PLACEHOLDER)\n- For significant changes, discuss your approach here or open a draft PR before writing production code\n\n---\n\n**Repository structure:**\nThe project is a Cargo workspace — 6 library crates and 3 binaries.\n`rill-core` → `rill-decay` → `rill-consensus` → `rill-network` → `rill-wallet` → `rill-node`\n\n---\n\n**Code standards (non-negotiable):**\n- Rust 2024 edition, stable toolchain, MSRV 1.85\n- `cargo clippy --workspace -- -D warnings` must pass with zero warnings\n- `cargo test --workspace` must pass\n- All consensus math uses checked arithmetic (`checked_add`, `checked_mul`)\n- No floating-point in protocol logic — fixed-point u64 with 10^8 precision\n- Public APIs require doc comments and proptest coverage\n\n---\n\n**Commit and branch conventions:**\n- Branch: `<crate>/<description>` (e.g., `rill-decay/fix-threshold-calculation`)\n- Commit: `<crate>: <description>` (e.g., `rill-core: implement Transaction struct`)\n\n---\n\n**Bug reports go to #bug-reports**, not here. Use the template pinned there."]),
  ("research", [
    "## #research — Posting Guidelines\n\nThis channel is for longer-form technical content: analysis, external papers, economic modeling of the decay mechanism, and formal arguments about protocol design.\n\n---\n\n**What belongs here:**\n- Links to academic papers relevant to proof-of-work, concentration mechanisms, or monetary economics, with a summary of why they are relevant\n- Original analysis of the decay mechanism (modeling decay rates, threshold sensitivity, miner incentives)\n- Economic arguments for or against specific protocol parameters\n- Comparative analysis of RillCoin\x27s approach against other concentration-resistance mechanisms\n\n**What does not belong here:**\n- Short questions (use #protocol or #general)\n- Bug reports (use #bug-reports with the template)\n- Price speculation\n- Content without substantive technical or economic content\n\n---\n\n**Format:**\nThis is a forum channel. Each post requires a title. Use threads for extended discussion. If you are sharing an external paper, include a brief summary of the relevant sections — do not post a link with no context.\n\n---\n\n**Tone:**\nRigorous and direct. Disagreement is welcome; keep it about the ideas, not the people."]),
  ("node-operators", [
    "## Running a RillCoin Node — Quick Start\n\nFull documentation: [docs.rillcoin.com/node](URL_PLACEHOLDER)\n\n---\n\n**Prerequisites:**\n- Operating system: Linux (Ubuntu 22.04+ recommended), macOS, or Windows (WSL2)\n- Disk space: Minimum 20 GB free (testnet); mainnet requirements will be higher\n- RAM: Minimum 2 GB\n- Network: Stable connection; ability to open inbound TCP port (default: 30333)\n- Rust toolchain: stable, MSRV 1.85+ (not required if using pre-built binaries)\n\n---\n\n**Installation (from source):**\n```\ngit clone https://github.com/rillcoin/rill\ncd rill\ncargo build --release --bin rill-node\n```\n\n**Running the node:**\n```\n./target/release/rill-node --network testnet\n```\n\nFor full flag reference:\n```\n./target/release/rill-node --help\n```\n\n---\n\n**Connecting to testnet:**\nThe testnet bootstrap peers are listed in the documentation: [docs.rillcoin.com/testnet/peers](URL_PLACEHOLDER)\n\nYour node will begin syncing from the genesis block. Initial sync time depends on your connection speed and the current chain height.",
    "**Mining (testnet):**\nMining is supported on testnet. To enable mining, provide a wallet address to receive rewards:\n```\n./target/release/rill-node --network testnet --mine --wallet <your-testnet-address>\n```\n\nThe miner competes on the current PoW target. On testnet, the RandomX implementation is active. ASIC mining is not advantageous due to the memory-hard algorithm.\n\n---\n\n**Common issues:**\n\n*Node won\x27t connect to peers*\n- Verify that your firewall allows inbound connections on the node port\n- Check that the bootstrap peer addresses in your config are current — see [docs.rillcoin.com/testnet/peers](URL_PLACEHOLDER)\n\n*Sync is stalled*\n- Check the `#testnet-status` channel for network health\n- Restart the node with `--resync` flag if blocks are not advancing after 30 minutes\n\n*Decay calculation looks wrong*\n- Decay is applied per block. If you are checking balances mid-block, the displayed balance may not yet reflect the latest decay application. Wait for block confirmation.\n\n---\n\n**Reporting node issues:**\nIf you encounter a bug, use the template in #bug-reports. Include your node version (`rill-node --version`), OS, and the full error output.\n\nFor configuration questions, ask in this channel. For suspected bugs, use #bug-reports."]),
  ("testnet-general", [
    "## Testnet Participation\n\nThe RillCoin testnet is live and open to the public. Your participation matters — the more nodes, wallets, and transactions running on testnet, the more confidently the protocol can be validated before mainnet.\n\n---\n\n**How to get started:**\n\n1. Get the node software: [github.com/rillcoin/rill](URL_PLACEHOLDER)\n2. Follow the setup guide: [docs.rillcoin.com/testnet](URL_PLACEHOLDER)\n3. Get testnet coins from the faucet in #faucet\n4. Run transactions, test the decay mechanism, and report anything unexpected\n\n---\n\n**Roles you can earn:**\n- **Testnet Participant** — Automatically assigned when you receive faucet coins\n- **Bug Hunter** — Manually awarded for confirmed Medium+ severity bug reports\n\n---\n\n**Channels to use:**\n- Setup questions → #node-operators\n- Bug reports → #bug-reports (use the template)\n- Wallet address sharing for testing → #testnet-wallets\n- Testnet coins → #faucet\n- Live network status → #testnet-status\n\n---\n\n**Important:** Testnet coins have no monetary value. Testnet parameters (thresholds, decay rates, block time) may differ from the final mainnet parameters. Do not use mainnet wallet addresses on testnet.\n\nFull testnet documentation: [docs.rillcoin.com/testnet](URL_PLACEHOLDER)"]),
  ("bug-reports", [
    "## Bug Report Template\n\nEvery bug report must use this format. Posts without the required fields will be closed without triage.\n\nEach report creates a thread. The dev team triages all reports within 7 days.\n\n---\n\n**Copy and fill in the template below:**\n\n```\n**Title:** [One-sentence description of the issue]\n\n**Node version:** [Output of `rill-node --version`]\n**OS:** [e.g., Ubuntu 22.04, macOS 14.3, Windows 11 WSL2]\n**Network:** [testnet / mainnet]\n\n**Steps to reproduce:**\n1.\n2.\n3.\n\n**Expected behavior:**\n[What you expected to happen]\n\n**Actual behavior:**\n[What actually happened]\n\n**Logs / error output:**\n[Paste relevant log lines here, wrapped in code blocks]\n\n**Severity (your assessment):**\n[ ] Low — cosmetic or minor inconvenience\n[ ] Medium — incorrect behavior, workaround exists\n[ ] High — significant malfunction, no workaround\n[ ] Critical — data loss, security issue, consensus failure\n```\n\n---\n\n**After submitting:**\nA Core Team member will reply in your thread with a triage status. Confirmed Medium+ bugs earn the **Bug Hunter** role. If your bug is linked to a GitHub issue, the issue number will be posted in your thread.\n\n**Security vulnerabilities:** Do not post publicly. Email [security@rillcoin.com](URL_PLACEHOLDER) instead."]),
  ("faucet", [
    "## Testnet Faucet\n\nThe faucet distributes testnet RillCoin for development and testing.\n\n---\n\n**How to request:**\nRun this command in this channel:\n```\n/faucet <your-testnet-address>\n```\n\nReplace `<your-testnet-address>` with your RillCoin testnet wallet address.\n\n---\n\n**Rate limits:**\n- One request per Discord account per 24 hours\n- One request per wallet address per 24 hours\n\nBoth limits apply independently. Creating multiple Discord accounts to bypass the rate limit will result in a ban.\n\n---\n\n**Address format:**\nThe bot validates address format before processing. Addresses that do not match the RillCoin testnet address format will be rejected. Do not use mainnet addresses here.\n\nTo generate a testnet wallet address, see the wallet documentation: [docs.rillcoin.com/wallet](URL_PLACEHOLDER)\n\n---\n\n**After your request:**\nThe bot will confirm receipt and post the expected transaction time. Once the transaction is confirmed on chain, you will automatically receive the **Testnet Participant** role.\n\nIf the faucet does not respond within 10 minutes, check #testnet-status for network health. If the network is healthy and the faucet is unresponsive, report it in #support-general.\n\n---\n\n**Testnet coins have no monetary value.**"]),
  ("governance-general", [
    "## Governance — Current Status\n\nRillCoin governance is currently in an advisory phase. There is no on-chain voting yet. This channel exists to build the culture and practice of community governance before the formal mechanisms are deployed.\n\n---\n\n**What governance means here, right now:**\n- Community members propose and discuss changes to the protocol, parameters, and community direction\n- The Core Team reads this channel and takes community input seriously\n- No vote here is binding — the Core Team makes final decisions during this phase\n- This will change as the project matures and formal governance tooling is deployed\n\n---\n\n**How to participate:**\n- Post your thoughts on protocol direction, parameter choices, or process questions here\n- To submit a formal proposal, use #proposals with the structured format\n- Governance Ping: opt in via `/role` in #bot-commands to receive pings when new proposals open\n\n---\n\n**Access:**\nThis channel is open to **Contributor** role and above. To earn Contributor, see the requirements in #roles-and-verification.\n\n---\n\n**What comes next:**\nOn-chain voting is planned post-mainnet. When snapshot.org or on-chain governance launches, results and links will appear in #voting. This channel will transition from advisory to participatory at that point.\n\nQuestions about the governance roadmap → [docs.rillcoin.com/governance](URL_PLACEHOLDER)"]),
  ("proposals", [
    "## Proposal Template and Guidelines\n\nUse this format for every formal proposal. Posts that do not follow the structure will be asked to revise before discussion begins.\n\nThis is a forum channel. Each proposal is a separate post with a title.\n\n---\n\n**Proposal template:**\n\n```\n**RCP-[number]: [Short title]**\n\n**Summary**\n[2–4 sentences. What are you proposing and why?]\n\n**Motivation**\n[What problem does this solve? What is the current behavior and why is it insufficient?]\n\n**Specification**\n[Precise description of the proposed change. For protocol changes, include: affected constants or parameters, the proposed new values, and the mathematical or logical reasoning. For process changes, describe the new procedure step by step.]\n\n**Drawbacks**\n[What are the honest downsides or risks of this proposal? This section is required. Proposals that do not acknowledge tradeoffs are not credible.]\n\n**Alternatives considered**\n[What other approaches did you consider and why did you not propose them?]\n\n**Open questions**\n[What remains unresolved? What feedback are you specifically seeking?]\n```\n\n---\n\n**Numbering:** Use the next sequential RCP (RillCoin Proposal) number. Check existing proposals to avoid duplicates.\n\n**Discussion:** Use the thread on your proposal post. Keep top-level discussion in the thread, not in #governance-general.\n\n**Status:** Core Team will add a status tag to proposals: Draft → Under Review → Accepted / Rejected / Deferred."]),
  ("support-general", [
    "## Getting Help\n\nThis channel is for public support questions. Use it for wallet setup, sync issues, decay calculation questions, and general troubleshooting.\n\n---\n\n**Before posting, check these resources:**\n- FAQ → #faq\n- Protocol documentation → [docs.rillcoin.com](URL_PLACEHOLDER)\n- Node setup guide → [docs.rillcoin.com/node](URL_PLACEHOLDER)\n- #node-operators for node-specific questions\n- #bug-reports if you believe you have found a bug (use the template)\n\n---\n\n**When posting a support question, include:**\n- What you are trying to do\n- What you expected to happen\n- What actually happened\n- Your node or wallet version, if relevant\n- Your operating system, if relevant\n- Any error messages (paste the full text or a screenshot)\n\nThe more context you provide, the faster someone can help.\n\n---\n\n**For private support** (if your question involves wallet addresses, keys, or sensitive account information):\nUse #create-ticket to open a private thread with the support team. Do not post private keys or seed phrases anywhere in this server — not in this channel, not in a ticket.\n\n---\n\n**Security reminder:**\nNo one from the Core Team will DM you first to offer support. If someone DMs you claiming to be support and asking for your seed phrase, wallet address, or any credentials — it is a scam. Report it using `/report`."]),
  ("bot-commands", [
    "## Bot Commands\n\nRun all bot commands here. Running commands in other channels may result in a reminder from moderators.\n\n---\n\n**Notification role management:**\n```\n/role add <role-name>\n/role remove <role-name>\n```\nAvailable notification roles: Announcements Ping, Testnet Ping, Dev Updates Ping, AMA Ping, Governance Ping\n\n---\n\n**Information commands:**\n```\n!decay       — Explanation of concentration decay with documentation link\n!whitepaper  — Link to the RillCoin whitepaper\n!testnet     — Current testnet status link and faucet instructions\n!roadmap     — Link to the public roadmap\n!github      — Link to the GitHub repository\n```\n\n---\n\n**Decay calculator (coming soon):**\n```\n/decay <balance>\n```\nEstimates the decay schedule for a given balance based on published protocol constants. Not live chain data — a model estimate.\n\n---\n\n**Faucet requests go to #faucet**, not here:\n```\n/faucet <testnet-address>\n```\n\n---\n\n**Reporting:**\n```\n/report\n```\nOpens a report flow for rule violations, scam attempts, or impersonation. Reports go to the moderation team."]),
  ("crypto-news", [
    "## #crypto-news — Industry News Feed\n\nThis channel delivers curated crypto industry news from established sources. It is automated and read-only.\n\n---\n\n**Sources:**\n- CoinDesk\n- The Block\n- Bitcoin Magazine\n- Decrypt\n\n**Filters:** Content is filtered to topics relevant to RillCoin: proof-of-work, monetary policy, protocol design, and Layer 1 developments. General altcoin news and token launch announcements are excluded.\n\n**Bot:** MonitoRSS — an open-source RSS-to-Discord bot with 7+ years of uptime and 500M+ articles delivered. We use it instead of dedicated crypto news bots to maintain full control over sources and avoid spam or shilling from bot-curated feeds.\n\n---\n\n**This channel is read-only.** Members cannot post here. To discuss a news item, share the link in #general or #price-and-markets."]),
  ("price-ticker", [
    "## #price-ticker — Top 20 Crypto Prices\n\nThis channel provides auto-updating price data for BTC, ETH, and the top 20 cryptocurrencies by market cap. It is automated and read-only.\n\n---\n\n**Bot:** CoinGecko Bot — the official CoinGecko Discord bot. Free tier, supports 4000+ coins, formatted embeds, and scheduled price summaries.\n\n**What is tracked:** Bitcoin, Ethereum, and the top 20 by market cap. Once RillCoin is listed on exchanges post-mainnet, RILL will be added to the tracked assets.\n\n**Complement:** This channel provides raw price data. For market discussion, use #price-and-markets.\n\n---\n\n**This channel is read-only.** Members cannot post here. Nothing posted in this channel constitutes financial advice. RillCoin does not make price predictions or financial promises."]),
  ("regulatory-watch", [
    "## #regulatory-watch — Crypto Regulation and Legal News\n\nThis channel delivers low-volume regulatory and legal developments relevant to the cryptocurrency industry. It is automated and read-only.\n\n---\n\n**Sources:**\n- SEC Litigation Releases (official RSS)\n- CFTC News (official RSS)\n- CoinDesk — Policy and Regulation\n- The Block — Regulation\n\n**Volume:** Expect 2-5 posts per week. This is intentionally low-noise.\n\n**Bot:** MonitoRSS — the same bot that powers #crypto-news, configured with separate feeds for regulatory content.\n\n---\n\n**Why this channel exists:** RillCoin takes regulatory context seriously. This feed is useful for governance participants, protocol designers, and institutional observers who need to stay informed about the legal landscape affecting proof-of-work cryptocurrencies.\n\n**This channel is read-only.** To discuss regulatory developments, use #governance-general or #general."]),
  ("whale-alerts", [
    "## #whale-alerts — Large Transaction Monitoring\n\nThis channel will display alerts when large cryptocurrency transactions occur on major chains. It is automated and read-only.\n\n---\n\n**Bot:** Whale Alert Bot — free tier, tracks large transactions on BTC, ETH, and major chains.\n\n**Current status:** This channel is a stub during the pre-mainnet phase. Whale tracking for major chains will be activated when the community finds it useful. Post-mainnet, RillCoin-specific large movement alerts will be added via a custom bot integration.\n\n**Why this channel exists:** Large transaction monitoring provides relevant market intelligence for a proof-of-work community. Tracking whale movements on BTC and ETH helps contextualize broader market dynamics.\n\n---\n\n**This channel is read-only.** To discuss large transactions or market movements, use #price-and-markets."])]

/-- The tables the shipped script reads. -/
def catalog : Catalog where
  roles := roles
  serverStructure := serverStructure
  pinnedMessages := pinnedMessages
  pinnedKeysNodup := by decide

/-! ## A live run of the shipped script -/

/-- `URL_PLACEHOLDER` found at character `k` of a message. -/
theorem hasPlaceholder_of_prefix_drop {m : String} (k : Nat)
    (found : "URL_PLACEHOLDER".toList <+: m.toList.drop k) : hasPlaceholder m = true :=
  decide_eq_true (found.isInfix.trans (List.drop_suffix k _).isInfix)

set_option maxRecDepth 4000 in
/-- The second welcome message links its documentation through the placeholder. -/
theorem anyPlaceholder_catalog : catalog.anyPlaceholder = true :=
  List.any_eq_true.mpr ⟨_, List.mem_cons_self _ _, List.any_eq_true.mpr
    ⟨_, List.mem_cons_of_mem _ (List.mem_singleton_self _), hasPlaceholder_of_prefix_drop 488 (by decide)⟩⟩

/-- Every live run of the shipped `setup_discord.py` against a Discord that
carries out every request resets the guild, creates the fourteen roles and the
whole structure, and then exits with status 1 without sending a message: the
guild is left as `built` gives it, whatever it held before. -/
theorem run_exits (token guildId : String) {G : Guild} (fresh : G.Fresh) :
    ((ServerSetup.new ⟨token, false⟩ guildId).run catalog).exec (Guild.step guildId) G =
      (.error (.exit 1), (ServerSetup.new ⟨token, false⟩ guildId).built catalog G) :=
  ServerSetup.run_halts_built token guildId catalog fresh anyPlaceholder_catalog (by decide) (by decide)
    (by decide)

theorem run_exits_emptyGuild :
    ((ServerSetup.new ⟨"token", false⟩ "g").run catalog).exec (Guild.step "g") ServerSetup.emptyGuild =
      (.error (.exit 1), (ServerSetup.new ⟨"token", false⟩ "g").built catalog ServerSetup.emptyGuild) :=
  run_exits "token" "g" ⟨Nat.one_pos, by simp [ServerSetup.emptyGuild], by simp [ServerSetup.emptyGuild]⟩

end Shipped

end Discord
end Rill
