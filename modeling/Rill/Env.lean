import Rill.Text
import Rill.Prog
import Mathlib.Data.List.Nodup

/-!
# The `.env` file

The `load_env` of both scripts and `load_credentials` of `setup_discord.py`,
in the branch it takes without `python-dotenv`.  A file is given by its text,
`none` when it does not exist.
-/

namespace Rill
namespace Env

open Text

/-- What a loader printed, and how it ended: a value, or `sys.exit`. -/
abbrev Outcome (α : Type) := List String × Except Halt α

/-- `"`, the first character `value.strip('"').strip("'")` removes. -/
def doubleQuote : Char := '\x22'

/-- `'`, the second. -/
def singleQuote : Char := '\x27'

/-- `line.partition("=")` without the separator: the text before the first `=`
and the text after it. -/
def partitionEq (line : List Char) : List Char × List Char :=
  (line.takeWhile (· != '='), (line.dropWhile (· != '=')).drop 1)

/-- One line of the loop: `none` for a blank line, a comment or a line without
`=`, else the stripped text before the first `=` and the text after it, stripped
of spaces and then of surrounding double and single quotes. -/
def entry? (raw : List Char) : Option (String × String) :=
  let line := strip raw
  if line.isEmpty || line.head? == some '#' then none
  else if line.contains '=' then
    let (key, value) := partitionEq line
    some (⟨strip key⟩, ⟨stripChars [singleQuote] (stripChars [doubleQuote] (strip value))⟩)
  else none

/-- The loop `for line in fh`, assigning `env[key] = value` for each line: a
later line for a key replaces its value and keeps its place. -/
def readEnv (env : Dict String) : List (List Char) → Dict String
  | [] => env
  | raw :: rest =>
      match entry? raw with
      | some (key, value) => readEnv (env.insert key value) rest
      | none => readEnv env rest

example : readEnv [] (fileLines "# Discord\r\nA = 1\rB=\x27two\x27\n\nA=\"x y\"\nnoise".toList) =
    [("A", "x y"), ("B", "two")] := by decide

/-! ## Writing the file and reading it back -/

/-- An assignment that a writer of the file puts as the line `KEY="VALUE"` and
that the loop reads back as it was: the key has no `=`, no line break, no space
at either end and no `#` in front; the value has no line break and no quote at
either end. -/
structure Assignment where
  key : List Char
  value : List Char
  keyPlain : '=' ∉ key ∧ NoBreak key ∧ EndsKeep isSpace key ∧ key.head? ≠ some '#'
  valuePlain : NoBreak value ∧ EndsKeep [doubleQuote, singleQuote].contains value

/-- The line `KEY="VALUE"`. -/
def Assignment.line (a : Assignment) : List Char :=
  a.key ++ '=' :: doubleQuote :: (a.value ++ [doubleQuote])

/-- The entry the assignment puts in the dict. -/
def Assignment.entry (a : Assignment) : String × String := (⟨a.key⟩, ⟨a.value⟩)

/-- A file of the assignments' lines, each ended by `\n`. -/
def render (assignments : List Assignment) : List Char :=
  (assignments.map fun a => a.line ++ ['\n']).flatten

theorem Assignment.noBreak_line (a : Assignment) : NoBreak a.line := by
  obtain ⟨-, ⟨keyNewline, keyReturn⟩, -⟩ := a.keyPlain
  obtain ⟨⟨valueNewline, valueReturn⟩, -⟩ := a.valuePlain
  simp [NoBreak, Assignment.line, doubleQuote, keyNewline, keyReturn, valueNewline, valueReturn]

theorem Assignment.partitionEq_line (a : Assignment) :
    partitionEq a.line = (a.key, doubleQuote :: (a.value ++ [doubleQuote])) := by
  have noEq : ∀ c ∈ a.key, (c != '=') = true := fun c mem => by
    simpa using fun same : c = '=' => a.keyPlain.1 (same ▸ mem)
  simp [partitionEq, Assignment.line, List.takeWhile_append_of_pos noEq,
    List.dropWhile_append_of_pos noEq]

theorem Assignment.endsKeep_line (a : Assignment) : EndsKeep isSpace a.line := by
  obtain ⟨-, -, ⟨front, -⟩, -⟩ := a.keyPlain
  refine ⟨fun c mem => ?_, fun c mem => ?_⟩
  · cases key : a.key with
    | nil => simp_all [Assignment.line]; subst c; rfl
    | cons k rest => simp_all [Assignment.line]
  · simp [Assignment.line, List.getLast?_cons] at mem
    subst c
    rfl

theorem Assignment.entry?_line (a : Assignment) : entry? a.line = some a.entry := by
  obtain ⟨-, -, keyEnds, noHash⟩ := a.keyPlain
  have front : a.line.head? ≠ some '#' := by
    cases key : a.key <;> simp_all [Assignment.line]
  have quoted : EndsKeep isSpace (doubleQuote :: (a.value ++ [doubleQuote])) :=
    ⟨by simp [doubleQuote, isSpace], by simp [List.getLast?_cons, doubleQuote, isSpace]⟩
  have value := a.valuePlain.2
  have doubleEnds : EndsKeep [doubleQuote].contains a.value :=
    value.mono fun c same => by simp_all
  have singleEnds : EndsKeep [singleQuote].contains a.value :=
    value.mono fun c same => by simp_all
  have nonempty : a.line ≠ [] := by simp [Assignment.line]
  have separated : '=' ∈ a.line := by simp [Assignment.line]
  simp [entry?, strip, stripBy_of_endsKeep a.endsKeep_line, front, a.partitionEq_line,
    nonempty, separated, Assignment.entry,
    stripBy_of_endsKeep keyEnds, stripBy_of_endsKeep quoted, stripChars,
    stripBy_between (show [doubleQuote].contains doubleQuote by simp) doubleEnds,
    stripBy_of_endsKeep singleEnds]

/-- Reading assignments' lines into a dict that has none of their keys appends
their entries in order. -/
theorem readEnv_lines (assignments : List Assignment) (env : Dict String)
    (fresh : (env.keys ++ assignments.map fun a => a.entry.1).Nodup) :
    readEnv env (assignments.map Assignment.line) = env ++ assignments.map Assignment.entry := by
  induction assignments generalizing env with
  | nil => simp [readEnv]
  | cons a rest ih =>
      have absent : a.entry.1 ∉ env.keys := fun mem =>
        (List.nodup_append.mp fresh).2.2 mem (.head _)
      rw [List.map_cons, readEnv, a.entry?_line]
      show readEnv (env.insert a.entry.1 a.entry.2) _ = _
      rw [Dict.insert_of_not_mem_keys _ _ absent, ih]
      · simp
      · simpa [Dict.keys, List.append_assoc] using fresh

/-- A file written as `KEY="VALUE"` lines, one per assignment, with distinct
keys, is read back as exactly those assignments, in order. -/
theorem readEnv_render (assignments : List Assignment)
    (distinct : (assignments.map Assignment.key).Nodup) :
    readEnv [] (fileLines (render assignments)) = assignments.map Assignment.entry := by
  have plain : ∀ l ∈ assignments.map Assignment.line, NoBreak l := by
    simpa using fun a _ => a.noBreak_line
  have fresh : (Dict.keys ([] : Dict String) ++ assignments.map fun a => a.entry.1).Nodup := by
    simpa [Dict.keys, Assignment.entry, List.map_map] using
      distinct.map fun _ _ same => congrArg String.data same
  have lines : (assignments.map fun a => a.line ++ ['\n']) =
      (assignments.map Assignment.line).map (· ++ ['\n']) := by simp
  rw [render, lines, fileLines_terminated _ plain, readEnv_lines _ [] fresh]
  rfl

/-- The bot token, with spaces kept by the quotes, and the guild id. -/
def credentialAssignments : List Assignment :=
  [⟨"DISCORD_BOT_TOKEN".toList, " abc ".toList, by decide, by decide⟩,
    ⟨"DISCORD_GUILD_ID".toList, "42".toList, by decide, by decide⟩]

theorem readEnv_render_credentials :
    (credentialAssignments.map Assignment.key).Nodup ∧
      readEnv [] (fileLines (render credentialAssignments)) =
        [("DISCORD_BOT_TOKEN", " abc "), ("DISCORD_GUILD_ID", "42")] :=
  ⟨by decide, (readEnv_render credentialAssignments (by decide)).trans rfl⟩

/-- The line printed for a missing file. -/
def notFound (path : String) : String := "ERROR: .env file not found at " ++ path

end Env

/-! ## The loaders -/

namespace Discord

open Env Text

/-- `load_env(path)` of `setup_discord.py`. -/
def loadEnv (path : String) : Option (List Char) → Outcome (Dict String)
  | none => ([notFound path], .error (.exit 1))
  | some text => ([], .ok (readEnv [] (fileLines text)))

/-- Whether `os.putenv(k, v)` raises: `OSError` for an empty name, `ValueError`
for a name holding `=` or for a NUL in the name or the value. -/
def putenvFails (k v : String) : Bool :=
  k == "" || k.toList.contains '=' || k.toList.contains '\x00' || v.toList.contains '\x00'

/-- `os.environ.setdefault(k, v)`: nothing when `k` is set, else `os.putenv`;
`none` where it raises. -/
def setDefault (environ : Dict String) (k v : String) : Option (Dict String) :=
  if environ.get? k = none then
    if putenvFails k v then none else some (environ.insert k v)
  else some environ

/-- `os.environ.setdefault(k, v)` for each `k, v` of the file, in order. -/
def setDefaults (environ : Dict String) : Dict String → Option (Dict String)
  | [] => some environ
  | (k, v) :: rest => (setDefault environ k v).bind fun environ => setDefaults environ rest

/-- The line printed when the token is missing. -/
def tokenUnset : String := "ERROR: DISCORD_BOT_TOKEN is not set in .env or environment."

/-- The line printed when the guild id is missing. -/
def guildUnset : String := "ERROR: DISCORD_GUILD_ID is not set in .env or environment."

/-- `load_credentials()` without `python-dotenv`, in the process environment
`environ`, with the `.env` file at `envPath`. -/
def loadCredentials (envPath : String) (environ : Dict String) (file : Option (List Char)) :
    Outcome (String × String) :=
  match loadEnv envPath file with
  | (printed, .error h) => (printed, .error h)
  | (printed, .ok envVars) =>
      match setDefaults environ envVars with
      | none => (printed, .error .raised)
      | some environ =>
          let token := (environ.get? "DISCORD_BOT_TOKEN").getD ""
          let guildId := (environ.get? "DISCORD_GUILD_ID").getD ""
          if token = "" then (printed ++ [tokenUnset], .error (.exit 1))
          else if guildId = "" then (printed ++ [guildUnset], .error (.exit 1))
          else (printed, .ok (token, guildId))

example : (loadCredentials ".env" [] (some "=x\nDISCORD_BOT_TOKEN=a\nDISCORD_GUILD_ID=1\n".toList)).2 =
    .error .raised :=
  rfl

/-- Every variable of the file that the process environment lacks has a name and
a value `os.putenv` accepts. -/
def PutsCleanly (environ fileVars : Dict String) : Prop :=
  ∀ kv ∈ fileVars, environ.get? kv.1 = none → putenvFails kv.1 kv.2 = false

/-- After the `setdefault` loop a variable holds the process environment's
value when it had one, else the file's. -/
theorem get?_setDefaults (fileVars : Dict String) (name : String) :
    ∀ environ environ', setDefaults environ fileVars = some environ' →
      environ'.get? name = (environ.get? name).or (fileVars.get? name) := by
  induction fileVars with
  | nil => simp [setDefaults]
  | cons entry rest ih =>
      obtain ⟨k, v⟩ := entry
      intro environ environ' ran
      simp only [setDefaults, setDefault] at ran
      rw [Dict.get?_cons]
      split_ifs at ran with unset fails
      · cases ran
      · rw [ih _ _ ran]
        by_cases same : k = name
        · subst same
          simp [unset]
        · simp [same, Dict.get?_insert_of_ne _ _ same]
      · rw [ih _ _ ran]
        by_cases same : k = name
        · subst same
          obtain ⟨w, found⟩ := Option.ne_none_iff_exists'.mp unset
          simp [found]
        · simp [same]

/-- On a file whose names are distinct, the `setdefault` loop raises exactly
when a variable the process environment lacks has a name or a value `os.putenv`
refuses. -/
theorem setDefaults_isSome_iff (fileVars : Dict String) (distinct : fileVars.keys.Nodup) :
    ∀ environ, (setDefaults environ fileVars).isSome ↔ PutsCleanly environ fileVars := by
  induction fileVars with
  | nil => simp [setDefaults, PutsCleanly]
  | cons entry rest ih =>
      obtain ⟨k, v⟩ := entry
      obtain ⟨fresh, distinct'⟩ := List.nodup_cons.mp distinct
      intro environ
      have later : ∀ kv ∈ rest, kv.1 ≠ k := fun kv mem same =>
        fresh (same ▸ (List.mem_map_of_mem Prod.fst mem : kv.1 ∈ Dict.keys rest))
      simp only [PutsCleanly, List.forall_mem_cons] at ih ⊢
      by_cases unset : environ.get? k = none
      · by_cases fails : putenvFails k v
        · simp [setDefaults, setDefault, unset, fails]
        · simp only [setDefaults, setDefault, unset, fails, if_true, Bool.false_eq_true, if_false,
            Option.some_bind, ih distinct', true_implies, true_and]
          refine forall₂_congr fun kv mem => ?_
          rw [Dict.get?_insert_of_ne _ _ (later kv mem).symm]
      · simp only [setDefaults, setDefault, unset, if_false, Option.some_bind, ih distinct',
          false_implies, true_and]

/-- What `load_credentials` reads for the variable `name`: the process
environment's value when the variable is set there, even to `""`; else the
file's; else `""`. -/
def resolved (environ fileVars : Dict String) (name : String) : String :=
  ((environ.get? name).or (fileVars.get? name)).getD ""

theorem getD_setDefaults {environ environ' fileVars : Dict String}
    (ran : setDefaults environ fileVars = some environ') (name : String) :
    (environ'.get? name).getD "" = resolved environ fileVars name := by
  rw [get?_setDefaults _ name environ environ' ran, resolved]

theorem nodup_keys_insert {d : Dict String} (distinct : d.keys.Nodup) (key value : String) :
    (d.insert key value).keys.Nodup := by
  by_cases present : key ∈ d.keys
  · rwa [Dict.keys_insert_of_mem _ _ present]
  · rw [Dict.keys_insert_of_not_mem _ _ present]
    exact List.nodup_append.mpr ⟨distinct, List.nodup_singleton _, fun a old new =>
      present (List.mem_singleton.mp new ▸ old)⟩

/-- The file's names are distinct: a later line replaces an earlier one. -/
theorem nodup_keys_readEnv (lines : List (List Char)) :
    ∀ env : Dict String, env.keys.Nodup → (readEnv env lines).keys.Nodup := by
  induction lines with
  | nil => exact fun _ => id
  | cons raw rest ih =>
      intro env distinct
      unfold readEnv
      split
      · exact ih _ (nodup_keys_insert distinct _ _)
      · exact ih _ distinct

/-- With the file present, `load_credentials` returns the two variables when
the `setdefault` loop goes through and both resolve, the process environment
first. -/
theorem loadCredentials_resolved (envPath : String) (environ : Dict String) (text : List Char)
    (clean : PutsCleanly environ (readEnv [] (fileLines text)))
    (tokenSet : resolved environ (readEnv [] (fileLines text)) "DISCORD_BOT_TOKEN" ≠ "")
    (guildSet : resolved environ (readEnv [] (fileLines text)) "DISCORD_GUILD_ID" ≠ "") :
    (loadCredentials envPath environ (some text)).2 =
      .ok (resolved environ (readEnv [] (fileLines text)) "DISCORD_BOT_TOKEN",
        resolved environ (readEnv [] (fileLines text)) "DISCORD_GUILD_ID") := by
  obtain ⟨environ', ran⟩ := Option.isSome_iff_exists.mp
    ((setDefaults_isSome_iff _ (nodup_keys_readEnv _ [] List.nodup_nil) environ).mpr clean)
  simp only [loadCredentials, loadEnv, ran, getD_setDefaults ran, tokenSet, guildSet, if_false]

end Discord

namespace Bridge

open Env Text

/-- The variables the bridge's `load_env` requires. -/
def required : List String :=
  ["DISCORD_BOT_TOKEN", "DISCORD_GUILD_ID", "TELEGRAM_BOT_TOKEN", "TELEGRAM_CHAT_ID"]

/-- `k not in env or not env[k]`. -/
def unset (env : Dict String) (k : String) : Bool :=
  match env.get? k with
  | none => true
  | some v => v == ""

/-- `load_env()` of `discord_telegram_bridge.py`, with the `.env` file at
`envPath`. -/
def loadEnv (envPath : String) : Option (List Char) → Outcome (Dict String)
  | none => ([notFound envPath], .error (.exit 1))
  | some text =>
      let env := readEnv [] (fileLines text)
      let missing := required.filter (unset env)
      if missing.isEmpty then ([], .ok env)
      else (("ERROR: Missing required .env variables: " ++ ", ".intercalate missing) ::
          "Add them to your .env file:" :: missing.map (fun k => "  " ++ k ++ "=your-value-here"),
        .error (.exit 1))

theorem loadEnv_ok_iff (envPath : String) (file : Option (List Char)) (env : Dict String) :
    (loadEnv envPath file).2 = .ok env ↔
      ∃ text, file = some text ∧ env = readEnv [] (fileLines text) ∧
        ∀ k ∈ required, unset env k = false := by
  cases file with
  | none => simp [loadEnv]
  | some text =>
      simp only [loadEnv, Option.some.injEq, exists_eq_left']
      generalize readEnv [] (fileLines text) = read
      split_ifs with complete <;>
        simp only [List.isEmpty_iff, List.filter_eq_nil_iff, Bool.not_eq_true] at complete
      · exact ⟨fun same => Except.ok.inj same ▸ ⟨rfl, complete⟩, fun ⟨same, _⟩ => same ▸ rfl⟩
      · simp only [reduceCtorEq, false_iff, not_and]
        rintro rfl filled
        exact complete fun k mem => filled k mem

/-- A variable the bridge finds set, as `load_credentials` reads it from the
file. -/
theorem resolved_of_unset_false {environ env : Dict String} {name : String}
    (notHere : environ.get? name = none) (filled : unset env name = false) :
    Discord.resolved environ env name = (env.get? name).getD "" ∧
      (env.get? name).getD "" ≠ "" := by
  unfold unset at filled
  split at filled <;> simp_all [Discord.resolved]

/-- The two scripts read the same Discord credentials from one `.env` file:
when the bridge accepts the file, the process environment sets neither Discord
variable and takes every variable of the file it lacks, `load_credentials`
returns the token and the guild id the bridge read.  The bridge reads the file
only, so a variable set in the process environment can make the two differ. -/
theorem loadEnv_discord_credentials (envPath : String) (environ : Dict String)
    (file : Option (List Char)) (env : Dict String)
    (accepted : (loadEnv envPath file).2 = .ok env)
    (notHere : environ.get? "DISCORD_BOT_TOKEN" = none ∧ environ.get? "DISCORD_GUILD_ID" = none)
    (clean : Discord.PutsCleanly environ env) :
    (Discord.loadCredentials envPath environ file).2 =
      .ok ((env.get? "DISCORD_BOT_TOKEN").getD "", (env.get? "DISCORD_GUILD_ID").getD "") := by
  obtain ⟨text, rfl, rfl, filled⟩ := (loadEnv_ok_iff envPath file env).mp accepted
  obtain ⟨token, tokenSet⟩ :=
    resolved_of_unset_false notHere.1 (filled "DISCORD_BOT_TOKEN" (by simp [required]))
  obtain ⟨guild, guildSet⟩ :=
    resolved_of_unset_false notHere.2 (filled "DISCORD_GUILD_ID" (by simp [required]))
  rw [Discord.loadCredentials_resolved envPath environ text clean (token ▸ tokenSet) (guild ▸ guildSet), token,
    guild]

/-- A file with the four variables, the chat id quoted. -/
def bridgeFile : List Char :=
  "DISCORD_BOT_TOKEN=abc\nDISCORD_GUILD_ID=42\nTELEGRAM_BOT_TOKEN=t\nTELEGRAM_CHAT_ID=\x27-100\x27\n".toList

theorem loadEnv_discord_credentials_bridgeFile :
    (loadEnv ".env" (some bridgeFile)).2 = .ok (readEnv [] (fileLines bridgeFile)) ∧
      (Dict.get? ([] : Dict String) "DISCORD_BOT_TOKEN" = none ∧
        Dict.get? ([] : Dict String) "DISCORD_GUILD_ID" = none) ∧
      Discord.PutsCleanly [] (readEnv [] (fileLines bridgeFile)) ∧
      (Discord.loadCredentials ".env" [] (some bridgeFile)).2 = .ok ("abc", "42") :=
  have clean : Discord.PutsCleanly [] (readEnv [] (fileLines bridgeFile)) := by
    unfold Discord.PutsCleanly
    decide
  ⟨rfl, ⟨rfl, rfl⟩, clean, (loadEnv_discord_credentials ".env" [] (some bridgeFile)
    (readEnv [] (fileLines bridgeFile)) rfl ⟨rfl, rfl⟩ clean).trans rfl⟩

end Bridge
end Rill
