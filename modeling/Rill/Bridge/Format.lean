import Mathlib.Data.List.Count

/-!
# Formatting a message for Telegram

`format_for_telegram` of `discord_telegram_bridge.py`: a header naming the
source channel, then the message with every `"## "` turned into `"*"`, cut at
`max_len - 20` characters with a marker appended when it is longer than
`max_len = 4096 - len(header)`.  Texts are lists of characters: Python's `len`
counts code points, as the length of `String.toList` does.

The sections below bound the length of the result and count the delimiters of
Telegram's legacy Markdown in it: the heading conversion adds one `*` per
heading, so the result keeps the delimiters paired exactly when the message
has an even number of headings.
-/

namespace Rill
namespace Bridge

/-- `BRIDGE_CHANNELS`. -/
def bridgeChannels : List String := ["announcements", "dev-updates"]

/-- The header of `format_for_telegram`. -/
def header (channelName : String) : List Char :=
  if channelName = "announcements" then "📢 *RillCoin Announcement*\n\n".toList
  else if channelName = "dev-updates" then "🔧 *Dev Update*\n\n".toList
  else ("*#" ++ channelName ++ "*\n\n").toList

/-- `text.replace("## ", "*")`: Python scans from the left and replaces every
occurrence that does not overlap one it replaced before. -/
def replaceHeadings : List Char → List Char
  | '#' :: '#' :: ' ' :: rest => '*' :: replaceHeadings rest
  | c :: rest => c :: replaceHeadings rest
  | [] => []

/-- The number of occurrences `replaceHeadings` replaces. -/
def headings : List Char → Nat
  | '#' :: '#' :: ' ' :: rest => headings rest + 1
  | _ :: rest => headings rest
  | [] => 0

/-- The marker appended to a cut text. -/
def truncatedMarker : List Char := "\n\n_(truncated)_".toList

/-- Python's `xs[:stop]`: a negative `stop` counts from the end. -/
def sliceTo (xs : List Char) (stop : Int) : List Char :=
  if 0 ≤ stop then xs.take stop.toNat else xs.take (xs.length - stop.natAbs)

/-- `format_for_telegram(content, channel_name)`. -/
def formatForTelegram (content : List Char) (channelName : String) : List Char :=
  let header := header channelName
  let text := replaceHeadings content
  let maxLen : Int := 4096 - header.length
  let text := if maxLen < text.length then sliceTo text (maxLen - 20) ++ truncatedMarker else text
  header ++ text

/-! ## Length -/

theorem length_replaceHeadings_le (text : List Char) :
    (replaceHeadings text).length ≤ text.length := by
  induction text using replaceHeadings.induct with
  | case1 rest ih => simp only [replaceHeadings, List.length_cons]; omega
  | case2 c rest notHeading ih =>
      simpa [replaceHeadings.eq_2 _ _ notHeading] using ih
  | case3 => exact Nat.le_refl _

theorem length_header_le (bridge : channelName ∈ bridgeChannels) :
    (header channelName).length ≤ 27 := by
  simp only [bridgeChannels, List.mem_cons, List.mem_singleton, List.not_mem_nil, or_false]
    at bridge
  rcases bridge with rfl | rfl <;> decide

/-- A message from a bridged channel fits Telegram's limit once formatted. -/
theorem length_formatForTelegram_le (content : List Char) (bridge : channelName ∈ bridgeChannels) :
    (formatForTelegram content channelName).length ≤ 4096 := by
  have short := length_header_le bridge
  dsimp only [formatForTelegram]
  split
  · have kept : (sliceTo (replaceHeadings content)
        (4096 - (header channelName).length - 20)).length ≤ 4076 - (header channelName).length := by
      rw [sliceTo, if_pos (by omega)]
      exact Nat.le_trans (List.length_take_le _ _) (by omega)
    simp only [List.length_append, truncatedMarker]
    have : "\n\n_(truncated)_".toList.length = 15 := by decide
    omega
  · simp only [List.length_append]
    omega

/-- `length_formatForTelegram_le` for a heading from `#announcements`. -/
theorem length_formatForTelegram_le_heading :
    "announcements" ∈ bridgeChannels ∧
      (formatForTelegram "## Hi".toList "announcements").length ≤ 4096 :=
  ⟨by decide, length_formatForTelegram_le _ (by decide)⟩

/-! ## Markdown delimiters -/

/-- The delimiters of Telegram's legacy Markdown. -/
def delimiters : List Char := ['*', '_', '`']

/-- Every delimiter occurs an even number of times. -/
def Balanced (text : List Char) : Prop := ∀ c ∈ delimiters, text.count c % 2 = 0

instance : DecidablePred Balanced := fun text =>
  inferInstanceAs (Decidable (∀ c ∈ delimiters, text.count c % 2 = 0))

/-- Each conversion adds one `*`. -/
theorem count_star_replaceHeadings (text : List Char) :
    (replaceHeadings text).count '*' = text.count '*' + headings text := by
  induction text using replaceHeadings.induct with
  | case1 rest ih => simp [replaceHeadings, headings, ih]; omega
  | case2 c rest notHeading ih =>
      rw [replaceHeadings.eq_2 _ _ notHeading, headings.eq_2 _ _ notHeading]
      simp only [List.count_cons, ih]
      omega
  | case3 => rfl

/-- A character the conversion neither removes nor inserts keeps its count. -/
theorem count_replaceHeadings_of_ne {c : Char} (notStar : c ≠ '*') (notHash : c ≠ '#')
    (notSpace : c ≠ ' ') (text : List Char) :
    (replaceHeadings text).count c = text.count c := by
  induction text using replaceHeadings.induct with
  | case1 rest ih =>
      simp [replaceHeadings, List.count_cons, ih, Ne.symm notStar, Ne.symm notHash,
        Ne.symm notSpace]
  | case2 d rest notHeading ih =>
      rw [replaceHeadings.eq_2 _ _ notHeading]
      simp only [List.count_cons, ih]
  | case3 => rfl

theorem count_header (bridge : channelName ∈ bridgeChannels) :
    ∀ c ∈ delimiters, (header channelName).count c = if c = '*' then 2 else 0 := by
  simp only [bridgeChannels, List.mem_cons, List.mem_singleton, List.not_mem_nil, or_false]
    at bridge
  rcases bridge with rfl | rfl <;> decide

/-- When the message is not cut, the result of a bridged channel has its
delimiters paired exactly when the message had them paired and holds an even
number of headings. -/
theorem balanced_formatForTelegram_iff (bridge : channelName ∈ bridgeChannels)
    {content : List Char} (balanced : Balanced content)
    (fits : (header channelName).length + (replaceHeadings content).length ≤ 4096) :
    Balanced (formatForTelegram content channelName) ↔ headings content % 2 = 0 := by
  have uncut : formatForTelegram content channelName =
      header channelName ++ replaceHeadings content := by
    simp only [formatForTelegram]
    rw [if_neg (by omega)]
  have star := balanced '*' (by decide)
  have under := balanced '_' (by decide)
  have tick := balanced '`' (by decide)
  have headerCounts := count_header bridge
  simp only [Balanced, delimiters, List.mem_cons, List.mem_singleton, List.not_mem_nil,
    or_false, forall_eq_or_imp, forall_eq, uncut, List.count_append, count_star_replaceHeadings,
    count_replaceHeadings_of_ne (by decide : '_' ≠ '*') (by decide) (by decide),
    count_replaceHeadings_of_ne (by decide : '`' ≠ '*') (by decide) (by decide),
    headerCounts '*' (by decide), headerCounts '_' (by decide), headerCounts '`' (by decide)]
  simp only [if_true, if_neg (by decide : ('_' : Char) ≠ '*'), if_neg (by decide : ('`' : Char) ≠ '*')]
  omega

/-- `balanced_formatForTelegram_iff` for a heading from `#announcements`. -/
theorem balanced_formatForTelegram_iff_heading :
    "announcements" ∈ bridgeChannels ∧ Balanced "## Hi".toList ∧
      (header "announcements").length + (replaceHeadings "## Hi".toList).length ≤ 4096 ∧
      (Balanced (formatForTelegram "## Hi".toList "announcements") ↔
        headings "## Hi".toList % 2 = 0) :=
  ⟨by decide, by decide, by decide,
    balanced_formatForTelegram_iff (by decide) (by decide) (by decide)⟩

/-- A heading in a short message from `#announcements`: the result holds three
`*`. -/
theorem formatForTelegram_heading_unbalanced :
    Balanced "## Hi".toList ∧ ¬ Balanced (formatForTelegram "## Hi".toList "announcements") ∧
      formatForTelegram "## Hi".toList "announcements" = "📢 *RillCoin Announcement*\n\n*Hi".toList := by
  decide

end Bridge
end Rill
