import Mathlib.Data.List.DropRight

/-!
# Python text as the scripts read it

`str.strip`, with and without the characters to strip, and the lines a
`for line in fh` loop reads from a file opened in text mode.  Text is a list
of characters, as `str` is a sequence of code points.
-/

namespace Rill
namespace Text

/-- `str.isspace` of one character, the characters `str.strip()` removes: the
controls `\t` to `\r` and `\x1c` to `\x1f`, the space, and the Unicode spaces
and line and paragraph separators. -/
def isSpace (c : Char) : Bool :=
  let n := c.toNat
  decide ((9 ≤ n ∧ n ≤ 13) ∨ (28 ≤ n ∧ n ≤ 32) ∨ n = 0x85 ∨ n = 0xA0 ∨ n = 0x1680 ∨
    (0x2000 ≤ n ∧ n ≤ 0x200A) ∨ n = 0x2028 ∨ n = 0x2029 ∨ n = 0x202F ∨ n = 0x205F ∨
    n = 0x3000)

/-- `s.strip(chars)` with the characters to strip given as a test: drop them
from the front, then from the back. -/
def stripBy (drop : Char → Bool) (s : List Char) : List Char :=
  (s.dropWhile drop).rdropWhile drop

/-- `s.strip()`. -/
def strip (s : List Char) : List Char := stripBy isSpace s

/-- `s.strip(chars)`. -/
def stripChars (chars s : List Char) : List Char := stripBy chars.contains s

/-- Neither end of `s` passes `drop`, so stripping it changes nothing. -/
def EndsKeep (drop : Char → Bool) (s : List Char) : Prop :=
  (∀ c ∈ s.head?, drop c = false) ∧ ∀ c ∈ s.getLast?, drop c = false

instance (drop : Char → Bool) (s : List Char) : Decidable (EndsKeep drop s) :=
  inferInstanceAs (Decidable (_ ∧ _))

theorem EndsKeep.mono {drop drop' : Char → Bool} {s : List Char} (keep : EndsKeep drop s)
    (fewer : ∀ c, drop' c = true → drop c = true) : EndsKeep drop' s :=
  ⟨fun c mem => by simpa using mt (fewer c) (by simp [keep.1 c mem]),
    fun c mem => by simpa using mt (fewer c) (by simp [keep.2 c mem])⟩

theorem stripBy_of_endsKeep {drop : Char → Bool} {s : List Char} (keep : EndsKeep drop s) :
    stripBy drop s = s := by
  cases s with
  | nil => rfl
  | cons c rest =>
      rw [stripBy, List.dropWhile_cons_of_neg (by simp [keep.1 c rfl]),
        List.rdropWhile_eq_self_iff]
      intro nonempty
      simp [keep.2 _ (List.getLast?_eq_getLast _ nonempty)]

/-- Stripping a test from a text between two characters that pass it, whose
own ends pass none of it, gives the text. -/
theorem stripBy_between {drop : Char → Bool} {q : Char} (quote : drop q = true)
    {v : List Char} (keep : EndsKeep drop v) : stripBy drop (q :: (v ++ [q])) = v := by
  cases v with
  | nil => simp [stripBy, quote, List.rdropWhile]
  | cons c rest =>
      rw [stripBy, List.dropWhile_cons_of_pos quote, List.cons_append,
        List.dropWhile_cons_of_neg (by simp [keep.1 c rfl]), ← List.cons_append,
        List.rdropWhile_concat_pos _ _ _ quote, List.rdropWhile_eq_self_iff]
      intro nonempty
      simp [keep.2 _ (List.getLast?_eq_getLast _ nonempty)]

/-! ## Lines of a file -/

/-- The lines `for line in fh` reads, the current line begun (reversed) in
`line`: universal newlines end a line at `\n`, at `\r` and at `\r\n`, and
`afterCR` records that the last character was a `\r`.  A line is given without
its terminator, which the scripts strip anyway; text after the last terminator
is one more line. -/
def readLines (line : List Char) (afterCR : Bool) : List Char → List (List Char)
  | [] => if line.isEmpty then [] else [line.reverse]
  | c :: rest =>
      if c = '\n' then
        if afterCR then readLines [] false rest else line.reverse :: readLines [] false rest
      else if c = '\r' then line.reverse :: readLines [] true rest
      else readLines (c :: line) false rest

/-- The lines of a file whose text is `text`. -/
def fileLines (text : List Char) : List (List Char) := readLines [] false text

/-- No line break in `s`. -/
def NoBreak (s : List Char) : Prop := '\n' ∉ s ∧ '\r' ∉ s

instance (s : List Char) : Decidable (NoBreak s) := inferInstanceAs (Decidable (_ ∧ _))

/-- A line ended by `\n` is read whole. -/
theorem readLines_terminated {xs : List Char} (plain : NoBreak xs) (line rest : List Char) :
    readLines line false (xs ++ '\n' :: rest) = (line.reverse ++ xs) :: readLines [] false rest := by
  induction xs generalizing line with
  | nil => simp [readLines]
  | cons x xs ih =>
      simp only [NoBreak, List.mem_cons, not_or] at plain
      obtain ⟨⟨newline, more⟩, return_, more'⟩ := plain
      simp [readLines, Ne.symm newline, Ne.symm return_, ih ⟨more, more'⟩]

/-- A text of lines each ended by `\n` is read back line by line. -/
theorem fileLines_terminated (lines : List (List Char)) (plain : ∀ l ∈ lines, NoBreak l) :
    fileLines (lines.map (· ++ ['\n'])).flatten = lines := by
  induction lines with
  | nil => rfl
  | cons l ls ih =>
      simp only [List.map_cons, List.flatten_cons, List.append_assoc, List.singleton_append]
      rw [fileLines, readLines_terminated (plain l (.head _))]
      simpa using ih fun l' mem => plain l' (.tail _ mem)

end Text
end Rill
