/-!
# Blanks and trimming

A *blank* is a character with the Unicode property `White_Space`: twenty-five characters, of which
only six are ASCII. Test lists are trimmed of blanks, so the set decides what may stand around a
test's name.

`trim` takes blanks off both ends and nothing else: what is left neither starts nor ends with a
blank (`not_isBlank_of_mem_head?_trim`, `not_isBlank_of_mem_getLast?_trim`), what is taken off is
blank (`exists_trim`), and a text without a blank at either end is left as it is (`trim_eq_self`).
-/

namespace Assay.Text

/-- The characters with the Unicode property `White_Space`: the ASCII blanks, the next-line
control, and the spaces and separators beyond ASCII. -/
def isBlank (c : Char) : Bool :=
  let n := c.toNat
  (0x9 ≤ n && n ≤ 0xD) || n == 0x20 || n == 0x85 || n == 0xA0 || n == 0x1680 ||
    (0x2000 ≤ n && n ≤ 0x200A) || n == 0x2028 || n == 0x2029 || n == 0x202F ||
    n == 0x205F || n == 0x3000

/-- Every character that core counts as white space is a blank. -/
theorem isBlank_of_isWhitespace {c : Char} (h : c.isWhitespace = true) : isBlank c = true := by
  simp only [Char.isWhitespace, Bool.or_eq_true, decide_eq_true_eq] at h
  rcases h with ((rfl | rfl) | rfl) | rfl <;> decide

/-- The text without the blanks it starts with. -/
def trimStart (s : List Char) : List Char := s.dropWhile isBlank

/-- The text without the blanks it ends with. -/
def trimEnd (s : List Char) : List Char := (s.reverse.dropWhile isBlank).reverse

/-- The text without the blanks at its two ends. -/
def trim (s : List Char) : List Char := trimEnd (trimStart s)

/-! ### What is left after trimming -/

/-- What is left behind the blanks in front does not start with one. -/
theorem not_isBlank_of_mem_head?_trimStart {s : List Char} {c : Char}
    (h : c ∈ (trimStart s).head?) : isBlank c = false := by
  have := List.head?_dropWhile_not isBlank s
  rw [trimStart, Option.mem_def] at h
  simpa [h] using this

/-- What is left in front of the blanks at the end does not end with one. -/
theorem not_isBlank_of_mem_getLast?_trimEnd {s : List Char} {c : Char}
    (h : c ∈ (trimEnd s).getLast?) : isBlank c = false := by
  rw [trimEnd, List.getLast?_reverse] at h
  exact not_isBlank_of_mem_head?_trimStart h

/-- What is left does not end with a blank. -/
theorem not_isBlank_of_mem_getLast?_trim {s : List Char} {c : Char}
    (h : c ∈ (trim s).getLast?) : isBlank c = false :=
  not_isBlank_of_mem_getLast?_trimEnd h

/-- Blanks are taken off the end, so what is left is a beginning of the text. -/
theorem trimEnd_isPrefix (s : List Char) : trimEnd s <+: s := by
  have := List.reverse_prefix.2 (List.dropWhile_suffix isBlank (l := s.reverse))
  rwa [List.reverse_reverse] at this

/-- Trimming adds nothing. -/
theorem mem_of_mem_trim {s : List Char} {c : Char} (h : c ∈ trim s) : c ∈ s := by
  have hstart : c ∈ trimStart s := (trimEnd_isPrefix (trimStart s)).subset h
  exact (List.dropWhile_suffix isBlank).subset hstart

/-- What is left does not start with a blank. -/
theorem not_isBlank_of_mem_head?_trim {s : List Char} {c : Char}
    (h : c ∈ (trim s).head?) : isBlank c = false := by
  obtain ⟨rest, hrest⟩ := trimEnd_isPrefix (trimStart s)
  refine not_isBlank_of_mem_head?_trimStart (s := s) ?_
  rw [← hrest]
  rw [trim] at h
  cases ht : trimEnd (trimStart s) with
  | nil => simp [ht] at h
  | cons d later => simpa [ht] using h

/-- A text that does not start with a blank has none taken off its front. -/
theorem trimStart_eq_self {s : List Char} (h : ∀ c ∈ s.head?, isBlank c = false) :
    trimStart s = s := by
  cases s with
  | nil => rfl
  | cons c s => simp [trimStart, h c rfl]

/-- A text that does not end with a blank has none taken off its end. -/
theorem trimEnd_eq_self {s : List Char} (h : ∀ c ∈ s.getLast?, isBlank c = false) :
    trimEnd s = s := by
  have : s.reverse.dropWhile isBlank = s.reverse :=
    trimStart_eq_self (fun c hc => h c (by simpa using hc))
  simp [trimEnd, this]

/-- A text with no blank at either end is not changed. -/
theorem trim_eq_self {s : List Char} (first : ∀ c ∈ s.head?, isBlank c = false)
    (last : ∀ c ∈ s.getLast?, isBlank c = false) : trim s = s := by
  rw [trim, trimStart_eq_self first, trimEnd_eq_self last]

/-! ### What is taken off -/

/-- Blanks put in front of a text are taken off with those it starts with. -/
theorem trimStart_append_of_blank {before : List Char} (h : ∀ c ∈ before, isBlank c = true)
    (s : List Char) : trimStart (before ++ s) = trimStart s :=
  List.dropWhile_append_of_pos h

/-- Nothing is left of blanks. -/
theorem trimStart_of_blank {s : List Char} (h : ∀ c ∈ s, isBlank c = true) : trimStart s = [] := by
  have := trimStart_append_of_blank h []
  rwa [List.append_nil] at this

/-- Blanks put behind a text are taken off with those it ends with. -/
theorem trimEnd_append_of_blank {after : List Char} (h : ∀ c ∈ after, isBlank c = true)
    (s : List Char) : trimEnd (s ++ after) = trimEnd s := by
  rw [trimEnd, List.reverse_append,
    List.dropWhile_append_of_pos fun c hc => h c (List.mem_reverse.mp hc), trimEnd]

/-- Blanks in front of a text make no difference to what trimming leaves. -/
theorem trim_append_left {before : List Char} (h : ∀ c ∈ before, isBlank c = true)
    (s : List Char) : trim (before ++ s) = trim s := by
  rw [trim, trimStart_append_of_blank h, trim]

/-- Blanks behind a text make no difference to what trimming leaves. -/
theorem trim_append_right {after : List Char} (h : ∀ c ∈ after, isBlank c = true)
    (s : List Char) : trim (s ++ after) = trim s := by
  unfold trim
  by_cases hs : trimStart s = []
  · have hstart : trimStart (s ++ after) = trimStart after := by
      unfold trimStart at hs ⊢
      rw [List.dropWhile_append, hs]
      rfl
    rw [hstart, trimStart_of_blank h, hs]
  · have hstart : trimStart (s ++ after) = trimStart s ++ after := by
      unfold trimStart at hs ⊢
      rw [List.dropWhile_append, if_neg (mt List.isEmpty_iff.mp hs)]
    rw [hstart, trimEnd_append_of_blank h]

/-- Trimming takes off nothing but blanks. -/
theorem exists_trim (s : List Char) :
    ∃ before after, (∀ c ∈ before, isBlank c = true) ∧ (∀ c ∈ after, isBlank c = true) ∧
      s = before ++ trim s ++ after := by
  have blank_of_mem_takeWhile (t : List Char) : ∀ c ∈ t.takeWhile isBlank, isBlank c = true :=
    List.all_eq_true.mp List.all_takeWhile
  refine ⟨s.takeWhile isBlank, ((trimStart s).reverse.takeWhile isBlank).reverse,
    blank_of_mem_takeWhile s, ?_, ?_⟩
  · intro c hc
    exact blank_of_mem_takeWhile _ c (List.mem_reverse.mp hc)
  · rw [trim, trimEnd, List.append_assoc, ← List.reverse_append, List.takeWhile_append_dropWhile,
      List.reverse_reverse, trimStart, List.takeWhile_append_dropWhile]

/-- Nothing is left of blanks, and of blanks only. -/
theorem trim_eq_nil_iff {s : List Char} : trim s = [] ↔ ∀ c ∈ s, isBlank c = true := by
  constructor
  · intro h
    obtain ⟨before, after, hbefore, hafter, hs⟩ := exists_trim s
    rw [h, List.append_nil] at hs
    rw [hs]
    exact fun c hc => (List.mem_append.mp hc).elim (hbefore c) (hafter c)
  · intro h
    have := trim_append_right h []
    rwa [List.nil_append] at this

end Assay.Text
