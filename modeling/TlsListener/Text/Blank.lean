/-!
# Blank characters and trimming

A blank is a character with the Unicode property White_Space, a closed list of twenty-five
characters. Names of protocol versions and store types are compared after blanks at both ends have
been cut off, and a store location made of blanks counts as absent.

The main statements say that trimming leaves no blank at either end, changes nothing in a text that
has none there, and hence changes nothing a second time.
-/

namespace TlsListener.Text

/-- The characters with the property White_Space. -/
def isBlank (c : Char) : Bool :=
  let n := c.toNat
  (9 ≤ n && n ≤ 13) || n == 0x20 || n == 0x85 || n == 0xA0 || n == 0x1680 ||
    (0x2000 ≤ n && n ≤ 0x200A) || n == 0x2028 || n == 0x2029 || n == 0x202F || n == 0x205F ||
    n == 0x3000

/-- Cut the blanks off the end of a list of characters. -/
def dropBlankEnd (cs : List Char) : List Char :=
  (cs.reverse.dropWhile isBlank).reverse

/-- Cut the blanks off both ends of a list of characters. -/
def trimChars (cs : List Char) : List Char :=
  dropBlankEnd (cs.dropWhile isBlank)

/-- Cut the blanks off both ends of a text. -/
def trim (s : String) : String :=
  String.ofList (trimChars s.toList)

/-- A text is blank when nothing is left of it after trimming. -/
def allBlank (s : String) : Bool :=
  (trim s).isEmpty

@[simp] theorem toList_trim (s : String) : (trim s).toList = trimChars s.toList := by
  simp [trim]

/-- Dropping from the front what is not there changes nothing. -/
theorem dropWhile_eq_self {p : Char → Bool} {cs : List Char} (h : ∀ c ∈ cs.head?, p c = false) :
    cs.dropWhile p = cs := by
  cases cs with
  | nil => rfl
  | cons c cs => simp [List.dropWhile, h c (by simp)]

/-- What remains after dropping does not begin with a dropped character. -/
theorem head?_dropWhile {p : Char → Bool} {cs : List Char} :
    ∀ c ∈ (cs.dropWhile p).head?, p c = false := by
  induction cs with
  | nil => simp
  | cons d cs ih =>
    by_cases hd : p d
    · simpa [List.dropWhile, hd] using ih
    · simp [List.dropWhile, hd]

theorem getLast?_dropBlankEnd (cs : List Char) :
    ∀ c ∈ (dropBlankEnd cs).getLast?, isBlank c = false := by
  intro c hc
  rw [dropBlankEnd, List.getLast?_reverse] at hc
  exact head?_dropWhile c hc

theorem dropBlankEnd_eq_self {cs : List Char} (h : ∀ c ∈ cs.getLast?, isBlank c = false) :
    dropBlankEnd cs = cs := by
  rw [dropBlankEnd, dropWhile_eq_self (by simpa using h), List.reverse_reverse]

/-- Cutting the end does not change how a text begins, unless nothing remains. -/
theorem head?_dropBlankEnd {cs : List Char} (h : ∀ c ∈ cs.head?, isBlank c = false) :
    ∀ c ∈ (dropBlankEnd cs).head?, isBlank c = false := by
  intro c hc
  obtain ⟨tail, htail⟩ := List.dropWhile_suffix isBlank (l := cs.reverse)
  have hsplit : cs = dropBlankEnd cs ++ tail.reverse := by
    rw [dropBlankEnd, ← List.reverse_append, htail, List.reverse_reverse]
  refine h c ?_
  rw [hsplit]
  cases hd : dropBlankEnd cs with
  | nil => simp [hd] at hc
  | cons d ds => simpa [hd] using hc

/-- A trimmed text neither begins nor ends with a blank. -/
theorem trimChars_ends (cs : List Char) :
    (∀ c ∈ (trimChars cs).head?, isBlank c = false) ∧
      ∀ c ∈ (trimChars cs).getLast?, isBlank c = false :=
  ⟨head?_dropBlankEnd head?_dropWhile, getLast?_dropBlankEnd _⟩

/-- A text without blanks at its ends is its own trimmed form. -/
theorem trimChars_eq_self {cs : List Char} (hh : ∀ c ∈ cs.head?, isBlank c = false)
    (hl : ∀ c ∈ cs.getLast?, isBlank c = false) : trimChars cs = cs := by
  rw [trimChars, dropWhile_eq_self hh, dropBlankEnd_eq_self hl]

@[simp] theorem trimChars_trimChars (cs : List Char) : trimChars (trimChars cs) = trimChars cs :=
  trimChars_eq_self (trimChars_ends cs).1 (trimChars_ends cs).2

@[simp] theorem trim_trim (s : String) : trim (trim s) = trim s := by
  simp [trim]

end TlsListener.Text
