/-! White space in names and values: the characters that Unicode calls white space, together with
the four information separators. -/

namespace DesignTokens.Text

def isBlank (c : Char) : Bool :=
  let code := c.toNat
  (0x09 ≤ code && code ≤ 0x0D) || (0x1C ≤ code && code ≤ 0x20) || code == 0x85 || code == 0xA0 ||
  code == 0x1680 || (0x2000 ≤ code && code ≤ 0x200A) || code == 0x2028 || code == 0x2029 ||
  code == 0x202F || code == 0x205F || code == 0x3000

/-- Drops the characters with a property from the end. -/
def trimEndBy (drops : Char → Bool) (text : List Char) : List Char :=
  (text.reverse.dropWhile drops).reverse

/-- Drops the characters with a property from both ends. -/
def trimBy (drops : Char → Bool) (text : List Char) : List Char :=
  trimEndBy drops (text.dropWhile drops)

/-- A text without the white space around it. -/
def trim (text : String) : String :=
  String.ofList (trimBy isBlank text.toList)

/-- Neither end of a text has the property. -/
structure Trimmed (drops : Char → Bool) (text : List Char) : Prop where
  first : ∀ c ∈ text.head?, drops c = false
  last : ∀ c ∈ text.getLast?, drops c = false

variable {drops : Char → Bool} {text more : List Char}

private theorem dropWhile_of_first (stays : ∀ c ∈ text.head?, drops c = false) :
    text.dropWhile drops = text := by
  cases text with
  | nil => rfl
  | cons c rest => exact List.dropWhile_cons_of_neg (by simp [stays c rfl])

theorem Trimmed.trimBy_eq (trimmed : Trimmed drops text) : trimBy drops text = text := by
  have turned : ∀ c ∈ text.reverse.head?, drops c = false := by
    rw [List.head?_reverse]
    exact trimmed.last
  rw [trimBy, dropWhile_of_first trimmed.first, trimEndBy, dropWhile_of_first turned, List.reverse_reverse]

private theorem first_dropWhile (drops : Char → Bool) (text : List Char) :
    ∀ c ∈ (text.dropWhile drops).head?, drops c = false := by
  intro c member
  have stopped := List.head?_dropWhile_not drops text
  rw [Option.mem_def.mp member] at stopped
  exact stopped

/-- Trimming the end leaves the first character, unless it leaves nothing. -/
theorem first_trimEnd (drops : Char → Bool) (text : List Char) :
    ∀ c ∈ (trimEndBy drops text).head?, c ∈ text.head? := by
  intro c member
  have kept : (trimEndBy drops text).IsPrefix text := by
    simpa [trimEndBy] using (List.dropWhile_suffix drops (l := text.reverse)).reverse
  obtain ⟨dropped, whole⟩ := kept
  rw [← whole, List.head?_append, Option.mem_def.mp member]
  rfl

private theorem trimmed_trimBy (drops : Char → Bool) (text : List Char) :
    Trimmed drops (trimBy drops text) where
  first c member := first_dropWhile drops text c (first_trimEnd drops _ c member)
  last := by
    rw [trimBy, trimEndBy, List.getLast?_reverse]
    exact first_dropWhile drops _

/-- A text with a suffix is trimmed if the end of the suffix does not have the property. -/
theorem Trimmed.append (trimmed : Trimmed drops text) (filled : text ≠ [])
    (ends : ∀ c ∈ more.getLast?, drops c = false) : Trimmed drops (text ++ more) where
  first := by
    rw [List.head?_append, Option.or_of_isSome (List.isSome_head?.mpr filled)]
    exact trimmed.first
  last := by
    intro c member
    rw [List.getLast?_append, Option.mem_def, Option.or_eq_some_iff] at member
    rcases member with suffix | ⟨-, whole⟩
    · exact ends c suffix
    · exact trimmed.last c whole

theorem trimmed_trim (text : String) : Trimmed isBlank (trim text).toList := by
  rw [trim, String.toList_ofList]
  exact trimmed_trimBy isBlank text.toList

theorem trim_of_trimmed {text : String} (trimmed : Trimmed isBlank text.toList) : trim text = text := by
  rw [trim, trimmed.trimBy_eq, String.ofList_toList]

end DesignTokens.Text
