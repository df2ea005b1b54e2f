/-
**White space.**

The characters with the Unicode property White_Space, and the removal of such characters from both
ends of a text. Names in the settings file are compared after `trimmed`.

* `trimmed_of_no_blank`: a text without blanks at its ends is left alone.
* `trimmed_eq_iff`: **trimming leaves what stands between the blanks.**
-/

namespace SensorCape.Text

/-- The characters with the Unicode property White_Space. -/
def isBlank (c : Char) : Bool :=
  let code := c.toNat
  (0x09 ≤ code && code ≤ 0x0D) || code == 0x20 || code == 0x85 || code == 0xA0 ||
    code == 0x1680 || (0x2000 ≤ code && code ≤ 0x200A) || code == 0x2028 || code == 0x2029 ||
    code == 0x202F || code == 0x205F || code == 0x3000

/-- The characters left after blanks are removed from both ends. -/
def trimmed (text : List Char) : List Char :=
  ((text.dropWhile isBlank).reverse.dropWhile isBlank).reverse

/-- A text whose first and last characters are not blank is left alone. -/
theorem trimmed_of_no_blank (text : List Char)
    (first : text.head?.all (!isBlank ·) = true) (last : text.getLast?.all (!isBlank ·) = true) :
    trimmed text = text := by
  have kept : ∀ cs : List Char, cs.head?.all (!isBlank ·) = true → cs.dropWhile isBlank = cs := by
    intro cs h
    cases cs with
    | nil => rfl
    | cons c rest => simp_all
  rw [trimmed, kept text first, kept text.reverse (by simpa using last), List.reverse_reverse]

/-! ### Between the blanks -/

/-- A text is a core with blanks around it, and the core neither begins nor ends with one. -/
structure Encloses (text core : List Char) : Prop where
  around : ∃ before after, text = before ++ core ++ after ∧ (∀ c ∈ before, isBlank c = true) ∧
    ∀ c ∈ after, isBlank c = true
  first : core.head?.all (!isBlank ·) = true
  last : core.getLast?.all (!isBlank ·) = true

section Enclosing

variable {text before after core : List Char}

theorem trimmed_append_left (blank : ∀ c ∈ before, isBlank c = true) :
    trimmed (before ++ text) = trimmed text := by
  rw [trimmed, List.dropWhile_append_of_pos blank, ← trimmed]

theorem trimmed_append_right (blank : ∀ c ∈ after, isBlank c = true) :
    trimmed (text ++ after) = trimmed text := by
  have gone : after.dropWhile isBlank = [] := by
    have all : (after ++ []).dropWhile isBlank = [] := List.dropWhile_append_of_pos blank
    rwa [List.append_nil] at all
  rw [trimmed, trimmed, List.dropWhile_append]
  split
  next nothing => rw [gone, List.isEmpty_iff.mp nothing]
  next =>
    rw [List.reverse_append, List.dropWhile_append_of_pos]
    exact fun c member => blank c (List.mem_reverse.mp member)

/-- Removing blanks at the end takes nothing else away. -/
theorem trimmed_append_blanks (text : List Char) :
    trimmed text ++ ((text.dropWhile isBlank).reverse.takeWhile isBlank).reverse =
      text.dropWhile isBlank := by
  rw [trimmed, ← List.reverse_append, List.takeWhile_append_dropWhile, List.reverse_reverse]

theorem head?_dropWhile_isBlank (text : List Char) :
    (text.dropWhile isBlank).head?.all (!isBlank ·) = true := by
  have first := List.head?_dropWhile_not isBlank text
  cases left : (text.dropWhile isBlank).head? with
  | none => rfl
  | some c =>
    rw [left] at first
    simp [first]

theorem encloses_trimmed (text : List Char) : Encloses text (trimmed text) where
  around := by
    have blank (cs : List Char) : ∀ c ∈ cs.takeWhile isBlank, isBlank c = true :=
      List.all_eq_true.mp List.all_takeWhile
    refine ⟨text.takeWhile isBlank, ((text.dropWhile isBlank).reverse.takeWhile isBlank).reverse, ?_,
      blank text, fun c member => blank _ c (List.mem_reverse.mp member)⟩
    rw [List.append_assoc, trimmed_append_blanks, List.takeWhile_append_dropWhile]
  first := by
    have first := head?_dropWhile_isBlank text
    rw [← trimmed_append_blanks] at first
    cases left : trimmed text with
    | nil => rfl
    | cons c rest => rwa [left] at first
  last := by
    rw [trimmed, List.getLast?_reverse]
    exact head?_dropWhile_isBlank _

/-- **Trimming leaves what stands between the blanks.** -/
theorem trimmed_eq_iff : trimmed text = core ↔ Encloses text core := by
  constructor
  · rintro rfl
    exact encloses_trimmed text
  · rintro ⟨⟨before, after, rfl, left, right⟩, first, last⟩
    rw [trimmed_append_right right, trimmed_append_left left, trimmed_of_no_blank core first last]

end Enclosing

end SensorCape.Text
