/-!
# Blank characters

The characters with the Unicode property of white space, and the text without them at both ends. A
text is what is left of it with blanks on either side (`exists_blanks_around_trim`), and if there
are no blanks in what stands between blanks, that is left (`trim_append_blanks`).
-/

namespace TrustRoot.Text

def blankRanges : List (Nat × Nat) :=
  [(9, 13), (32, 32), (133, 133), (160, 160), (5760, 5760), (8192, 8202), (8232, 8233),
    (8239, 8239), (8287, 8287), (12288, 12288)]

def isBlank (character : Char) : Bool :=
  blankRanges.any fun (first, last) => first ≤ character.toNat && character.toNat ≤ last

def trimEnd (characters : List Char) : List Char :=
  (characters.reverse.dropWhile isBlank).reverse

def trim (characters : List Char) : List Char := trimEnd (characters.dropWhile isBlank)

/-- Nothing but blanks. -/
def Blank (characters : List Char) : Prop := ∀ character ∈ characters, isBlank character = true

theorem blank_takeWhile (characters : List Char) : Blank (characters.takeWhile isBlank) :=
  List.all_eq_true.mp List.all_takeWhile

theorem exists_blanks_around_trim (characters : List Char) :
    ∃ before after, characters = before ++ trim characters ++ after ∧ Blank before ∧
      Blank after := by
  let rest := characters.dropWhile isBlank
  refine ⟨characters.takeWhile isBlank, (rest.reverse.takeWhile isBlank).reverse, ?_,
    blank_takeWhile characters, ?_⟩
  · have back : trimEnd rest ++ (rest.reverse.takeWhile isBlank).reverse = rest := by
      rw [trimEnd, ← List.reverse_append, List.takeWhile_append_dropWhile, List.reverse_reverse]
    rw [List.append_assoc, trim, back, List.takeWhile_append_dropWhile]
  · intro character member
    exact blank_takeWhile _ character (List.mem_reverse.mp member)

/-- Only the blanks in front are dropped. -/
theorem dropWhile_append_of_blank {before characters : List Char} (blank : Blank before)
    (nonempty : characters ≠ []) (solid : ∀ character ∈ characters, isBlank character = false)
    (after : List Char) :
    (before ++ (characters ++ after)).dropWhile isBlank = characters ++ after := by
  rw [List.dropWhile_append_of_pos blank]
  cases characters with
  | nil => exact absurd rfl nonempty
  | cons first rest => simp [solid first List.mem_cons_self]

theorem trim_append_blanks {before characters after : List Char} (blankBefore : Blank before)
    (blankAfter : Blank after) (nonempty : characters ≠ [])
    (solid : ∀ character ∈ characters, isBlank character = false) :
    trim (before ++ characters ++ after) = characters := by
  have blankReverse : Blank after.reverse := fun character member =>
    blankAfter character (List.mem_reverse.mp member)
  have solidReverse : ∀ character ∈ characters.reverse, isBlank character = false :=
    fun character member => solid character (List.mem_reverse.mp member)
  have back := dropWhile_append_of_blank blankReverse
    (mt List.reverse_eq_nil_iff.mp nonempty) solidReverse []
  rw [List.append_nil] at back
  rw [List.append_assoc, trim, dropWhile_append_of_blank blankBefore nonempty solid, trimEnd,
    List.reverse_append, back, List.reverse_reverse]

end TrustRoot.Text
