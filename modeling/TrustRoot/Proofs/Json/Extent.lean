import TrustRoot.Json.Writer
import TrustRoot.Proofs.Dict
import TrustRoot.Proofs.Text.Utf8

/-!
# How long texts are

The text of an object is as long as its members are together, apart from what encloses them.  So it
grows with every new member (`extent_lt_insert_of_absent`) and as much as the value of each
(`extent_insert_of_held`).
-/

namespace TrustRoot.Json

/-- The number of octets in the text of a value that begins at nesting level `level`. -/
def extent (layout : Layout) (level : Nat) (value : Json) : Nat :=
  (utf8 (chars layout level value)).length

/-- The number of octets in which members are written after others. -/
def membersExtent (layout : Layout) (level : Nat) (members : List (String × Json)) : Nat :=
  (utf8 (membersChars layout level members)).length

theorem length_ofText_render (layout : Layout) (value : Json) :
    (Bytes.ofText (value.render layout)).length = value.extent layout 0 := by
  rw [render_eq, Bytes.ofText_ofList, extent]

variable (layout : Layout) (level : Nat)

theorem membersExtent_cons (member : String × Json) (rest : List (String × Json)) :
    membersExtent layout level (member :: rest) =
      membersExtent layout level [member] + membersExtent layout level rest := by
  simp only [membersExtent, membersChars, utf8_append, utf8_nil, List.length_append,
    List.length_nil]
  omega

theorem length_utf8_cons {character : Char} (ascii : character.toNat < 128) (rest : List Char) :
    (utf8 (character :: rest)).length = (utf8 rest).length + 1 := by
  rw [utf8_cons_of_ascii ascii, List.length_cons]

theorem membersExtent_singleton (name : String) (value : Json) :
    membersExtent layout level [(name, value)] =
      1 + (utf8 (layout.newLine level)).length + (utf8 (stringChars layout.asciiOnly name)).length +
        (utf8 layout.colon).length + value.extent layout level := by
  have comma := length_utf8_cons (by decide : ','.toNat < 128) (layout.newLine level)
  simp only [membersExtent, membersChars, extent, utf8_append, utf8_nil, List.length_append,
    List.length_nil, comma]
  omega

/-- A brace takes the place of the comma in front of the first member. -/
theorem extent_object {members : List (String × Json)} (nonempty : members ≠ []) :
    extent layout level (.object members) =
      membersExtent layout (level + 1) members + (utf8 (layout.newLine level)).length + 1 := by
  obtain ⟨⟨name, value⟩, rest, rfl⟩ := List.exists_cons_of_ne_nil nonempty
  have comma := length_utf8_cons (by decide : ','.toNat < 128) (layout.newLine (level + 1))
  have opening := length_utf8_cons (by decide : '{'.toNat < 128) (layout.newLine (level + 1))
  have closing := length_utf8_cons (by decide : '}'.toNat < 128) []
  simp only [membersExtent, extent, membersChars, chars, utf8_append, List.length_append, comma,
    opening, closing, utf8_nil, List.length_nil]

/-- A member adds its own octets and takes away those of the member that it replaces. -/
theorem membersExtent_insertEntry (name : String) (value : Json) {members : List (String × Json)}
    (ascending : KeysAscend members) :
    membersExtent layout level (insertEntry name value members) +
        (findEntry name members).elim 0 (fun held => membersExtent layout level [(name, held)]) =
      membersExtent layout level [(name, value)] + membersExtent layout level members := by
  induction members with
  | nil => rfl
  | cons head rest ih =>
      obtain ⟨other, held⟩ := head
      obtain ⟨below, restAscends⟩ := List.pairwise_cons.mp ascending
      have split := membersExtent_cons layout level (other, held) rest
      rw [insertEntry]
      split
      · rename_i first
        have absent : findEntry name ((other, held) :: rest) = none :=
          findEntry_eq_none_of_below (List.forall_mem_cons.mpr
            ⟨first, fun entry listed => String.lt_trans first (below entry listed)⟩)
        rw [absent, membersExtent_cons]
        rfl
      · split
        · rename_i same
          subst same
          rw [findEntry, if_pos rfl, Option.elim_some,
            membersExtent_cons layout level (name, value), split]
          omega
        · rename_i different
          rw [findEntry, if_neg different, membersExtent_cons, split, Nat.add_assoc, ih restAscends]
          omega

/-- The text of an object grows with a new member. -/
theorem extent_lt_insert_of_absent {members : Dict Json} {name : String}
    (absent : members.get? name = none) (value : Json) :
    (ofDict members).extent layout level <
      (ofDict (members.insert name value)).extent layout level := by
  have added := membersExtent_insertEntry layout (level + 1) name value members.ascending
  have own := membersExtent_singleton layout (level + 1) name value
  have grown := extent_object layout level (insertEntry_ne_nil name value members.entries)
  have absent : findEntry name members.entries = none := absent
  rw [absent, Option.elim_none, Nat.add_zero] at added
  rw [ofDict, ofDict, Dict.insert, grown, added]
  by_cases empty : members.entries = []
  · have quoted : 0 < (utf8 (stringChars layout.asciiOnly name)).length := by
      simp [stringChars, utf8_cons_of_ascii]
    have braces : (object []).extent layout level = 2 := rfl
    rw [empty, braces]
    omega
  · rw [extent_object layout level empty]
    omega

/-- The text of an object gains the octets of a new value for a member and loses those of the value
that it replaces. -/
theorem extent_insert_of_held {members : Dict Json} {name : String} {held : Json}
    (found : members.get? name = some held) (value : Json) :
    (ofDict (members.insert name value)).extent layout level + held.extent layout (level + 1) =
      (ofDict members).extent layout level + value.extent layout (level + 1) := by
  have replaced := membersExtent_insertEntry layout (level + 1) name value members.ascending
  have before := membersExtent_singleton layout (level + 1) name held
  have after := membersExtent_singleton layout (level + 1) name value
  have found : findEntry name members.entries = some held := found
  have nonempty : members.entries ≠ [] := by
    intro empty
    rw [empty] at found
    cases found
  rw [found, Option.elim_some] at replaced
  rw [ofDict, ofDict, Dict.insert, extent_object layout level nonempty,
    extent_object layout level (insertEntry_ne_nil name value members.entries)]
  omega

end TrustRoot.Json
