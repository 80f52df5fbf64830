import TrustRoot.Proofs.Json.Reading
import TrustRoot.Proofs.Json.Tree

/-!
# Trees without a value

A numeral out of range stops the reader wherever it stands, so what is made of a text depends on
its tree alone: the value of the tree if there is one (`parse_of_isTextOf`), and a fault otherwise
(`exists_parse_eq_error`).  As with reading, one level of nesting is treated at a time, and rows
are followed up to the first element that is refused.
-/

namespace TrustRoot.Json

theorem itemsValues?_eq_mapM (items : List Tree) :
    Tree.itemsValues? items = items.mapM Tree.value? := by
  induction items with
  | nil => rfl
  | cons item items ih => rw [Tree.itemsValues?, ih, List.mapM_cons]

theorem membersValues?_eq_mapM (members : List (String × Tree)) :
    Tree.membersValues? members = members.mapM (memberOutcome Tree.value?) := by
  induction members with
  | nil => rfl
  | cons member members ih =>
      rw [Tree.membersValues?, ih, List.mapM_cons, memberOutcome]
      cases member.2.value? <;> rfl

theorem WritesScalar.begins {text : Bytes} {tree : Tree} (written : WritesScalar text tree) :
    Begins text := by
  cases written with
  | null | boolTrue | boolFalse | string => exact ⟨_, _, rfl, by decide⟩
  | number isNumeral =>
      obtain ⟨first, others, split, starts⟩ := isNumeral.starts
      obtain ⟨-, -, -, -, notClose, -, -, visible⟩ := numeral_start starts
      exact ⟨first, others, split, visible, notClose⟩

theorem Writes.begins {order : Arrangement} {depth : Nat} {text : Bytes} {tree : Tree}
    (written : Writes order depth text tree) : Begins text := by
  cases depth with
  | zero => exact WritesScalar.begins written
  | succ depth =>
      cases written with
      | scalar written => exact written.begins
      | array row => exact ⟨_, _, rfl, by decide⟩
      | object arranged row => exact ⟨_, _, rfl, by decide⟩

/-- Of all scalars only a numeral may have no value, and then it is refused. -/
theorem readValue_scalar_error (depth : Nat) {text : Bytes} {tree : Tree}
    (written : WritesScalar text tree) (refused : tree.value? = none) {gap rest : Bytes}
    (blank : Blank gap) (ends : Ends rest) :
    ∃ fault, readValue depth (gap ++ (text ++ rest)) = .error fault := by
  cases written with
  | null | boolTrue | boolFalse | string => cases refused
  | number isNumeral =>
      have numberYields := yields_readNumber isNumeral ends
      rw [Option.map_eq_none_iff.mp refused] at numberYields
      obtain ⟨first, others, rfl, starts⟩ := isNumeral.starts
      obtain ⟨notNull, notTrue, notFalse, notQuote, -, notArray, notObject, visible⟩ :=
        numeral_start starts
      obtain ⟨shorter, found⟩ :=
        nextOctet?_of_blank blank visible (others ++ rest) (Nat.le_refl _)
      obtain ⟨fault, numberRefused⟩ := numberYields
      refine ⟨fault, ?_⟩
      have scalar : readScalar first (others ++ rest) = .error fault := by
        rw [List.cons_append] at numberRefused
        rw [readScalar, if_neg notNull, if_neg notTrue, if_neg notFalse, if_neg notQuote,
          if_pos starts]
        simp only [numberRefused]
      cases depth <;>
        · rw [readValue]
          simp only [List.cons_append, found, notArray, notObject, or_self, if_false, scalar]

/-- Whether members have values does not depend on their order. -/
theorem membersValues?_eq_none_of_perm {listed members : List (String × Tree)}
    (perm : listed.Perm members) (refused : Tree.membersValues? members = none) :
    Tree.membersValues? listed = none := by
  rw [Option.eq_none_iff_forall_ne_some] at refused ⊢
  intro values stand
  obtain ⟨arranged, aligned, -⟩ :=
    List.perm_comp_forall₂ perm.symm (Tree.membersValues?_eq_some_iff.mp stand)
  exact refused arranged (Tree.membersValues?_eq_some_iff.mpr aligned)

/-- A text of a tree with different names at a depth. -/
def WritesDistinct (depth : Nat) (text : Bytes) (tree : Tree) : Prop :=
  Writes List.Perm depth text tree ∧ tree.Distinct

/-- A reader refuses every text of a tree without a value. -/
def RefusesAll (reader : ValueReader) (writes : Bytes → Tree → Prop) : Prop :=
  ∀ {text : Bytes} {tree : Tree}, writes text tree → tree.value? = none →
    ∀ {gap rest : Bytes}, Blank gap → Ends rest →
      ∃ fault, reader (gap ++ (text ++ rest)) = .error fault

/-- Trees with values are read, so that only the others need to be refused. -/
theorem RefusesAll.yieldsAll {depth : Nat}
    (refuses : RefusesAll (readValue depth) (WritesDistinct depth)) :
    YieldsAll (readValue depth) (WritesDistinct depth) Tree.value? := by
  intro text tree written gap rest blank ends
  cases stands : tree.value? with
  | none => exact refuses written stands blank ends
  | some value =>
      exact readValue_of_spells depth (spells_of_writes written.1 written.2 stands) blank ends

theorem refusesAll_readValue (depth : Nat) :
    RefusesAll (readValue depth) (WritesDistinct depth) := by
  induction depth with
  | zero =>
      rintro text tree ⟨written, -⟩ refused gap rest blank ends
      exact readValue_scalar_error 0 written refused blank ends
  | succ depth ih =>
      rintro text tree ⟨written, distinct⟩ refused gap rest blank ends
      have begins text tree (written : WritesDistinct depth text tree) : Begins text :=
        written.1.begins
      cases written with
      | scalar written => exact readValue_scalar_error (depth + 1) written refused blank ends
      | @array inner items row =>
          have bracket : isBlank 0x5B = false := by decide
          obtain ⟨shorter, found⟩ :=
            nextOctet?_of_blank blank bracket (inner ++ rest) (Nat.le_refl _)
          have distinctRow : SpellsRow 0x5D (WritesDistinct depth) inner items := by
            apply row.imp
            intro text item listed written
            exact ⟨written, Tree.everyItem_iff.mp distinct item listed⟩
          have yields := yields_readItems ih.yieldsAll begins distinctRow rest (Nat.le_refl _)
          rw [← itemsValues?_eq_mapM, Option.map_eq_none_iff.mp refused] at yields
          obtain ⟨fault, rowRefused⟩ := yields
          refine ⟨fault, ?_⟩
          rw [readValue]
          simp only [List.cons_append, found, true_or, if_true, rowRefused]
      | @object inner listed members arranged row =>
          have brace : isBlank 0x7B = false ∧ (0x7B : UInt8) ≠ 0x5B := by decide
          obtain ⟨shorter, found⟩ :=
            nextOctet?_of_blank blank brace.1 (inner ++ rest) (Nat.le_refl _)
          have distinctRow : SpellsRow 0x7D (SpellsMember (WritesDistinct depth)) inner listed := by
            apply row.imp
            rintro text member inText ⟨spelled, blank, blankBefore, written⟩
            have memberDistinct :=
              Tree.everyMember_iff.mp distinct.2 _ (arranged.mem_iff.mp inText)
            exact .mk spelled blank blankBefore ⟨written, memberDistinct⟩
          have yields := yields_readMembers ih.yieldsAll distinctRow rest (Nat.le_refl _)
          have listedRefused :=
            membersValues?_eq_none_of_perm arranged (Option.map_eq_none_iff.mp refused)
          rw [← membersValues?_eq_mapM, listedRefused] at yields
          obtain ⟨fault, rowRefused⟩ := yields
          refine ⟨fault, ?_⟩
          rw [readValue]
          simp only [List.cons_append, found, or_true, if_true, brace.2, if_false, rowRefused]

/-! ## Whole texts -/

/-- A text of a tree is parsed as the value of the tree. -/
theorem parse_of_isTextOf {text : Bytes} {tree : Tree} (isText : IsTextOf text tree)
    (distinct : tree.Distinct) {value : Json} (stands : tree.value? = some value) :
    parse text = .ok value := by
  obtain ⟨before, inner, after, rfl, blankBefore, written, blankAfter⟩ := isText
  exact parse_of_spells blankBefore (spells_of_writes written distinct stands) blankAfter

/-- A text of a tree without a value is refused. -/
theorem exists_parse_eq_error {text : Bytes} {tree : Tree} (isText : IsTextOf text tree)
    (distinct : tree.Distinct) (refused : tree.value? = none) :
    ∃ report, parse text = .error report := by
  obtain ⟨before, inner, after, rfl, blankBefore, written, blankAfter⟩ := isText
  have ends : Ends after := by
    simpa using ends_append blankAfter ends_nil
  obtain ⟨fault, valueRefused⟩ :=
    refusesAll_readValue depthLimit ⟨written, distinct⟩ refused blankBefore ends
  have whole : readWhole (before ++ (inner ++ after)) = .error fault := by
    rw [readWhole]
    simp only [valueRefused]
  rw [parse, whole]
  exact ⟨_, rfl⟩

end TrustRoot.Json
