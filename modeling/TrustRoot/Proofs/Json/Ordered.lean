import TrustRoot.Json.Reader
import TrustRoot.Proofs.Json.Shape

/-!
# Order and depth of what is read

Members come out in order at every level, in whatever order they were written, and nothing comes out
that is deeper than reading goes.  What holds of every value that the inner reader accepts holds of
all the elements of a row, since the elements read so far are carried along; what holds of a tree
then goes up level by level (`forall_of_readValue`).
-/

namespace TrustRoot.Json

section Rows

variable {reader : ValueReader} {property : Json → Prop} {bound : Nat} {text : Bytes}
  {fits : text.length ≤ bound}

theorem forall_of_readItems
    (inside : ∀ {text parsed}, reader text = .ok parsed → property parsed.value)
    {read : List Json} {parsed : Parsed (List Json) bound} (before : ∀ item ∈ read, property item)
    (done : readItems reader bound read text fits = .ok parsed) :
    ∀ item ∈ parsed.value, property item := by
  -- Reading goes well at the end of the row, with the first item and with a later one.
  fun_induction readItems reader bound read text fits with
  | case2 =>
      cases done
      intro item listed
      exact before item (List.mem_reverse.mp listed)
  | case4 =>
      rename_i accepted _ ih
      exact ih (List.forall_mem_cons.mpr ⟨inside accepted, before⟩) done
  | case8 =>
      rename_i accepted _ _ _ ih
      exact ih (List.forall_mem_cons.mpr ⟨inside accepted, before⟩) done
  | _ => cases done

theorem value_of_readMember
    (inside : ∀ {text parsed}, reader text = .ok parsed → property parsed.value) {text : Bytes}
    {parsed : Parsed (String × Json) text.length} (done : readMember reader text = .ok parsed) :
    property parsed.value.2 := by
  unfold readMember at done
  split at done
  · cases done
  split at done
  · cases done
  split at done
  · split at done
    · cases done
    · rename_i accepted
      cases done
      exact inside accepted
  · cases done

theorem forall_of_readMembers
    (inside : ∀ {text parsed}, reader text = .ok parsed → property parsed.value)
    {read : List (String × Json)} {parsed : Parsed (List (String × Json)) bound}
    (before : ∀ member ∈ read, property member.2)
    (done : readMembers reader bound read text fits = .ok parsed) :
    ∀ member ∈ parsed.value, property member.2 := by
  fun_induction readMembers reader bound read text fits with
  | case2 =>
      cases done
      intro member listed
      exact before member (List.mem_reverse.mp listed)
  | case4 =>
      rename_i accepted _ _ _ ih
      exact ih (List.forall_mem_cons.mpr ⟨value_of_readMember inside accepted, before⟩) done
  | case8 =>
      rename_i accepted _ _ _ _ ih
      exact ih (List.forall_mem_cons.mpr ⟨value_of_readMember inside accepted, before⟩) done
  | _ => cases done

end Rows

/-! ## Levels -/

/-- A value without values inside. -/
def IsScalar : Json → Prop
  | .array _ | .object _ => False
  | _ => True

theorem isScalar_of_readScalar {octet : UInt8} {rest : Bytes}
    {parsed : Parsed Json (octet :: rest).length} (done : readScalar octet rest = .ok parsed) :
    parsed.value.IsScalar := by
  have constant (value : Json) {expected : Bytes} {parsed : Parsed Json (rest.length + 1)}
      (scalar : value.IsScalar) (done : readConstant expected value rest = .ok parsed) :
      parsed.value.IsScalar := by
    unfold readConstant at done
    split at done <;> cases done
    exact scalar
  unfold readScalar at done
  split at done
  · exact constant .null trivial done
  split at done
  · exact constant (.bool true) trivial done
  split at done
  · exact constant (.bool false) trivial done
  split at done
  · split at done <;> cases done
    trivial
  split at done
  · split at done <;> cases done
    trivial
  · cases done

/-- What goes up from the values inside to the arrays and objects one level above. -/
structure Rises (property : Nat → Json → Prop) : Prop where
  scalar : ∀ depth value, value.IsScalar → property depth value
  array : ∀ depth items, (∀ item ∈ items, property depth item) → property (depth + 1) (.array items)
  object : ∀ depth (members : Dict Json), (∀ member ∈ members.entries, property depth member.2) →
    property (depth + 1) (.ofDict members)

variable {property : Nat → Json → Prop}

theorem forall_of_readValue (rises : Rises property) (depth : Nat) {text : Bytes}
    {parsed : Parsed Json text.length} (done : readValue depth text = .ok parsed) :
    property depth parsed.value := by
  induction depth generalizing text with
  | zero =>
      unfold readValue at done
      split at done
      · cases done
      split at done
      · cases done
      · split at done
        · cases done
        · rename_i accepted
          cases done
          exact rises.scalar 0 _ (isScalar_of_readScalar accepted)
  | succ depth ih =>
      unfold readValue at done
      split at done
      · cases done
      split at done
      · dsimp only at done
        split at done
        · split at done
          · cases done
          · rename_i accepted
            cases done
            exact rises.array depth _ (forall_of_readItems ih (by simp) accepted)
        · split at done
          · cases done
          · rename_i accepted
            cases done
            have inside := forall_of_readMembers ih (by simp) accepted
            exact rises.object depth _ fun member listed =>
              inside member (Dict.mem_of_mem_ofList listed)
      · split at done
        · cases done
        · rename_i accepted
          cases done
          exact rises.scalar (depth + 1) _ (isScalar_of_readScalar accepted)

theorem forall_of_parse (rises : Rises property) {text : Bytes} {value : Json}
    (read : parse text = .ok value) : property depthLimit value := by
  unfold parse readWhole at read
  split at read
  · rename_i whole
    cases read
    split at whole
    · cases whole
    · rename_i accepted
      split at whole <;> cases whole
      exact forall_of_readValue rises depthLimit accepted
  · cases read

theorem rises_ordered : Rises fun _ value => value.Ordered where
  scalar _ value scalar := by cases value <;> trivial
  array _ _ inside := itemsOrdered_iff.mpr inside
  object _ members inside := ⟨members.ascending, membersOrdered_iff.mpr inside⟩

/-- What is read from a text has its members in order at every level. -/
theorem ordered_of_parse {text : Bytes} {value : Json} (read : parse text = .ok value) :
    value.Ordered :=
  forall_of_parse rises_ordered read

theorem rises_depth : Rises fun bound value => value.depth ≤ bound where
  scalar _ value scalar := by cases value <;> simp_all [IsScalar, depth]
  array _ _ inside := Nat.succ_le_succ (itemsDepth_le_iff.mpr inside)
  object _ _ inside := Nat.succ_le_succ (membersDepth_le_iff.mpr inside)

/-- What is read from a text is no deeper than reading goes. -/
theorem depth_of_parse {text : Bytes} {value : Json} (read : parse text = .ok value) :
    value.depth ≤ depthLimit :=
  forall_of_parse rises_depth read

end TrustRoot.Json
