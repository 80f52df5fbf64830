import Mathlib.Logic.Function.Basic
import TrustRoot.Proofs.Document.Reading

/-!
# Reading through slots

The values of all fields can also be put aside first, each in the slot of its field together with
its kind, and then be taken out by the kind that is asked for.  A slot may then be empty when its
value is asked for, or hold a value of another kind.  Neither comes up, because every value is put
aside under the kind of its field and asked for once (`throughSlots_eq`).
-/

namespace TrustRoot.Document

/-- A value together with its kind. -/
structure Slot where
  kind : Kind
  value : kind.Value

/-- The values that have been put aside and not been taken out. -/
abbrev Slots := Field → Option Slot

namespace Slots

inductive Fault where
  | refused (error : Error)
  /-- The value of a field has been taken out before. -/
  | alreadyTaken (field : Field)
  /-- The value of a field is of another kind than is asked for. -/
  | otherKind (field : Field)

/-- The slots with the values of fields put aside, each under the kind of its field. -/
def fill (object : Dict Json) : List Field → Slots → Except Error Slots
  | [], slots => .ok slots
  | field :: fields, slots => do
    let value ← readField object field
    fill object fields (Function.update slots field (some ⟨field.kind, value⟩))

/-- The value of a field, of the kind that is asked for. -/
def take (kind : Kind) (field : Field) : StateT Slots (Except Fault) kind.Value := fun slots =>
  match slots field with
  | none => .error (.alreadyTaken field)
  | some slot =>
    if same : slot.kind = kind then .ok (same ▸ slot.value, Function.update slots field none)
    else .error (.otherKind field)

def refuse {α : Type} (result : Except Error α) : Except Fault α := result.mapError .refused

end Slots

open Slots in
/-- The document of the values that have been put aside. -/
def takeDocument : StateT Slots (Except Fault) Document := do
  let coreAses ← refuse (Dict.traverse (← take .map .coreAses) readCoreKeys)
  let signatures ← refuse (Dict.traverse (← take .map .signatures) readSignature)
  let isd ← refuse (narrow16 .isd (← take .integer .isd))
  let description ← take .text .description
  let version ← take .integer .version
  let creationTime ← take .integer .creationTime
  let rootCas ← take .map .rootCas
  let pkiLogs ← take .map .pkiLogs
  let quorumEepki ← refuse (narrow32 .quorumEepki (← take .integer .quorumEepki))
  let rootRainsKey ← take .octets .rootRainsKey
  let quorumOwnTrc ← refuse (narrow32 .quorumOwnTrc (← take .integer .quorumOwnTrc))
  let quorumCas ← refuse (narrow32 .quorumCas (← take .integer .quorumCas))
  let quarantine ← take .boolean .quarantine
  let gracePeriod ← take .integer .gracePeriod
  refuse (check {
    isd := isd, description := description, version := version, creationTime := creationTime
    coreAses := coreAses, rootCas := rootCas, pkiLogs := pkiLogs, quorumEepki := quorumEepki
    rootRainsKey := rootRainsKey, quorumOwnTrc := quorumOwnTrc, quorumCas := quorumCas
    quarantine := quarantine, signatures := signatures, gracePeriod := gracePeriod })

/-- The document that an object writes, by way of slots. -/
def throughSlots (object : Dict Json) : Except Slots.Fault Document := do
  Slots.refuse (checkNames object)
  let slots ← Slots.refuse (Slots.fill object Field.all fun _ => none)
  takeDocument.run' slots

theorem refuse_bind {α β : Type} (first : Except Error α) (next : α → Except Error β) :
    Slots.refuse (first >>= next) =
      Slots.refuse first >>= fun value => Slots.refuse (next value) := by
  cases first <;> rfl

/-! ## One slot after the other -/

/-- The slots of all fields after some values have been taken out. -/
def Slots.without (values : (field : Field) → field.kind.Value) (taken : List Field) : Slots :=
  fun field => if field ∈ taken then none else some ⟨field.kind, values field⟩

section

variable {values : (field : Field) → field.kind.Value} {taken : List Field} {α β : Type}

/-- A value that has not been taken out before is there, and of the kind of its field. -/
theorem run_take (field : Field) (left : field ∉ taken) :
    (Slots.take field.kind field).run (Slots.without values taken) =
      .ok (values field, Slots.without values (field :: taken)) := by
  have held : Slots.without values taken field = some ⟨field.kind, values field⟩ := if_neg left
  have removed : Function.update (Slots.without values taken) field none =
      Slots.without values (field :: taken) := by
    funext other
    by_cases same : other = field <;> simp [Slots.without, same]
  simp only [StateT.run, Slots.take, held, removed, dite_true]

theorem run'_take_bind (field : Field) (left : field ∉ taken)
    {next : field.kind.Value → StateT Slots (Except Slots.Fault) α} :
    (Slots.take field.kind field >>= next).run' (Slots.without values taken) =
      (next (values field)).run' (Slots.without values (field :: taken)) := by
  rw [StateT.run'_eq, StateT.run_bind, run_take field left]
  rfl

theorem run'_refuse_bind {slots : Slots} {result : Except Error α}
    {next : α → StateT Slots (Except Slots.Fault) β} :
    (liftM (Slots.refuse result) >>= next).run' slots =
      Slots.refuse result >>= fun value => (next value).run' slots := by
  cases result <;> rfl

end

theorem run'_takeDocument (values : (field : Field) → field.kind.Value) :
    takeDocument.run' (Slots.without values []) = Slots.refuse (assemble values) := by
  simp only [assemble, refuse_bind]
  unfold takeDocument
  refine (run'_take_bind .coreAses (by decide)).trans <| run'_refuse_bind.trans ?_
  refine bind_congr fun coreAses => ?_
  refine (run'_take_bind .signatures (by decide)).trans <| run'_refuse_bind.trans ?_
  refine bind_congr fun signatures => ?_
  refine (run'_take_bind .isd (by decide)).trans <| run'_refuse_bind.trans ?_
  refine bind_congr fun isd => ?_
  refine (run'_take_bind .description (by decide)).trans ?_
  refine (run'_take_bind .version (by decide)).trans ?_
  refine (run'_take_bind .creationTime (by decide)).trans ?_
  refine (run'_take_bind .rootCas (by decide)).trans ?_
  refine (run'_take_bind .pkiLogs (by decide)).trans ?_
  refine (run'_take_bind .quorumEepki (by decide)).trans <| run'_refuse_bind.trans ?_
  refine bind_congr fun quorumEepki => ?_
  refine (run'_take_bind .rootRainsKey (by decide)).trans ?_
  refine (run'_take_bind .quorumOwnTrc (by decide)).trans <| run'_refuse_bind.trans ?_
  refine bind_congr fun quorumOwnTrc => ?_
  refine (run'_take_bind .quorumCas (by decide)).trans <| run'_refuse_bind.trans ?_
  refine bind_congr fun quorumCas => ?_
  refine (run'_take_bind .quarantine (by decide)).trans ?_
  refine (run'_take_bind .gracePeriod (by decide)).trans ?_
  generalize check _ = checked
  cases checked <;> rfl

/-! ## All slots -/

theorem fill_eq_ok {object : Dict Json} {values : (field : Field) → field.kind.Value}
    (read : ∀ field, readField object field = .ok (values field)) (fields : List Field)
    (slots : Slots) :
    Slots.fill object fields slots = .ok fun field =>
      if field ∈ fields then some ⟨field.kind, values field⟩ else slots field := by
  induction fields generalizing slots with
  | nil => simp [Slots.fill]
  | cons field fields ih =>
      rw [Slots.fill, read]
      change Slots.fill object fields _ = _
      rw [ih]
      congr 1
      funext other
      by_cases same : other = field
      · subst same
        simp
      · simp [same]

theorem fill_eq_error_iff {object : Dict Json} {fields : List Field} {slots : Slots}
    {error : Error} :
    Slots.fill object fields slots = .error error ↔
      (fields.forM fun field => (readField object field).map fun _ => ()) = .error error := by
  induction fields generalizing slots with
  | nil => simp [Slots.fill, List.forM, pure, Except.pure]
  | cons field fields ih =>
      change readField object field >>= _ = _ ↔ ((readField object field).map fun _ => ()) >>= _ = _
      cases readField object field with
      | error other => simp [Except.map, bind, Except.bind]
      | ok value => exact ih

/-- Reading through slots fails for the reasons of reading only. -/
theorem throughSlots_eq (object : Dict Json) :
    throughSlots object = (ofWire object).mapError Slots.Fault.refused := by
  unfold throughSlots
  cases names : checkNames object with
  | error error =>
      rw [ofWire, names]
      rfl
  | ok passed =>
      cases fields : checkFields object with
      | error error =>
          rw [ofWire_eq_error_of_checkFields names fields, fill_eq_error_iff.mpr fields]
          rfl
      | ok passed =>
          obtain ⟨values, read⟩ := checkFields_eq_ok_iff.mp fields
          have filled : Slots.fill object Field.all (fun _ => none) =
              .ok (Slots.without values []) := by
            rw [fill_eq_ok read]
            congr 1
            funext field
            simp [Field.mem_all, Slots.without]
          rw [filled, ofWire_eq_assemble names read]
          exact run'_takeDocument values

end TrustRoot.Document
