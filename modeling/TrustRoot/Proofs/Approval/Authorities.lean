import Mathlib.Data.Finset.Card
import TrustRoot.Proofs.Approval.Decision

/-!
# Systems behind a quorum

A quorum counts identifiers, of which one autonomous system has many: its number may be written in
decimal or in groups, with zeros or a sign at the front.  A system that the reference lists under
several of them may count once for each.  So the systems behind a quorum are as many as required if
the reference lists every system once, and otherwise fall short by at most the identifiers that it
lists in excess of its systems.
-/

namespace TrustRoot

namespace AsIdentifier

/-- The autonomous systems that texts name; a text that is no identifier names none. -/
def named (names : List String) : Finset AsIdentifier :=
  (names.filterMap fun name => (parse name).toOption).toFinset

/-- Those of the texts that name a system. -/
def spellings (system : AsIdentifier) (names : List String) : List String :=
  names.filter fun name => (parse name).toOption = some system

theorem toOption_parse_eq_some_iff {name : String} {system : AsIdentifier} :
    (parse name).toOption = some system ↔ parse name = .ok system := by
  cases parse name <;> simp [Except.toOption]

theorem named_perm {first second : List String} (same : first.Perm second) :
    named first = named second :=
  List.toFinset_eq_of_perm _ _ (same.filterMap _)

theorem named_append (first second : List String) :
    named (first ++ second) = named first ∪ named second := by
  rw [named, List.filterMap_append, List.toFinset_append]
  rfl

theorem card_named_le (names : List String) : (named names).card ≤ names.length :=
  (List.toFinset_card_le _).trans (List.length_filterMap_le _ _)

/-- Different texts that name systems, no two of them the same one, name as many systems. -/
theorem card_named_of_distinct {names : List String} (different : names.Nodup)
    (identifiers : ∀ name ∈ names, ∃ system, parse name = .ok system)
    (distinct : ∀ name ∈ names, ∀ other ∈ names, parse name = parse other → name = other) :
    (named names).card = names.length := by
  have systems : (names.filterMap fun name => (parse name).toOption).Nodup := by
    apply List.pairwise_filterMap.mpr
    apply different.imp_of_mem
    intro name other listed listed' unequal system parsed system' parsed' same
    rw [toOption_parse_eq_some_iff] at parsed parsed'
    exact unequal (distinct name listed other listed' (by rw [parsed, parsed', same]))
  rw [named, List.toFinset_card_of_nodup systems, List.filterMap_length_eq_length]
  intro name listed
  obtain ⟨system, parsed⟩ := identifiers name listed
  rw [parsed]
  rfl

/-- Leaving out texts leaves out at most as many systems. -/
theorem card_named_add_length_le {kept names : List String} (part : kept.Subperm names) :
    (named names).card + kept.length ≤ (named kept).card + names.length := by
  obtain ⟨kept', same, within⟩ := part
  obtain ⟨others, parts⟩ := within.exists_perm_append
  calc
    (named names).card + kept.length
      = (named kept ∪ named others).card + kept.length := by
        rw [named_perm parts, named_append, named_perm same]
    _ ≤ (named kept).card + (named others).card + kept.length :=
        Nat.add_le_add_right (Finset.card_union_le _ _) _
    _ ≤ (named kept).card + others.length + kept.length :=
        Nat.add_le_add_right (Nat.add_le_add_left (card_named_le others) _) _
    _ = (named kept).card + names.length := by
        rw [parts.length_eq, List.length_append, same.length_eq]
        omega

end AsIdentifier

namespace Quorum

open AsIdentifier

variable {Key : Type} {scheme : SignatureScheme Key} {candidate reference : Document}

theorem Divides.nodup_valid {payload : Bytes} {counted : Tally}
    (divides : Divides scheme candidate reference payload counted) : counted.valid.Nodup :=
  (List.nodup_append.mp (List.nodup_append.mp divides.disjoint).1).1

/-- Valid signers are among the core systems of the reference. -/
theorem Divides.valid_subperm {payload : Bytes} {counted : Tally}
    (divides : Divides scheme candidate reference payload counted) :
    counted.valid.Subperm reference.coreAses.keys := by
  apply divides.nodup_valid.subperm
  intro signer listed
  obtain ⟨keys, -, core, -⟩ := (divides.valid signer).mp listed
  exact Dict.mem_keys_iff.mpr ⟨keys, core⟩

/-- In a scheme that does not look at payloads, the standings are those of any payload. -/
theorem verify_eq_ok_of_standings {standings' : List (String × Standing)} {counted : Tally}
    (stand : ∀ payload, standings scheme candidate reference payload = standings')
    (collected : Tally.collect reference.quorumOwnTrc standings' = counted)
    (met : counted.isMet = true) :
    (verify scheme candidate reference).result = .ok counted := by
  have signed := Document.signingInput_eq candidate false
  refine verify_eq_ok_iff.mpr ⟨tally_eq_ok_iff.mpr ⟨_, signed, ?_⟩, met⟩
  rw [stand, collected]

/-- Whatever meets the quorum has as many valid signers as required.  They name fewer systems only
if the reference lists some system under several identifiers. -/
theorem systems_of_verify {counted : Tally}
    (met : (verify scheme candidate reference).result = .ok counted) :
    counted.valid.Nodup ∧ reference.quorumOwnTrc.toNat ≤ counted.valid.length ∧
    (∀ system, (spellings system counted.valid).length ≤
      (spellings system reference.coreAses.keys).length) ∧
    reference.quorumOwnTrc.toNat + (named reference.coreAses.keys).card ≤
      (named counted.valid).card + reference.coreAses.size ∧
    ((∀ name ∈ reference.coreAses.keys, ∃ system, parse name = .ok system) →
      (∀ name ∈ reference.coreAses.keys, ∀ other ∈ reference.coreAses.keys,
        parse name = parse other → name = other) →
      reference.quorumOwnTrc.toNat ≤ (named counted.valid).card) := by
  obtain ⟨tallied, isMet⟩ := verify_eq_ok_iff.mp met
  obtain ⟨payload, -, rfl⟩ := tally_eq_ok_iff.mp tallied
  have divides := divides_collect scheme candidate reference payload
  generalize Tally.collect reference.quorumOwnTrc _ = counted at isMet divides ⊢
  have enough : reference.quorumOwnTrc.toNat ≤ counted.valid.length := by
    rw [← divides.required]
    exact of_decide_eq_true isMet
  have shortfall : reference.quorumOwnTrc.toNat + (named reference.coreAses.keys).card ≤
      (named counted.valid).card + reference.coreAses.size := by
    have := card_named_add_length_le divides.valid_subperm
    rw [Dict.length_keys] at this
    omega
  refine ⟨divides.nodup_valid, enough, ?_, shortfall, ?_⟩
  · intro system
    exact (divides.valid_subperm.filter _).length_le
  · intro identifiers distinct
    have all := card_named_of_distinct (Dict.nodup_keys _) identifiers distinct
    rw [all, Dict.length_keys] at shortfall
    omega

/-- A candidate that two systems have signed. -/
def twoSigned : Document :=
  { Document.sample with signatures := .ofList [("1-1", [1]), ("1-2", [2])] }

theorem systems_of_verify_twoSigned :
    (verify ownKeyOrFault twoSigned threeCore).result = .ok ⟨2, ["1-1", "1-2"], [], []⟩ ∧
      2 ≤ (named ["1-1", "1-2"]).card := by
  have met : (verify ownKeyOrFault twoSigned threeCore).result =
      .ok ⟨2, ["1-1", "1-2"], [], []⟩ := by
    have stand payload : standings ownKeyOrFault twoSigned threeCore payload =
        [("1-1", .valid), ("1-2", .valid)] := rfl
    exact verify_eq_ok_of_standings stand (by decide) (by decide)
  have first : parse "1-1" = .ok ⟨1, 1⟩ := rfl
  have second : parse "1-2" = .ok ⟨1, 2⟩ := rfl
  have third : parse "1-3" = .ok ⟨1, 3⟩ := rfl
  have core : threeCore.coreAses.keys = ["1-1", "1-2", "1-3"] := rfl
  obtain ⟨-, -, -, -, all⟩ := systems_of_verify met
  refine ⟨met, all ?_ ?_⟩
  · simp [core, first, second, third]
  · simp [core, first, second, third]

/-- Two core systems by name that are one system: its number is in groups here and decimal there. -/
def aliasedValues : Values :=
  { Document.sampleValues with
    coreAses := .ofList [("1-0:0:b", ⟨"", [1], "", []⟩), ("1-11", ⟨"", [2], "", []⟩)]
    quorumOwnTrc := 2
    signatures := .ofList [("1-0:0:b", [1]), ("1-11", [2])] }

def aliased : Document :=
  { aliasedValues with creationTime := 0 }

/-- One system meets a quorum of two. -/
theorem one_system_meets_quorum_of_two :
    Document.ofValues aliasedValues 0 = .ok aliased ∧
      (∀ name ∈ aliased.coreAses.keys, ∃ system, parse name = .ok system) ∧
      ∃ counted, (verify ownKeyOrFault aliased aliased).result = .ok counted ∧
        ¬ aliased.quorumOwnTrc.toNat ≤ (named counted.valid).card := by
  have core : aliased.coreAses.keys = ["1-0:0:b", "1-11"] := rfl
  have groups : parse "1-0:0:b" = .ok ⟨1, 11⟩ := rfl
  have decimal : parse "1-11" = .ok ⟨1, 11⟩ := rfl
  have stand payload : standings ownKeyOrFault aliased aliased payload =
      [("1-0:0:b", .valid), ("1-11", .valid)] := rfl
  refine ⟨rfl, ?_, ⟨2, ["1-0:0:b", "1-11"], [], []⟩, ?_, ?_⟩
  · simp [core, groups, decimal]
  · exact verify_eq_ok_of_standings stand (by decide) (by decide)
  · decide

end Quorum

end TrustRoot
